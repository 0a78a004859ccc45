import Tailserver.ManyClients
import Tailserver.Server.Gate

/-! A server with `--wait` and the first client it registers are a pipe: when the client
follows, its standard output is the standard input of the server. -/

set_option autoImplicit false

namespace Tailserver.ManyClients

open CMemory Buffer

variable {ι : Type} {bufsiz : Nat}

/-- Nothing is read before a client is registered. -/
structure Postponed (s : Server.State bufsiz) : Prop where
  unread : (∀ socket, (s.connections socket).registered = false) → s.stdinRead = []
  before : ∀ socket, Server.FirstRegistered s socket → (s.connections socket).before = []

theorem postponed_of_gate {serverOptions : Server.Options} {s : Server.State bufsiz}
    (gate : Server.Gate serverOptions s) : Postponed s := by
  cases waiting : s.waitingForClient with
  | true =>
      have closed := gate.shut waiting
      refine ⟨fun _ => closed.stdinRead, fun socket first => ?_⟩
      have registered := first.1
      rw [closed.unregistered socket] at registered
      cases registered
  | false =>
      obtain ⟨first, served⟩ := gate.opened waiting
      refine ⟨fun unregistered => ?_, fun socket first' => ?_⟩
      · have registered := served.registered.1
        rw [unregistered first] at registered
        cases registered
      · rw [first'.unique served.registered]
        exact served.before

/-- The end of the server closes connections and changes nothing else of them. -/
theorem Postponed.socketsFinal {s s' : Server.State bufsiz} {clients : Server.Clients}
    (postponed : Postponed s) (registered : Server.Registered s clients)
    (ran : Server.socketsFinal s = .ok s') : Postponed s' := by
  obtain ⟨tailers, firstTailer, connections, ran', _, closes⟩ := registered.socketsFinal
  rw [ran] at ran'
  cases ran'
  have same : ∀ socket, (connections socket).registered = (s.connections socket).registered ∧
      (connections socket).before = (s.connections socket).before := by
    intro socket
    rw [closes]
    exact ⟨rfl, rfl⟩
  refine ⟨fun unregistered => postponed.unread fun socket => ?_, fun socket first => ?_⟩
  · rw [← (same socket).1]
    exact unregistered socket
  · rw [(same socket).2]
    refine postponed.before socket ⟨?_, fun earlier lt => ?_⟩
    · rw [← (same socket).1]
      exact first.1
    · rw [← (same earlier).1]
      exact first.2 earlier lt

variable [DecidableEq ι]

section Runs

variable {serverOptions : Server.Options} {clientOptions : ι → Client.Options}
  {serverAppend : Nat × LineBuffer bufsiz} {clientAppend : ι → Nat × LineBuffer bufsiz}
  {spared : ι → Prop} {s : State ι bufsiz}

/-- Until it ends the server runs as it does alone. -/
theorem Reachable.server
    (reachable : Reachable serverOptions clientOptions serverAppend clientAppend spared s)
    (running : s.exited = false) :
    Server.Reachable serverOptions serverAppend Server.Granted s.server := by
  induction reachable with
  | start serverFirst _ opened fresh fresh' ran _ _ _ =>
      exact .start serverFirst opened fresh fresh' ran
  | step event _ possible granted ran _ ih =>
      cases event with
      | server event whose =>
          obtain ⟨server, serves, returned⟩ := except_bind_ok ran
          cases returned
          exact .step event (ih possible.1) possible.2.1 granted serves
      | exit =>
          obtain ⟨server, _, returned⟩ := except_bind_ok ran
          cases returned
          cases running
      | client who event =>
          obtain ⟨client, _, returned⟩ := except_bind_ok ran
          cases returned
          exact ih running

theorem Reachable.postponed (waits : serverOptions.waitForClient = true)
    (reachable : Reachable serverOptions clientOptions serverAppend clientAppend spared s) :
    Postponed s.server := by
  induction reachable with
  | start serverFirst clientFirst opened fresh fresh' ran freshClient freshClient' ranClient =>
      exact postponed_of_gate ((Server.started_of_initAll fresh fresh' ran).gate waits)
  | step event reachable possible granted ran complete ih =>
      cases event with
      | server event whose =>
          obtain ⟨server, serves, returned⟩ := except_bind_ok ran
          cases returned
          have runs := reachable.server possible.1
          exact postponed_of_gate ((runs.step event possible.2.1 granted serves).gate waits)
      | exit =>
          obtain ⟨server, ends, returned⟩ := except_bind_ok ran
          cases returned
          obtain ⟨clients, tending⟩ := (reachable.server possible).tending
          exact ih.socketsFinal tending.registered ends
      | client who event =>
          obtain ⟨client, _, returned⟩ := except_bind_ok ran
          cases returned
          exact ih

/-- With `--wait` nothing is read before a client is registered. Of the client that is
registered first, standard output is a beginning of the standard input of the server, and
all of it once the client has read what was sent, if it follows; else it prints nothing. -/
theorem pipe_of_many (serverOptions : Server.Options) (clientOptions : ι → Client.Options)
    (serverAppend : Nat × LineBuffer bufsiz) (clientAppend : ι → Nat × LineBuffer bufsiz)
    (spared : ι → Prop) (room : 0 < bufsiz) (serverZeroed : serverAppend.2.nlines = 0)
    (clientZeroed : ∀ i, spared i → (clientAppend i).2.nlines = 0)
    (waits : serverOptions.waitForClient = true) (s : State ι bufsiz)
    (reachable : Reachable serverOptions clientOptions serverAppend clientAppend spared s) :
    ((∀ socket, (s.server.connections socket).registered = false) → s.server.stdinRead = []) ∧
      ∀ i socket, spared i → (s.peers i).socket = some socket →
        Server.FirstRegistered s.server socket →
        ((clientOptions i).follow = true → (s.peers i).client.stdout <+: s.server.stdinRead ∧
          (CaughtUp s i → (s.peers i).client.stdout = s.server.stdinRead)) ∧
        ((clientOptions i).follow = false → (s.peers i).client.stdout = []) := by
  have postponed := reachable.postponed waits
  refine ⟨postponed.unread, fun i socket safe accepted first => ?_⟩
  have abides := abides_of_coupled
    ((reachable.view safe).coupled room serverZeroed (clientZeroed i safe))
  have before := postponed.before socket first
  constructor
  · intro follow
    obtain ⟨since, joined, isPrefix, caughtUp⟩ := abides.following ⟨accepted, first.1, follow⟩
    rw [before, List.nil_append] at joined
    rw [before, requiredTail_nil, requiredTail_nil, List.nil_append, ← joined] at isPrefix caughtUp
    exact ⟨isPrefix, caughtUp⟩
  · intro unfollowed
    obtain ⟨since, _, contract⟩ := abides.2 socket accepted
    have isPrefix := contract.isPrefix
    rw [before, requiredTail_nil, requiredTail_nil, unfollowed] at isPrefix
    exact List.prefix_nil.mp isPrefix

end Runs

/-! A client is there before the server reads its first line. -/

def waitingSystem (events : List (Event Bool 4)) : State Bool 4 :=
  (events.foldlM (handle (Server.waitingOptions true) fun _ => sampleFollow)
    { server := Server.waitingStart true
      peers := fun _ => { client := { buffer := sampleExecution.initial } } }).toOption.getD
    { server := Server.waitingStart true
      peers := fun _ => { client := { buffer := {} } } }

def waitingEvents : List (Event Bool 4) := sampleEvents.take 6

def WaitingReachable : State Bool 4 → Prop :=
  Reachable (Server.waitingOptions true) (fun _ => sampleFollow) sampleExecution.append
    (fun _ => sampleExecution.append) (fun _ => True)

theorem waitingReads_step {s s' : State Bool 4} (bytes : List UInt8)
    (reachable : WaitingReachable s)
    (possible : Client.Possible (s.peers false).client (Client.sampleReadable (.data bytes)))
    (sent : (s.peers false).taken ++ bytes <+: (s.view false).connection.received)
    (ran : handle (Server.waitingOptions true) (fun _ => sampleFollow) s
      (sampleReads false bytes) = .ok s') : WaitingReachable s' :=
  .step (sampleReads false bytes) reachable ⟨possible, sent⟩
    (fun _ => Client.sampleReadable_supplied (.data bytes)) ran fun _ => trivial

theorem waitingSystem_reachable : WaitingReachable (waitingSystem waitingEvents) := by
  have started : WaitingReachable (waitingSystem (waitingEvents.take 0)) :=
    .start sampleExecution.first (fun _ => sampleExecution.first) true (by decide) (by decide)
      rfl (by decide) (by decide) fun _ => rfl
  have connected : WaitingReachable (waitingSystem (waitingEvents.take 1)) :=
    .step (.client false (.connect 3)) started ⟨rfl, rfl⟩ (fun _ => trivial) rfl
      fun _ => trivial
  have accepted : WaitingReachable (waitingSystem (waitingEvents.take 2)) := by
    refine .step (sampleAccept false 1 [.accepted 9]) connected
      ⟨rfl, ⟨rfl, ?_⟩, fun _ _ _ notices => notices.elim, ?_⟩ rfl rfl ?_
    · intro block node same
      cases same
      decide
    · intro i same
      cases same
      exact ⟨rfl, rfl⟩
    · intro i _
      cases i <;> rfl
  have filled : WaitingReachable (waitingSystem (waitingEvents.take 3)) := by
    refine .step (.server Server.sampleRead none) accepted
      ⟨rfl, ⟨rfl, rfl, by decide, ?_⟩, fun _ _ _ notices => notices.elim, by simp⟩ rfl rfl ?_
    · intro bytes same
      cases same
      decide
    · intro i _
      cases i <;> rfl
  have digit : WaitingReachable (waitingSystem (waitingEvents.take 4)) :=
    waitingReads_step [48] filled (by decide) (by decide) rfl
  have greeted : WaitingReachable (waitingSystem (waitingEvents.take 5)) :=
    waitingReads_step [10] digit (by decide) (by decide) rfl
  exact waitingReads_step [97, 10] greeted (by decide) (by decide) rfl

theorem pipe_of_waitingSystem :
    ((∀ socket, ((waitingSystem waitingEvents).server.connections socket).registered = false) →
        (waitingSystem waitingEvents).server.stdinRead = []) ∧
      ∀ i socket, True → ((waitingSystem waitingEvents).peers i).socket = some socket →
        Server.FirstRegistered (waitingSystem waitingEvents).server socket →
        (sampleFollow.follow = true →
          ((waitingSystem waitingEvents).peers i).client.stdout <+:
              (waitingSystem waitingEvents).server.stdinRead ∧
            (CaughtUp (waitingSystem waitingEvents) i →
              ((waitingSystem waitingEvents).peers i).client.stdout =
                (waitingSystem waitingEvents).server.stdinRead)) ∧
        (sampleFollow.follow = false →
          ((waitingSystem waitingEvents).peers i).client.stdout = []) :=
  pipe_of_many (Server.waitingOptions true) (fun _ => sampleFollow) sampleExecution.append
    (fun _ => sampleExecution.append) (fun _ => True) (by decide) rfl (fun _ _ => rfl) rfl
    (waitingSystem waitingEvents) waitingSystem_reachable

example : ((waitingSystem waitingEvents).peers false).client.stdout = [97, 10] := by decide

end Tailserver.ManyClients
