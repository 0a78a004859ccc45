import Tailserver.Reopening.Coupled

/-! What the client prints of all of its servers. -/

set_option autoImplicit false

namespace Tailserver.Reopening

open CMemory Buffer
open Client (Taken shown header)
open EndToEnd (tailOf)

variable {ι : Type} {bufsiz : Nat}

/-! ## What the client prints -/

/-- What a server reads as long as the client is connected to it. -/
def State.since (s : State ι bufsiz) (visit : Visit ι) : List UInt8 :=
  if (s.connection visit).registered then
    (s.servers visit.server).stdinRead.drop (s.connection visit).before.length
  else []

/-- The tail of the first connection that is registered, and everything from there on. -/
def promised (serverOptions : ι → Server.Options) (config : Config) (s : State ι bufsiz) :
    List (Visit ι) → List UInt8
  | [] => []
  | visit :: later =>
      if (s.connection visit).registered then
        requiredTail config (tailOf (serverOptions visit.server) (s.connection visit)) ++
          (visit :: later).flatMap s.since
      else promised serverOptions config s later

section Printed

variable {options : Server.Options} {v : EndToEnd.State bufsiz} {taken : Taken}

theorem Finished.tail_eq (finished : Finished options v taken)
    (registered : v.connection.registered = true) :
    taken.stream.tail = tailOf options v.connection := by
  apply finished.tail
  rw [finished.whole registered, EndToEnd.stream_eq]
  simp [header]

theorem Finished.whole_eq (finished : Finished options v taken) :
    taken.whole = v.connection.registered := by
  rw [Taken.whole, finished.bytes]
  cases registered : v.connection.registered with
  | false => rw [finished.refused registered, Client.whole_nil]
  | true =>
      rw [finished.tail_eq registered, finished.whole registered, EndToEnd.stream_eq,
        Client.whole, decide_eq_true_iff]
      exact List.prefix_append _ _

theorem Finished.followPart_eq (finished : Finished options v taken) :
    taken.followPart = if v.connection.registered then
      v.server.stdinRead.drop v.connection.before.length else [] := by
  rw [Taken.followPart, finished.bytes]
  cases registered : v.connection.registered with
  | false => rw [finished.refused registered, Client.followPart_nil, if_neg (by simp)]
  | true =>
      rw [finished.tail_eq registered, finished.whole registered, EndToEnd.stream_eq,
        Client.followPart_whole, if_pos rfl]

theorem Finished.tailPart_eq (finished : Finished options v taken)
    (unregistered : v.connection.registered = false) : taken.tailPart = [] := by
  rw [Taken.tailPart, finished.bytes, finished.refused unregistered, Client.tailPart_nil]

/-- Of a connection that is not registered nothing is read. -/
theorem Held.registered (held : Held options v taken) (read : v.taken ≠ []) :
    v.connection.registered = true := by
  cases registered : v.connection.registered with
  | true => rfl
  | false =>
      have isPrefix := held.isPrefix
      rw [held.refused registered] at isPrefix
      exact absurd (List.prefix_nil.mp isPrefix) read

theorem Held.followPart_prefix (held : Held options v taken) :
    taken.followPart <+: if v.connection.registered then
      v.server.stdinRead.drop v.connection.before.length else [] := by
  rw [Taken.followPart, held.bytes]
  by_cases read : v.taken = []
  · rw [read, Client.followPart_nil]
    exact List.nil_prefix
  · rw [held.tail read, if_pos (held.registered read)]
    exact EndToEnd.followPart_prefix (held.isPrefix.trans held.delivered.received)

variable {serverOptions : ι → Server.Options} {config : Config} {s : State ι bufsiz}
  {history : List Taken} {visits : List (Visit ι)} {visit : Visit ι}

theorem since_of_finished
    (finished : List.Forall₂
      (fun taken visit => Finished (serverOptions visit.server) (s.view visit) taken)
      history visits) : history.flatMap Taken.followPart = visits.flatMap s.since := by
  induction finished with
  | nil => rfl
  | cons head _ ih =>
      rw [List.flatMap_cons, List.flatMap_cons, ih, head.followPart_eq]
      rfl

theorem Finished.tail_shown (finished : Finished options v taken) (config : Config)
    (registered : v.connection.registered = true) :
    requiredTail config ([] ++ taken.tailPart) =
      requiredTail config (tailOf options v.connection) := by
  have whole : taken.whole = true := finished.whole_eq.trans registered
  rw [List.nil_append, Taken.tailPart_of_whole whole, finished.tail_eq registered]

/-- When all is read, all that was promised is printed. -/
theorem shown_of_finished
    (finished : List.Forall₂
      (fun taken visit => Finished (serverOptions visit.server) (s.view visit) taken)
      history visits) : shown config [] history = promised serverOptions config s visits := by
  induction finished with
  | nil => rfl
  | @cons taken visit history visits head rest ih =>
      have whole : taken.whole = (s.connection visit).registered := head.whole_eq
      have since := since_of_finished (.cons head rest)
      rw [shown, promised, whole]
      cases registered : (s.connection visit).registered with
      | false =>
          rw [head.tailPart_eq registered]
          exact ih
      | true =>
          have shows := head.tail_shown config registered
          rw [if_pos rfl, if_pos rfl, since, shows]
          rfl

/-- What is read of the last connection is printed behind that. -/
theorem shown_of_held {taken : Taken}
    (finished : List.Forall₂
      (fun taken visit => Finished (serverOptions visit.server) (s.view visit) taken)
      history visits) (held : Held (serverOptions visit.server) (s.view visit) taken) :
    shown config [] (history ++ [taken]) <+:
      promised serverOptions config s (visits ++ [visit]) := by
  have follows : taken.followPart <+: s.since visit := held.followPart_prefix
  induction finished with
  | nil =>
      rw [List.nil_append, List.nil_append, shown, promised]
      cases whole : taken.whole with
      | false => exact List.nil_prefix
      | true =>
          have read : (s.view visit).taken ≠ [] := by
            intro nothing
            rw [Taken.whole, held.bytes, nothing, Client.whole_nil] at whole
            cases whole
          have registered : (s.connection visit).registered = true := held.registered read
          have tail := (Taken.tailPart_of_whole whole).trans (held.tail read)
          rw [if_pos rfl, if_pos registered, List.nil_append, tail, State.connection,
            List.prefix_append_right_inj]
          simpa using follows
  | @cons head first history visits begins rest ih =>
      have whole : head.whole = (s.connection first).registered := begins.whole_eq
      rw [List.cons_append, List.cons_append, shown, promised, whole]
      cases registered : (s.connection first).registered with
      | false =>
          rw [begins.tailPart_eq registered]
          exact ih
      | true =>
          have since := since_of_finished (.cons begins rest)
          have shows := begins.tail_shown config registered
          rw [if_pos rfl, if_pos rfl, shows, State.connection, List.prefix_append_right_inj,
            ← List.cons_append, ← List.cons_append, List.flatMap_append, List.flatMap_append,
            since, List.prefix_append_right_inj]
          simpa using follows

end Printed

section Coupled

variable {serverOptions : ι → Server.Options} {clientOptions : Client.Options}
  {s : State ι bufsiz} {history current : List Taken}

theorem Coupled.finished_earlier
    (coupled : Coupled serverOptions clientOptions s history current) :
    List.Forall₂ (fun taken visit => Finished (serverOptions visit.server) (s.view visit) taken)
      history s.earlier :=
  coupled.earlier.imp fun _ _ past => past.toFinished

/-- All that was promised is printed when all is read, and when the client has left. -/
theorem Coupled.stdout_eq (coupled : Coupled serverOptions clientOptions s history current)
    (all : s.client.phase = .looping → ∀ visit ∈ s.last,
      visit.taken = (s.connection visit).received) :
    s.client.stdout = promised serverOptions clientOptions.buffer s s.visits := by
  rw [coupled.reconnecting.stdout, State.visits]
  apply shown_of_finished
  refine List.rel_append coupled.finished_earlier ?_
  cases last : s.last with
  | none =>
      rw [coupled.current_of_none last]
      exact .nil
  | some visit =>
      obtain ⟨taken, rfl, recent⟩ := coupled.current_of_some last
      refine .cons ?_ .nil
      by_cases looping : s.client.phase = .looping
      · exact (recent.held looping).finished (all looping visit last)
      · exact (recent.past looping).toFinished

theorem Coupled.stdout_prefix (coupled : Coupled serverOptions clientOptions s history current) :
    s.client.stdout <+: promised serverOptions clientOptions.buffer s s.visits := by
  by_cases looping : s.client.phase = .looping
  · obtain ⟨visit, last⟩ := Option.isSome_iff_exists.mp (coupled.reads looping)
    obtain ⟨taken, rfl, recent⟩ := coupled.current_of_some last
    rw [coupled.reconnecting.stdout, State.visits, last]
    exact shown_of_held coupled.finished_earlier (recent.held looping)
  · rw [coupled.stdout_eq fun attached => absurd attached looping]

/-- The client leaves a connection only when the server has ended or has refused it. -/
theorem Coupled.gone (coupled : Coupled serverOptions clientOptions s history current) :
    ∀ visit ∈ s.visits, s.client.phase = .looping ∧ s.last = some visit ∨
      s.exited visit.server = true ∨
        visit.socket.isSome ∧ (s.connection visit).registered = false := by
  intro visit member
  rcases List.mem_append.mp member with before | member
  · obtain ⟨index, found, rfl⟩ := List.mem_iff_getElem.mp before
    have same := coupled.earlier.length_eq
    exact .inr (coupled.earlier.get (by omega) found).left
  · have last : s.last = some visit := Option.mem_toList.mp member
    obtain ⟨taken, _, recent⟩ := coupled.current_of_some last
    by_cases looping : s.client.phase = .looping
    · exact .inl ⟨looping, last⟩
    · exact .inr (recent.past looping).left

end Coupled

variable [DecidableEq ι]

/-- A client that follows and is never cut off, whatever becomes of the servers whose
sockets it finds under its path: no step of it or of a server that runs fails, it leaves
only servers that have ended or refused it, and it prints the tail that the first server
which did not refuse it owed to it, and behind that what each of its servers reads as long as
it is connected to it, nothing left out and nothing twice. -/
theorem continuous_of_reachable (serverOptions : ι → Server.Options)
    (clientOptions : Client.Options) (serverAppend : ι → Nat × LineBuffer bufsiz)
    (clientAppend : Nat × LineBuffer bufsiz) (following : clientOptions.follow = true)
    (room : 0 < bufsiz) (serverZeroed : ∀ i, (serverAppend i).2.nlines = 0)
    (clientZeroed : clientAppend.2.nlines = 0) (s : State ι bufsiz)
    (reachable : Reachable serverOptions clientOptions serverAppend clientAppend s) :
    (∀ event, Possible s event → Granted event →
        Returns (handle serverOptions clientOptions s event) fun _ => True) ∧
      (∀ visit ∈ s.visits, s.client.phase = .looping ∧ s.last = some visit ∨
        s.exited visit.server = true ∨
          visit.socket.isSome ∧ (s.connection visit).registered = false) ∧
      s.client.stdout <+: promised serverOptions clientOptions.buffer s s.visits ∧
      ((s.client.phase = .looping → ∀ visit ∈ s.last,
          visit.taken = (s.connection visit).received) →
        s.client.stdout = promised serverOptions clientOptions.buffer s s.visits) := by
  obtain ⟨history, current, coupled⟩ :=
    reachable.coupled following room serverZeroed clientZeroed
  refine ⟨?_, coupled.gone, coupled.stdout_prefix, coupled.stdout_eq⟩
  intro event possible granted
  exact (coupled.handle following room possible granted).mono fun _ _ => trivial

/-! A server that reads a line and ends, and another one that reads the same line. -/

def sampleSystem (events : List (Event Bool 4)) : State Bool 4 :=
  (events.foldlM (handle (fun _ => Server.sampleOptions) Client.sampleRetryOptions)
    { servers := fun _ => Server.sampleStart
      client := { buffer := sampleExecution.initial } }).toOption.getD
    { servers := fun _ => Server.sampleStart, client := { buffer := {} } }

def sampleAccept (who : Bool) : Event Bool 4 :=
  .server who (.unixSock [.connected] true (some (1, ⟨9, false, none, none⟩)) [.accepted 9]) true

def sampleReads (answer : ReadAnswer) : Event Bool 4 :=
  .client (Client.sampleReadable answer) false

def sampleEvents : List (Event Bool 4) :=
  [.client (.connect 3) false, sampleAccept false, sampleReads (.data [48]),
    sampleReads (.data [10]), .server false Server.sampleRead false,
    sampleReads (.data [97, 10]), .exit false, sampleReads .eof,
    .client (.connect 3) true, sampleAccept true, sampleReads (.data [48]),
    sampleReads (.data [10]), .server true Server.sampleRead false, sampleReads (.data [97, 10])]

def SampleReachable : State Bool 4 → Prop :=
  Reachable (fun _ => Server.sampleOptions) Client.sampleRetryOptions
    (fun _ => sampleExecution.append) sampleExecution.append

theorem sampleConnect_step {s s' : State Bool 4} (who : Bool) (reachable : SampleReachable s)
    (connecting : s.client.phase = .connecting) (running : s.exited who = false)
    (ran : handle (fun _ => Server.sampleOptions) Client.sampleRetryOptions s
      (.client (.connect 3) who) = .ok s') : SampleReachable s' :=
  .step (.client (.connect 3) who) reachable ⟨connecting, fun _ => running⟩ trivial ran trivial

theorem sampleAccept_step {s s' : State Bool 4} (who : Bool) (reachable : SampleReachable s)
    (running : s.exited who = false) (watches : (s.servers who).unixSockWatcher = true)
    (fresh : 1 ∉ (s.servers who).tailers)
    (waiting : ∃ visit ∈ s.last, visit.server = who ∧ visit.socket = none)
    (ran : handle (fun _ => Server.sampleOptions) Client.sampleRetryOptions s
      (sampleAccept who) = .ok s')
    (uncut : ∀ visit ∈ s'.last, (s'.connection visit).cut = false) : SampleReachable s' := by
  refine .step (sampleAccept who) reachable
    ⟨running, ⟨watches, ?_⟩, fun _ _ _ _ _ notices => notices.elim, fun _ => waiting⟩ rfl ran uncut
  intro block node same
  cases same
  exact fresh

theorem sampleReads_step {s s' : State Bool 4} {visit : Visit Bool} (bytes : List UInt8)
    (reachable : SampleReachable s)
    (possible : Client.Possible s.client (Client.sampleReadable (.data bytes)))
    (last : s.last = some visit)
    (sent : visit.taken ++ bytes <+: (s.connection visit).received)
    (ran : handle (fun _ => Server.sampleOptions) Client.sampleRetryOptions s
      (sampleReads (.data bytes)) = .ok s') : SampleReachable s' := by
  refine .step (sampleReads (.data bytes)) reachable ⟨possible, ?_⟩
    (Client.sampleReadable_supplied (.data bytes)) ran trivial
  intro other same
  cases last.symm.trans same
  exact sent

theorem sampleLine_step {s s' : State Bool 4} (who : Bool) (reachable : SampleReachable s)
    (running : s.exited who = false)
    (possible : Server.Possible (s.servers who) Server.sampleRead)
    (ran : handle (fun _ => Server.sampleOptions) Client.sampleRetryOptions s
      (.server who Server.sampleRead false) = .ok s')
    (uncut : ∀ visit ∈ s'.last, (s'.connection visit).cut = false) : SampleReachable s' :=
  .step (.server who Server.sampleRead false) reachable
    ⟨running, possible, fun _ _ _ _ _ notices => notices.elim, by simp⟩ rfl ran uncut

theorem sampleSystem_reachable : SampleReachable (sampleSystem sampleEvents) := by
  have started : SampleReachable (sampleSystem (sampleEvents.take 0)) :=
    .start (fun _ => sampleExecution.first) sampleExecution.first (fun _ => true) (by decide)
      (by decide) (fun _ => rfl) (by decide) (by decide) rfl
  have connected : SampleReachable (sampleSystem (sampleEvents.take 1)) :=
    sampleConnect_step false started rfl rfl rfl
  have accepted : SampleReachable (sampleSystem (sampleEvents.take 2)) :=
    sampleAccept_step false connected rfl rfl (by decide) ⟨_, rfl, rfl, rfl⟩ rfl (by decide)
  have digit : SampleReachable (sampleSystem (sampleEvents.take 3)) :=
    sampleReads_step [48] accepted (by decide) rfl (by decide) rfl
  have greeted : SampleReachable (sampleSystem (sampleEvents.take 4)) :=
    sampleReads_step [10] digit (by decide) rfl (by decide) rfl
  have line : SampleReachable (sampleSystem (sampleEvents.take 5)) :=
    sampleLine_step false greeted rfl ⟨rfl, rfl, by decide, by rintro _ ⟨⟩; decide⟩ rfl (by decide)
  have followed : SampleReachable (sampleSystem (sampleEvents.take 6)) :=
    sampleReads_step [97, 10] line (by decide) rfl (by decide) rfl
  have ended : SampleReachable (sampleSystem (sampleEvents.take 7)) :=
    .step (.exit false) followed rfl trivial rfl trivial
  have left : SampleReachable (sampleSystem (sampleEvents.take 8)) := by
    refine .step (sampleReads .eof) ended ⟨by decide, ?_⟩
      (Client.sampleReadable_supplied .eof) rfl trivial
    rintro visit ⟨⟩
    exact ⟨by decide, .inr rfl⟩
  have reconnected : SampleReachable (sampleSystem (sampleEvents.take 9)) :=
    sampleConnect_step true left rfl rfl rfl
  have accepted' : SampleReachable (sampleSystem (sampleEvents.take 10)) :=
    sampleAccept_step true reconnected rfl rfl (by decide) ⟨_, rfl, rfl, rfl⟩ rfl (by decide)
  have digit' : SampleReachable (sampleSystem (sampleEvents.take 11)) :=
    sampleReads_step [48] accepted' (by decide) rfl (by decide) rfl
  have greeted' : SampleReachable (sampleSystem (sampleEvents.take 12)) :=
    sampleReads_step [10] digit' (by decide) rfl (by decide) rfl
  have line' : SampleReachable (sampleSystem (sampleEvents.take 13)) :=
    sampleLine_step true greeted' rfl ⟨rfl, rfl, by decide, by rintro _ ⟨⟩; decide⟩ rfl
      (by decide)
  exact sampleReads_step [97, 10] line' (by decide) rfl (by decide) rfl

theorem continuous_of_sampleSystem :
    (∀ event, Possible (sampleSystem sampleEvents) event → Granted event →
        Returns (handle (fun _ => Server.sampleOptions) Client.sampleRetryOptions
          (sampleSystem sampleEvents) event) fun _ => True) ∧
      (∀ visit ∈ (sampleSystem sampleEvents).visits,
        (sampleSystem sampleEvents).client.phase = .looping ∧
            (sampleSystem sampleEvents).last = some visit ∨
          (sampleSystem sampleEvents).exited visit.server = true ∨
            visit.socket.isSome ∧
              ((sampleSystem sampleEvents).connection visit).registered = false) ∧
      (sampleSystem sampleEvents).client.stdout <+:
        promised (fun _ => Server.sampleOptions) Client.sampleRetryOptions.buffer
          (sampleSystem sampleEvents) (sampleSystem sampleEvents).visits ∧
      (((sampleSystem sampleEvents).client.phase = .looping →
          ∀ visit ∈ (sampleSystem sampleEvents).last,
            visit.taken = ((sampleSystem sampleEvents).connection visit).received) →
        (sampleSystem sampleEvents).client.stdout =
          promised (fun _ => Server.sampleOptions) Client.sampleRetryOptions.buffer
            (sampleSystem sampleEvents) (sampleSystem sampleEvents).visits) :=
  continuous_of_reachable (fun _ => Server.sampleOptions) Client.sampleRetryOptions
    (fun _ => sampleExecution.append) sampleExecution.append rfl (by decide) (fun _ => rfl) rfl
    (sampleSystem sampleEvents) sampleSystem_reachable

example : (sampleSystem sampleEvents).client.stdout = [97, 10, 97, 10] := by decide

end Tailserver.Reopening
