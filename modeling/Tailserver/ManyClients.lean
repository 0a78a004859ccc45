import Tailserver.EndToEnd

/-! A server and all of its clients. What one client and the server do together is a run
of the two alone, whatever the others do, and the connections are served in the order
they were accepted in. -/

set_option autoImplicit false

namespace Tailserver.ManyClients

open CMemory Buffer
open EndToEnd (MayNotice MayRun Contract tailOf)

variable {ι : Type} {bufsiz : Nat}

structure Peer (bufsiz : Nat) where
  client : Client.State bufsiz
  connected : Bool := false
  /-- The number of its connection, once the server has accepted it. -/
  socket : Option Nat := none
  taken : List UInt8 := []

structure State (ι : Type) (bufsiz : Nat) where
  server : Server.State bufsiz
  peers : ι → Peer bufsiz
  exited : Bool := false

/-- What the server and one client see. -/
def State.view (s : State ι bufsiz) (i : ι) : EndToEnd.State bufsiz where
  server := s.server
  client := (s.peers i).client
  connected := (s.peers i).connected
  socket := (s.peers i).socket
  taken := (s.peers i).taken
  exited := s.exited

inductive Event (ι : Type) (bufsiz : Nat) where
  /-- The last argument says whose connection it is that is accepted, when it is one of
  the clients'. -/
  | server (event : Server.Event bufsiz) (whose : Option ι)
  | exit
  | client (who : ι) (event : Client.Event bufsiz)

variable [DecidableEq ι]

def handle (serverOptions : Server.Options) (clientOptions : ι → Client.Options)
    (s : State ι bufsiz) : Event ι bufsiz → Except Fault (State ι bufsiz)
  | .server event whose => do
      let server ← Server.handle serverOptions s.server event
      return { s with
        server
        peers := fun i =>
          if whose = some i && server.accepted ≠ s.server.accepted then
            { s.peers i with socket := some s.server.accepted }
          else s.peers i }
  | .exit => do
      let server ← Server.socketsFinal s.server
      return { s with server, exited := true }
  | .client who event => do
      let client ← Client.handle (clientOptions who) (s.peers who).client event
      return { s with
        peers := Function.update s.peers who { s.peers who with
          client
          connected := (s.peers who).connected || EndToEnd.opens event
          taken := (s.peers who).taken ++ EndToEnd.arrived event } }

def Possible (s : State ι bufsiz) : Event ι bufsiz → Prop
  | .server event whose =>
      s.exited = false ∧ Server.Possible s.server event ∧
        (∀ i, MayNotice (s.view i) event) ∧
        ∀ i, whose = some i → (s.peers i).connected = true ∧ (s.peers i).socket = none
  | .exit => s.exited = false
  | .client who event => Client.Possible (s.peers who).client event ∧ MayRun (s.view who) event

/-- The allocations of the server succeed, and those of the clients that are spared, whose
standard output also takes what they write to it. -/
def Granted (spared : ι → Prop) : Event ι bufsiz → Prop
  | .server event _ => Server.Granted event
  | .exit => True
  | .client who event => spared who → EndToEnd.Granted (.client event)

/-- No connection of a client that is spared is cut off. -/
def Complete (spared : ι → Prop) (s' : State ι bufsiz) : Event ι bufsiz → Prop
  | .server event _ =>
      ∀ i, spared i → EndToEnd.Complete (s'.view i) (.server event false)
  | .exit => True
  | .client who event => spared who → EndToEnd.Complete (s'.view who) (.client event)

/-- What may happen to the clients that are not spared: they are cut off, or their memory
or standard output fails. -/
inductive Reachable (serverOptions : Server.Options) (clientOptions : ι → Client.Options)
    (serverAppend : Nat × LineBuffer bufsiz) (clientAppend : ι → Nat × LineBuffer bufsiz)
    (spared : ι → Prop) : State ι bufsiz → Prop where
  | start (serverFirst : Nat × LineBuffer bufsiz) (clientFirst : ι → Nat × LineBuffer bufsiz)
      (opened : Bool) {server : Server.State bufsiz} {clients : ι → Client.State bufsiz} :
      FreshBuffer ({} : Buffer.State bufsiz) serverFirst.1 →
      FreshBuffer ({ heap := single serverFirst } : Buffer.State bufsiz) serverAppend.1 →
      Server.initAll serverOptions (some serverFirst) (some serverAppend) opened =
        .ok (true, server) →
      (∀ i, FreshBuffer ({} : Buffer.State bufsiz) (clientFirst i).1) →
      (∀ i, FreshBuffer ({ heap := single (clientFirst i) } : Buffer.State bufsiz)
        (clientAppend i).1) →
      (∀ i, Client.initAll (some (clientFirst i)) (some (clientAppend i)) =
        .ok (true, clients i)) →
      Reachable serverOptions clientOptions serverAppend clientAppend spared
        { server, peers := fun i => { client := clients i } }
  | step {s s' : State ι bufsiz} (event : Event ι bufsiz) :
      Reachable serverOptions clientOptions serverAppend clientAppend spared s →
      Possible s event → Granted spared event →
      handle serverOptions clientOptions s event = .ok s' → Complete spared s' event →
      Reachable serverOptions clientOptions serverAppend clientAppend spared s'

/-! ## One client's view -/

/-- The step as the server and one client see it, if they see one. -/
def Event.at (i : ι) : Event ι bufsiz → Option (EndToEnd.Event bufsiz)
  | .server event whose => some (.server event (whose = some i))
  | .exit => some .exit
  | .client who event => if who = i then some (.client event) else none

theorem Event.at_client {who i : ι} {event : Client.Event bufsiz}
    {seen : EndToEnd.Event bufsiz} (sees : (Event.client who event).at i = some seen) :
    who = i ∧ seen = .client event := by
  by_cases same : who = i
  · rw [Event.at, if_pos same] at sees
    exact ⟨same, (Option.some.inj sees).symm⟩
  · rw [Event.at, if_neg same] at sees
    cases sees

section View

variable {serverOptions : Server.Options} {clientOptions : ι → Client.Options}
  {s s' : State ι bufsiz} {event : Event ι bufsiz} {spared : ι → Prop}

/-- A step is a step of the two, or they do not see it. -/
theorem handle_view (ran : handle serverOptions clientOptions s event = .ok s') (i : ι) :
    match event.at i with
    | none => s'.view i = s.view i
    | some seen => EndToEnd.handle serverOptions (clientOptions i) (s.view i) seen =
        .ok (s'.view i) := by
  cases event with
  | server event whose =>
      obtain ⟨server, serves, returned⟩ := except_bind_ok ran
      cases returned
      simp only [Event.at, EndToEnd.handle, State.view, serves, except_ok_bind, except_pure]
      by_cases ours : (whose = some i && server.accepted ≠ s.server.accepted) = true
      · simp only [if_pos ours]
        exact congrArg _ (EndToEnd.State.mk.injEq .. ▸ ⟨rfl, rfl, rfl, if_pos ours, rfl, rfl⟩)
      · simp only [if_neg ours]
        exact congrArg _ (EndToEnd.State.mk.injEq .. ▸ ⟨rfl, rfl, rfl, if_neg ours, rfl, rfl⟩)
  | exit =>
      obtain ⟨server, ends, returned⟩ := except_bind_ok ran
      cases returned
      simp only [Event.at, EndToEnd.handle, State.view, ends, except_ok_bind, except_pure]
  | client who event =>
      obtain ⟨client, runs, returned⟩ := except_bind_ok ran
      cases returned
      by_cases same : who = i
      · subst same
        simp only [Event.at, if_true, EndToEnd.handle, State.view, runs, except_ok_bind,
          except_pure, Function.update_self]
      · simp only [Event.at, if_neg same, State.view,
          Function.update_of_ne (Ne.symm same)]

theorem Possible.view (possible : Possible s event) {i : ι} {seen : EndToEnd.Event bufsiz}
    (sees : event.at i = some seen) : EndToEnd.Possible (s.view i) seen := by
  cases event with
  | server event whose =>
      obtain ⟨running, allowed, mayNotice, fresh⟩ := possible
      cases sees
      exact ⟨running, allowed, mayNotice i, fun ours => fresh i (of_decide_eq_true ours)⟩
  | exit =>
      cases sees
      exact possible
  | client who event =>
      obtain ⟨rfl, rfl⟩ := Event.at_client sees
      exact possible

theorem Granted.view (granted : Granted spared event) {i : ι} (safe : spared i)
    {seen : EndToEnd.Event bufsiz} (sees : event.at i = some seen) : EndToEnd.Granted seen := by
  cases event with
  | server event whose =>
      cases sees
      exact granted
  | exit =>
      cases sees
      trivial
  | client who event =>
      obtain ⟨rfl, rfl⟩ := Event.at_client sees
      exact granted safe

theorem Complete.view (complete : Complete spared s' event) {i : ι} (safe : spared i)
    {seen : EndToEnd.Event bufsiz} (sees : event.at i = some seen) :
    EndToEnd.Complete (s'.view i) seen := by
  cases event with
  | server event whose =>
      cases sees
      exact complete i safe
  | exit =>
      cases sees
      trivial
  | client who event =>
      obtain ⟨rfl, rfl⟩ := Event.at_client sees
      exact complete safe

end View

section Runs

variable {serverOptions : Server.Options} {clientOptions : ι → Client.Options}
  {serverAppend : Nat × LineBuffer bufsiz} {clientAppend : ι → Nat × LineBuffer bufsiz}
  {spared : ι → Prop} {s s' : State ι bufsiz} {event : Event ι bufsiz}

theorem Reachable.view
    (reachable : Reachable serverOptions clientOptions serverAppend clientAppend spared s)
    {i : ι} (safe : spared i) :
    EndToEnd.Reachable serverOptions (clientOptions i) serverAppend (clientAppend i)
      (s.view i) := by
  induction reachable with
  | start serverFirst clientFirst opened fresh fresh' ran freshClient freshClient' ranClient =>
      exact .start serverFirst (clientFirst i) opened fresh fresh' ran (freshClient i)
        (freshClient' i) (ranClient i)
  | step event _ possible granted ran complete ih =>
      have seen := handle_view ran i
      cases sees : event.at i with
      | none =>
          rw [sees] at seen
          exact seen ▸ ih
      | some seenEvent =>
          rw [sees] at seen
          exact .step seenEvent ih (possible.view sees) (granted.view safe sees) seen
            (complete.view safe sees)

/-! ## The order of the connections -/

/-- Each connection is of one client at most. -/
structure Orderly (serverOptions : Server.Options) (s : State ι bufsiz) : Prop where
  serving : s.exited = false → ∃ clients, Server.Serving serverOptions s.server clients
  inOrder : Server.InOrder s.server
  known : ∀ i socket, (s.peers i).socket = some socket → socket < s.server.accepted
  distinct : ∀ i j socket, (s.peers i).socket = some socket →
    (s.peers j).socket = some socket → i = j

/-- A client keeps its connection, and a new connection is that of one client. -/
theorem socket_of_handle (possible : Possible s event)
    (ran : handle serverOptions clientOptions s event = .ok s') {i : ι} {socket : Nat}
    (accepted : (s'.peers i).socket = some socket) :
    (s.peers i).socket = some socket ∨
      ∃ seen, event = .server seen (some i) ∧ socket = s.server.accepted ∧
        Server.Opens s.server s'.server := by
  cases event with
  | server seen whose =>
      obtain ⟨server, serves, returned⟩ := except_bind_ok ran
      cases returned
      dsimp only at accepted
      split at accepted
      case isTrue ours =>
        rw [Bool.and_eq_true, decide_eq_true_iff, decide_eq_true_iff] at ours
        obtain ⟨rfl, new⟩ := ours
        have opens := (Server.handle_grows possible.2.1 serves).1.resolve_left new
        exact .inr ⟨seen, rfl, (Option.some.inj accepted).symm, opens⟩
      case isFalse => exact .inl accepted
  | exit =>
      obtain ⟨server, ends, returned⟩ := except_bind_ok ran
      cases returned
      exact .inl accepted
  | client who event =>
      obtain ⟨client, runs, returned⟩ := except_bind_ok ran
      cases returned
      left
      by_cases same : i = who
      · subst same
        simpa only [Function.update_self] using accepted
      · simpa only [Function.update_of_ne same] using accepted

theorem Orderly.server (orderly : Orderly serverOptions s) (possible : Possible s event)
    (granted : Granted spared event)
    (ran : handle serverOptions clientOptions s event = .ok s') :
    (s'.exited = false → ∃ clients, Server.Serving serverOptions s'.server clients) ∧
      Server.InOrder s'.server ∧ s.server.accepted ≤ s'.server.accepted := by
  cases event with
  | server event whose =>
      obtain ⟨running, allowed, _, _⟩ := possible
      obtain ⟨server, serves, returned⟩ := except_bind_ok ran
      cases returned
      obtain ⟨clients, serving⟩ := orderly.serving running
      refine ⟨fun _ => (serving.handle allowed granted).of_ok serves,
        orderly.inOrder.handle serving allowed granted serves, ?_⟩
      rcases (Server.handle_grows allowed serves).1 with same | opens
      · exact Nat.le_of_eq same.symm
      · exact opens.accepted ▸ Nat.le_succ _
  | exit =>
      obtain ⟨server, ends, returned⟩ := except_bind_ok ran
      cases returned
      obtain ⟨clients, serving⟩ := orderly.serving possible
      have inOrder := orderly.inOrder.socketsFinal serving.registered ends
      obtain ⟨_, _, _, ends', _⟩ := serving.registered.socketsFinal
      rw [ends] at ends'
      cases ends'
      exact ⟨nofun, inOrder, Nat.le_refl _⟩
  | client who event =>
      obtain ⟨client, runs, returned⟩ := except_bind_ok ran
      cases returned
      exact ⟨orderly.serving, orderly.inOrder, Nat.le_refl _⟩

theorem Orderly.handle (orderly : Orderly serverOptions s) (possible : Possible s event)
    (granted : Granted spared event)
    (ran : handle serverOptions clientOptions s event = .ok s') : Orderly serverOptions s' := by
  obtain ⟨serving, inOrder, le⟩ := orderly.server possible granted ran
  refine ⟨serving, inOrder, ?_, ?_⟩
  · intro i socket accepted
    rcases socket_of_handle possible ran accepted with old | ⟨_, _, rfl, opens⟩
    · exact Nat.lt_of_lt_of_le (orderly.known i socket old) le
    · rw [opens.accepted]
      exact Nat.lt_succ_self _
  · intro i j socket accepted accepted'
    rcases socket_of_handle possible ran accepted with old | ⟨seen, rfl, rfl, _⟩ <;>
      rcases socket_of_handle possible ran accepted' with old' | ⟨seen', same, new, _⟩
    · exact orderly.distinct i j socket old old'
    · subst new
      exact absurd (orderly.known i _ old) (Nat.lt_irrefl _)
    · exact absurd (orderly.known j _ old') (Nat.lt_irrefl _)
    · cases same
      rfl

theorem Reachable.orderly
    (reachable : Reachable serverOptions clientOptions serverAppend clientAppend spared s)
    (zeroed : serverAppend.2.nlines = 0) : Orderly serverOptions s := by
  induction reachable with
  | start serverFirst clientFirst opened fresh fresh' ran _ _ _ =>
      have started := Server.started_of_initAll fresh fresh' ran
      have reached : Server.Reachable serverOptions serverAppend Server.Granted _ :=
        .start serverFirst opened fresh fresh' ran
      refine ⟨fun _ => reached.serving zeroed, .of_none started.accepted, ?_, ?_⟩
      · intro i socket accepted
        cases accepted
      · intro i j socket accepted
        cases accepted
  | step event _ possible granted ran _ orderly => exact orderly.handle possible granted ran

/-! ## What the clients print -/

/-- Client `i` and the server have kept to their contract. -/
def Abides (serverOptions : Server.Options) (clientOptions : ι → Client.Options)
    (s : State ι bufsiz) (i : ι) : Prop :=
  ((s.peers i).socket = none → (s.peers i).client.stdout = []) ∧
    ∀ socket, (s.peers i).socket = some socket → ∃ since,
      s.server.stdinRead = (s.server.connections socket).before ++ since ∧
      Contract (clientOptions i) (s.view i)
        (requiredTail (clientOptions i).buffer
          (requiredTail serverOptions.buffer (s.server.connections socket).before)) since

omit [DecidableEq ι] in
theorem abides_of_coupled {i : ι}
    (coupled : EndToEnd.Coupled serverOptions (clientOptions i) (s.view i)) :
    Abides serverOptions clientOptions s i := by
  constructor
  · intro unaccepted
    have stdout := coupled.converses.stdout
    rw [coupled.taken_of_none unaccepted, Client.printed_nil] at stdout
    exact stdout
  · intro socket accepted
    have known := (coupled.known socket accepted).1
    have connection : (s.view i).connection = s.server.connections socket :=
      EndToEnd.State.connection_of_some accepted
    rw [← connection]
    obtain ⟨since, joined⟩ := coupled.delivered.before
    have since_eq : s.server.stdinRead.drop (s.view i).connection.before.length = since := by
      rw [show s.server.stdinRead = _ from joined.symm, List.drop_left]
    refine ⟨since, joined.symm, ?_, ?_, ?_, ?_⟩
    · rw [← since_eq]
      exact coupled.stdout_prefix
    · intro registered unfollowed detached
      exact coupled.stdout_of_detached unfollowed known detached registered
    · intro registered unfollowed attached
      exact coupled.more_of_attached unfollowed attached registered
    · intro registered following all
      rw [← since_eq]
      exact coupled.stdout_of_taken (coupled.taken_of_followed following known registered all)

/-- The step is not one of a client that is not spared. -/
def Spares (spared : ι → Prop) : Event ι bufsiz → Prop
  | .server _ _ => True
  | .exit => True
  | .client who _ => spared who

theorem Orderly.returns (orderly : Orderly serverOptions s) (room : 0 < bufsiz)
    (coupled : ∀ i, spared i →
      EndToEnd.Coupled serverOptions (clientOptions i) (s.view i))
    (possible : Possible s event) (granted : Granted spared event)
    (spares : Spares spared event) :
    Returns (ManyClients.handle serverOptions clientOptions s event) fun _ => True := by
  cases event with
  | server event whose =>
      obtain ⟨running, allowed, _⟩ := possible
      obtain ⟨clients, serving⟩ := orderly.serving running
      exact (serving.handle allowed granted).bind fun _ _ => trivial
  | exit =>
      obtain ⟨clients, serving⟩ := orderly.serving possible
      obtain ⟨_, _, _, ends, _⟩ := serving.registered.socketsFinal
      exact .bind_ok ends trivial
  | client who event =>
      have seen : (Event.client who event).at who = some (.client event) := if_pos rfl
      have returns := (coupled who spares).handle room (possible.view seen)
        (granted.view spares seen)
      exact returns.of_bind.bind fun _ _ => trivial

/-- Every client that is spared has its contract with the server, however the steps of the
others come between and whatever happens to them; no step of the server or of a client
that is spared fails, and no connection is of two clients. -/
theorem contract_of_many (serverOptions : Server.Options) (clientOptions : ι → Client.Options)
    (serverAppend : Nat × LineBuffer bufsiz) (clientAppend : ι → Nat × LineBuffer bufsiz)
    (spared : ι → Prop) (room : 0 < bufsiz) (serverZeroed : serverAppend.2.nlines = 0)
    (clientZeroed : ∀ i, spared i → (clientAppend i).2.nlines = 0) (s : State ι bufsiz)
    (reachable : Reachable serverOptions clientOptions serverAppend clientAppend spared s) :
    (∀ event, Possible s event → Granted spared event → Spares spared event →
        Returns (handle serverOptions clientOptions s event) fun _ => True) ∧
      (∀ i j socket, (s.peers i).socket = some socket → (s.peers j).socket = some socket →
        i = j) ∧
      ∀ i, spared i → Abides serverOptions clientOptions s i := by
  have orderly := reachable.orderly serverZeroed
  have coupled := fun i (safe : spared i) =>
    (reachable.view safe).coupled room serverZeroed (clientZeroed i safe)
  refine ⟨?_, orderly.distinct, fun i safe => abides_of_coupled (coupled i safe)⟩
  exact fun event possible granted spares => orderly.returns room coupled possible granted spares

/-- A client that follows a connection. -/
structure Following (clientOptions : ι → Client.Options) (s : State ι bufsiz) (i : ι)
    (socket : Nat) : Prop where
  accepted : (s.peers i).socket = some socket
  registered : (s.server.connections socket).registered = true
  follow : (clientOptions i).follow = true

/-- It has read all there is, or has ended. -/
def CaughtUp (s : State ι bufsiz) (i : ι) : Prop :=
  (s.peers i).taken = (s.view i).connection.received ∨
    (s.peers i).client.phase.attached = false

omit [DecidableEq ι] in
theorem Abides.following {i : ι} {socket : Nat}
    (abides : Abides serverOptions clientOptions s i)
    (following : Following clientOptions s i socket) : ∃ since,
      s.server.stdinRead = (s.server.connections socket).before ++ since ∧
      let all := requiredTail (clientOptions i).buffer
        (requiredTail serverOptions.buffer (s.server.connections socket).before) ++ since
      (s.peers i).client.stdout <+: all ∧ (CaughtUp s i → (s.peers i).client.stdout = all) := by
  obtain ⟨since, joined, contract⟩ := abides.2 socket following.accepted
  have connection : (s.view i).connection = s.server.connections socket :=
    EndToEnd.State.connection_of_some following.accepted
  refine ⟨since, joined, ?_, ?_⟩
  · have isPrefix := contract.isPrefix
    rw [if_pos following.follow] at isPrefix
    exact isPrefix
  · exact contract.followed (connection ▸ following.registered) following.follow

/-- Of two clients that follow, the one accepted first prints what the other one does behind
its tail, and before that what was read between the two `accept`s: their outputs never
diverge, and when both have read all they end alike. -/
theorem agreement_of_many (serverOptions : Server.Options) (clientOptions : ι → Client.Options)
    (serverAppend : Nat × LineBuffer bufsiz) (clientAppend : ι → Nat × LineBuffer bufsiz)
    (spared : ι → Prop) (room : 0 < bufsiz) (serverZeroed : serverAppend.2.nlines = 0)
    (clientZeroed : ∀ i, spared i → (clientAppend i).2.nlines = 0) (s : State ι bufsiz)
    (reachable : Reachable serverOptions clientOptions serverAppend clientAppend spared s)
    (i j : ι) (socket later : Nat) (safe : spared i) (safe' : spared j)
    (first : Following clientOptions s i socket) (next : Following clientOptions s j later)
    (le : socket ≤ later) :
    ∃ before between since, before = (s.server.connections socket).before ∧
      before ++ between = (s.server.connections later).before ∧
      s.server.stdinRead = before ++ between ++ since ∧
      let tail := requiredTail (clientOptions i).buffer
        (requiredTail serverOptions.buffer before)
      let tail' := requiredTail (clientOptions j).buffer
        (requiredTail serverOptions.buffer (before ++ between))
      (s.peers i).client.stdout <+: tail ++ between ++ since ∧
        (s.peers j).client.stdout <+: tail' ++ since ∧
        (CaughtUp s i → (s.peers i).client.stdout = tail ++ between ++ since) ∧
        (CaughtUp s j → (s.peers j).client.stdout = tail' ++ since) := by
  have orderly := reachable.orderly serverZeroed
  have abides := fun i (safe : spared i) => abides_of_coupled
    ((reachable.view safe).coupled room serverZeroed (clientZeroed i safe))
  obtain ⟨since, joined, isPrefix, caughtUp⟩ := (abides i safe).following first
  obtain ⟨since', joined', isPrefix', caughtUp'⟩ := (abides j safe').following next
  obtain ⟨between, before⟩ := orderly.inOrder.ordered socket later le
    (orderly.known j later next.accepted)
  have split : since = between ++ since' := by
    rw [joined', ← before, List.append_assoc] at joined
    exact (List.append_cancel_left joined).symm
  subst split
  rw [← before] at joined' isPrefix' caughtUp'
  refine ⟨(s.server.connections socket).before, between, since', rfl, before, joined', ?_,
    isPrefix', ?_, caughtUp'⟩
  · rw [List.append_assoc]
    exact isPrefix
  · rw [List.append_assoc]
    exact caughtUp

/-- Of the bytes read before it was accepted, a client prints the longest suffix that has
at most as many units as the server keeps and as it wants itself, whichever units the two
count; all of it before it ends or, in follow mode, before what follows. -/
theorem longest_of_many (serverOptions : Server.Options) (clientOptions : ι → Client.Options)
    (serverAppend : Nat × LineBuffer bufsiz) (clientAppend : ι → Nat × LineBuffer bufsiz)
    (spared : ι → Prop) (room : 0 < bufsiz) (serverZeroed : serverAppend.2.nlines = 0)
    (clientZeroed : ∀ i, spared i → (clientAppend i).2.nlines = 0) (s : State ι bufsiz)
    (reachable : Reachable serverOptions clientOptions serverAppend clientAppend spared s)
    (i : ι) (socket : Nat) (safe : spared i) (accepted : (s.peers i).socket = some socket)
    (registered : (s.server.connections socket).registered = true) :
    ∃ tail since, s.server.stdinRead = (s.server.connections socket).before ++ since ∧
      (∀ part, part <:+ tail ↔ part <:+ (s.server.connections socket).before ∧
        Fits serverOptions.buffer part ∧ Fits (clientOptions i).buffer part) ∧
      ((clientOptions i).follow = false → (s.peers i).client.phase.attached = false →
        (s.peers i).client.stdout = tail) ∧
      ((clientOptions i).follow = true → CaughtUp s i →
        (s.peers i).client.stdout = tail ++ since) := by
  have coupled := (reachable.view safe).coupled room serverZeroed (clientZeroed i safe)
  obtain ⟨since, joined, contract⟩ := (abides_of_coupled coupled).2 socket accepted
  have connection : (s.view i).connection = s.server.connections socket :=
    EndToEnd.State.connection_of_some accepted
  refine ⟨_, since, joined, ?_, contract.ended (connection ▸ registered),
    contract.followed (connection ▸ registered)⟩
  intro part
  rw [suffix_requiredTail_iff, suffix_requiredTail_iff, and_assoc]

end Runs

/-! Two clients that follow. The second one is accepted after a line was read, which the
first one has printed. -/

def sampleFollow : Client.Options where
  buffer := ⟨false, 1⟩
  follow := true
  reopenFile := false

def sampleSystem (events : List (Event Bool 4)) : State Bool 4 :=
  (events.foldlM (handle Server.sampleOptions fun _ => sampleFollow)
    { server := Server.sampleStart
      peers := fun _ => { client := { buffer := sampleExecution.initial } } }).toOption.getD
    { server := Server.sampleStart
      peers := fun _ => { client := { buffer := {} } } }

def sampleAccept (who : Bool) (tailer : Nat) (answers : List WriteAnswer) : Event Bool 4 :=
  .server (.unixSock [.connected] true (some (tailer, ⟨9, false, none, none⟩)) answers)
    (some who)

def sampleReads (who : Bool) (bytes : List UInt8) : Event Bool 4 :=
  .client who (Client.sampleReadable (.data bytes))

def sampleEvents : List (Event Bool 4) :=
  [.client false (.connect 3), sampleAccept false 1 [.accepted 9],
    .server Server.sampleRead none, sampleReads false [48], sampleReads false [10],
    sampleReads false [97, 10], .client true (.connect 3),
    sampleAccept true 2 [.accepted 9, .accepted 9]]

def SampleReachable : State Bool 4 → Prop :=
  Reachable Server.sampleOptions (fun _ => sampleFollow) sampleExecution.append
    (fun _ => sampleExecution.append) (fun _ => True)

theorem sampleAccept_step {s s' : State Bool 4} (who : Bool) (tailer : Nat)
    (answers : List WriteAnswer) (reachable : SampleReachable s)
    (running : s.exited = false) (watches : s.server.unixSockWatcher = true)
    (fresh : tailer ∉ s.server.tailers) (connected : (s.peers who).connected = true)
    (unaccepted : (s.peers who).socket = none)
    (ran : handle Server.sampleOptions (fun _ => sampleFollow) s
      (sampleAccept who tailer answers) = .ok s')
    (complete : ∀ i, (s'.view i).connection.cut = false) : SampleReachable s' := by
  refine .step (sampleAccept who tailer answers) reachable
    ⟨running, ⟨watches, ?_⟩, fun _ _ _ notices => notices.elim, ?_⟩ rfl ran
    fun i _ => complete i
  · intro block node same
    cases same
    exact fresh
  · intro i same
    cases same
    exact ⟨connected, unaccepted⟩

theorem sampleReads_step {s s' : State Bool 4} (who : Bool) (bytes : List UInt8)
    (reachable : SampleReachable s)
    (possible : Client.Possible (s.peers who).client (Client.sampleReadable (.data bytes)))
    (sent : (s.peers who).taken ++ bytes <+: (s.view who).connection.received)
    (ran : handle Server.sampleOptions (fun _ => sampleFollow) s (sampleReads who bytes) =
      .ok s') : SampleReachable s' :=
  .step (sampleReads who bytes) reachable ⟨possible, sent⟩
    (fun _ => Client.sampleReadable_supplied (.data bytes)) ran fun _ => trivial

/-- The first client knows how long its tail is, and the line has come in behind it. -/
theorem sampleGreeted_reachable : SampleReachable (sampleSystem (sampleEvents.take 5)) := by
  have started : SampleReachable (sampleSystem (sampleEvents.take 0)) :=
    .start sampleExecution.first (fun _ => sampleExecution.first) true (by decide) (by decide)
      rfl (by decide) (by decide) fun _ => rfl
  have connected : SampleReachable (sampleSystem (sampleEvents.take 1)) :=
    .step (.client false (.connect 3)) started ⟨rfl, rfl⟩ (fun _ => trivial) rfl
      fun _ => trivial
  have accepted : SampleReachable (sampleSystem (sampleEvents.take 2)) :=
    sampleAccept_step false 1 [.accepted 9] connected rfl rfl (by decide) rfl rfl rfl (by decide)
  have filled : SampleReachable (sampleSystem (sampleEvents.take 3)) := by
    refine .step (.server Server.sampleRead none) accepted
      ⟨rfl, ⟨rfl, rfl, by decide, ?_⟩, fun _ _ _ notices => notices.elim, by simp⟩ rfl rfl ?_
    · intro bytes same
      cases same
      decide
    · intro i _
      cases i <;> rfl
  have digit : SampleReachable (sampleSystem (sampleEvents.take 4)) :=
    sampleReads_step false [48] filled (by decide) (by decide) rfl
  exact sampleReads_step false [10] digit (by decide) (by decide) rfl

theorem sampleSystem_reachable : SampleReachable (sampleSystem sampleEvents) := by
  have followed : SampleReachable (sampleSystem (sampleEvents.take 6)) :=
    sampleReads_step false [97, 10] sampleGreeted_reachable (by decide) (by decide) rfl
  have joined : SampleReachable (sampleSystem (sampleEvents.take 7)) :=
    .step (.client true (.connect 3)) followed ⟨rfl, rfl⟩ (fun _ => trivial) rfl
      fun _ => trivial
  exact sampleAccept_step true 2 [.accepted 9, .accepted 9] joined rfl rfl (by decide) rfl rfl rfl
    (by decide)

theorem contract_of_twoFollowers :
    (∀ event, Possible (sampleSystem sampleEvents) event → Granted (fun _ => True) event →
        Spares (fun _ => True) event →
        Returns (handle Server.sampleOptions (fun _ => sampleFollow)
          (sampleSystem sampleEvents) event) fun _ => True) ∧
      (∀ i j socket, ((sampleSystem sampleEvents).peers i).socket = some socket →
        ((sampleSystem sampleEvents).peers j).socket = some socket → i = j) ∧
      ∀ i, True → Abides Server.sampleOptions (fun _ => sampleFollow)
        (sampleSystem sampleEvents) i :=
  contract_of_many Server.sampleOptions (fun _ => sampleFollow) sampleExecution.append
    (fun _ => sampleExecution.append) (fun _ => True) (by decide) rfl (fun _ _ => rfl)
    (sampleSystem sampleEvents) sampleSystem_reachable

theorem agreement_of_twoFollowers :
    ∃ before between since,
      before = ((sampleSystem sampleEvents).server.connections 0).before ∧
      before ++ between = ((sampleSystem sampleEvents).server.connections 1).before ∧
      (sampleSystem sampleEvents).server.stdinRead = before ++ between ++ since ∧
      let tail := requiredTail sampleFollow.buffer
        (requiredTail Server.sampleOptions.buffer before)
      let tail' := requiredTail sampleFollow.buffer
        (requiredTail Server.sampleOptions.buffer (before ++ between))
      ((sampleSystem sampleEvents).peers false).client.stdout <+: tail ++ between ++ since ∧
        ((sampleSystem sampleEvents).peers true).client.stdout <+: tail' ++ since ∧
        (CaughtUp (sampleSystem sampleEvents) false →
          ((sampleSystem sampleEvents).peers false).client.stdout = tail ++ between ++ since) ∧
        (CaughtUp (sampleSystem sampleEvents) true →
          ((sampleSystem sampleEvents).peers true).client.stdout = tail' ++ since) :=
  agreement_of_many Server.sampleOptions (fun _ => sampleFollow) sampleExecution.append
    (fun _ => sampleExecution.append) (fun _ => True) (by decide) rfl (fun _ _ => rfl)
    (sampleSystem sampleEvents) sampleSystem_reachable false true 0 1 trivial trivial
    ⟨rfl, rfl, rfl⟩ ⟨rfl, rfl, rfl⟩ (by decide)

/-- The second client has read the line and printed what it wants of it. -/
def sampleTailEvents : List (Event Bool 4) :=
  sampleEvents ++ [sampleReads true [50], sampleReads true [10], sampleReads true [97, 10]]

theorem sampleTail_reachable : SampleReachable (sampleSystem sampleTailEvents) := by
  have digit : SampleReachable (sampleSystem (sampleTailEvents.take 9)) :=
    sampleReads_step true [50] sampleSystem_reachable (by decide) (by decide) rfl
  have greeted : SampleReachable (sampleSystem (sampleTailEvents.take 10)) :=
    sampleReads_step true [10] digit (by decide) (by decide) rfl
  exact sampleReads_step true [97, 10] greeted (by decide) (by decide) rfl

theorem longest_of_secondFollower :
    ∃ tail since, (sampleSystem sampleTailEvents).server.stdinRead =
        ((sampleSystem sampleTailEvents).server.connections 1).before ++ since ∧
      (∀ part, part <:+ tail ↔
        part <:+ ((sampleSystem sampleTailEvents).server.connections 1).before ∧
          Fits Server.sampleOptions.buffer part ∧ Fits sampleFollow.buffer part) ∧
      (sampleFollow.follow = false →
        ((sampleSystem sampleTailEvents).peers true).client.phase.attached = false →
          ((sampleSystem sampleTailEvents).peers true).client.stdout = tail) ∧
      (sampleFollow.follow = true → CaughtUp (sampleSystem sampleTailEvents) true →
        ((sampleSystem sampleTailEvents).peers true).client.stdout = tail ++ since) :=
  longest_of_many Server.sampleOptions (fun _ => sampleFollow) sampleExecution.append
    (fun _ => sampleExecution.append) (fun _ => True) (by decide) rfl (fun _ _ => rfl)
    (sampleSystem sampleTailEvents) sampleTail_reachable true 1 trivial rfl rfl

example : ((sampleSystem sampleTailEvents).server.connections 1).before = [97, 10] ∧
    ((sampleSystem sampleTailEvents).peers true).client.stdout = [10] := by decide

end Tailserver.ManyClients
