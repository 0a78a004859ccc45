import Mathlib.Data.List.Forall2
import Tailserver.Reopening.Basic
import Tailserver.Reopening.Connection

/-! The client and all of its servers. The connections that the client has left stay as
they are, and what it keeps of them is what it has read. -/

set_option autoImplicit false

namespace Tailserver.Reopening

open CMemory Buffer
open Client (Taken Stream Reconnecting)
open EndToEnd (MayNotice MayRead tailOf)

variable {ι : Type} {bufsiz : Nat}

/-! ## The invariant -/

/-- The last connection, left or not. -/
structure Recent (options : Server.Options) (v : EndToEnd.State bufsiz) (taken : Taken) :
    Prop where
  held : v.client.phase = .looping → Held options v taken
  past : v.client.phase ≠ .looping → Past options v taken

structure Coupled (serverOptions : ι → Server.Options) (clientOptions : Client.Options)
    (s : State ι bufsiz) (history current : List Taken) : Prop where
  running : ∀ i, s.exited i = false → Running (serverOptions i) (s.servers i)
  earlier : List.Forall₂ (fun taken visit => Past (serverOptions visit.server) (s.view visit) taken)
    history s.earlier
  last : List.Forall₂ (fun taken visit => Recent (serverOptions visit.server) (s.view visit) taken)
    current s.last.toList
  reconnecting : Reconnecting clientOptions s.client (history ++ current)
  silent : s.client.sent = [] ∧ s.client.phase ≠ .writing
  reads : s.client.phase = .looping → s.last.isSome

section Coupled

variable {serverOptions : ι → Server.Options} {clientOptions : Client.Options}
  {s : State ι bufsiz} {history current : List Taken} {who : ι} {server : Server.State bufsiz}
  {visit : Visit ι}

theorem Coupled.current_of_none (coupled : Coupled serverOptions clientOptions s history current)
    (last : s.last = none) : current = [] := by
  have recent := coupled.last
  rw [last] at recent
  exact List.forall₂_nil_right_iff.mp recent

theorem Coupled.current_of_some (coupled : Coupled serverOptions clientOptions s history current)
    (last : s.last = some visit) : ∃ taken, current = [taken] ∧
      Recent (serverOptions visit.server) (s.view visit) taken := by
  have recent := coupled.last
  rw [last] at recent
  obtain ⟨taken, rest, holds, nothing, rfl⟩ := List.forall₂_cons_right_iff.mp recent
  rw [List.forall₂_nil_right_iff.mp nothing]
  exact ⟨taken, rfl, holds⟩

/-! ## Steps of the client -/

/-- What a server will send is not known before it accepts the connection. -/
def unknownStream : Stream := ⟨[], [], by decide⟩

theorem Coupled.connect {opened : Int}
    (coupled : Coupled serverOptions clientOptions s history current)
    (following : clientOptions.follow = true) (connecting : s.client.phase = .connecting)
    (success : opened ≠ Client.invalidSocket) (who : ι) :
    Coupled serverOptions clientOptions
      { s with
        client := Client.connect clientOptions s.client opened
        earlier := s.visits
        last := some { server := who } }
      (history ++ current) [⟨unknownStream, []⟩] := by
  obtain ⟨looping, silent⟩ :=
    coupled.reconnecting.connect_of_opened following connecting success
  have left : s.client.phase ≠ .looping := by simp [connecting]
  refine ⟨coupled.running, ?_, .cons ⟨fun _ => ?_, fun idle => absurd looping idle⟩ .nil,
    coupled.reconnecting.connect following connecting success unknownStream,
    ⟨silent, by simp [looping]⟩, fun _ => rfl⟩
  · exact List.rel_append (coupled.earlier.imp fun _ _ past => past.client _)
      (coupled.last.imp fun _ _ recent => (recent.past left).client _)
  · exact .nothing _ rfl rfl _

theorem Coupled.refused (coupled : Coupled serverOptions clientOptions s history current)
    (connecting : s.client.phase = .connecting) :
    Coupled serverOptions clientOptions
      { s with
        client := Client.connect clientOptions s.client Client.invalidSocket
        last := s.last.map (Visit.read []) } history current := by
  obtain ⟨finished, silent⟩ := coupled.reconnecting.connect_of_refused connecting
  have left : s.client.phase ≠ .looping := by simp [connecting]
  have same : s.last.map (Visit.read []) = s.last := by
    cases s.last with
    | none => rfl
    | some visit => rw [Option.map_some, Visit.read, List.append_nil]
  rw [same]
  refine ⟨coupled.running, coupled.earlier.imp fun _ _ past => past.client _,
    coupled.last.imp fun _ _ recent => ⟨fun looping => ?_, fun _ => (recent.past left).client _⟩,
    coupled.reconnecting.refused connecting, ⟨silent, by simp [finished]⟩, fun looping => ?_⟩
  · exact absurd (finished.symm.trans looping) (by simp)
  · exact absurd (finished.symm.trans looping) (by simp)

theorem Coupled.readable {answer : ReadAnswer} {unset : Int}
    {fresh : Allocation (LineBuffer bufsiz)} {answers : List WriteAnswer}
    (coupled : Coupled serverOptions clientOptions s history current)
    (following : clientOptions.follow = true) (room : 0 < bufsiz)
    (possible : Client.Possible s.client (.readable answer unset fresh answers))
    (mayRead : ∀ visit ∈ s.last, MayRead (s.view visit) answer) (granted : fresh.isSome)
    (complete : Completes bufsiz answers) :
    Returns (Client.handle clientOptions s.client (.readable answer unset fresh answers))
      fun client => ∃ current', Coupled serverOptions clientOptions
        { s with client, last := s.last.map (Visit.read answer.bytes) } history current' := by
  have looping : s.client.phase = .looping := possible.1
  obtain ⟨visit, last⟩ := Option.isSome_iff_exists.mp (coupled.reads looping)
  obtain ⟨taken, rfl, recent⟩ := coupled.current_of_some last
  have held := recent.held looping
  have received := mayRead visit last
  -- What the server sends on the connection is known only now.
  let stream : Stream := ⟨tailOf (serverOptions visit.server) (s.connection visit),
    (s.servers visit.server).stdinRead.drop (s.connection visit).before.length,
    held.delivered.small⟩
  have agrees : taken.Agrees ⟨stream, taken.bytes⟩ := by
    refine ⟨rfl, fun read => ?_⟩
    rw [held.bytes] at read
    exact (held.tail read).symm
  have arrives : ∀ bytes, answer = .data bytes → taken.bytes ++ bytes <+: stream.bytes := by
    rintro bytes rfl
    rw [held.bytes]
    exact received.trans held.delivered.received
  have renewed : Held (serverOptions visit.server) (s.view visit) ⟨stream, taken.bytes⟩ :=
    ⟨⟨held.known, held.bytes, fun _ => rfl⟩, held.uncut, held.quiet, held.opened, held.refused,
      held.delivered, held.isPrefix⟩
  apply ((coupled.reconnecting.agrees agrees).hears following room possible arrives granted
    complete).mono
  intro client hears
  refine ⟨[Taken.read ⟨stream, taken.bytes⟩ answer.bytes], coupled.running,
    coupled.earlier.imp fun _ _ past => past.client _, ?_, hears.reconnecting,
    ⟨hears.sent.trans coupled.silent.1, hears.notWriting⟩, ?_⟩
  · rw [last, Option.map_some]
    exact .cons ⟨fun _ => renewed.read received rfl client,
      fun left => renewed.leave received (hears.ended left) client⟩ .nil
  · intro _
    rw [last]
    rfl

/-! ## Steps of the servers -/

section Serve

variable {event : Server.Event bufsiz} {ours : Bool}

/-- The server has no reason to notice the client as long as it reads. -/
theorem Coupled.unnoticed (coupled : Coupled serverOptions clientOptions s history current)
    (looping : s.client.phase = .looping) (mayNotice : MayNotice (s.view visit) event) :
    ∀ socket, visit.socket = some socket →
      ¬ Server.Notices (s.servers visit.server) socket event := by
  intro socket accepted notices
  rcases mayNotice socket accepted notices with wrote | closed
  · exact wrote coupled.silent.1
  · obtain ⟨_, _, _, current⟩ := coupled.reconnecting.current looping
    have opened := current.opened
    rw [show Client.clientconnEof s.client.conn = true from closed] at opened
    cases opened

/-- A connection that the client has left is not accepted any more. -/
theorem Coupled.accept_recent (coupled : Coupled serverOptions clientOptions s history current)
    (up : s.exited visit.server = false)
    (possible : Server.Possible (s.servers visit.server) event) (granted : Server.Granted event)
    (unaccepted : visit.socket = none)
    (ran : Server.handle (serverOptions visit.server) (s.servers visit.server) event = .ok server)
    (new : server.accepted ≠ (s.servers visit.server).accepted)
    (uncut : (server.connections (s.servers visit.server).accepted).cut = false) {taken : Taken}
    (recent : Recent (serverOptions visit.server) (s.view visit) taken) :
    Recent (serverOptions visit.server)
      { s.view visit with server, socket := some (s.servers visit.server).accepted } taken := by
  refine ⟨fun looping => ?_, fun left => ?_⟩
  · exact (recent.held looping).accept unaccepted (coupled.running _ up) possible granted ran new
      uncut
  · have exited := (recent.past left).unaccepted unaccepted
    rw [show (s.view visit).exited = false from up] at exited
    cases exited

variable [DecidableEq ι]

theorem State.view_serve_self (same : visit.server = who) :
    (s.serve who server).view visit = { s.view visit with server } := by
  subst same
  simp only [State.view, State.serve, Function.update_self]

theorem State.view_serve_of_ne (other : visit.server ≠ who) :
    (s.serve who server).view visit = s.view visit := by
  simp only [State.view, State.serve, Function.update_of_ne other]

theorem State.view_exit_self (same : visit.server = who) :
    (s.exit who server).view visit = { s.view visit with server, exited := true } := by
  subst same
  simp only [State.view, State.exit, State.serve, Function.update_self]

theorem State.view_exit_of_ne (other : visit.server ≠ who) :
    (s.exit who server).view visit = s.view visit := by
  simp only [State.view, State.exit, State.serve, Function.update_of_ne other]

theorem Coupled.serve_earlier (coupled : Coupled serverOptions clientOptions s history current)
    (up : s.exited who = false) (possible : Server.Possible (s.servers who) event)
    (granted : Server.Granted event)
    (ran : Server.handle (serverOptions who) (s.servers who) event = .ok server) {taken : Taken}
    (past : Past (serverOptions visit.server) (s.view visit) taken) :
    Past (serverOptions visit.server) ((s.serve who server).view visit) taken := by
  by_cases same : visit.server = who
  · rw [State.view_serve_self same]
    subst same
    exact past.serve up (coupled.running _ up) possible granted ran
  · rw [State.view_serve_of_ne same]
    exact past

/-- The last connection of the client when its server takes a step and does not accept it. -/
theorem Coupled.serve_recent (coupled : Coupled serverOptions clientOptions s history current)
    (up : s.exited who = false) (possible : Server.Possible (s.servers who) event)
    (granted : Server.Granted event)
    (mayNotice : visit.server = who → MayNotice (s.view visit) event)
    (ran : Server.handle (serverOptions who) (s.servers who) event = .ok server)
    (uncut : ((s.serve who server).connection visit).cut = false) {taken : Taken}
    (recent : Recent (serverOptions visit.server) (s.view visit) taken) :
    Recent (serverOptions visit.server) ((s.serve who server).view visit) taken := by
  refine ⟨fun looping => ?_,
    fun left => coupled.serve_earlier up possible granted ran (recent.past left)⟩
  have held := recent.held looping
  rw [State.connection] at uncut
  by_cases same : visit.server = who
  · rw [State.view_serve_self same] at uncut ⊢
    subst same
    exact held.serve (coupled.running _ up) possible granted
      (coupled.unnoticed looping (mayNotice rfl)) ran uncut
  · rw [State.view_serve_of_ne same]
    exact held

theorem Coupled.serve (coupled : Coupled serverOptions clientOptions s history current)
    (possible : Possible s (.server who event ours)) (granted : Server.Granted event)
    (ran : Server.handle (serverOptions who) (s.servers who) event = .ok server)
    {last : Option (Visit ι)}
    (next : last = if ours && server.accepted ≠ (s.servers who).accepted then
      s.last.map (Visit.accepted (s.servers who).accepted) else s.last)
    (complete : ∀ visit ∈ last, ((s.serve who server).connection visit).cut = false) :
    Coupled serverOptions clientOptions { s.serve who server with last } history current := by
  obtain ⟨up, allowed, mayNotice, fresh⟩ := possible
  refine ⟨fun i running => ?_, coupled.earlier.imp fun taken visit =>
    coupled.serve_earlier up allowed granted ran, ?_, coupled.reconnecting, coupled.silent, ?_⟩
  · by_cases same : i = who
    · subst same
      simpa only [State.serve, Function.update_self] using
        (coupled.running _ up).handle allowed granted ran
    · simpa only [State.serve, Function.update_of_ne same] using coupled.running i running
  · cases before : s.last with
    | none =>
        rw [before, Option.map_none, ite_self] at next
        rw [next, coupled.current_of_none before]
        exact .nil
    | some visit =>
        obtain ⟨taken, rfl, recent⟩ := coupled.current_of_some before
        rw [before] at mayNotice fresh next
        split at next
        · next new =>
          rw [Bool.and_eq_true, decide_eq_true_iff] at new
          obtain ⟨_, ⟨⟩, same, unaccepted⟩ := fresh new.1
          subst same next
          have seen : (s.serve visit.server server).view
                (visit.accepted (s.servers visit.server).accepted) =
              { s.view visit with server, socket := some (s.servers visit.server).accepted } :=
            State.view_serve_self rfl
          have uncut := complete _ rfl
          rw [State.connection, seen] at uncut
          have accepts := coupled.accept_recent up allowed granted unaccepted ran new.2 uncut
            recent
          rw [← seen] at accepts
          exact .cons accepts .nil
        · subst next
          exact .cons (coupled.serve_recent up allowed granted (mayNotice visit rfl) ran
            (complete visit rfl) recent) .nil
  · intro looping
    rw [next]
    split
    · rw [Option.isSome_map]
      exact coupled.reads looping
    · exact coupled.reads looping

theorem Coupled.exit_past (coupled : Coupled serverOptions clientOptions s history current)
    (up : s.exited who = false) (ran : Server.socketsFinal (s.servers who) = .ok server)
    {taken : Taken} (past : Past (serverOptions visit.server) (s.view visit) taken) :
    Past (serverOptions visit.server) ((s.exit who server).view visit) taken := by
  by_cases same : visit.server = who
  · rw [State.view_exit_self same]
    subst same
    exact past.exit (coupled.running _ up) ran
  · rw [State.view_exit_of_ne same]
    exact past

theorem Coupled.exit_held (coupled : Coupled serverOptions clientOptions s history current)
    (up : s.exited who = false) (ran : Server.socketsFinal (s.servers who) = .ok server)
    {taken : Taken} (held : Held (serverOptions visit.server) (s.view visit) taken) :
    Held (serverOptions visit.server) ((s.exit who server).view visit) taken := by
  by_cases same : visit.server = who
  · rw [State.view_exit_self same]
    subst same
    exact held.exit (coupled.running _ up) ran
  · rw [State.view_exit_of_ne same]
    exact held

theorem Coupled.exit (coupled : Coupled serverOptions clientOptions s history current)
    (up : s.exited who = false) (ran : Server.socketsFinal (s.servers who) = .ok server) :
    Coupled serverOptions clientOptions (s.exit who server) history current := by
  refine ⟨fun i running => ?_, coupled.earlier.imp fun _ _ => coupled.exit_past up ran,
    coupled.last.imp fun _ _ recent =>
      ⟨fun looping => coupled.exit_held up ran (recent.held looping),
        fun left => coupled.exit_past up ran (recent.past left)⟩,
    coupled.reconnecting, coupled.silent, coupled.reads⟩
  by_cases same : i = who
  · subst same
    simp only [State.exit, Function.update_self] at running
    cases running
  · simp only [State.exit, Function.update_of_ne same] at running
    simpa only [State.exit, State.serve, Function.update_of_ne same] using
      coupled.running i running

end Serve

/-! ## Runs -/

variable [DecidableEq ι]

theorem Coupled.handle {event : Event ι bufsiz}
    (coupled : Coupled serverOptions clientOptions s history current)
    (following : clientOptions.follow = true) (room : 0 < bufsiz) (possible : Possible s event)
    (granted : Granted event) :
    Returns (handle serverOptions clientOptions s event) fun s' => Complete s' event →
      ∃ history' current', Coupled serverOptions clientOptions s' history' current' := by
  cases event with
  | server who event ours =>
      have ⟨up, allowed, _⟩ := possible
      obtain ⟨clients, serving⟩ := (coupled.running who up).serving
      have returns := serving.handle allowed granted
      rw [Reopening.handle]
      cases ran : Server.handle (serverOptions who) (s.servers who) event with
      | error fault =>
          rw [ran] at returns
          exact returns
      | ok server =>
          rw [except_ok_bind, except_pure, Returns.ok_iff]
          exact fun complete => ⟨_, _, coupled.serve possible granted ran rfl complete⟩
  | exit who =>
      obtain ⟨clients, serving⟩ := (coupled.running who possible).serving
      obtain ⟨_, _, _, ran, _⟩ := serving.registered.socketsFinal
      rw [Reopening.handle, ran, except_ok_bind, except_pure, Returns.ok_iff]
      exact fun _ => ⟨_, _, coupled.exit possible ran⟩
  | client event who =>
      obtain ⟨possible, mayRun⟩ := possible
      cases event with
      | connect opened =>
          rw [Reopening.handle, Client.handle, except_ok_bind, except_pure, Returns.ok_iff]
          intro _
          by_cases success : opened = Client.invalidSocket
          · subst success
            exact ⟨_, _, coupled.refused possible⟩
          · rw [EndToEnd.opens, if_pos (decide_eq_true success)]
            exact ⟨_, _, coupled.connect following possible success who⟩
      | write answers => exact absurd possible coupled.silent.2
      | readable answer unset fresh answers =>
          apply (coupled.readable following room possible mayRun granted.1 granted.2).bind
          intro client coupled' _
          obtain ⟨current', coupled'⟩ := coupled'
          exact ⟨_, _, coupled'⟩

theorem Reachable.coupled {serverAppend : ι → Nat × LineBuffer bufsiz}
    {clientAppend : Nat × LineBuffer bufsiz}
    (reachable : Reachable serverOptions clientOptions serverAppend clientAppend s)
    (following : clientOptions.follow = true) (room : 0 < bufsiz)
    (serverZeroed : ∀ i, (serverAppend i).2.nlines = 0) (clientZeroed : clientAppend.2.nlines = 0) :
    ∃ history current, Coupled serverOptions clientOptions s history current := by
  induction reachable with
  | start serverFirst clientFirst opened fresh fresh' ran freshClient freshClient' ranClient =>
      refine ⟨[], [], fun i _ => ⟨?_, ?_⟩, .nil, .nil,
        .start freshClient freshClient' (fun _ => clientZeroed) ranClient, ?_, ?_⟩
      · have started : Server.Reachable (serverOptions i) (serverAppend i) Server.Granted _ :=
          .start (serverFirst i) (opened i) (fresh i) (fresh' i) (ran i)
        exact started.serving (serverZeroed i)
      · have started := Server.started_of_initAll (fresh i) (fresh' i) (ran i)
        intro socket known
        rw [started.accepted] at known
        cases known
      · obtain ⟨_, rfl⟩ := Client.started_of_initAll clientOptions.buffer freshClient freshClient'
          ranClient
        exact ⟨rfl, by simp⟩
      · obtain ⟨_, rfl⟩ := Client.started_of_initAll clientOptions.buffer freshClient freshClient'
          ranClient
        intro looping
        cases looping
  | step event _ possible granted ran complete coupled =>
      obtain ⟨_, _, coupled⟩ := coupled
      exact (coupled.handle following room possible granted).of_ok ran complete

end Coupled

end Tailserver.Reopening
