import Tailserver.EndToEnd
import Tailserver.Library.Amortized

/-! How long a client stays. One that does not follow reads no byte behind its tail, and once
the server has ended no other finds more than what is left on the connection. -/

set_option autoImplicit false

namespace Tailserver.EndToEnd

open CMemory Buffer Client

variable {bufsiz : Nat}

/-- A step of either program, with memory for it and with complete writes. -/
def Steps (serverOptions : Server.Options) (clientOptions : Client.Options) (s : State bufsiz)
    (event : Event bufsiz) (s' : State bufsiz) : Prop :=
  Possible s event ∧ Granted event ∧ handle serverOptions clientOptions s event = .ok s' ∧
    Complete s' event

/-- The reads of the client that find data. -/
def reads : Event bufsiz → Nat
  | .client (.readable (.data _) _ _ _) => 1
  | _ => 0

/-- How much of the size and the tail the client has not read. -/
def owed (options : Server.Options) (s : State bufsiz) : Nat :=
  (header (tailOf options s.connection) ++ tailOf options s.connection).length - s.taken.length

/-- How much the server has written and the client has not read. -/
def unread (s : State bufsiz) : Nat := s.connection.received.length - s.taken.length

section Coupled

variable {serverOptions : Server.Options} {clientOptions : Client.Options} {s s' : State bufsiz}
  {event : Event bufsiz}

theorem Coupled.steps (coupled : Coupled serverOptions clientOptions s) (room : 0 < bufsiz)
    (steps : Steps serverOptions clientOptions s event s') :
    Coupled serverOptions clientOptions s' := by
  obtain ⟨possible, granted, ran, complete⟩ := steps
  exact (coupled.handle room possible granted).of_ok ran complete

theorem coupled_of_run {events : List (Event bufsiz)} (room : 0 < bufsiz)
    (coupled : Coupled serverOptions clientOptions s)
    (run : Amortized.Run (Steps serverOptions clientOptions) s events s') :
    Coupled serverOptions clientOptions s' := by
  induction run with
  | nil s => exact coupled
  | cons steps _ ih => exact ih (coupled.steps room steps)

/-- The client takes at least a byte with each read, and no other step takes any. -/
theorem reads_le (possible : Possible s event)
    (ran : handle serverOptions clientOptions s event = .ok s') :
    reads event + s.taken.length ≤ s'.taken.length := by
  cases event with
  | server event ours =>
      obtain ⟨server, _, returned⟩ := except_bind_ok ran
      cases returned
      exact (Nat.zero_add _).le
  | exit =>
      obtain ⟨server, _, returned⟩ := except_bind_ok ran
      cases returned
      exact (Nat.zero_add _).le
  | client event =>
      obtain ⟨client, _, returned⟩ := except_bind_ok ran
      cases returned
      rw [List.length_append]
      cases event with
      | connect opened => simp [reads]
      | write answers => simp [reads]
      | readable answer unset fresh answers =>
          cases answer with
          | data bytes =>
              have nonempty := (possible.1.2.2 bytes rfl).1
              have more := List.length_pos_iff.mpr nonempty
              simp only [reads, arrived, ReadAnswer.bytes]
              omega
          | eof => simp [reads]
          | failed errno => simp [reads]

/-- Once it is registered, the connection keeps what it owes. -/
theorem Coupled.registered_steps (coupled : Coupled serverOptions clientOptions s)
    (registered : s.connection.registered = true)
    (steps : Steps serverOptions clientOptions s event s') :
    s'.connection.registered = true ∧ s'.connection.before = s.connection.before := by
  obtain ⟨possible, _, ran, _⟩ := steps
  cases event with
  | server event ours =>
      obtain ⟨running, possible, _, fresh⟩ := possible
      obtain ⟨server, calls, returned⟩ := except_bind_ok ran
      have theirs : ours = false := by
        cases ours with
        | false => rfl
        | true =>
            rw [State.connection_of_none (fresh rfl).2] at registered
            cases registered
      subst theirs
      cases returned
      obtain ⟨hungUp, _, grows⟩ := coupled.grown possible calls
      exact ⟨grows.registered.trans registered, grows.before⟩
  | exit =>
      obtain ⟨server, final, returned⟩ := except_bind_ok ran
      cases returned
      obtain ⟨clients, serving⟩ := coupled.serving possible
      have closed : ∀ socket, ∃ closes,
          server.connections socket = { s.server.connections socket with closes } := by
        obtain ⟨_, _, _, ran, _, closed⟩ := serving.registered.socketsFinal
        rw [final] at ran
        cases ran
        exact fun socket => ⟨_, closed socket⟩
      obtain ⟨socket, accepted⟩ : ∃ socket, s.socket = some socket := by
        cases accepted : s.socket with
        | none =>
            rw [State.connection_of_none accepted] at registered
            cases registered
        | some socket => exact ⟨socket, rfl⟩
      obtain ⟨closes, record⟩ := closed socket
      rw [State.connection_of_some accepted] at registered ⊢
      rw [@State.connection_of_some _ { s with server, exited := true } socket accepted, record]
      exact ⟨registered, rfl⟩
  | client event =>
      obtain ⟨client, _, returned⟩ := except_bind_ok ran
      cases returned
      exact ⟨registered, rfl⟩

/-- A client that does not follow leaves what follows the tail unread. -/
theorem Coupled.taken_le (coupled : Coupled serverOptions clientOptions s)
    (unfollowed : clientOptions.follow = false) : s.taken.length ≤
      (header (tailOf serverOptions s.connection) ++ tailOf serverOptions s.connection).length :=
  List.drop_eq_nil_iff.mp (coupled.converses.unfollowed unfollowed)

theorem Coupled.owed_pos (coupled : Coupled serverOptions clientOptions s)
    (unfollowed : clientOptions.follow = false) (attached : s.client.phase.attached = true) :
    0 < owed serverOptions s := by
  have unfinished := coupled.converses.unfinished unfollowed attached
  have received := coupled.taken.trans coupled.delivered.received
  rw [stream_eq] at received
  refine Nat.sub_pos_of_lt (Nat.lt_of_le_of_ne (coupled.taken_le unfollowed) fun same => ?_)
  rw [whole, decide_eq_false_iff_not] at unfinished
  exact unfinished (List.prefix_of_prefix_length_le (List.prefix_append _ _) received same.ge)

/-- Once the server has ended only the client takes steps. -/
theorem exited_steps (exited : s.exited = true)
    (steps : Steps serverOptions clientOptions s event s') :
    s'.exited = true ∧ s'.connection = s.connection := by
  obtain ⟨possible, _, ran, _⟩ := steps
  cases event with
  | server event ours =>
      have running := possible.1
      rw [exited] at running
      cases running
  | exit =>
      have running : s.exited = false := possible
      rw [exited] at running
      cases running
  | client event =>
      obtain ⟨client, _, returned⟩ := except_bind_ok ran
      cases returned
      exact ⟨exited, rfl⟩

/-- The end of the connection takes the client off it. -/
theorem Coupled.leaves_of_eof {unset : Int} {fresh : Allocation (LineBuffer bufsiz)}
    {answers : List WriteAnswer} (coupled : Coupled serverOptions clientOptions s)
    (room : 0 < bufsiz)
    (steps : Steps serverOptions clientOptions s
      (.client (.readable .eof unset fresh answers)) s') :
    s'.client.phase.attached = false ∧
      ((clientOptions.reopenFile && clientOptions.follow) = false →
        s'.client.phase = .finished) := by
  obtain ⟨⟨⟨looping, sound, _⟩, _⟩, ⟨granted, complete⟩, ran, _⟩ := steps
  obtain ⟨client, calls, returned⟩ := except_bind_ok ran
  obtain ⟨⟨ended, client'⟩, callback, leaves⟩ := except_bind_ok calls
  have arrives : ∀ bytes, ReadAnswer.eof = .data bytes → bytes ≠ [] ∧
      bytes.length ≤ readLength { s.client with answers } ∧
        s.taken ++ bytes <+: header (tailOf serverOptions s.connection) ++
          tailOf serverOptions s.connection ++ [] := nofun
  have heard := ((coupled.converses.answers answers).read room looping coupled.delivered.small
    arrives sound granted complete unset).of_ok callback
  cases returned
  cases leaves
  exact ⟨heard.attached, heard.finished heard.attached⟩

/-! ## Accounts -/

/-- Reads are paid for out of the size and the tail. -/
theorem pays_owed (serverOptions : Server.Options) (clientOptions : Client.Options)
    (room : 0 < bufsiz) (unfollowed : clientOptions.follow = false) :
    Amortized.Pays (Steps serverOptions clientOptions) (fun (s : State bufsiz) saved =>
      Coupled serverOptions clientOptions s ∧ s.connection.registered = true ∧
        owed serverOptions s = saved) reads fun _ => 0 := by
  rintro s s' event saved ⟨coupled, registered, rfl⟩ steps
  have coupled' := coupled.steps room steps
  obtain ⟨registered', before⟩ := coupled.registered_steps registered steps
  have tail : tailOf serverOptions s'.connection = tailOf serverOptions s.connection := by
    rw [tailOf, tailOf, before]
  refine ⟨_, ⟨coupled', registered', rfl⟩, ?_⟩
  have taken := coupled'.taken_le unfollowed
  have more := reads_le steps.1 steps.2.2.1
  rw [tail] at taken
  rw [owed, owed, tail]
  omega

/-- Once the server has ended, they are paid for out of what it has written. -/
theorem pays_unread (serverOptions : Server.Options) (clientOptions : Client.Options)
    (room : 0 < bufsiz) :
    Amortized.Pays (Steps serverOptions clientOptions) (fun (s : State bufsiz) saved =>
      Coupled serverOptions clientOptions s ∧ s.exited = true ∧ unread s = saved) reads
      fun _ => 0 := by
  rintro s s' event saved ⟨coupled, exited, rfl⟩ steps
  have coupled' := coupled.steps room steps
  obtain ⟨exited', same⟩ := exited_steps exited steps
  refine ⟨_, ⟨coupled', exited', rfl⟩, ?_⟩
  have taken := coupled'.taken.length_le
  have more := reads_le steps.1 steps.2.2.1
  rw [same] at taken
  rw [unread, unread, same]
  omega

end Coupled

/-- What is still to be read when `events` lead from `s` to `s'`. -/
structure Finishes (serverOptions : Server.Options) (clientOptions : Client.Options)
    (s : State bufsiz) (events : List (Event bufsiz)) (s' : State bufsiz) : Prop where
  tail : s.connection.registered = true → clientOptions.follow = false →
    (events.map reads).sum + owed serverOptions s' ≤ owed serverOptions s
  /-- There is something for it to read. -/
  more : s.connection.registered = true → clientOptions.follow = false →
    s'.client.phase.attached = true → 0 < owed serverOptions s' ∧ 0 < unread s'
  exited : s.exited = true → (events.map reads).sum + unread s' ≤ unread s
  eof : ∀ unset fresh answers s'', Steps serverOptions clientOptions s'
    (.client (.readable .eof unset fresh answers)) s'' →
      s''.client.phase.attached = false ∧
        ((clientOptions.reopenFile && clientOptions.follow) = false →
          s''.client.phase = .finished)

/-- A registered client that does not follow reads the size and the tail and no byte more, in no
more reads that find bytes than they have bytes; as long as it stays there is something for it to
read. Once the server has ended the same is true of every client and of all that was written to
it. The end of the connection takes each of them off it, and ends those that do not reopen. -/
theorem finishes_of_run (serverOptions : Server.Options) (clientOptions : Client.Options)
    (serverAppend clientAppend : Nat × LineBuffer bufsiz) (room : 0 < bufsiz)
    (serverZeroed : serverAppend.2.nlines = 0) (clientZeroed : clientAppend.2.nlines = 0)
    (s s' : State bufsiz) (events : List (Event bufsiz))
    (reachable : Reachable serverOptions clientOptions serverAppend clientAppend s)
    (run : Amortized.Run (Steps serverOptions clientOptions) s events s') :
    Finishes serverOptions clientOptions s events s' := by
  have coupled := reachable.coupled room serverZeroed clientZeroed
  have coupled' := coupled_of_run room coupled run
  refine ⟨?_, ?_, ?_, ?_⟩
  · intro registered unfollowed
    obtain ⟨_, ⟨_, _, rfl⟩, paid⟩ :=
      (pays_owed serverOptions clientOptions room unfollowed).sum_le ⟨coupled, registered, rfl⟩ run
    exact paid
  · intro registered unfollowed attached
    obtain ⟨_, ⟨_, registered', _⟩, _⟩ :=
      (pays_owed serverOptions clientOptions room unfollowed).sum_le ⟨coupled, registered, rfl⟩ run
    have more := coupled'.owed_pos unfollowed attached
    have greeted := (coupled'.delivered.greeted registered').length_le
    refine ⟨more, ?_⟩
    rw [owed] at more
    rw [unread]
    omega
  · intro exited
    obtain ⟨_, ⟨_, _, rfl⟩, paid⟩ :=
      (pays_unread serverOptions clientOptions room).sum_le ⟨coupled, exited, rfl⟩ run
    exact paid
  · intro unset fresh answers s'' steps
    exact coupled'.leaves_of_eof room steps

/-! The client reads the rest of its tail; and one that follows does when the server has ended. -/

def sampleFollower : Client.Options := { sampleClientOptions with follow := true }

def sampleFollowing (events : List (Event 4)) : State 4 :=
  (events.foldlM (handle Server.sampleOptions sampleFollower)
    { server := Server.sampleStart, client := { buffer := sampleExecution.initial } }).toOption.getD
    { server := Server.sampleStart, client := { buffer := {} } }

/-- The server ends when the client has read the first digit. -/
def sampleEnd : List (Event 4) :=
  [.server Server.sampleRead false,
    .client (.connect 3),
    .server (.unixSock [.connected] true (some (1, ⟨9, false, some 4, none⟩))
      [.accepted 9, .accepted 9]) true,
    sampleReads [50],
    .exit]

theorem sampleEnd_reachable :
    Reachable Server.sampleOptions sampleFollower sampleExecution.append
      sampleExecution.append (sampleFollowing sampleEnd) := by
  have started : Reachable Server.sampleOptions sampleFollower sampleExecution.append
      sampleExecution.append (sampleFollowing (sampleEnd.take 0)) :=
    .start sampleExecution.first sampleExecution.first true (by decide) (by decide) rfl
      (by decide) (by decide) rfl
  have filled : Reachable Server.sampleOptions sampleFollower sampleExecution.append
      sampleExecution.append (sampleFollowing (sampleEnd.take 1)) := by
    refine .step (.server Server.sampleRead false) started
      ⟨rfl, ⟨rfl, rfl, by decide, ?_⟩, fun _ _ notices => notices.elim, by simp⟩ rfl rfl rfl
    intro bytes same
    cases same
    decide
  have connected : Reachable Server.sampleOptions sampleFollower sampleExecution.append
      sampleExecution.append (sampleFollowing (sampleEnd.take 2)) :=
    .step (.client (.connect 3)) filled ⟨rfl, rfl⟩ trivial rfl trivial
  have accepted : Reachable Server.sampleOptions sampleFollower sampleExecution.append
      sampleExecution.append (sampleFollowing (sampleEnd.take 3)) := by
    refine .step (.server (.unixSock [.connected] true (some (1, ⟨9, false, some 4, none⟩))
      [.accepted 9, .accepted 9]) true) connected
      ⟨rfl, ⟨rfl, ?_⟩, fun _ _ notices => notices.elim, fun _ => ⟨rfl, rfl⟩⟩ rfl rfl rfl
    intro block node same
    cases same
    decide
  have digit : Reachable Server.sampleOptions sampleFollower sampleExecution.append
      sampleExecution.append (sampleFollowing (sampleEnd.take 4)) :=
    .step (sampleReads [50]) accepted (sampleReads_possible (by decide) (by decide))
      (sampleReads_granted _) rfl trivial
  exact .step .exit digit rfl trivial rfl trivial

theorem sampleReads_steps {clientOptions : Client.Options} {s s' : State 4} {bytes : List UInt8}
    (possible : Client.Possible s.client (sampleReadable (.data bytes)))
    (sent : s.taken ++ bytes <+: s.connection.received)
    (ran : handle Server.sampleOptions clientOptions s (sampleReads bytes) = .ok s') :
    Steps Server.sampleOptions clientOptions s (sampleReads bytes) s' :=
  ⟨sampleReads_possible possible sent, sampleReads_granted bytes, ran, trivial⟩

theorem finishes_of_sampleSystem :
    Finishes Server.sampleOptions sampleClientOptions (sampleSystem (sampleEvents.take 5))
        (sampleEvents.drop 5) (sampleSystem sampleEvents) ∧
      Finishes Server.sampleOptions sampleFollower (sampleFollowing sampleEnd)
        [sampleReads [10, 97], sampleReads [10]]
        (sampleFollowing (sampleEnd ++ [sampleReads [10, 97], sampleReads [10]])) := by
  have noticed : Steps Server.sampleOptions sampleClientOptions
      (sampleSystem (sampleEvents.take 5)) (.server (.tailerReadable 1 (.data [10])) false)
      (sampleSystem (sampleEvents.take 6)) :=
    ⟨⟨rfl, ⟨⟨_, rfl, rfl⟩, by simp⟩, fun _ _ _ => .inl (by decide), by simp⟩, trivial, rfl, rfl⟩
  have part : Steps Server.sampleOptions sampleClientOptions
      (sampleSystem (sampleEvents.take 6)) (sampleReads [10, 97])
      (sampleSystem (sampleEvents.take 7)) :=
    sampleReads_steps (by decide) (by decide) rfl
  have whole : Steps Server.sampleOptions sampleClientOptions
      (sampleSystem (sampleEvents.take 7)) (sampleReads [10]) (sampleSystem sampleEvents) :=
    sampleReads_steps (by decide) (by decide) rfl
  have part' : Steps Server.sampleOptions sampleFollower (sampleFollowing sampleEnd)
      (sampleReads [10, 97]) (sampleFollowing (sampleEnd ++ [sampleReads [10, 97]])) :=
    sampleReads_steps (by decide) (by decide) rfl
  have whole' : Steps Server.sampleOptions sampleFollower
      (sampleFollowing (sampleEnd ++ [sampleReads [10, 97]])) (sampleReads [10])
      (sampleFollowing (sampleEnd ++ [sampleReads [10, 97], sampleReads [10]])) :=
    sampleReads_steps (by decide) (by decide) rfl
  exact ⟨finishes_of_run Server.sampleOptions sampleClientOptions sampleExecution.append
      sampleExecution.append (by decide) rfl rfl _ _ _ sampleDigit_reachable
      (.cons noticed (.cons part (.cons whole (.nil _)))),
    finishes_of_run Server.sampleOptions sampleFollower sampleExecution.append
      sampleExecution.append (by decide) rfl rfl _ _ _ sampleEnd_reachable
      (.cons part' (.cons whole' (.nil _)))⟩

/-- The bounds are not empty. -/
example : owed Server.sampleOptions (sampleSystem (sampleEvents.take 5)) = 3 ∧
    unread (sampleFollowing sampleEnd) = 3 := by
  decide

end Tailserver.EndToEnd
