import Tailserver.Server.Answers
import Tailserver.Server.Growth
import Tailserver.Server.Ownership

/-! The records of a server as the events of its run tell them. A client is on the list from the
callback that registers it until one in which the kernel does not take all of a text for it, or
one that reads something from it, its end or an error. -/

set_option autoImplicit false

namespace Tailserver.Server

open CMemory Buffer

variable {bufsiz : Nat} {options : Options} {s s' : State bufsiz} {clients : Clients}

/-! ## Events -/

/-- The bytes an event brings from standard input. -/
def Event.bytes : Event bufsiz → List UInt8
  | .stdin (.data bytes) _ _ => bytes
  | _ => []

/-- `accept` has a connection, its address is found, and there is memory for its tailer. -/
def Registers (s : State bufsiz) (socket : Nat) : Event bufsiz → Prop
  | .unixSock attempts named fresh _ =>
      acceptRetrying maxAcceptRetry attempts = .ok true ∧ named = true ∧ fresh.isSome ∧
        socket = s.accepted
  | _ => False

theorem Registers.socket_eq {socket : Nat} {event : Event bufsiz}
    (registers : Registers s socket event) : socket = s.accepted := by
  cases event with
  | stdin => cases registers
  | unixSock => exact registers.2.2.2
  | tailerReadable => cases registers

/-- In the turn of a client, the kernel does not take all of a text: of the chunk that was
appended, or of the header or a chunk of its tail. -/
inductive FallsShort (options : Options) (s : State bufsiz) : Nat → Event bufsiz → Prop where
  | chunk {bytes : List UInt8} {fresh : Allocation (LineBuffer bufsiz)}
      {answers turn : List WriteAnswer} {buffer : Buffer.State bufsiz} {ok : Bool}
      {written : Written} {clients : Clients} {front back : List Nat} {socket : Nat}
      {calls : List (Nat × Written)} :
      bufferAppend options.buffer s.buffer bytes fresh = .ok (true, buffer) →
      stdoutWriteBlocking bytes answers = .ok (ok, written) →
      Registered s clients → clients.map Prod.snd = front ++ socket :: back →
      writeEach options bytes front written.answers = .ok (calls, turn) →
      ¬ TakesAll options bytes turn →
      FallsShort options s socket (.stdin (.data bytes) fresh answers)
  | tail {attempts : List AcceptAnswer} {named : Bool} {fresh : Allocation Tailer}
      {answers turn : List WriteAnswer} {piece : List UInt8}
      {chunks front back : List (List UInt8)} :
      Registers s s.accepted (.unixSock attempts named fresh answers) →
      walkTail s.buffer (blockCount s.buffer.heap + 1) (bufferGetTailChunk s.buffer)
        (bufferGetTailOffset s.buffer) = .ok chunks →
      sizeHeader (bufferTailSize s.buffer) :: chunks = front ++ piece :: back →
      sendEach options front answers = .ok (true, turn) →
      ¬ TakesAll options piece turn →
      FallsShort options s s.accepted (.unixSock attempts named fresh answers)

/-- The callbacks of a run in order, each with the state it met. -/
inductive Traced (options : Options) (append : Nat × LineBuffer bufsiz)
    (allowed : Event bufsiz → Prop) : List (State bufsiz × Event bufsiz) → State bufsiz → Prop where
  | start (first : Nat × LineBuffer bufsiz) (opened : Bool) {s : State bufsiz} :
      FreshBuffer ({} : Buffer.State bufsiz) first.1 →
      FreshBuffer ({ heap := single first } : Buffer.State bufsiz) append.1 →
      initAll options (some first) (some append) opened = .ok (true, s) →
      Traced options append allowed [] s
  | step {trace : List (State bufsiz × Event bufsiz)} {s s' : State bufsiz}
      (event : Event bufsiz) :
      Traced options append allowed trace s → Possible s event → allowed event →
      handle options s event = .ok s' →
      Traced options append allowed (trace ++ [(s, event)]) s'

section

variable {append : Nat × LineBuffer bufsiz} {allowed : Event bufsiz → Prop}
  {trace : List (State bufsiz × Event bufsiz)}

theorem Traced.reachable (traced : Traced options append allowed trace s) :
    Reachable options append allowed s := by
  induction traced with
  | start first opened fresh fresh' ran => exact .start first opened fresh fresh' ran
  | step event _ possible allows ran reachable => exact .step event reachable possible allows ran

theorem Reachable.exists_trace (reachable : Reachable options append allowed s) :
    ∃ trace, Traced options append allowed trace s := by
  induction reachable with
  | start first opened fresh fresh' ran => exact ⟨[], .start first opened fresh fresh' ran⟩
  | step event _ possible allows ran traced =>
      obtain ⟨trace, traced⟩ := traced
      exact ⟨_, .step event traced possible allows ran⟩

end

/-! ## Standard input -/

theorem stdinCb_stdinRead {res : ReadAnswer} {fresh : Allocation (LineBuffer bufsiz)}
    {answers : List WriteAnswer}
    (ran : handle options s (.stdin res fresh answers) = .ok s') :
    s'.stdinRead = s.stdinRead ++ Event.bytes (.stdin res fresh answers) := by
  have ran' : stdinCb options { s with answers } res fresh = .ok s' := ran
  cases res with
  | data bytes =>
      rw [stdinCb_data] at ran'
      obtain ⟨⟨continues, buffer⟩, _, ran⟩ := except_bind_ok ran'
      cases continues with
      | false =>
          cases ran
          rfl
      | true =>
          obtain ⟨node, _, ran⟩ := except_bind_ok ran
          obtain ⟨chunk, _, ran⟩ := except_bind_ok ran
          obtain ⟨s₁, writes, ran⟩ := except_bind_ok ran
          obtain ⟨answers, broken, rfl⟩ :=
            (stdoutWriteBlockingOrBreak_returns _ chunk).of_ok writes
          exact (Frame.tolerates.writeToTailers ran).stdinRead
  | eof =>
      cases ran'
      exact (List.append_nil _).symm
  | failed errno =>
      dsimp only [stdinCb] at ran'
      split at ran' <;> cases ran' <;> exact (List.append_nil _).symm

theorem handle_stdinRead {event : Event bufsiz} (ran : handle options s event = .ok s') :
    s'.stdinRead = s.stdinRead ++ event.bytes := by
  cases event with
  | stdin res fresh answers => exact stdinCb_stdinRead ran
  | unixSock attempts named fresh answers =>
      exact (unixSockCb_idle ran).stdinRead.trans (List.append_nil _).symm
  | tailerReadable tailer res =>
      exact (tailerReadableCb_idle ran).stdinRead.trans (List.append_nil _).symm

example : sampleEvents.flatMap Event.bytes = (sampleRun sampleEvents).stdinRead := by decide

/-! ## Who is on the list -/

/-- The links spell out one list. -/
theorem Registered.unique {clients' : Clients} (registered : Registered s clients)
    (registered' : Registered s clients') : clients = clients' := by
  have same : ∀ (clients clients' : Clients) (prev prev' : Pointer),
      Threaded tailerOf s.tailers prev clients none →
      Threaded tailerOf s.tailers prev' clients' none →
      headOr clients none = headOr clients' none → clients = clients' := by
    intro clients
    induction clients with
    | nil =>
        intro clients' prev prev' _ _ heads
        cases clients' with
        | nil => rfl
        | cons client' rest' => cases heads
    | cons client rest ih =>
        intro clients' prev prev' threaded threaded' heads
        cases clients' with
        | nil => cases heads
        | cons client' rest' =>
            have blocks : client.1 = client'.1 := Option.some.inj heads
            have found := threaded.1
            rw [blocks, threaded'.1, Option.some.injEq, tailerOf, tailerOf,
              Tailer.mk.injEq] at found
            obtain ⟨sockets, _, _, nexts⟩ := found
            rw [ih rest' _ _ threaded.2 threaded'.2 nexts.symm,
              Prod.ext blocks sockets.symm]
  apply same _ _ _ _ registered.threaded registered'.threaded
  rw [← registered.first, registered'.first]

/-- On the list is who was registered, and neither cut off nor hung up. -/
structure Marked (s : State bufsiz) (clients : Clients) : Prop where
  listed : ∀ socket, socket ∈ clients.map Prod.snd ↔
    (s.connections socket).registered = true ∧ (s.connections socket).cut = false ∧
      (s.connections socket).hungUp = false
  unopened : ∀ socket, s.accepted ≤ socket → s.connections socket = {}

theorem Marked.known (marked : Marked s clients) {socket : Nat}
    (member : socket ∈ clients.map Prod.snd) : socket < s.accepted := by
  by_contra unknown
  have registered := ((marked.listed socket).mp member).1
  rw [marked.unopened socket (Nat.le_of_not_lt unknown)] at registered
  cases registered

theorem Marked.of_connections (marked : Marked s clients) (accepted : s'.accepted = s.accepted)
    (same : s'.connections = s.connections) : Marked s' clients where
  listed := by
    rw [same]
    exact marked.listed
  unopened := by
    rw [same, accepted]
    exact marked.unopened

theorem Marked.broadcast {buf : List UInt8} {kept : Clients} (marked : Marked s clients)
    (sockets : (clients.map Prod.snd).Nodup) (accepted : s'.accepted = s.accepted)
    (broadcast : Broadcast buf clients kept s.connections s'.connections) : Marked s' kept where
  listed := by
    intro socket
    by_cases listed : socket ∈ clients.map Prod.snd
    · have before := (marked.listed socket).mp listed
      obtain ⟨client, member, rfl⟩ := List.mem_map.mp listed
      rcases broadcast.of_mem sockets member with ⟨stays, same⟩ | ⟨leaves, part, _, same⟩
      · rw [same]
        exact ⟨fun _ => before, fun _ => List.mem_map_of_mem stays⟩
      · rw [same]
        refine ⟨fun stays => absurd stays leaves, fun marks => ?_⟩
        cases marks.2.1
    · rw [broadcast.untouched listed, ← marked.listed socket]
      exact ⟨fun stays => (broadcast.sublist.map _).subset stays, fun stays => absurd stays listed⟩
  unopened := by
    intro socket unknown
    rw [accepted] at unknown
    rw [broadcast.untouched fun member => Nat.not_lt_of_le unknown (marked.known member)]
    exact marked.unopened socket unknown

theorem Marked.departs {front back : Clients} {client : Nat × Nat}
    (marked : Marked s (front ++ client :: back))
    (registered : Registered s (front ++ client :: back))
    (departs : Departs s s' front back client) : Marked s' (front ++ back) where
  listed := by
    intro socket
    rw [departs.connections]
    by_cases same : socket = client.2
    · subst same
      rw [Function.update_self]
      refine ⟨fun stays => absurd stays registered.socket_notMem, fun marks => ?_⟩
      cases marks.2.2
    · rw [Function.update_of_ne same, ← marked.listed socket]
      simp [same]
  unopened := by
    intro socket unknown
    rw [departs.frame.accepted] at unknown
    have listed : client.2 ∈ (front ++ client :: back).map Prod.snd := by simp
    have different : socket ≠ client.2 := by
      rintro rfl
      exact Nat.not_lt_of_le unknown (marked.known listed)
    rw [departs.connections, Function.update_of_ne different]
    exact marked.unopened socket unknown

theorem Marked.arrives {block : Nat} {connection : Connection} {listed : Bool}
    {before text : List UInt8} (marked : Marked s clients)
    (arrives : Arrives s s' (enlist listed (block, s.accepted) clients) connection)
    (settled : Settled before text connection listed) :
    Marked s' (enlist listed (block, s.accepted) clients) where
  listed := by
    intro socket
    rw [arrives.connections, mem_sockets_enlist]
    by_cases same : socket = s.accepted
    · subst same
      have new : s.accepted ∉ clients.map Prod.snd := fun member =>
        Nat.lt_irrefl _ (marked.known member)
      rw [Function.update_self]
      cases settled <;> simp [new]
    · rw [Function.update_of_ne same, ← marked.listed socket]
      simp [same]
  unopened := by
    intro socket unknown
    rw [arrives.accepted] at unknown
    rw [arrives.connections, Function.update_of_ne (Nat.ne_of_gt unknown)]
    exact marked.unopened socket (Nat.le_of_succ_le unknown)

theorem Marked.handle {event : Event bufsiz} (marked : Marked s clients)
    (tending : Tending s clients) (possible : Possible s event)
    (ran : Server.handle options s event = .ok s') :
    ∃ clients', Tending s' clients' ∧ Marked s' clients' := by
  obtain ⟨clients', tending', _⟩ := (tending.handle possible (takes_of_handle ran)).of_ok ran
  suffices follows : ∃ kept, Registered s' kept ∧ Marked s' kept by
    obtain ⟨kept, registered, marked'⟩ := follows
    exact ⟨clients', tending', tending'.registered.unique registered ▸ marked'⟩
  cases event with
  | stdin res fresh answers =>
      have prepared : Registered { s with answers } clients := tending.registered.frame rfl rfl
      have same : Marked { s with answers } clients := marked.of_connections rfl rfl
      obtain ⟨_, running, sound, sized⟩ := possible
      cases res with
      | data bytes =>
          obtain ⟨nonempty, fits⟩ := sized bytes rfl
          obtain ⟨⟨continues, buffer⟩, appends⟩ := takes_of_handle ran
          obtain ⟨spare, front, rest, linked⟩ := tending.appendable running
          have hands := (prepared.stdinCb linked nonempty fits sound appends).of_ok ran
          cases hands with
          | refused ended =>
              subst ended
              exact ⟨clients, prepared.frame rfl rfl, marked.of_connections rfl rfl⟩
          | forwarded frame registered broadcast =>
              exact ⟨_, registered, same.broadcast prepared.sockets frame.accepted broadcast⟩
      | eof =>
          cases ran
          exact ⟨clients, prepared.frame rfl rfl, marked.of_connections rfl rfl⟩
      | failed errno =>
          simp only [Server.handle, Server.stdinCb] at ran
          split at ran <;> cases ran <;>
            exact ⟨clients, prepared.frame rfl rfl, marked.of_connections rfl rfl⟩
  | unixSock attempts named fresh answers =>
      have prepared : Registered { s with answers } clients := tending.registered.frame rfl rfl
      have same : Marked { s with answers } clients := marked.of_connections rfl rfl
      obtain ⟨tail, offered⟩ := tending.offered
      have new : s.accepted ∉ clients.map Prod.snd := fun member =>
        Nat.lt_irrefl _ (marked.known member)
      rcases (prepared.unixSockCb new offered possible.2 attempts named).of_ok ran with
        rfl | ⟨block, connection, listed, arrives, settled⟩
      · exact ⟨clients, prepared, same⟩
      · exact ⟨_, arrives.registered, same.arrives arrives settled⟩
  | tailerReadable tailer res =>
      obtain ⟨⟨node, found, _⟩, _⟩ := possible
      rcases (tending.registered.tailerReadableCb found res).of_ok ran with
        rfl | ⟨front, client, back, rfl, departs⟩
      · exact ⟨clients, tending.registered, marked⟩
      · exact ⟨_, departs.registered, marked.departs tending.registered departs⟩

/-! ## What a callback marks -/

/-- What is marked for a connection behind a callback was marked before it, or the event says
so. -/
structure Marks (options : Options) (s s' : State bufsiz) (event : Event bufsiz) (socket : Nat) :
    Prop where
  registered : (s'.connections socket).registered = true ↔
    (s.connections socket).registered = true ∨ Registers s socket event
  cut : (s'.connections socket).cut = true ↔
    (s.connections socket).cut = true ∨ FallsShort options s socket event
  hungUp : (s'.connections socket).hungUp = true ↔
    (s.connections socket).hungUp = true ∨ Notices s socket event

theorem Marks.of_same {event : Event bufsiz} {socket : Nat}
    (same : s'.connections socket = s.connections socket)
    (unregistered : ¬ Registers s socket event) (whole : ¬ FallsShort options s socket event)
    (quiet : ¬ Notices s socket event) : Marks options s s' event socket := by
  constructor
  · rw [same, or_iff_left unregistered]
  · rw [same, or_iff_left whole]
  · rw [same, or_iff_left quiet]

/-- For whom a chunk that is handed on falls short. -/
theorem fallsShort_chunk_iff {bytes : List UInt8} {fresh : Allocation (LineBuffer bufsiz)}
    {answers : List WriteAnswer} {buffer : Buffer.State bufsiz} {ok : Bool} {written : Written}
    (appends : bufferAppend options.buffer s.buffer bytes fresh = .ok (true, buffer))
    (prints : stdoutWriteBlocking bytes answers = .ok (ok, written))
    (registered : Registered s clients) (socket : Nat) :
    FallsShort options s socket (.stdin (.data bytes) fresh answers) ↔
      ∃ front back calls turn, clients.map Prod.snd = front ++ socket :: back ∧
        writeEach options bytes front written.answers = .ok (calls, turn) ∧
          ¬ TakesAll options bytes turn := by
  constructor
  · intro short
    cases short with
    | chunk _ prints' registered' split fronts short =>
        rw [registered.unique registered']
        rw [prints] at prints'
        cases prints'
        exact ⟨_, _, _, _, split, fronts, short⟩
  · rintro ⟨front, back, calls, turn, split, fronts, short⟩
    exact .chunk appends prints registered split fronts short

/-- Who is cut off by a chunk. -/
theorem Tending.stdinCb_cut {bytes : List UInt8} {fresh : Allocation (LineBuffer bufsiz)}
    {answers : List WriteAnswer} (tending : Tending s clients)
    (possible : Possible s (.stdin (.data bytes) fresh answers))
    (ran : Server.stdinCb options { s with answers } (.data bytes) fresh = .ok s') (socket : Nat) :
    (s'.connections socket).cut = true ↔ (s.connections socket).cut = true ∨
      FallsShort options s socket (.stdin (.data bytes) fresh answers) := by
  obtain ⟨_, running, sound, sized⟩ := possible
  obtain ⟨nonempty, fits⟩ := sized bytes rfl
  obtain ⟨spare, front, rest, linked⟩ := tending.appendable running
  rw [stdinCb_data] at ran
  obtain ⟨⟨continues, buffer⟩, appends, ran⟩ := except_bind_ok ran
  replace appends : bufferAppend options.buffer s.buffer bytes fresh = .ok (continues, buffer) :=
    appends
  cases continues with
  | false =>
      cases ran
      refine (or_iff_left ?_).symm
      intro short
      cases short with
      | chunk appends' _ _ _ _ _ =>
          rw [appends] at appends'
          cases appends'
  | true =>
      obtain ⟨node, loads, reads⟩ := read_appended linked nonempty fits sound appends
      simp only [forwardAppended, Bool.not_true, Bool.false_eq_true, if_false] at ran
      rw [loads, except_ok_bind, reads, except_ok_bind] at ran
      obtain ⟨s₁, writes, ran⟩ := except_bind_ok ran
      obtain ⟨⟨ok, written⟩, prints, returned⟩ := except_bind_ok writes
      have registered : Registered s₁ clients ∧ s₁.connections = s.connections ∧
          s₁.answers = written.answers := by
        cases ok <;> cases returned <;> exact ⟨tending.registered.frame rfl rfl, rfl, rfl⟩
      obtain ⟨registered, connections, left⟩ := registered
      have lockstep : Lockstep _ (Server.socketsWriteBlocking options s₁ bytes) _ :=
        registered.socketsWriteBlocking bytes
      rw [ran, left] at lockstep
      cases wrote : writeEach options bytes (clients.map Prod.snd) written.answers with
      | error fault =>
          rw [wrote] at lockstep
          cases lockstep
      | ok result =>
          rw [wrote] at lockstep
          obtain ⟨_, kept, _, wroteEach⟩ := lockstep
          rw [wroteEach.cut_iff wrote registered.sockets, connections,
            fallsShort_chunk_iff appends prints tending.registered]

theorem Tending.marks_stdin {res : ReadAnswer} {fresh : Allocation (LineBuffer bufsiz)}
    {answers : List WriteAnswer} (tending : Tending s clients)
    (possible : Possible s (.stdin res fresh answers))
    (ran : Server.handle options s (.stdin res fresh answers) = .ok s') (socket : Nat) :
    Marks options s s' (.stdin res fresh answers) socket := by
  cases res with
  | data bytes =>
      have ran' : Server.stdinCb options { s with answers } (.data bytes) fresh = .ok s' := ran
      have grown := stdinCb_grown ran'
      refine ⟨?_, tending.stdinCb_cut possible ran' socket, ?_⟩
      · rw [(grown.grows socket).registered]
        exact (or_iff_left id).symm
      · rw [(grown.grows socket).hungUp]
        exact (or_iff_left id).symm
  | eof =>
      cases ran
      exact .of_same rfl id (fun short => by cases short) id
  | failed errno =>
      simp only [Server.handle, Server.stdinCb] at ran
      split at ran <;> cases ran <;> exact .of_same rfl id (fun short => by cases short) id

theorem Tending.marks_tailerReadable {tailer : Nat} {res : ReadAnswer}
    (tending : Tending s clients) (possible : Possible s (.tailerReadable tailer res))
    (ran : Server.handle options s (.tailerReadable tailer res) = .ok s') (socket : Nat) :
    Marks options s s' (.tailerReadable tailer res) socket := by
  obtain ⟨⟨node, found, _⟩, _⟩ := possible
  have ran' : Server.tailerReadableCb s (some tailer) res = .ok s' := ran
  have whole : ∀ socket, ¬ FallsShort options s socket (.tailerReadable tailer res) :=
    fun _ short => by cases short
  have own : Notices s socket (.tailerReadable tailer res) → socket = node.socket := by
    rintro ⟨⟨node', found', rfl⟩, _⟩
    rw [found] at found'
    cases found'
    rfl
  rcases tailerReadableCb_grown found ran' with ⟨rfl, quiet⟩ | ⟨notices, grown⟩
  · refine .of_same rfl id (whole socket) ?_
    intro notices
    exact quiet (own notices ▸ notices)
  · have grows := grown.grows socket
    have cut : (s'.connections socket).cut = (s.connections socket).cut := by
      rcases (tending.registered.tailerReadableCb found res).of_ok ran' with
        rfl | ⟨front, client, back, rfl, departs⟩
      · rfl
      · rw [departs.connections]
        by_cases same : socket = client.2
        · rw [same, Function.update_self]
        · rw [Function.update_of_ne same]
    by_cases same : socket = node.socket
    · subst same
      rw [State.note_self] at grows
      refine ⟨?_, ?_, ?_⟩
      · rw [grows.registered]
        exact (or_iff_left id).symm
      · rw [cut]
        exact (or_iff_left (whole _)).symm
      · rw [grows.hungUp]
        exact iff_of_true rfl (.inr notices)
    · rw [State.note_of_ne s same] at grows
      refine ⟨?_, ?_, ?_⟩
      · rw [grows.registered]
        exact (or_iff_left id).symm
      · rw [cut]
        exact (or_iff_left (whole _)).symm
      · rw [grows.hungUp]
        exact (or_iff_left fun notices => same (own notices)).symm

/-! ## New connections -/

/-- What `unix_sock_cb` does with the next connection: there is none, it is closed, or it is
registered and sent the tail. -/
inductive Receives (options : Options) (s s' : State bufsiz) (attempts : List AcceptAnswer)
    (named : Bool) (fresh : Allocation Tailer) (answers : List WriteAnswer) : Prop where
  | nobody : acceptRetrying maxAcceptRetry attempts = .ok false → s' = { s with answers } →
      Receives options s s' attempts named fresh answers
  | refused : ¬ Registers s s.accepted (.unixSock attempts named fresh answers) →
      s'.connections s.accepted = { before := s.stdinRead, closes := 1 } →
      Receives options s s' attempts named fresh answers
  | registered {chunks : List (List UInt8)} {whole : Bool} {rest : List WriteAnswer} :
      Registers s s.accepted (.unixSock attempts named fresh answers) →
      walkTail s.buffer (blockCount s.buffer.heap + 1) (bufferGetTailChunk s.buffer)
        (bufferGetTailOffset s.buffer) = .ok chunks →
      sendEach options (sizeHeader (bufferTailSize s.buffer) :: chunks) answers =
        .ok (whole, rest) →
      (s'.connections s.accepted).registered = true →
      (s'.connections s.accepted).cut = !whole →
      (s'.connections s.accepted).hungUp = false →
      Receives options s s' attempts named fresh answers

theorem Registered.receives {attempts : List AcceptAnswer} {named : Bool}
    {fresh : Allocation Tailer} {answers : List WriteAnswer} {tail : List UInt8}
    (registered : Registered s clients) (new : s.accepted ∉ clients.map Prod.snd)
    (offered : bufferTail s.buffer = .ok tail)
    (unused : ∀ block node, fresh = some (block, node) → block ∉ s.tailers)
    (ran : Server.unixSockCb options { s with answers } attempts named fresh = .ok s') :
    Receives options s s' attempts named fresh answers := by
  obtain ⟨connected, tries, ran⟩ := except_bind_ok ran
  cases connected with
  | false =>
      cases ran
      exact .nobody tries rfl
  | true =>
      simp only [Bool.not_true, Bool.false_eq_true, if_false] at ran
      cases named with
      | false =>
          cases ran
          refine .refused (fun registers => by cases registers.2.1) ?_
          simp [State.close]
      | true =>
          simp only [Bool.not_true, Bool.false_eq_true, if_false] at ran
          rcases Option.eq_none_or_eq_some fresh with rfl | ⟨⟨block, node⟩, rfl⟩
          · cases ran
            refine .refused (fun registers => by cases registers.2.2.1) ?_
            simp [State.close, State.note]
          · let s₀ : State bufsiz := { s with
              answers
              accepted := s.accepted + 1 }.note s.accepted fun _ => { before := s.stdinRead }
            have registered₀ : Registered s₀ clients := registered.frame rfl rfl
            obtain ⟨tailers, inits, registered₁⟩ :=
              registered₀.tailerInit (unused block node rfl) new node
            obtain ⟨chunks, walked, _⟩ := except_bind_ok offered
            have first : Registered _ ([] ++ (block, s.accepted) :: clients) := registered₁
            obtain ⟨⟨tailer, s₁⟩, inits', ran⟩ := except_bind_ok ran
            rw [inits, Except.ok.injEq, Prod.mk.injEq] at inits'
            obtain ⟨rfl, same⟩ := inits'
            rw [same] at first
            have made : s₁.connections s.accepted =
                { before := s.stdinRead, registered := true } := by
              rw [← same]
              simp [s₀, State.note]
            have buffer : s₁.buffer = s.buffer := by
              rw [← same]
              rfl
            have left : s₁.answers = answers := by
              rw [← same]
              rfl
            obtain ⟨chunks, walked, _⟩ := except_bind_ok offered
            rw [← buffer] at walked
            have cuts : Lockstep _ (Server.tailerSendBufferedTail options s₁ (some block)) _ :=
              first.tailerSendBufferedTail_cut walked
            simp only [reduceCtorEq, if_false] at ran
            obtain ⟨s₂, sends, returned⟩ := except_bind_ok ran
            have grows := (Grown.tolerates.tailerSendBufferedTail sends).grows s.accepted
            have kept : (pipesOnNewClient s₂).connections = s₂.connections := by
              unfold pipesOnNewClient
              split <;> rfl
            cases returned
            rw [sends, buffer, left] at cuts
            cases sent : sendEach options (sizeHeader (bufferTailSize s.buffer) :: chunks)
                answers with
            | error fault =>
                rw [sent] at cuts
                cases cuts
            | ok result =>
                rw [sent] at cuts
                rw [buffer] at walked
                refine .registered ⟨tries, rfl, rfl, rfl⟩ walked sent ?_ ?_ ?_
                · rw [kept, grows.registered, made]
                · rw [kept]
                  exact Eq.trans cuts (by rw [made, Bool.false_or])
                · rw [kept, grows.hungUp, made]

/-- When the tail falls short for its client. -/
theorem fallsShort_tail_iff {attempts : List AcceptAnswer} {named : Bool}
    {fresh : Allocation Tailer} {answers rest : List WriteAnswer} {chunks : List (List UInt8)}
    {whole : Bool} (registers : Registers s s.accepted (.unixSock attempts named fresh answers))
    (walked : walkTail s.buffer (blockCount s.buffer.heap + 1) (bufferGetTailChunk s.buffer)
      (bufferGetTailOffset s.buffer) = .ok chunks)
    (sent : sendEach options (sizeHeader (bufferTailSize s.buffer) :: chunks) answers =
      .ok (whole, rest)) :
    FallsShort options s s.accepted (.unixSock attempts named fresh answers) ↔ whole = false := by
  rw [sendEach_iff sent]
  constructor
  · intro short
    cases short with
    | tail _ walked' split fronts short =>
        rw [walked] at walked'
        cases walked'
        exact ⟨_, _, _, _, split, fronts, short⟩
  · rintro ⟨front, piece, back, turn, split, fronts, short⟩
    exact .tail registers walked split fronts short

theorem Tending.marks_unixSock {attempts : List AcceptAnswer} {named : Bool}
    {fresh : Allocation Tailer} {answers : List WriteAnswer} (tending : Tending s clients)
    (marked : Marked s clients) (possible : Possible s (.unixSock attempts named fresh answers))
    (ran : Server.handle options s (.unixSock attempts named fresh answers) = .ok s')
    (socket : Nat) : Marks options s s' (.unixSock attempts named fresh answers) socket := by
  have ran' : Server.unixSockCb options { s with answers } attempts named fresh = .ok s' := ran
  obtain ⟨tail, offered⟩ := tending.offered
  have new : s.accepted ∉ clients.map Prod.snd := fun member =>
    Nat.lt_irrefl _ (marked.known member)
  have receives := tending.registered.receives new offered possible.2 ran'
  have unregistered : ∀ other, ¬ Registers s s.accepted (.unixSock attempts named fresh answers) →
      ¬ Registers s other (.unixSock attempts named fresh answers) ∧
        ¬ FallsShort options s other (.unixSock attempts named fresh answers) := by
    intro other closed
    constructor
    · rintro ⟨tries, known, granted, _⟩
      exact closed ⟨tries, known, granted, rfl⟩
    · intro short
      cases short with
      | tail registers _ _ _ _ => exact closed registers
  by_cases same : socket = s.accepted
  · subst same
    have blank := marked.unopened s.accepted (Nat.le_refl _)
    cases receives with
    | nobody tries same =>
        subst same
        have closed : ¬ Registers s s.accepted (.unixSock attempts named fresh answers) := by
          intro registers
          rw [registers.1] at tries
          cases tries
        exact .of_same rfl (unregistered _ closed).1 (unregistered _ closed).2 id
    | refused closed ended =>
        obtain ⟨closed, whole⟩ := unregistered s.accepted closed
        constructor
        · rw [ended, blank, or_iff_left closed]
        · rw [ended, blank, or_iff_left whole]
        · rw [ended, blank]
          exact (or_iff_left id).symm
    | registered registers walked sent known cut quiet =>
        constructor
        · exact iff_of_true known (.inr registers)
        · rw [cut, blank, Bool.not_eq_true', fallsShort_tail_iff registers walked sent]
          exact (or_iff_right Bool.false_ne_true).symm
        · rw [quiet, blank]
          exact (or_iff_left id).symm
  · have prepared : Registered { s with answers } clients := tending.registered.frame rfl rfl
    have others : s'.connections socket = s.connections socket := by
      rcases (prepared.unixSockCb new offered possible.2 attempts named).of_ok ran' with
        rfl | ⟨_, _, _, arrives, _⟩
      · rfl
      · rw [arrives.connections, Function.update_of_ne same]
    refine .of_same others (fun registers => same registers.2.2.2) ?_ id
    intro short
    cases short with
    | tail _ _ _ _ _ => exact same rfl

/-! ## Runs -/

theorem Tending.marks {event : Event bufsiz} (tending : Tending s clients)
    (marked : Marked s clients) (possible : Possible s event)
    (ran : Server.handle options s event = .ok s') (socket : Nat) :
    Marks options s s' event socket := by
  cases event with
  | stdin res fresh answers => exact tending.marks_stdin possible ran socket
  | unixSock attempts named fresh answers =>
      exact tending.marks_unixSock marked possible ran socket
  | tailerReadable tailer res => exact tending.marks_tailerReadable possible ran socket

/-- The records of a server are what the events of its run say. -/
structure Recorded (options : Options) (trace : List (State bufsiz × Event bufsiz))
    (s : State bufsiz) : Prop where
  stdinRead : s.stdinRead = trace.flatMap fun step => step.2.bytes
  registered : ∀ socket, (s.connections socket).registered = true ↔
    ∃ step ∈ trace, Registers step.1 socket step.2
  cut : ∀ socket, (s.connections socket).cut = true ↔
    ∃ step ∈ trace, FallsShort options step.1 socket step.2
  hungUp : ∀ socket, (s.connections socket).hungUp = true ↔
    ∃ step ∈ trace, Notices step.1 socket step.2

theorem Recorded.step {trace : List (State bufsiz × Event bufsiz)} {event : Event bufsiz}
    (recorded : Recorded options trace s) (ran : Server.handle options s event = .ok s')
    (marks : ∀ socket, Marks options s s' event socket) :
    Recorded options (trace ++ [(s, event)]) s' where
  stdinRead := by
    rw [handle_stdinRead ran, recorded.stdinRead]
    simp
  registered := by
    intro socket
    rw [(marks socket).registered, recorded.registered socket]
    simp [or_and_right, exists_or]
  cut := by
    intro socket
    rw [(marks socket).cut, recorded.cut socket]
    simp [or_and_right, exists_or]
  hungUp := by
    intro socket
    rw [(marks socket).hungUp, recorded.hungUp socket]
    simp [or_and_right, exists_or]

section

variable {append : Nat × LineBuffer bufsiz} {allowed : Event bufsiz → Prop}
  {trace : List (State bufsiz × Event bufsiz)}

theorem Traced.marked (traced : Traced options append allowed trace s) :
    Recorded options trace s ∧ ∃ clients, Tending s clients ∧ Marked s clients := by
  induction traced with
  | @start first opened s fresh fresh' ran =>
      have started := started_of_initAll fresh fresh' ran
      have blank : ∀ socket, s.connections socket = {} := started.connections
      refine ⟨⟨started.stdinRead, ?_, ?_, ?_⟩, [], started.tending, ?_, fun socket _ =>
        blank socket⟩
      · simp [blank]
      · simp [blank]
      · simp [blank]
      · simp [blank]
  | step event _ possible _ ran ih =>
      obtain ⟨recorded, clients, tending, marked⟩ := ih
      exact ⟨recorded.step ran (tending.marks marked possible ran),
        marked.handle tending possible ran⟩

/-- A run up to one of its events is a run. -/
theorem Traced.of_append {front back : List (State bufsiz × Event bufsiz)}
    {step : State bufsiz × Event bufsiz} (traced : Traced options append allowed trace s)
    (split : trace = front ++ step :: back) : Traced options append allowed front step.1 := by
  induction traced generalizing back with
  | start => simp at split
  | @step trace s₁ _ event traced _ _ _ ih =>
      rcases List.eq_nil_or_concat back with rfl | ⟨back, last, rfl⟩
      · obtain ⟨rfl, same⟩ := List.append_inj' split rfl
        cases same
        exact traced
      · rw [List.concat_eq_append, ← List.cons_append, ← List.append_assoc] at split
        exact ih (List.append_inj' split rfl).1

theorem Traced.known {socket : Nat} (traced : Traced options append allowed trace s)
    (registers : ∃ step ∈ trace, Registers step.1 socket step.2) : socket < s.accepted := by
  obtain ⟨recorded, _, _, marked⟩ := traced.marked
  have registered := (recorded.registered socket).mpr registers
  by_contra unknown
  rw [marked.unopened socket (Nat.le_of_not_lt unknown)] at registered
  cases registered

/-- A client is on the list if a callback registered it, and in none the kernel took too little
of what is for it or had something to read from it. -/
theorem Traced.onTailers_iff (traced : Traced options append allowed trace s) (socket : Nat) :
    (∃ node, OnTailers s node ∧ node.socket = socket) ↔
      (∃ step ∈ trace, Registers step.1 socket step.2) ∧
        ∀ step ∈ trace, ¬ FallsShort options step.1 socket step.2 ∧
          ¬ Notices step.1 socket step.2 := by
  obtain ⟨recorded, clients, tending, marked⟩ := traced.marked
  rw [tending.registered.onTailers_iff, marked.listed, recorded.registered, ← Bool.not_eq_true,
    recorded.cut, ← Bool.not_eq_true, recorded.hungUp]
  apply and_congr_right
  intro _
  constructor
  · rintro ⟨whole, quiet⟩ step member
    exact ⟨fun short => whole ⟨step, member, short⟩, fun notices => quiet ⟨step, member, notices⟩⟩
  · intro stays
    constructor
    · rintro ⟨step, member, short⟩
      exact (stays step member).1 short
    · rintro ⟨step, member, notices⟩
      exact (stays step member).2 notices

/-- What every reachable state has on record is what the events of a run to it say. -/
theorem recorded_of_reachable (reachable : Reachable options append allowed s) :
    ∃ trace, Traced options append allowed trace s ∧ Recorded options trace s ∧
      ∀ socket, (∃ node, OnTailers s node ∧ node.socket = socket) ↔
        (∃ step ∈ trace, Registers step.1 socket step.2) ∧
          ∀ step ∈ trace, ¬ FallsShort options step.1 socket step.2 ∧
            ¬ Notices step.1 socket step.2 := by
  obtain ⟨trace, traced⟩ := reachable.exists_trace
  exact ⟨trace, traced, traced.marked.1, traced.onTailers_iff⟩

variable {front back : List (State bufsiz × Event bufsiz)} {step : State bufsiz × Event bufsiz}
  {socket : Nat}

/-- What was read before a client is what the events before its registration brought. -/
theorem Traced.before_eq (traced : Traced options append allowed trace s)
    (split : trace = front ++ step :: back) (registers : Registers step.1 socket step.2) :
    (s.connections socket).before = front.flatMap fun step => step.2.bytes := by
  induction traced generalizing back with
  | start => simp at split
  | @step trace s₁ s' event traced possible allows ran ih =>
      obtain ⟨next, grows⟩ := handle_grows possible ran
      rcases List.eq_nil_or_concat back with rfl | ⟨back, last, rfl⟩
      · obtain ⟨rfl, same⟩ := List.append_inj' split rfl
        cases same
        have known := (Traced.step event traced possible allows ran).known
          ⟨(s₁, event), by simp, registers⟩
        obtain rfl := registers.socket_eq
        rcases next with same | opens
        · rw [same] at known
          exact absurd known (Nat.lt_irrefl _)
        · rw [opens.before]
          exact traced.marked.1.stdinRead
      · rw [List.concat_eq_append, ← List.cons_append, ← List.append_assoc] at split
        obtain ⟨rfl, _⟩ := List.append_inj' split rfl
        obtain ⟨_, _, grows⟩ := grows socket (traced.known ⟨step, by simp, registers⟩)
        rw [grows.before]
        exact ih rfl

/-- What a client receives is what the events of the run say: the size of the tail of what they
brought before it was registered, that tail, and what they bring from then on; all of it as long
as the kernel takes all of each text for it and has nothing to read from it. -/
theorem stream_of_traced (traced : Traced options append Granted (front ++ step :: back) s)
    (zeroed : append.2.nlines = 0) (registers : Registers step.1 socket step.2) :
    ∃ tail, tail = requiredTail options.buffer (front.flatMap fun step => step.2.bytes) ∧
      (s.connections socket).received <+: Decimal.decimal tail.length ++ [newline] ++ tail ++
        back.flatMap (fun step => step.2.bytes) ∧
      ((∀ later ∈ step :: back, ¬ FallsShort options later.1 socket later.2 ∧
          ¬ Notices later.1 socket later.2) →
        (s.connections socket).received = Decimal.decimal tail.length ++ [newline] ++ tail ++
          back.flatMap fun step => step.2.bytes) := by
  obtain ⟨clients, serving⟩ := traced.reachable.serving zeroed
  have present : ∃ other ∈ front ++ step :: back, Registers other.1 socket other.2 :=
    ⟨step, by simp, registers⟩
  have follows := serving.follows socket (traced.known present)
  have before := traced.before_eq rfl registers
  have silent : step.2.bytes = [] := by
    obtain ⟨s₁, event⟩ := step
    cases event with
    | stdin => cases registers
    | unixSock => rfl
    | tailerReadable => rfl
  have read := traced.marked.1.stdinRead
  rw [List.flatMap_append, List.flatMap_cons, silent, List.nil_append] at read
  have received := follows.received
  have whole := follows.whole
  rw [stream, before, read, List.drop_left] at received whole
  refine ⟨_, rfl, received, ?_⟩
  intro later
  apply whole
  rw [← serving.registered.onTailers_iff, traced.onTailers_iff]
  refine ⟨present, ?_⟩
  intro other member
  rcases List.mem_append.mp member with earlier | now
  · -- Nothing is marked for a socket before it is accepted.
    obtain ⟨recorded, _, _, marked⟩ := (traced.of_append rfl).marked
    have blank := marked.unopened socket (Nat.le_of_eq registers.socket_eq.symm)
    constructor
    · intro short
      have cut := (recorded.cut socket).mpr ⟨other, earlier, short⟩
      rw [blank] at cut
      cases cut
    · intro notices
      have hungUp := (recorded.hungUp socket).mpr ⟨other, earlier, notices⟩
      rw [blank] at hungUp
      cases hungUp
  · exact later other now

end

/-- A broadcast keeps those of whose write the kernel takes all of the text. -/
theorem RefinesRoster.kept_iff {roster : Roster} {buf : List UInt8} {answers : List WriteAnswer}
    (refines : RefinesRoster options s roster)
    (ran : Server.socketsWriteBlocking options { s with answers } buf = .ok s') :
    ∃ roster', Represents s' roster' ∧ ∀ socket, socket ∈ roster'.listed ↔
      ∃ front back calls turn, roster.listed = front ++ socket :: back ∧
        writeEach options buf front answers = .ok (calls, turn) ∧ TakesAll options buf turn := by
  have lockstep := refines.broadcasts buf answers
  rw [ran] at lockstep
  cases wrote : writeEach options buf roster.listed answers with
  | error fault =>
      rw [wrote] at lockstep
      cases lockstep
  | ok result =>
      rw [wrote] at lockstep
      obtain ⟨sockets, represents, _⟩ := lockstep
      refine ⟨_, represents, ?_⟩
      intro socket
      have once := refines.nodup
      constructor
      · intro kept
        have listed : socket ∈ roster.listed := by
          rw [← sockets]
          exact (List.filter_sublist.map Prod.fst).subset kept
        obtain ⟨front, back, split⟩ := List.append_of_mem listed
        rw [split] at wrote once
        obtain ⟨calls, _, _, turn, _, fronts, _⟩ := writeEach_turn wrote
        have takes := (mem_completed_iff wrote fronts once).mp kept
        exact ⟨front, back, calls, turn, split, fronts, takes⟩
      · rintro ⟨front, back, calls, turn, split, fronts, takes⟩
        rw [split] at wrote once
        exact (mem_completed_iff wrote fronts once).mpr takes

end Tailserver.Server
