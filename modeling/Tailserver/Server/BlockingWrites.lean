import Tailserver.Server.Answers
import Tailserver.Server.Tee

/-! Blocking writes to a slow reader. `safe_write_forever` repeats a write that
failed, but not one that was short, so a promise to deliver everything holds only
when the first write that takes bytes takes them all. -/

set_option autoImplicit false

namespace Tailserver.Server

open CMemory Buffer

/-- A client got all of `buf`, and everybody keeps their place on the list. -/
structure Gets {bufsiz : Nat} (s s' : State bufsiz) (clients : Clients) (client : Nat × Nat)
    (buf : List UInt8) : Prop where
  frame : Frame s s'
  registered : Registered s' clients
  connections : s'.connections = Function.update s.connections client.2
    ((s.connections client.2).sent buf)

/-- Everything is delivered once and in order, the server keeps running, and whichever client
of whatever list is written to, it keeps its place. -/
structure DeliversEverything (buf : List UInt8) (answers : List WriteAnswer) : Prop where
  returned : ∃ rest, safeWriteForever buf answers =
    .ok { result := buf.length, delivered := buf, answers := rest }
  stdout : ∃ written, stdoutWriteBlocking buf answers = .ok (true, written) ∧
    written.delivered = buf
  running : ∀ (bufsiz : Nat) (s : State bufsiz), s.answers = answers →
    ∃ s', stdoutWriteBlockingOrBreak s buf = .ok s' ∧ s'.broken = s.broken
  /-- `sockets_write_blocking`, when it comes to the client. -/
  turn : ∀ (bufsiz : Nat) (options : Options) (s : State bufsiz) (front back : Clients)
    (client : Nat × Nat) (fuel : Nat), options.blockForever = true →
    Registered s (front ++ client :: back) → s.answers = answers →
    ∃ s', Gets s s' (front ++ client :: back) client buf ∧
      writeToTailers options buf (fuel + 1) s (some client.1) =
        writeToTailers options buf fuel s' (headOr back none)
  /-- `sockets_write_blocking`, when the writes before have left the client `answers`. -/
  broadcast : ∀ (bufsiz : Nat) (options : Options) (s : State bufsiz) (front back : Clients)
    (client : Nat × Nat) (calls : List (Nat × Written)), options.blockForever = true →
    Registered s (front ++ client :: back) →
    writeEach options buf (front.map Prod.snd) s.answers = .ok (calls, answers) →
    Returns (socketsWriteBlocking options s buf) fun s' => ∃ kept, Registered s' kept ∧
      client ∈ kept ∧ s'.connections client.2 = (s.connections client.2).sent buf
  /-- The first write of `tailer_send_buffered_tail`. -/
  header : ∀ (bufsiz : Nat) (options : Options) (s : State bufsiz) (front back : Clients)
    (client : Nat × Nat), options.blockForever = true →
    Registered s (front ++ client :: back) → s.answers = answers →
    sizeHeader (bufferTailSize s.buffer) = buf →
    ∃ s', Gets s s' (front ++ client :: back) client buf ∧
      tailerSendBufferedTail options s (some client.1) =
        sendTailChunks options (some client.1) (blockCount s'.buffer.heap + 1) s'
          (bufferGetTailChunk s'.buffer) (bufferGetTailOffset s'.buffer)
  /-- Any of its further writes. -/
  chunk : ∀ (bufsiz : Nat) (options : Options) (s : State bufsiz) (front back : Clients)
    (client : Nat × Nat) (fuel : Nat) (pos : Pointer) (offset chunkSize : UInt64),
    options.blockForever = true → Registered s (front ++ client :: back) →
    s.answers = answers → bufferChunkSize s.buffer pos = .ok chunkSize → chunkSize > 0 →
    chunkBytes s.buffer pos offset (chunkSize - offset) = .ok buf →
    ∃ s', Gets s s' (front ++ client :: back) client buf ∧
      sendTailChunks options (some client.1) (fuel + 1) s pos offset =
        bufferAdvanceChunk s'.buffer pos >>= fun pos =>
          sendTailChunks options (some client.1) fuel s' pos 0

theorem write_of_le {buf : List UInt8} {count : Nat} (enough : buf.length ≤ count)
    (answers : List WriteAnswer) :
    write buf count answers = { result := buf.length, delivered := buf, answers } := by
  rw [write, List.take_of_length_le enough]

theorem writtenTooLittle_write_of_le {buf : List UInt8} {count : Nat}
    (enough : buf.length ≤ count) (answers : List WriteAnswer) :
    writtenTooLittle (write buf count answers) buf = false :=
  (writtenTooLittle_write buf count answers).mpr enough

/-! ## Writes that take everything -/

section Takes

variable {bufsiz : Nat} {options : Options} {s : State bufsiz} {front back : Clients}
  {client : Nat × Nat} {buf : List UInt8} {count : Nat} {rest : List WriteAnswer}

theorem safeWriteBy_of_write (forever : options.blockForever = true)
    {answers : List WriteAnswer} (ran : safeWriteForever buf answers = .ok (write buf count rest)) :
    safeWriteBy options buf answers = .ok (write buf count rest) := by
  rw [safeWriteBy, forever, if_pos rfl, ran]

theorem Registered.gets (registered : Registered s (front ++ client :: back))
    (forever : options.blockForever = true) (enough : buf.length ≤ count)
    (ran : safeWriteForever buf s.answers = .ok (write buf count rest)) :
    ∃ s', Gets s s' (front ++ client :: back) client buf ∧
      Server.tailerWriteBlocking options s (some client.1) buf =
        .ok (write buf count rest, s') := by
  refine ⟨s.wrote client.2 buf (write buf count rest),
    ⟨⟨rfl, rfl, rfl, rfl, rfl, rfl, rfl, rfl, rfl⟩, registered.frame rfl rfl, ?_⟩, ?_⟩
  · simp only [State.wrote, State.note, writtenTooLittle_write_of_le enough, Bool.or_false]
    rw [write_of_le enough]
    rfl
  · rw [registered.tailerWriteBlocking, safeWriteBy_of_write forever ran, except_ok_bind]

theorem Registered.turn_of_write (registered : Registered s (front ++ client :: back))
    (forever : options.blockForever = true) (enough : buf.length ≤ count)
    (ran : safeWriteForever buf s.answers = .ok (write buf count rest)) (fuel : Nat) :
    ∃ s', Gets s s' (front ++ client :: back) client buf ∧
      Server.writeToTailers options buf (fuel + 1) s (some client.1) =
        Server.writeToTailers options buf fuel s' (headOr back none) := by
  obtain ⟨s', gets, wrote⟩ := registered.gets forever enough ran
  refine ⟨s', gets, ?_⟩
  rw [Server.writeToTailers, if_neg (by simp), wrote, except_ok_bind]
  dsimp only
  rw [load_of_lookup gets.registered.lookup, except_ok_bind,
    writtenTooLittle_write_of_le enough, if_neg Bool.false_ne_true]
  rfl

theorem Registered.header_of_write (registered : Registered s (front ++ client :: back))
    (forever : options.blockForever = true) (enough : buf.length ≤ count)
    (ran : safeWriteForever buf s.answers = .ok (write buf count rest))
    (header : sizeHeader (bufferTailSize s.buffer) = buf) :
    ∃ s', Gets s s' (front ++ client :: back) client buf ∧
      Server.tailerSendBufferedTail options s (some client.1) =
        Server.sendTailChunks options (some client.1) (blockCount s'.buffer.heap + 1) s'
          (bufferGetTailChunk s'.buffer) (bufferGetTailOffset s'.buffer) := by
  obtain ⟨s', gets, wrote⟩ := registered.gets forever enough ran
  refine ⟨s', gets, ?_⟩
  rw [Server.tailerSendBufferedTail, header, wrote, except_ok_bind]
  dsimp only
  rw [writtenTooLittle_write_of_le enough, if_neg Bool.false_ne_true]

theorem Registered.chunk_of_write (registered : Registered s (front ++ client :: back))
    (forever : options.blockForever = true) (enough : buf.length ≤ count)
    (ran : safeWriteForever buf s.answers = .ok (write buf count rest)) (fuel : Nat)
    {pos : Pointer} {offset chunkSize : UInt64}
    (sized : bufferChunkSize s.buffer pos = .ok chunkSize) (positive : chunkSize > 0)
    (held : chunkBytes s.buffer pos offset (chunkSize - offset) = .ok buf) :
    ∃ s', Gets s s' (front ++ client :: back) client buf ∧
      Server.sendTailChunks options (some client.1) (fuel + 1) s pos offset =
        bufferAdvanceChunk s'.buffer pos >>= fun pos =>
          Server.sendTailChunks options (some client.1) fuel s' pos 0 := by
  obtain ⟨s', gets, wrote⟩ := registered.gets forever enough ran
  refine ⟨s', gets, ?_⟩
  rw [Server.sendTailChunks, sized, except_ok_bind, if_pos positive, held, except_ok_bind, wrote,
    except_ok_bind]
  dsimp only
  rw [writtenTooLittle_write_of_le enough, if_neg Bool.false_ne_true]

/-! ## A broadcast -/

theorem Registered.broadcast_of_write (registered : Registered s (front ++ client :: back))
    (forever : options.blockForever = true) (enough : buf.length ≤ count)
    {answers : List WriteAnswer} {calls : List (Nat × Written)}
    (fronts : writeEach options buf (front.map Prod.snd) s.answers = .ok (calls, answers))
    (ran : safeWriteForever buf answers = .ok (write buf count rest)) :
    Returns (Server.socketsWriteBlocking options s buf) fun s' => ∃ kept, Registered s' kept ∧
      client ∈ kept ∧ s'.connections client.2 = (s.connections client.2).sent buf := by
  have takes : TakesAll options buf answers :=
    (safeWriteBy_takesAll (safeWriteBy_of_write forever ran)).mp
      (writtenTooLittle_write_of_le enough rest)
  have sockets := registered.sockets
  rw [List.map_append, List.map_cons] at sockets
  have completes : Returns (writeEach options buf
      (front.map Prod.snd ++ client.2 :: back.map Prod.snd) s.answers) fun result =>
        client.2 ∈ completed buf result.1 := by
    cases wrote : writeEach options buf
        (front.map Prod.snd ++ client.2 :: back.map Prod.snd) s.answers with
    | error fault =>
        have blocked := writeEach_returns options buf
          (front.map Prod.snd ++ client.2 :: back.map Prod.snd) s.answers
        rw [wrote] at blocked
        exact blocked
    | ok result => exact (mem_completed_iff wrote fronts sockets).mpr takes
  have wrote := @Registered.socketsWriteBlocking bufsiz options s _ registered buf
  rw [List.map_append, List.map_cons] at wrote
  apply (wrote.returns completes).mono
  rintro s' ⟨result, ⟨_, kept, registered', each⟩, complete⟩
  rw [← each.complete] at complete
  refine ⟨kept, registered', ?_⟩
  have member : client ∈ front ++ client :: back := by simp
  rcases each.broadcast.of_mem registered.sockets member with stays | ⟨leaves, _⟩
  · exact stays
  · exact absurd complete leaves

end Takes

/-- For a slow reader everything is delivered exactly when the first write that
takes bytes takes all of them. -/
theorem deliversEverything_iff (buf : List UInt8) (answers : List WriteAnswer)
    (slow : Slow buf.length answers) :
    DeliversEverything buf answers ↔
      ∃ count, firstAccepted answers = some count ∧ buf.length ≤ count := by
  obtain ⟨count, rest, first, ran⟩ := slow.safeWriteForever buf
  constructor
  · rintro ⟨⟨rest', returned⟩, _, _, _, _, _, _⟩
    refine ⟨count, first, ?_⟩
    rw [ran, Except.ok.injEq] at returned
    have delivered := congrArg (fun written => written.delivered.length) returned
    simp only [write, List.length_take] at delivered
    omega
  · rintro ⟨count', first', enough⟩
    rw [first, Option.some.injEq] at first'
    subst first'
    refine ⟨⟨rest, by rw [ran, write_of_le enough]⟩, ⟨write buf count rest, ?_, ?_⟩,
      ?_, ?_, ?_, ?_, ?_⟩
    · simp only [stdoutWriteBlocking, ran, except_ok_bind, except_pure,
        writtenTooLittle_write_of_le enough, Bool.not_false]
    · rw [write_of_le enough]
    · rintro bufsiz s rfl
      simp only [stdoutWriteBlockingOrBreak, stdoutWriteBlocking, ran, except_ok_bind,
        except_pure, writtenTooLittle_write_of_le enough, Bool.not_false, if_true]
      exact ⟨_, rfl, rfl⟩
    · rintro bufsiz options s front back client fuel forever registered rfl
      exact registered.turn_of_write forever enough ran fuel
    · intro bufsiz options s front back client calls forever registered fronts
      exact registered.broadcast_of_write forever enough fronts ran
    · rintro bufsiz options s front back client forever registered rfl header
      exact registered.header_of_write forever enough ran header
    · rintro bufsiz options s front back client fuel pos offset chunkSize forever registered rfl
      exact registered.chunk_of_write forever enough ran fuel

theorem deliversEverything_iff_of_retry :
    DeliversEverything [1, 2, 3] [.failed .eagain, .accepted 3] ↔
      ∃ count, firstAccepted [.failed .eagain, .accepted 3] = some count ∧
        [1, 2, 3].length ≤ count :=
  deliversEverything_iff [1, 2, 3] [.failed .eagain, .accepted 3]
    ⟨by simp [isErrnoRetryFriendly], by simp, ⟨3, by simp⟩, by decide⟩

/-- The kernel takes one byte and would take the other two. -/
theorem not_deliversEverything_of_short :
    ¬ ∀ (buf : List UInt8) (answers : List WriteAnswer), Slow buf.length answers →
      DeliversEverything buf answers := by
  intro promise
  have slow : Slow [1, 2, 3].length [.accepted 1, .accepted 2] :=
    ⟨by simp, by simp, ⟨1, by simp⟩, by decide⟩
  obtain ⟨rest, returned⟩ := (promise [1, 2, 3] [.accepted 1, .accepted 2] slow).returned
  have short : safeWriteForever [1, 2, 3] [.accepted 1, .accepted 2] =
      .ok { result := 1, delivered := [1], answers := [.accepted 2] } := by decide
  rw [short] at returned
  cases returned

end Tailserver.Server
