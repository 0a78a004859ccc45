import Tailserver.Server.Writes

/-! What the kernel's answers decide. A write is complete when the first answer behind which it
is not repeated takes all of it; a client is cut off by the first write to it that is not. -/

set_option autoImplicit false

namespace Tailserver.Server

open CMemory Buffer

variable {bufsiz : Nat}

/-! ## One write -/

/-- Is a write repeated behind this answer? -/
def repeats : WriteAnswer → Bool
  | .accepted _ => false
  | .failed errno => isErrnoRetryFriendly errno

/-- The answer that decides a write. `safe_write` does not ask more often than its safety counter
allows. -/
def deciding (options : Options) (answers : List WriteAnswer) : Option WriteAnswer :=
  (if options.blockForever then answers else answers.take panicLoopIterations).find?
    fun answer => !repeats answer

/-- The kernel takes all of `buf`. -/
def TakesAll (options : Options) (buf : List UInt8) (answers : List WriteAnswer) : Prop :=
  ∃ count, deciding options answers = some (.accepted count) ∧ buf.length ≤ count

theorem writtenTooLittle_write (buf : List UInt8) (count : Nat) (answers : List WriteAnswer) :
    writtenTooLittle (write buf count answers) buf = false ↔ buf.length ≤ count := by
  simp only [writtenTooLittle, write, decide_eq_false_iff_not, List.length_take]
  omega

theorem writtenTooLittle_failed (buf : List UInt8) (answers : List WriteAnswer) :
    writtenTooLittle { result := -1, delivered := [], answers } buf = true := by
  simp only [writtenTooLittle, decide_eq_true_eq]
  omega

theorem safeWriteLoop_takesAll {buf : List UInt8} {iterations : Nat}
    {answers : List WriteAnswer} {written : Written}
    (ran : safeWriteLoop buf iterations answers = .ok written) :
    writtenTooLittle written buf = false ↔ ∃ count,
      (answers.take iterations).find? (fun answer => !repeats answer) = some (.accepted count) ∧
        buf.length ≤ count := by
  induction iterations generalizing answers with
  | zero =>
      cases ran
      simp [writtenTooLittle_failed]
  | succ iterations ih =>
      cases answers with
      | nil => cases ran
      | cons answer answers =>
          cases answer with
          | accepted count =>
              cases ran
              simp [writtenTooLittle_write, repeats]
          | failed errno =>
              rw [safeWriteLoop] at ran
              cases friendly : isErrnoRetryFriendly errno with
              | false =>
                  rw [friendly, if_neg Bool.false_ne_true] at ran
                  cases ran
                  simp [writtenTooLittle_failed, repeats, friendly]
              | true =>
                  rw [friendly, if_pos rfl] at ran
                  simpa [repeats, friendly] using ih ran

theorem safeWriteForever_takesAll {buf : List UInt8} {answers : List WriteAnswer}
    {written : Written} (ran : safeWriteForever buf answers = .ok written) :
    writtenTooLittle written buf = false ↔ ∃ count,
      answers.find? (fun answer => !repeats answer) = some (.accepted count) ∧
        buf.length ≤ count := by
  induction answers with
  | nil => cases ran
  | cons answer answers ih =>
      cases answer with
      | accepted count =>
          cases ran
          simp [writtenTooLittle_write, repeats]
      | failed errno =>
          rw [safeWriteForever] at ran
          cases friendly : isErrnoRetryFriendly errno with
          | false =>
              rw [friendly, if_neg Bool.false_ne_true] at ran
              cases ran
              simp [writtenTooLittle_failed, repeats, friendly]
          | true =>
              rw [friendly, if_pos rfl] at ran
              simpa [repeats, friendly] using ih ran

/-- The test of the callers is about the kernel's answers alone. -/
theorem safeWriteBy_takesAll {options : Options} {buf : List UInt8} {answers : List WriteAnswer}
    {written : Written} (ran : safeWriteBy options buf answers = .ok written) :
    writtenTooLittle written buf = false ↔ TakesAll options buf answers := by
  unfold safeWriteBy at ran
  unfold TakesAll deciding
  split at ran
  · next forever =>
    rw [if_pos forever]
    exact safeWriteForever_takesAll ran
  · next panics =>
    rw [if_neg panics]
    exact safeWriteLoop_takesAll ran

/-! ## The same text to many -/

theorem writeEach_append (options : Options) (buf : List UInt8) (sockets others : List Nat)
    (answers : List WriteAnswer) :
    writeEach options buf (sockets ++ others) answers =
      writeEach options buf sockets answers >>= fun first =>
        writeEach options buf others first.2 >>= fun next =>
          .ok (first.1 ++ next.1, next.2) := by
  induction sockets generalizing answers with
  | nil =>
      simp only [List.nil_append, writeEach, except_ok_bind]
      cases writeEach options buf others answers <;> rfl
  | cons socket sockets ih =>
      simp only [List.cons_append, writeEach]
      cases safeWriteBy options buf answers with
      | error fault => rfl
      | ok written =>
          simp only [except_ok_bind, ih]
          cases writeEach options buf sockets written.answers with
          | error fault => rfl
          | ok first =>
              simp only [except_ok_bind, except_pure]
              cases writeEach options buf others first.2 <;> rfl

theorem writeEach_sockets {options : Options} {buf : List UInt8} {sockets : List Nat}
    {answers rest : List WriteAnswer} {calls : List (Nat × Written)}
    (ran : writeEach options buf sockets answers = .ok (calls, rest)) :
    calls.map Prod.fst = sockets := by
  induction sockets generalizing answers calls with
  | nil =>
      cases ran
      rfl
  | cons socket sockets ih =>
      obtain ⟨written, _, ran⟩ := except_bind_ok ran
      obtain ⟨⟨calls', rest'⟩, writes, returned⟩ := except_bind_ok ran
      cases returned
      rw [List.map_cons, ih writes]

/-- What the writes come to when it is the turn of `socket`. -/
theorem writeEach_turn {options : Options} {buf : List UInt8} {front back : List Nat}
    {socket : Nat} {answers rest : List WriteAnswer} {calls : List (Nat × Written)}
    (ran : writeEach options buf (front ++ socket :: back) answers = .ok (calls, rest)) :
    ∃ earlier written later turn, calls = earlier ++ (socket, written) :: later ∧
      writeEach options buf front answers = .ok (earlier, turn) ∧
      safeWriteBy options buf turn = .ok written := by
  rw [writeEach_append] at ran
  obtain ⟨⟨earlier, turn⟩, fronts, ran⟩ := except_bind_ok ran
  obtain ⟨⟨others, rest'⟩, writes, returned⟩ := except_bind_ok ran
  cases returned
  obtain ⟨written, writes', ran⟩ := except_bind_ok writes
  obtain ⟨⟨later, rest''⟩, _, returned⟩ := except_bind_ok ran
  cases returned
  exact ⟨earlier, written, later, turn, rfl, fronts, writes'⟩

/-- A write is complete when the kernel, in its turn, takes all of the text. -/
theorem mem_completed_iff {options : Options} {buf : List UInt8} {front back : List Nat}
    {socket : Nat} {answers rest turn : List WriteAnswer} {calls earlier : List (Nat × Written)}
    (ran : writeEach options buf (front ++ socket :: back) answers = .ok (calls, rest))
    (fronts : writeEach options buf front answers = .ok (earlier, turn))
    (once : (front ++ socket :: back).Nodup) :
    socket ∈ completed buf calls ↔ TakesAll options buf turn := by
  obtain ⟨earlier', written, later, turn', rfl, fronts', writes⟩ := writeEach_turn ran
  rw [fronts, Except.ok.injEq, Prod.mk.injEq] at fronts'
  obtain ⟨rfl, rfl⟩ := fronts'
  have sockets := writeEach_sockets ran
  rw [List.map_append, List.map_cons] at sockets
  rw [← sockets, List.nodup_middle, List.nodup_cons, List.mem_append, not_or] at once
  have elsewhere : ∀ calls : List (Nat × Written), socket ∉ calls.map Prod.fst →
      socket ∉ completed buf calls := fun calls absent member =>
    absent ((List.filter_sublist.map Prod.fst).subset member)
  have early := elsewhere earlier once.1.1
  have late := elsewhere later once.1.2
  rw [← safeWriteBy_takesAll writes]
  unfold completed at early late ⊢
  rw [List.filter_append, List.map_append, List.mem_append, List.filter_cons]
  cases writtenTooLittle written buf <;> simp [early, late]

theorem WroteEach.cut_iff {options : Options} {buf : List UInt8} {clients kept : Clients}
    {calls : List (Nat × Written)} {answers rest : List WriteAnswer}
    {connections connections' : Nat → Connection}
    (wrote : WroteEach buf clients kept calls connections connections')
    (ran : writeEach options buf (clients.map Prod.snd) answers = .ok (calls, rest))
    (sockets : (clients.map Prod.snd).Nodup) (socket : Nat) :
    (connections' socket).cut = true ↔ (connections socket).cut = true ∨
      ∃ front back earlier turn, clients.map Prod.snd = front ++ socket :: back ∧
        writeEach options buf front answers = .ok (earlier, turn) ∧
          ¬ TakesAll options buf turn := by
  by_cases listed : socket ∈ clients.map Prod.snd
  · obtain ⟨client, member, rfl⟩ := List.mem_map.mp listed
    obtain ⟨front, back, split⟩ := List.append_of_mem listed
    rw [split] at ran
    have once := sockets
    rw [split] at once
    obtain ⟨earlier, written, later, turn, _, fronts, _⟩ := writeEach_turn ran
    have complete := mem_completed_iff ran fronts once
    rw [← wrote.complete] at complete
    rcases wrote.broadcast.of_mem sockets member with ⟨stays, same⟩ | ⟨leaves, part, _, same⟩
    · rw [same]
      refine ⟨.inl, ?_⟩
      rintro (cut | ⟨front', back', earlier', turn', split', fronts', short⟩)
      · exact cut
      · have ran' := ran
        rw [← split, split'] at ran'
        rw [split'] at sockets
        have complete' := mem_completed_iff ran' fronts' sockets
        rw [← wrote.complete] at complete'
        exact absurd (complete'.mp (List.mem_map_of_mem stays)) short
    · rw [same]
      refine ⟨fun _ => .inr ⟨front, back, earlier, turn, split, fronts, ?_⟩, fun _ => rfl⟩
      exact mt complete.mpr leaves
  · rw [wrote.broadcast.untouched listed]
    refine ⟨.inl, ?_⟩
    rintro (cut | ⟨front, back, _, _, split, _⟩)
    · exact cut
    · rw [split] at listed
      simp at listed

/-! ## Many texts to one -/

/-- One text after the other, until a write is short: did it come to the end, and what answers
are left? -/
def sendEach (options : Options) :
    List (List UInt8) → List WriteAnswer → Except Fault (Bool × List WriteAnswer)
  | [], answers => .ok (true, answers)
  | piece :: pieces, answers => do
      let written ← safeWriteBy options piece answers
      if writtenTooLittle written piece then return (false, written.answers)
      sendEach options pieces written.answers

/-- It does not come to the end when the kernel does not take all of some text. -/
theorem sendEach_iff {options : Options} {pieces : List (List UInt8)}
    {answers rest : List WriteAnswer} {whole : Bool}
    (ran : sendEach options pieces answers = .ok (whole, rest)) :
    whole = false ↔ ∃ front piece back turn, pieces = front ++ piece :: back ∧
      sendEach options front answers = .ok (true, turn) ∧ ¬ TakesAll options piece turn := by
  induction pieces generalizing answers with
  | nil =>
      cases ran
      simp
  | cons piece pieces ih =>
      obtain ⟨written, writes, ran⟩ := except_bind_ok ran
      have takes := safeWriteBy_takesAll writes
      cases short : writtenTooLittle written piece with
      | true =>
          rw [short, if_pos rfl] at ran
          cases ran
          refine ⟨fun _ => ⟨[], piece, pieces, answers, rfl, rfl, ?_⟩, fun _ => rfl⟩
          rw [← takes, short]
          decide
      | false =>
          rw [short, if_neg Bool.false_ne_true] at ran
          rw [ih ran]
          constructor
          · rintro ⟨front, piece', back, turn, rfl, fronts, falls⟩
            refine ⟨piece :: front, piece', back, turn, rfl, ?_, falls⟩
            simp only [sendEach, writes, except_ok_bind, short, Bool.false_eq_true, if_false,
              fronts]
          · rintro ⟨front, piece', back, turn, split, fronts, falls⟩
            cases front with
            | nil =>
                cases split
                cases fronts
                exact absurd (takes.mp short) falls
            | cons first front =>
                cases split
                simp only [sendEach, writes, except_ok_bind, short, Bool.false_eq_true,
                  if_false] at fronts
                exact ⟨front, piece', back, turn, rfl, fronts, falls⟩

/-- A client is cut off by the texts written to it when they do not come to the end. -/
def CutUnless (s : State bufsiz) (socket : Nat) (s' : State bufsiz)
    (result : Bool × List WriteAnswer) : Prop :=
  (s'.connections socket).cut = ((s.connections socket).cut || !result.1)

theorem Registered.writeOrFinal_cut {options : Options} {s : State bufsiz} {front back : Clients}
    {client : Nat × Nat} (registered : Registered s (front ++ client :: back)) (buf : List UInt8)
    (continuation : State bufsiz → Except Fault (State bufsiz))
    (pieces : List (List UInt8))
    (stays : ∀ s', Frame s s' → Registered s' (front ++ client :: back) →
      (s'.connections client.2).cut = (s.connections client.2).cut →
      Lockstep (CutUnless s' client.2) (continuation s') (sendEach options pieces s'.answers)) :
    Lockstep (CutUnless s client.2)
      (Server.tailerWriteBlocking options s (some client.1) buf >>= fun result =>
        if writtenTooLittle result.1 buf then Server.tailerFinal result.2 (some client.1)
        else continuation result.2)
      (sendEach options (buf :: pieces) s.answers) := by
  rw [registered.tailerWriteBlocking, bind_assoc, sendEach]
  cases safeWriteBy options buf s.answers with
  | error fault => rfl
  | ok written =>
      have registered' : Registered (s.wrote client.2 buf written) (front ++ client :: back) :=
        registered.frame rfl rfl
      simp only [except_ok_bind]
      cases short : writtenTooLittle written buf with
      | true =>
          obtain ⟨tailers, firstTailer, ran, _⟩ := registered'.tailerFinal
          simp only [if_true, ran, except_pure]
          simp [Lockstep, CutUnless, State.close, State.wrote, State.note, short]
      | false =>
          simp only [Bool.false_eq_true, if_false]
          have same : ((s.wrote client.2 buf written).connections client.2).cut =
              (s.connections client.2).cut := by
            simp [State.wrote, State.note, short]
          have frame : Frame s (s.wrote client.2 buf written) :=
            ⟨rfl, rfl, rfl, rfl, rfl, rfl, rfl, rfl, rfl⟩
          apply (stays _ frame registered' same).mono
          intro s' result cut
          rw [CutUnless, same] at cut
          exact cut

theorem Registered.sendTailChunks_cut {options : Options} {s : State bufsiz}
    {front back : Clients} {client : Nat × Nat} {fuel : Nat} {pos : Pointer} {offset : UInt64}
    {chunks : List (List UInt8)} (registered : Registered s (front ++ client :: back))
    (walked : walkTail s.buffer fuel pos offset = .ok chunks) :
    Lockstep (CutUnless s client.2)
      (Server.sendTailChunks options (some client.1) fuel s pos offset)
      (sendEach options chunks s.answers) := by
  induction fuel generalizing s pos offset chunks with
  | zero => cases walked
  | succ fuel ih =>
      obtain ⟨chunkSize, sized, walked⟩ := except_bind_ok walked
      simp only [Server.sendTailChunks, sized, except_ok_bind]
      split
      · next positive =>
        rw [if_pos positive] at walked
        obtain ⟨chunk, held, walked⟩ := except_bind_ok walked
        obtain ⟨pos', advances, walked⟩ := except_bind_ok walked
        obtain ⟨rest, walkedRest, returned⟩ := except_bind_ok walked
        cases returned
        simp only [held, except_ok_bind]
        apply registered.writeOrFinal_cut chunk fun s => do
          let pos ← bufferAdvanceChunk s.buffer pos
          Server.sendTailChunks options (some client.1) fuel s pos 0
        intro s' frame registered' _
        rw [frame.buffer, advances, except_ok_bind]
        rw [← frame.buffer] at walkedRest
        exact ih registered' walkedRest
      · next ended =>
        rw [if_neg ended] at walked
        cases walked
        exact (Bool.or_false _).symm

/-- The header and the chunks of the tail are written until the kernel does not take all of one. -/
theorem Registered.tailerSendBufferedTail_cut {options : Options} {s : State bufsiz}
    {front back : Clients} {client : Nat × Nat} {chunks : List (List UInt8)}
    (registered : Registered s (front ++ client :: back))
    (walked : walkTail s.buffer (blockCount s.buffer.heap + 1) (bufferGetTailChunk s.buffer)
      (bufferGetTailOffset s.buffer) = .ok chunks) :
    Lockstep (CutUnless s client.2) (Server.tailerSendBufferedTail options s (some client.1))
      (sendEach options (sizeHeader (bufferTailSize s.buffer) :: chunks) s.answers) := by
  simp only [Server.tailerSendBufferedTail]
  apply registered.writeOrFinal_cut _ fun s => Server.sendTailChunks options (some client.1)
    (blockCount s.buffer.heap + 1) s (bufferGetTailChunk s.buffer)
    (bufferGetTailOffset s.buffer)
  intro s' frame registered' _
  rw [← frame.buffer] at walked
  exact registered'.sendTailChunks_cut walked

end Tailserver.Server
