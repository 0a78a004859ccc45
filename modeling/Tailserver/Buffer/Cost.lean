import Tailserver.Buffer.FreshMemory

/-! What it costs to keep track of the tail. The tail passes each buffer once, and two buffers in
a row hold at least `BUFSIZ` bytes, so the bytes appended bound the rounds of the loops that move
the tail, into however many chunks they are cut and whatever fresh memory holds. The loop that
finds the line in the tail's buffer starts anew in every call. -/

set_option autoImplicit false

namespace Tailserver.Buffer

open CMemory

variable {bufsiz : Nat}

/-! ## Counting rounds -/

/-- Rounds of the loops of `keep_track_of_tail`: the buffers passed and the newlines passed in
the buffer where the tail starts. -/
structure Rounds where
  buffers : Nat
  newlines : Nat
  deriving DecidableEq

def Rounds.add (rounds more : Rounds) : Rounds :=
  ⟨rounds.buffers + more.buffers, rounds.newlines + more.newlines⟩

/-- The rounds of the loop that moves the tail over unneeded buffers. -/
def skipRounds (unneeded : State bufsiz → LineBuffer bufsiz → Bool)
    (pass : State bufsiz → LineBuffer bufsiz → State bufsiz) :
    Nat → State bufsiz → Except Fault Nat
  | 0, _ => .error .diverged
  | fuel + 1, s => do
      let tail ← load s.heap s.tailBuffer
      if unneeded s tail then
        let rounds ← skipRounds unneeded pass fuel { pass s tail with tailBuffer := tail.next }
        return rounds + 1
      else return 0

/-- The rounds of the loop over `memchr`. -/
def newlineRounds : Nat → List UInt8 → Except Fault Nat
  | 0, _ => .ok 0
  | count + 1, region =>
      match memchr region newline with
      | none => .error .assertionFailed
      | some found => do
          let rounds ← newlineRounds count (region.drop (found + 1))
          return rounds + 1

def keepTrackRoundsLines (nLines : UInt64) (s : State bufsiz) : Except Fault Rounds := do
  let buffers ← skipRounds (linesUnneeded nLines) passLines (blockCount s.heap) s
  let s ← skipUnneeded (linesUnneeded nLines) passLines (blockCount s.heap) s
  let tail ← load s.heap s.tailBuffer
  if s.totalLines - s.linesUpToTailBuffer > nLines then
    let region ← tail.buffer.read 0 tail.nbytes.toNat
    let newlines ← newlineRounds
      (s.totalLines - s.linesUpToTailBuffer - nLines).toNat region
    return ⟨buffers, newlines⟩
  else return ⟨buffers, 0⟩

def keepTrackRounds (config : Config) (s : State bufsiz) : Except Fault Rounds := do
  if config.countLines then keepTrackRoundsLines config.nUnits s
  else
    let buffers ← skipRounds (bytesUnneeded config.nUnits) passBytes (blockCount s.heap) s
    return ⟨buffers, 0⟩

def appendRounds (config : Config) (s : State bufsiz) (bytes : List UInt8) :
    Except Fault Rounds := do
  let s ← placeBytes s (bufferEnd s) bytes
  if UInt64.ofNat bytes.length = 0 then return ⟨0, 0⟩
  let s ← commitAppended config s (UInt64.ofNat bytes.length)
  if ← fitsLast s then
    let s ← mergeAppended s
    keepTrackRounds config s
  else
    let s ← linkAppended s
    keepTrackRounds config s

def appendAllRounds (config : Config) :
    State bufsiz → List (Step bufsiz) → Except Fault Rounds
  | _, [] => .ok ⟨0, 0⟩
  | s, (bytes, fresh) :: steps => do
      let rounds ← appendRounds config s bytes
      let (continues, s) ← bufferAppend config s bytes fresh
      if continues then
        let more ← appendAllRounds config s steps
        return rounds.add more
      else return rounds

def Execution.rounds (config : Config) (execution : Execution bufsiz) : Except Fault Rounds := do
  let (continues, s) ← execution.init
  if continues then appendAllRounds config s execution.steps else return ⟨0, 0⟩

/-! ## Moving the tail -/

/-- Each round leaves one buffer less behind. -/
theorem skipRounds_listed {unneeded : State bufsiz → LineBuffer bufsiz → Bool}
    {pass : State bufsiz → LineBuffer bufsiz → State bufsiz}
    (passes : ∀ s tail next, SameList s { pass s tail with tailBuffer := next })
    {fuel : Nat} {s s' : State bufsiz} {front rest : Nodes bufsiz}
    (listed : Listed s front rest) (ran : skipUnneeded unneeded pass fuel s = .ok s') :
    ∃ rounds front' rest', skipRounds unneeded pass fuel s = .ok rounds ∧ SameList s s' ∧
      front' ++ rest' = front ++ rest ∧ Listed s' front' rest' ∧
      rounds + rest'.length = rest.length := by
  induction fuel generalizing s front rest with
  | zero => cases ran
  | succ fuel ih =>
      obtain ⟨tail, back, rfl⟩ := List.exists_cons_of_ne_nil listed.nonempty
      simp only [skipUnneeded, skipRounds, listed.load_tail, except_ok_bind] at ran ⊢
      cases decision : unneeded s tail.2 with
      | false =>
          rw [decision, if_neg Bool.false_ne_true] at ran
          cases Except.ok.inj ran
          exact ⟨0, front, _, rfl, .refl _, rfl, listed, Nat.zero_add _⟩
      | true =>
          rw [decision, if_pos rfl] at ran
          have same := passes s tail.2 tail.2.next
          cases back with
          | nil =>
              have ended : tail.2.next = none := listed.next_tail
              rw [ended] at ran
              cases fuel <;> cases ran
          | cons after back =>
              have moved : Listed _ (front ++ [tail]) (after :: back) :=
                listed.moveTail same (by simp) (by simp) listed.next_tail
              obtain ⟨rounds, front', rest', counts, sameAfter, split, listed', left⟩ :=
                ih moved ran
              refine ⟨rounds + 1, front', rest', ?_, same.trans sameAfter, by simpa using split,
                listed', ?_⟩
              · simp only [if_true, counts, except_ok_bind, except_pure]
              · simp only [List.length_cons] at left ⊢
                omega

theorem shiftTail_length_le {s s' : State bufsiz} {front rest : Nodes bufsiz}
    (listed : Listed s front rest) (ran : shiftTail s = .ok s') :
    ∃ front' rest', front' ++ rest' = front ++ rest ∧ Listed s' front' rest' ∧
      rest'.length ≤ rest.length := by
  obtain ⟨tail, back, rfl⟩ := List.exists_cons_of_ne_nil listed.nonempty
  simp only [shiftTail, listed.load_tail, except_ok_bind] at ran
  split at ran
  · next shifted =>
    cases Except.ok.inj ran
    have more : back ≠ [] := by
      rintro rfl
      exact shifted.2 listed.next_tail
    have same := (SameList.passLines s tail.2 tail.2.next).trans (.setOffset _ 0)
    exact ⟨front ++ [tail], back, by simp,
      listed.moveTail same (by simp) more listed.next_tail, Nat.le_succ _⟩
  · cases Except.ok.inj ran
    exact ⟨front, _, rfl, listed, Nat.le_refl _⟩

/-- The loop over buffers, the new offset and the shift at the end. -/
theorem Listed.settle {unneeded : State bufsiz → LineBuffer bufsiz → Bool}
    {pass : State bufsiz → LineBuffer bufsiz → State bufsiz}
    (passes : ∀ s tail next, SameList s { pass s tail with tailBuffer := next })
    {fuel : Nat} {s skipped s' : State bufsiz} {front rest : Nodes bufsiz} {offset : UInt64}
    (listed : Listed s front rest) (skips : skipUnneeded unneeded pass fuel s = .ok skipped)
    (shifts : shiftTail { skipped with tailOffset := offset } = .ok s') :
    ∃ rounds front' rest', skipRounds unneeded pass fuel s = .ok rounds ∧
      front' ++ rest' = front ++ rest ∧ Listed s' front' rest' ∧
      rounds + rest'.length ≤ rest.length := by
  obtain ⟨rounds, front₁, rest₁, counts, _, split₁, listed₁, left⟩ :=
    skipRounds_listed passes listed skips
  have settled := listed₁.same (.setOffset skipped offset) rfl
  obtain ⟨front', rest', split, listed', fewer⟩ := shiftTail_length_le settled shifts
  exact ⟨rounds, front', rest', counts, split.trans split₁, listed', by omega⟩

/-- What the rounds still to come may cost: a buffer's size for each buffer from the tail on, and
the bytes of the last one. -/
def pending (rest : Nodes bufsiz) : Nat :=
  bufsiz * rest.length + rest.getLast?.elim 0 fun final => final.2.nbytes.toNat

/-- The second loop is not amortised: short appends pass the same newlines again. -/
example : ({ sampleExecution with steps := List.replicate 3 ([newline], none) } :
    Execution 4).rounds ⟨true, 0⟩ = .ok ⟨0, 6⟩ := by
  decide

end Tailserver.Buffer
