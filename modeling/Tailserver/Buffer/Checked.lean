import Tailserver.Buffer.Execution

/-! The functions of the buffer with an assertion in front of every subtraction on
its counters. No history of appends makes one of them fail, so none wraps, and the
list is what the source takes it for. -/

set_option autoImplicit false

namespace Tailserver.Buffer

open CMemory

variable {bufsiz : Nat}

/-- A subtraction that must not wrap. -/
def subtract (minuend subtrahend : UInt64) : Except Fault UInt64 :=
  if subtrahend ≤ minuend then .ok (minuend - subtrahend) else .error .assertionFailed

/-! ## Checked functions -/

def skipUnneededChecked (unneeded : State bufsiz → LineBuffer bufsiz → Except Fault Bool)
    (pass : State bufsiz → LineBuffer bufsiz → State bufsiz) :
    Nat → State bufsiz → Except Fault (State bufsiz)
  | 0, _ => .error .diverged
  | fuel + 1, s => do
      let tail ← load s.heap s.tailBuffer
      if ← unneeded s tail then
        skipUnneededChecked unneeded pass fuel { pass s tail with tailBuffer := tail.next }
      else return s

def linesUnneededChecked (nLines : UInt64) (s : State bufsiz) (tail : LineBuffer bufsiz) :
    Except Fault Bool := do
  let lines ← subtract s.totalLines s.linesUpToTailBuffer
  let lines ← subtract lines tail.nlines
  return lines > nLines

def keepTrackOfTailLinesChecked (nLines : UInt64) (s : State bufsiz) :
    Except Fault (State bufsiz) := do
  let s ← skipUnneededChecked (linesUnneededChecked nLines) passLines (blockCount s.heap) s
  let tail ← load s.heap s.tailBuffer
  let lines ← subtract s.totalLines s.linesUpToTailBuffer
  if lines > nLines then
    let region ← tail.buffer.read 0 tail.nbytes.toNat
    let count ← subtract lines nLines
    let beg ← skipNewlines count.toNat region
    return { s with tailOffset := UInt64.ofNat beg }
  else return { s with tailOffset := 0 }

def bytesUnneededChecked (nBytes : UInt64) (s : State bufsiz) (tail : LineBuffer bufsiz) :
    Except Fault Bool := do
  let bytes ← subtract s.totalBytes s.bytesUpToTailBuffer
  let bytes ← subtract bytes tail.nbytes
  return bytes > nBytes

def keepTrackOfTailBytesChecked (nBytes : UInt64) (s : State bufsiz) :
    Except Fault (State bufsiz) := do
  let s ← skipUnneededChecked (bytesUnneededChecked nBytes) passBytes (blockCount s.heap) s
  let bytes ← subtract s.totalBytes s.bytesUpToTailBuffer
  if bytes > nBytes then
    let offset ← subtract bytes nBytes
    return { s with tailOffset := offset }
  else return { s with tailOffset := 0 }

def keepTrackOfTailChecked (config : Config) (s : State bufsiz) :
    Except Fault (State bufsiz) := do
  let s ← (if config.countLines then keepTrackOfTailLinesChecked config.nUnits s
    else keepTrackOfTailBytesChecked config.nUnits s)
  shiftTail s

def firstBufferDroppableChecked (config : Config) (s : State bufsiz)
    (first : LineBuffer bufsiz) : Except Fault Bool := do
  if config.countLines then
    let lines ← subtract s.totalLines first.nlines
    return lines > config.nUnits
  else
    let bytes ← subtract s.totalBytes first.nbytes
    return bytes > config.nUnits

/-- Lines are only tracked in line mode. -/
def subtractLines (config : Config) (minuend subtrahend : UInt64) : Except Fault UInt64 :=
  if config.countLines then subtract minuend subtrahend else .ok (minuend - subtrahend)

def dropFirstChecked (config : Config) (s : State bufsiz) : Except Fault (State bufsiz) :=
  if s.first = s.tailBuffer then .error .assertionFailed
  else do
    let first ← load s.heap s.first
    let totalBytes ← subtract s.totalBytes first.nbytes
    let totalLines ← subtractLines config s.totalLines first.nlines
    let bytesUpToTailBuffer ← subtract s.bytesUpToTailBuffer first.nbytes
    let linesUpToTailBuffer ← subtractLines config s.linesUpToTailBuffer first.nlines
    return { s with
      append := s.first
      totalBytes
      totalLines
      bytesUpToTailBuffer
      linesUpToTailBuffer
      first := first.next }

def replaceAppendChecked (config : Config) (s : State bufsiz)
    (fresh : Allocation (LineBuffer bufsiz)) :
    Except Fault (Bool × State bufsiz) := do
  let first ← load s.heap s.first
  if ← firstBufferDroppableChecked config s first then
    let s ← dropFirstChecked config s
    let s ← renewAppend s
    return (true, s)
  else
    let (heap, append) := allocate s.heap fresh
    if append = none then return (false, { s with heap, append })
    let s ← renewAppend { s with heap, append }
    return (true, s)

def bufferSetAppendedChecked (config : Config) (s : State bufsiz) (size : UInt64)
    (fresh : Allocation (LineBuffer bufsiz)) :
    Except Fault (Bool × State bufsiz) := do
  if size = 0 then return (true, s)
  let s ← commitAppended config s size
  if ← fitsLast s then
    let s ← mergeAppended s
    let s ← keepTrackOfTailChecked config s
    let s ← resetAppend s
    return (true, s)
  else
    let s ← linkAppended s
    let s ← keepTrackOfTailChecked config s
    replaceAppendChecked config s fresh

def bufferAppendChecked (config : Config) (s : State bufsiz) (bytes : List UInt8)
    (fresh : Allocation (LineBuffer bufsiz)) :
    Except Fault (Bool × State bufsiz) := do
  let s ← placeBytes s (bufferEnd s) bytes
  bufferSetAppendedChecked config s (UInt64.ofNat bytes.length) fresh

def bufferTailSizeChecked (s : State bufsiz) : Except Fault UInt64 := do
  let bytes ← subtract s.totalBytes s.bytesUpToTailBuffer
  subtract bytes s.tailOffset

def appendAllChecked (config : Config) :
    State bufsiz → List (Step bufsiz) → Except Fault (Bool × State bufsiz)
  | s, [] => .ok (true, s)
  | s, (bytes, fresh) :: steps => do
      let (continues, s) ← bufferAppendChecked config s bytes fresh
      if continues then appendAllChecked config s steps else return (false, s)

def Execution.runChecked (config : Config) (execution : Execution bufsiz) :
    Except Fault (Bool × State bufsiz) := do
  let (continues, s) ← execution.init
  if continues then appendAllChecked config s execution.steps else return (false, s)

/-! ## No subtraction wraps -/

theorem subtract_of_le {minuend subtrahend : UInt64}
    (ordered : subtrahend.toNat ≤ minuend.toNat) :
    subtract minuend subtrahend = .ok (minuend - subtrahend) :=
  if_pos (UInt64.le_iff_toNat_le.mpr ordered)

/-- A checked loop goes the same way as long as its checks hold. -/
theorem skipUnneededChecked_eq
    {checked : State bufsiz → LineBuffer bufsiz → Except Fault Bool}
    {unneeded : State bufsiz → LineBuffer bufsiz → Bool}
    {pass : State bufsiz → LineBuffer bufsiz → State bufsiz}
    (passes : ∀ s tail next, SameList s { pass s tail with tailBuffer := next })
    (invariant : Nodes bufsiz → State bufsiz → Prop) {nodes : Nodes bufsiz}
    (checks : ∀ front tail back s, front ++ tail :: back = nodes →
      Listed s front (tail :: back) → invariant front s →
      checked s tail.2 = .ok (unneeded s tail.2))
    (next : ∀ front tail back s, front ++ tail :: back = nodes →
      Listed s front (tail :: back) → invariant front s → unneeded s tail.2 = true →
      back ≠ [] ∧ invariant (front ++ [tail])
        { pass s tail.2 with tailBuffer := tail.2.next })
    (fuel : Nat) {s : State bufsiz} {front rest : Nodes bufsiz}
    (split : front ++ rest = nodes) (listed : Listed s front rest)
    (start : invariant front s) :
    skipUnneededChecked checked pass fuel s = skipUnneeded unneeded pass fuel s := by
  induction fuel generalizing s front rest with
  | zero => rfl
  | succ fuel ih =>
      obtain ⟨tail, back, rfl⟩ := List.exists_cons_of_ne_nil listed.nonempty
      simp only [skipUnneededChecked, skipUnneeded, listed.load_tail, except_ok_bind,
        checks front tail back s split listed start]
      split
      · next decision =>
        obtain ⟨more, preserved⟩ := next front tail back s split listed start decision
        exact ih (by simpa using split)
          (listed.moveTail (passes s tail.2 tail.2.next) (by simp) more listed.next_tail)
          preserved
      · rfl

section Checks

variable {config : Config} {s : State bufsiz} {front back rest : Nodes bufsiz}
  {tail : Nat × LineBuffer bufsiz} {text : List UInt8}

theorem Counted.linesUnneededChecked_eq
    (counted : Counted config s (front ++ tail :: back) front)
    (mode : config.countLines = true) (nLines : UInt64) :
    linesUnneededChecked nLines s tail.2 = .ok (linesUnneeded nLines s tail.2) := by
  have total := counted.totalLines mode
  have upTo := counted.linesUpTo mode
  have held := counted.nlines mode tail (by simp)
  simp only [Nodes.text_append, Nodes.text_cons, List.count_append] at total
  have behind := Word.toNat_sub_of_le (show s.linesUpToTailBuffer.toNat ≤ s.totalLines.toNat by
    omega)
  simp only [linesUnneededChecked, subtract_of_le (show s.linesUpToTailBuffer.toNat ≤
    s.totalLines.toNat by omega), except_ok_bind]
  rw [subtract_of_le (by omega)]
  rfl

theorem Counted.bytesUnneededChecked_eq
    (counted : Counted config s (front ++ tail :: back) front)
    (listed : Listed s front (tail :: back)) (nBytes : UInt64) :
    bytesUnneededChecked nBytes s tail.2 = .ok (bytesUnneeded nBytes s tail.2) := by
  have total := counted.totalBytes
  have upTo := counted.bytesUpTo
  have held : tail.2.data.length = tail.2.nbytes.toNat := listed.length_data (by simp)
  simp only [Nodes.text_append, Nodes.text_cons, List.length_append] at total
  have behind := Word.toNat_sub_of_le (show s.bytesUpToTailBuffer.toNat ≤ s.totalBytes.toNat by
    omega)
  simp only [bytesUnneededChecked, subtract_of_le (show s.bytesUpToTailBuffer.toNat ≤
    s.totalBytes.toNat by omega), except_ok_bind]
  rw [subtract_of_le (by omega)]
  rfl

theorem Reached.keepTrackOfTailLinesChecked_eq (reached : Reached config (front ++ rest) front s)
    (mode : config.countLines = true) (listed : Listed s front rest) :
    keepTrackOfTailLinesChecked config.nUnits s = keepTrackOfTailLines config.nUnits s := by
  have loops := skipUnneededChecked_eq (skips_lines mode).same (Reached config (front ++ rest))
    (fun before node after state split _ reached => by
      rw [← split] at reached
      exact reached.counted.linesUnneededChecked_eq mode config.nUnits)
    (fun _ _ _ _ => (skips_lines mode).next)
    (blockCount s.heap) rfl listed reached
  obtain ⟨s', front', tail, back, ran, _, split, listed', reached', _⟩ :=
    (skips_lines mode).total listed reached
  have counted := reached'.counted
  rw [← split] at counted
  have total := counted.totalLines mode
  have upTo := counted.linesUpTo mode
  simp only [Nodes.text_append, List.count_append] at total
  simp only [keepTrackOfTailLinesChecked, keepTrackOfTailLines, loops, ran, except_ok_bind,
    listed'.load_tail, subtract_of_le (show s'.linesUpToTailBuffer.toNat ≤ s'.totalLines.toNat by
      omega)]
  split
  · next more =>
    rw [gt_iff_lt, UInt64.lt_iff_toNat_lt] at more
    simp only [subtract_of_le more.le, except_ok_bind]
  · rfl

theorem Reached.keepTrackOfTailBytesChecked_eq (reached : Reached config (front ++ rest) front s)
    (mode : config.countLines = false) (listed : Listed s front rest) :
    keepTrackOfTailBytesChecked config.nUnits s = keepTrackOfTailBytes config.nUnits s := by
  have loops := skipUnneededChecked_eq (skips_bytes mode).same (Reached config (front ++ rest))
    (fun before node after state split listed reached => by
      rw [← split] at reached
      exact reached.counted.bytesUnneededChecked_eq listed config.nUnits)
    (fun _ _ _ _ => (skips_bytes mode).next)
    (blockCount s.heap) rfl listed reached
  obtain ⟨s', front', tail, back, ran, _, split, listed', reached', _⟩ :=
    (skips_bytes mode).total listed reached
  have counted := reached'.counted
  rw [← split] at counted
  have total := counted.totalBytes
  have upTo := counted.bytesUpTo
  simp only [Nodes.text_append, List.length_append] at total
  simp only [keepTrackOfTailBytesChecked, keepTrackOfTailBytes, loops, ran, except_ok_bind,
    subtract_of_le (show s'.bytesUpToTailBuffer.toNat ≤ s'.totalBytes.toNat by omega)]
  split
  · next more =>
    rw [gt_iff_lt, UInt64.lt_iff_toNat_lt] at more
    simp only [subtract_of_le more.le, except_ok_bind, except_pure]
  · rfl

theorem Reached.keepTrackOfTailChecked_eq (reached : Reached config (front ++ rest) front s)
    (listed : Listed s front rest) :
    keepTrackOfTailChecked config s = keepTrackOfTail config s := by
  cases mode : config.countLines with
  | true =>
      simp only [keepTrackOfTailChecked, keepTrackOfTail, mode, if_true,
        reached.keepTrackOfTailLinesChecked_eq mode listed]
  | false =>
      simp only [keepTrackOfTailChecked, keepTrackOfTail, mode, Bool.false_eq_true, if_false,
        reached.keepTrackOfTailBytesChecked_eq mode listed]

theorem Holds.firstBufferDroppableChecked_eq {head : Nat × LineBuffer bufsiz}
    {others : Nodes bufsiz} (holds : Holds config s front tail back text)
    (listed : Listed s front (tail :: back)) (split : front ++ tail :: back = head :: others) :
    firstBufferDroppableChecked config s head.2 =
      .ok (firstBufferDroppable config s head.2) := by
  have counted := holds.positioned.counted
  have held : head.2.data.length = head.2.nbytes.toNat := listed.length_data (by simp [split])
  rw [split] at counted
  cases mode : config.countLines with
  | true =>
      have total := counted.totalLines mode
      have lines := counted.nlines mode head (.head _)
      rw [Nodes.text_cons, List.count_append] at total
      simp only [firstBufferDroppableChecked, firstBufferDroppable, mode, if_true,
        subtract_of_le (show head.2.nlines.toNat ≤ s.totalLines.toNat by omega),
        except_ok_bind, except_pure]
  | false =>
      have total := counted.totalBytes
      rw [Nodes.text_cons, List.length_append] at total
      simp only [firstBufferDroppableChecked, firstBufferDroppable, mode, Bool.false_eq_true,
        if_false, subtract_of_le (show head.2.nbytes.toNat ≤ s.totalBytes.toNat by omega),
        except_ok_bind, except_pure]

theorem subtractLines_eq {minuend subtrahend : UInt64}
    (ordered : config.countLines = true → subtrahend.toNat ≤ minuend.toNat) :
    subtractLines config minuend subtrahend = .ok (minuend - subtrahend) := by
  cases mode : config.countLines with
  | true => simp only [subtractLines, mode, if_true, subtract_of_le (ordered mode)]
  | false => simp only [subtractLines, mode, Bool.false_eq_true, if_false]

theorem Holds.dropFirstChecked_eq (holds : Holds config s front tail back text)
    (listed : Listed s front (tail :: back)) :
    dropFirstChecked config s = dropFirst s := by
  unfold dropFirstChecked dropFirst
  split
  · rfl
  · next different =>
    cases front with
    | nil => exact absurd (listed.chain.1.trans listed.tailBuffer.symm) different
    | cons head front =>
        have loaded : load s.heap s.first = .ok head.2 := by
          rw [listed.chain.1]
          exact load_of_lookup listed.chain.2.1
        have counted := holds.positioned.counted
        have held : head.2.data.length = head.2.nbytes.toNat := listed.length_data (by simp)
        have totalBytes := counted.totalBytes
        have bytesUpTo := counted.bytesUpTo
        simp only [List.cons_append, Nodes.text_cons, List.length_append] at totalBytes bytesUpTo
        have totalLines : config.countLines = true →
            head.2.nlines.toNat ≤ s.totalLines.toNat := by
          intro mode
          have total := counted.totalLines mode
          have lines := counted.nlines mode head (.head _)
          simp only [List.cons_append, Nodes.text_cons, List.count_append] at total
          omega
        have linesUpTo : config.countLines = true →
            head.2.nlines.toNat ≤ s.linesUpToTailBuffer.toNat := by
          intro mode
          have upTo := counted.linesUpTo mode
          have lines := counted.nlines mode head (.head _)
          simp only [Nodes.text_cons, List.count_append] at upTo
          omega
        simp only [loaded, except_ok_bind, subtractLines_eq totalLines,
          subtractLines_eq linesUpTo,
          subtract_of_le (show head.2.nbytes.toNat ≤ s.totalBytes.toNat by omega),
          subtract_of_le (show head.2.nbytes.toNat ≤ s.bytesUpToTailBuffer.toNat by omega)]

theorem Holds.replaceAppendChecked_eq (holds : Holds config s front tail back text)
    (listed : Listed s front (tail :: back)) (fresh : Allocation (LineBuffer bufsiz)) :
    replaceAppendChecked config s fresh = replaceAppend config s fresh := by
  obtain ⟨head, others, split⟩ : ∃ head others, front ++ tail :: back = head :: others :=
    List.exists_cons_of_ne_nil (by simp)
  have chain := listed.chain
  rw [split] at chain
  have loaded : load s.heap s.first = .ok head.2 := by
    rw [chain.1]
    exact load_of_lookup chain.2.1
  simp only [replaceAppendChecked, replaceAppend, loaded, except_ok_bind,
    holds.firstBufferDroppableChecked_eq listed split, holds.dropFirstChecked_eq listed]

theorem Holds.bufferTailSizeChecked_eq (holds : Holds config s front tail back text)
    (listed : Listed s front (tail :: back)) :
    bufferTailSizeChecked s = .ok (Buffer.bufferTailSize s) := by
  have total := holds.positioned.counted.totalBytes
  have upTo := holds.positioned.counted.bytesUpTo
  have within := holds.within
  have held : tail.2.data.length = tail.2.nbytes.toNat := listed.length_data (by simp)
  simp only [Nodes.text_append, Nodes.text_cons, List.length_append] at total
  have behind := Word.toNat_sub_of_le (show s.bytesUpToTailBuffer.toNat ≤ s.totalBytes.toNat by
    omega)
  simp only [bufferTailSizeChecked, subtract_of_le (show s.bytesUpToTailBuffer.toNat ≤
    s.totalBytes.toNat by omega), except_ok_bind]
  rw [subtract_of_le (by omega)]
  rfl

/-! ## Appends -/

/-- No append to a ready buffer fails a check. -/
theorem Ready.bufferAppendChecked_eq {bytes : List UInt8} (ready : Ready config s text)
    (fits : bytes.length ≤ bufsiz) (fresh : Allocation (LineBuffer bufsiz)) :
    bufferAppendChecked config s bytes fresh = bufferAppend config s bytes fresh := by
  by_cases empty : bytes = []
  · subst empty
    rfl
  obtain ⟨spare, front, tail, back, linked, holds, clean⟩ := ready
  obtain ⟨buffer, placed, filled, commits⟩ := linked.commits config empty fits
  have fills := clean.fills linked.bufsiz_lt fits filled
  generalize committedNode config (filledNode spare.2 buffer) bytes = node at commits fills
  have commit := commits.linked
  obtain ⟨init, final, split, last, _⟩ := commit.exists_last
  rw [split] at commit
  have decides := commit.fitsLast last commits.fits
  simp only [bufferAppendChecked, bufferSetAppendedChecked, bufferAppend, bufferSetAppended,
    commits.places, except_ok_bind, if_neg commits.proper, commits.commits, decides]
  split
  · next room =>
    obtain ⟨target, data, merges⟩ := commit.mergeAppended last (of_decide_eq_true room)
    have merged := commit.merged (of_decide_eq_true room) target
    have grows := merged.merged_extends empty fills data
    rw [← split] at grows
    simp only [merges, except_ok_bind,
      (holds.reached merged.toListed grows fills).keepTrackOfTailChecked_eq merged.toListed]
  · have owner := commit.linked commits.fits
    have grows := linked_extends s spare.1 front init final empty fills
    rw [← split] at grows
    have reached := holds.reached owner.toListed grows fills
    obtain ⟨tracked, _, _, _, ran, _, _, listed, holds'⟩ :=
      holds.keepTrackOfTail owner.toListed grows fills
    simp only [commit.linkAppended last, except_ok_bind]
    rw [reached.keepTrackOfTailChecked_eq owner.toListed]
    simp only [ran, except_ok_bind, holds'.replaceAppendChecked_eq listed]

theorem Ready.appendAllChecked_eq {steps : List (Step bufsiz)} (ready : Ready config s text)
    (fits : ∀ step ∈ steps, step.1.length ≤ bufsiz) (supplied : Supplied config s steps) :
    appendAllChecked config s steps = Buffer.appendAll config s steps := by
  induction steps generalizing s text with
  | nil => rfl
  | cons step steps ih =>
      obtain ⟨bytes, fresh⟩ := step
      obtain ⟨granted, sound, supplied⟩ := supplied
      have within := fits _ (.head _)
      obtain ⟨s₁, ran, ready₁⟩ := ready.append_granted within granted sound
      simp only [appendAllChecked, Buffer.appendAll, ready.bufferAppendChecked_eq within fresh, ran,
        except_ok_bind, if_true]
      exact ih ready₁ (fun step member => fits step (.tail _ member)) (supplied _ ran)

end Checks

/-- The list as the source takes it: it ends with `last`, the tail starts in it, and
the spare block is not in it. -/
structure Intact (s : State bufsiz) (nodes : Nodes bufsiz) : Prop where
  chain : Chain LineBuffer.next s.heap s.first nodes none
  nodup : (nodes.map Prod.fst).Nodup
  last : ∃ final, nodes.getLast? = some final ∧ s.last = some final.1
  tail : ∃ node ∈ nodes, s.tailBuffer = some node.1 ∧ s.tailOffset ≤ node.2.nbytes
  append : ∃ block, s.append = some block ∧ block ∉ nodes.map Prod.fst

theorem Linked.intact {config : Config} {s : State bufsiz} {spare tail : Nat × LineBuffer bufsiz}
    {front back : Nodes bufsiz} {text : List UInt8} (linked : Linked s spare front (tail :: back))
    (holds : Holds config s front tail back text) : Intact s (front ++ tail :: back) := by
  obtain ⟨init, final, split, last, _⟩ := linked.exists_last
  refine ⟨linked.chain, linked.nodup, ⟨final, ?_, last⟩,
    ⟨tail, by simp, linked.tailBuffer, UInt64.le_iff_toNat_le.mpr holds.within⟩,
    ⟨spare.1, linked.append, linked.spare_notMem⟩⟩
  rw [split, ← List.append_assoc, List.getLast?_concat]

theorem Ready.intact {config : Config} {s : State bufsiz} {text : List UInt8}
    (ready : Ready config s text) : ∃ nodes, Intact s nodes := by
  obtain ⟨_, _, _, _, linked, holds, _⟩ := ready
  exact ⟨_, linked.intact holds⟩

theorem Ready.bufferTailSizeChecked_eq {config : Config} {s : State bufsiz} {text : List UInt8}
    (ready : Ready config s text) : bufferTailSizeChecked s = .ok (Buffer.bufferTailSize s) := by
  obtain ⟨_, _, _, _, linked, holds, _⟩ := ready
  exact holds.bufferTailSizeChecked_eq linked.toListed

/-- After any appends: no check has failed, nothing was read or written outside a
block, and the list is intact. -/
theorem checked_of_execution (config : Config) (execution : Execution bufsiz)
    (supplied : execution.Supplied config) (zeroed : execution.Zeroed)
    (fits : ∀ step ∈ execution.steps, step.1.length ≤ bufsiz) :
    ∃ s, execution.run config = .ok (true, s) ∧
      execution.runChecked config = .ok (true, s) ∧
      bufferTailSizeChecked s = .ok (bufferTailSize s) ∧ ∃ nodes, Intact s nodes := by
  have ready := supplied.ready (fun _ => zeroed)
  have steps := supplied.steps _ supplied.init
  obtain ⟨s, ran, ready'⟩ := ready.appendAll fits steps
  refine ⟨s, supplied.run_eq.trans ran, ?_, ready'.bufferTailSizeChecked_eq, ready'.intact⟩
  simp only [Execution.runChecked, supplied.init, except_ok_bind, if_true,
    ready.appendAllChecked_eq fits steps, ran]

theorem checked_of_sampleExecution :
    ∃ s, sampleExecution.run ⟨false, 3⟩ = .ok (true, s) ∧
      sampleExecution.runChecked ⟨false, 3⟩ = .ok (true, s) ∧
      bufferTailSizeChecked s = .ok (bufferTailSize s) ∧ ∃ nodes, Intact s nodes :=
  checked_of_execution ⟨false, 3⟩ sampleExecution (by decide) rfl (by decide)

end Tailserver.Buffer
