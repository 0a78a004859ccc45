import Tailserver.Buffer.Append
import Tailserver.Buffer.RequiredTail

/-! The counters of the buffer against the bytes of its list, and the position of
the tail. None of the counters wraps, because the bytes they count are all in
memory at once. -/

set_option autoImplicit false

namespace Tailserver.Buffer

open CMemory

variable {bufsiz : Nat}

/-- The counters agree with the bytes of the list `nodes`, of which the buffers
`front` precede the tail. Lines are counted in line mode only. -/
structure Counted (config : Config) (s : State bufsiz) (nodes front : Nodes bufsiz) :
    Prop where
  totalBytes : s.totalBytes.toNat = (Nodes.text nodes).length
  bytesUpTo : s.bytesUpToTailBuffer.toNat = (Nodes.text front).length
  totalLines : config.countLines = true →
    s.totalLines.toNat = (Nodes.text nodes).count newline
  linesUpTo : config.countLines = true →
    s.linesUpToTailBuffer.toNat = (Nodes.text front).count newline
  nlines : config.countLines = true →
    ∀ node ∈ nodes, node.2.nlines.toNat = node.2.data.count newline

/-- Where the required tail starts among the bytes of the list. -/
def startOf (config : Config) (nodes : Nodes bufsiz) : Nat :=
  Units.lastStart (unitEnds config) config.nUnits.toNat (Nodes.text nodes)

@[simp] theorem Nodes.text_nil : Nodes.text ([] : Nodes bufsiz) = [] := rfl

@[simp] theorem Nodes.text_cons (node : Nat × LineBuffer bufsiz) (nodes : Nodes bufsiz) :
    Nodes.text (node :: nodes) = node.2.data ++ Nodes.text nodes := rfl

@[simp] theorem Nodes.text_append (front back : Nodes bufsiz) :
    Nodes.text (front ++ back) = Nodes.text front ++ Nodes.text back := by
  simp [Nodes.text]

theorem LineBuffer.length_data {node : LineBuffer bufsiz}
    (fits : node.nbytes.toNat ≤ bufsiz) : node.data.length = node.nbytes.toNat := by
  simp only [LineBuffer.data, List.length_take, node.buffer.property]
  omega

theorem Listed.length_data {s : State bufsiz} {front rest : Nodes bufsiz}
    (listed : Listed s front rest) {node : Nat × LineBuffer bufsiz}
    (member : node ∈ front ++ rest) : node.2.data.length = node.2.nbytes.toNat :=
  LineBuffer.length_data (listed.fits node member)

theorem Nodes.length_text_le {nodes : Nodes bufsiz}
    (fits : ∀ node ∈ nodes, node.2.nbytes.toNat ≤ bufsiz) :
    (Nodes.text nodes).length ≤ nodes.length * bufsiz := by
  induction nodes with
  | nil => simp
  | cons head rest ih =>
      have rest_le := ih fun node member => fits node (.tail _ member)
      have head_le := fits head (.head _)
      simp only [Nodes.text_cons, List.length_append, List.length_cons,
        LineBuffer.length_data head_le, Nat.succ_mul]
      omega

/-- All bytes of the list are in memory at once. -/
theorem Listed.length_text_lt {s : State bufsiz} {front rest : Nodes bufsiz}
    (listed : Listed s front rest) :
    (Nodes.text (front ++ rest)).length + 24 ≤ addressSpace := by
  have bytes := Nodes.length_text_le listed.fits
  have blocks := Nat.mul_le_mul_right bufsiz listed.length_le
  have one : 1 ≤ (front ++ rest).length :=
    List.length_pos_iff.mpr (by simp [listed.nonempty])
  have counted := Nat.le_trans one listed.length_le
  have room := listed.room
  simp only [sizeofLineBuffer, Nat.mul_add] at room
  omega

theorem Listed.small {s : State bufsiz} {front rest : Nodes bufsiz}
    (listed : Listed s front rest) : (Nodes.text (front ++ rest)).length < 2 ^ 64 := by
  have bounded := listed.length_text_lt
  simp only [addressSpace] at bounded
  omega

theorem Counted.sameList {config : Config} {s s' : State bufsiz}
    {nodes front : Nodes bufsiz} (counted : Counted config s nodes front)
    (same : SameList s s')
    (bytesUpTo : s'.bytesUpToTailBuffer = s.bytesUpToTailBuffer)
    (linesUpTo : s'.linesUpToTailBuffer = s.linesUpToTailBuffer) :
    Counted config s' nodes front where
  totalBytes := by rw [same.totalBytes]; exact counted.totalBytes
  bytesUpTo := by rw [bytesUpTo]; exact counted.bytesUpTo
  totalLines := by rw [same.totalLines]; exact counted.totalLines
  linesUpTo := by rw [linesUpTo]; exact counted.linesUpTo
  nlines := counted.nlines

/-- Passing a buffer adds what it holds to the counters. -/
theorem Counted.pass {config : Config} {s s' : State bufsiz} {front back : Nodes bufsiz}
    {tail : Nat × LineBuffer bufsiz}
    (counted : Counted config s (front ++ tail :: back) front)
    (listed : Listed s front (tail :: back)) (same : SameList s s')
    (bytesUpTo : s'.bytesUpToTailBuffer = s.bytesUpToTailBuffer + tail.2.nbytes)
    (linesUpTo : config.countLines = true →
      s'.linesUpToTailBuffer = s.linesUpToTailBuffer + tail.2.nlines) :
    Counted config s' (front ++ tail :: back) (front ++ [tail]) where
  totalBytes := by rw [same.totalBytes]; exact counted.totalBytes
  bytesUpTo := by
    have small := listed.small
    have held : tail.2.data.length = tail.2.nbytes.toNat := listed.length_data (by simp)
    have before := counted.bytesUpTo
    simp only [Nodes.text_append, Nodes.text_cons, List.length_append] at small
    rw [bytesUpTo, Word.toNat_add_of_lt (by omega)]
    simp only [Nodes.text_append, Nodes.text_cons, Nodes.text_nil, List.append_nil,
      List.length_append]
    omega
  totalLines := by rw [same.totalLines]; exact counted.totalLines
  linesUpTo := by
    intro mode
    have small := listed.small
    have held := counted.nlines mode tail (by simp)
    have before := counted.linesUpTo mode
    have front_le := List.count_le_length (a := newline) (l := Nodes.text front)
    have tail_le := List.count_le_length (a := newline) (l := tail.2.data)
    simp only [Nodes.text_append, Nodes.text_cons, List.length_append] at small
    rw [linesUpTo mode, Word.toNat_add_of_lt (by omega)]
    simp only [Nodes.text_append, Nodes.text_cons, Nodes.text_nil, List.append_nil,
      List.count_append]
    omega
  nlines := counted.nlines

/-! ## The first needed buffer -/

/-- What the test of the skipping loop means: more than `n_units` newlines follow. -/
theorem Counted.linesUnneeded_iff {config : Config} {s : State bufsiz}
    {front back : Nodes bufsiz} {tail : Nat × LineBuffer bufsiz}
    (counted : Counted config s (front ++ tail :: back) front)
    (mode : config.countLines = true) :
    linesUnneeded config.nUnits s tail.2 = true ↔
      config.nUnits.toNat < (Nodes.text back).count newline := by
  have total := counted.totalLines mode
  have upTo := counted.linesUpTo mode
  have held := counted.nlines mode tail (by simp)
  simp only [Nodes.text_append, Nodes.text_cons, List.count_append] at total
  have first : (s.totalLines - s.linesUpToTailBuffer).toNat =
      tail.2.data.count newline + (Nodes.text back).count newline := by
    rw [Word.toNat_sub_of_le (by omega)]
    omega
  have second : (s.totalLines - s.linesUpToTailBuffer - tail.2.nlines).toNat =
      (Nodes.text back).count newline := by
    rw [Word.toNat_sub_of_le (by omega)]
    omega
  rw [linesUnneeded, decide_eq_true_iff, gt_iff_lt, UInt64.lt_iff_toNat_lt, second]

/-- More than `n_units` bytes follow. -/
theorem Counted.bytesUnneeded_iff {config : Config} {s : State bufsiz}
    {front back : Nodes bufsiz} {tail : Nat × LineBuffer bufsiz}
    (counted : Counted config s (front ++ tail :: back) front)
    (listed : Listed s front (tail :: back)) :
    bytesUnneeded config.nUnits s tail.2 = true ↔
      config.nUnits.toNat < (Nodes.text back).length := by
  have total := counted.totalBytes
  have upTo := counted.bytesUpTo
  have held : tail.2.data.length = tail.2.nbytes.toNat := listed.length_data (by simp)
  simp only [Nodes.text_append, Nodes.text_cons, List.length_append] at total
  have first : (s.totalBytes - s.bytesUpToTailBuffer).toNat =
      tail.2.data.length + (Nodes.text back).length := by
    rw [Word.toNat_sub_of_le (by omega)]
    omega
  have second : (s.totalBytes - s.bytesUpToTailBuffer - tail.2.nbytes).toNat =
      (Nodes.text back).length := by
    rw [Word.toNat_sub_of_le (by omega)]
    omega
  rw [bytesUnneeded, decide_eq_true_iff, gt_iff_lt, UInt64.lt_iff_toNat_lt, second]

/-- The loop invariant: the counters are right and the tail starts no earlier. -/
structure Reached (config : Config) (nodes front : Nodes bufsiz) (s : State bufsiz) :
    Prop where
  counted : Counted config s nodes front
  start : (Nodes.text front).length ≤ startOf config nodes

/-- The skipping loop of either mode: a buffer is passed over when more than `n_units`
units follow it, and what it holds is added to the counters. -/
structure Skips (config : Config) (unneeded : State bufsiz → LineBuffer bufsiz → Bool)
    (pass : State bufsiz → LineBuffer bufsiz → State bufsiz) : Prop where
  same : ∀ s tail next, SameList s { pass s tail with tailBuffer := next }
  bytesUpTo : ∀ s tail,
    (pass s tail).bytesUpToTailBuffer = s.bytesUpToTailBuffer + tail.nbytes
  linesUpTo : config.countLines = true → ∀ s tail,
    (pass s tail).linesUpToTailBuffer = s.linesUpToTailBuffer + tail.nlines
  unneeded_iff : ∀ s front tail back, Counted config s (front ++ tail :: back) front →
    Listed s front (tail :: back) → (unneeded s tail.2 = true ↔
      config.nUnits.toNat < (Nodes.text back).countP (unitEnds config))

theorem skips_lines {config : Config} (mode : config.countLines = true) :
    Skips config (linesUnneeded config.nUnits) (@passLines bufsiz) where
  same := SameList.passLines
  bytesUpTo _ _ := rfl
  linesUpTo _ _ _ := rfl
  unneeded_iff s front tail back counted _ := by
    rw [countP_unitEnds_lines mode]
    exact counted.linesUnneeded_iff mode

theorem skips_bytes {config : Config} (mode : config.countLines = false) :
    Skips config (bytesUnneeded config.nUnits) (@passBytes bufsiz) where
  same := SameList.passBytes
  bytesUpTo _ _ := rfl
  linesUpTo lines := by simp [mode] at lines
  unneeded_iff s front tail back counted listed := by
    rw [countP_unitEnds_bytes mode]
    exact counted.bytesUnneeded_iff listed

section Skips

variable {config : Config} {unneeded : State bufsiz → LineBuffer bufsiz → Bool}
  {pass : State bufsiz → LineBuffer bufsiz → State bufsiz} {s : State bufsiz}
  {nodes front back rest : Nodes bufsiz} {tail : Nat × LineBuffer bufsiz}

theorem Skips.next (skips : Skips config unneeded pass) (split : front ++ tail :: back = nodes)
    (listed : Listed s front (tail :: back)) (reached : Reached config nodes front s)
    (passed : unneeded s tail.2 = true) :
    back ≠ [] ∧ Reached config nodes (front ++ [tail])
      { pass s tail.2 with tailBuffer := tail.2.next } := by
  subst split
  have many := (skips.unneeded_iff s front tail back reached.counted listed).mp passed
  have counted := reached.counted.pass listed (skips.same s tail.2 tail.2.next)
    (skips.bytesUpTo s tail.2) (fun mode => skips.linesUpTo mode s tail.2)
  refine ⟨?_, counted, ?_⟩
  · rintro rfl
    simp at many
  · have behind := Units.length_le_lastStart many (Nodes.text (front ++ [tail]))
    simpa [startOf] using behind

theorem Skips.total (skips : Skips config unneeded pass) (listed : Listed s front rest)
    (reached : Reached config (front ++ rest) front s) :
    ∃ s' front' tail back,
      skipUnneeded unneeded pass (blockCount s.heap) s = .ok s' ∧
      SameList s s' ∧ front' ++ tail :: back = front ++ rest ∧
      Listed s' front' (tail :: back) ∧ Reached config (front ++ rest) front' s' ∧
      (Nodes.text back).countP (unitEnds config) ≤ config.nUnits.toNat := by
  have enough : rest.length ≤ blockCount s.heap :=
    Nat.le_trans (by simp) listed.length_le
  obtain ⟨s', front', tail, back, ran, same, split, listed', reached', needed⟩ :=
    skipUnneeded_total skips.same (Reached config (front ++ rest))
      (fun _ _ _ _ => skips.next) enough rfl listed reached
  refine ⟨s', front', tail, back, ran, same, split, listed', reached', ?_⟩
  have counted := reached'.counted
  rw [← split] at counted
  refine Nat.not_lt.mp fun many => ?_
  rw [(skips.unneeded_iff s' front' tail back counted listed').mpr many] at needed
  cases needed

/-- Where the tail starts in the first needed buffer. -/
theorem Reached.startOf_eq (reached : Reached config (front ++ tail :: back) front s)
    (few : (Nodes.text back).countP (unitEnds config) ≤ config.nUnits.toNat) :
    startOf config (front ++ tail :: back) = (Nodes.text front).length +
      Units.afterNth (unitEnds config)
        ((tail.2.data ++ Nodes.text back).countP (unitEnds config) - config.nUnits.toNat)
        tail.2.data := by
  have segment := Units.lastStart_of_segment few
    (show (Nodes.text front).length ≤ Units.lastStart (unitEnds config)
      config.nUnits.toNat (Nodes.text front ++ (tail.2.data ++ Nodes.text back)) by
        simpa [startOf] using reached.start)
  simpa [startOf] using segment

end Skips

/-! ## The start of the tail -/

theorem skipNewlines_total {count : Nat} {region : List UInt8}
    (within : count ≤ region.count newline) :
    skipNewlines count region = .ok (Units.afterNth (· == newline) count region) := by
  induction count generalizing region with
  | zero => simp [skipNewlines]
  | succ count ih =>
      simp only [skipNewlines]
      cases searched : memchr region newline with
      | none =>
          rw [List.count_eq_zero.mpr (memchr_eq_none_iff.mp searched)] at within
          omega
      | some found =>
          obtain ⟨front, back, rfl, absent, rfl⟩ := memchr_eq_some searched
          have none_before : front.countP (· == newline) = 0 :=
            List.count_eq_zero.mpr absent
          have dropped : (front ++ newline :: back).drop (front.length + 1) = back := by
            rw [List.drop_append]
            simp
          have fewer : count ≤ back.count newline := by
            rw [List.count_append, List.count_eq_zero.mpr absent, List.count_cons_self]
              at within
            omega
          simp only [dropped, ih fewer, except_ok_bind, except_pure]
          rw [Units.afterNth_append_of_lt (by omega), none_before]
          simp only [Nat.sub_zero, Units.afterNth, beq_self_eq_true, if_true]
          congr 1
          omega

/-- The tail position matches the start of the required tail. -/
structure Positioned (config : Config) (nodes front : Nodes bufsiz) (s : State bufsiz) :
    Prop where
  counted : Counted config s nodes front
  position : (Nodes.text front).length + s.tailOffset.toNat = startOf config nodes

theorem keepTrackOfTailLines_total {config : Config} (mode : config.countLines = true)
    {s : State bufsiz} {front rest : Nodes bufsiz} (listed : Listed s front rest)
    (reached : Reached config (front ++ rest) front s) :
    ∃ s' front' tail back, keepTrackOfTailLines config.nUnits s = .ok s' ∧
      SameList s s' ∧ front' ++ tail :: back = front ++ rest ∧
      Listed s' front' (tail :: back) ∧ Positioned config (front ++ rest) front' s' ∧
      s'.tailOffset.toNat ≤ tail.2.nbytes.toNat := by
  obtain ⟨s', front', tail, back, ran, same, split, listed', reached', few⟩ :=
    (skips_lines mode).total listed reached
  have counted := reached'.counted
  rw [← split] at counted
  have located := (split ▸ reached').startOf_eq few
  rw [countP_unitEnds_lines mode] at located few
  have total := counted.totalLines mode
  have upTo := counted.linesUpTo mode
  simp only [Nodes.text_append, Nodes.text_cons, List.count_append] at total
  have left : (s'.totalLines - s'.linesUpToTailBuffer).toNat =
      (tail.2.data ++ Nodes.text back).count newline := by
    rw [Word.toNat_sub_of_le (by omega), List.count_append]
    omega
  have data_le : tail.2.data.length = tail.2.nbytes.toNat := listed'.length_data (by simp)
  have tail_small := UInt64.toNat_lt tail.2.nbytes
  simp only [keepTrackOfTailLines, ran, except_ok_bind, listed'.load_tail]
  split
  · next more =>
    rw [gt_iff_lt, UInt64.lt_iff_toNat_lt, left] at more
    have skip : (s'.totalLines - s'.linesUpToTailBuffer - config.nUnits).toNat =
        (tail.2.data ++ Nodes.text back).count newline - config.nUnits.toNat := by
      rw [Word.toNat_sub_of_le (by omega), left]
    have region : tail.2.buffer.read 0 tail.2.nbytes.toNat = .ok tail.2.data := by
      have fits := listed'.fits tail (by simp)
      rw [Area.read_of_le _ (by omega), List.drop_zero, LineBuffer.data]
    have within : (tail.2.data ++ Nodes.text back).count newline - config.nUnits.toNat ≤
        tail.2.data.count newline := by
      rw [List.count_append]
      omega
    have bounded : Units.afterNth (· == newline)
        ((tail.2.data ++ Nodes.text back).count newline - config.nUnits.toNat) tail.2.data ≤
        tail.2.data.length := Units.afterNth_le_length _ _
    have offset := UInt64.toNat_ofNat_of_lt' (show Units.afterNth (· == newline)
      ((tail.2.data ++ Nodes.text back).count newline - config.nUnits.toNat)
      tail.2.data < 2 ^ 64 by omega)
    simp only [skip, region, except_ok_bind, skipNewlines_total within, except_pure]
    refine ⟨_, front', tail, back, rfl, same.trans (.setOffset _ _), split,
      listed'.same (.setOffset _ _) rfl,
      ⟨reached'.counted.sameList (.setOffset _ _) rfl rfl, ?_⟩, ?_⟩
    · rw [← split, located, offset, unitEnds, mode]
      rfl
    · rw [offset]
      omega
  · next enough =>
    rw [gt_iff_lt, UInt64.lt_iff_toNat_lt, left] at enough
    rw [Nat.sub_eq_zero_of_le (Nat.not_lt.mp enough), Units.afterNth_zero] at located
    refine ⟨_, front', tail, back, rfl, same.trans (.setOffset _ _), split,
      listed'.same (.setOffset _ _) rfl,
      ⟨reached'.counted.sameList (.setOffset _ _) rfl rfl, ?_⟩, Nat.zero_le _⟩
    rw [← split, located]
    rfl

theorem keepTrackOfTailBytes_total {config : Config} (mode : config.countLines = false)
    {s : State bufsiz} {front rest : Nodes bufsiz} (listed : Listed s front rest)
    (reached : Reached config (front ++ rest) front s) :
    ∃ s' front' tail back, keepTrackOfTailBytes config.nUnits s = .ok s' ∧
      SameList s s' ∧ front' ++ tail :: back = front ++ rest ∧
      Listed s' front' (tail :: back) ∧ Positioned config (front ++ rest) front' s' ∧
      s'.tailOffset.toNat ≤ tail.2.nbytes.toNat := by
  obtain ⟨s', front', tail, back, ran, same, split, listed', reached', few⟩ :=
    (skips_bytes mode).total listed reached
  have counted := reached'.counted
  rw [← split] at counted
  have located := (split ▸ reached').startOf_eq few
  rw [countP_unitEnds_bytes mode] at located few
  have total := counted.totalBytes
  have upTo := counted.bytesUpTo
  simp only [Nodes.text_append, Nodes.text_cons, List.length_append] at total
  have left : (s'.totalBytes - s'.bytesUpToTailBuffer).toNat =
      (tail.2.data ++ Nodes.text back).length := by
    rw [Word.toNat_sub_of_le (by omega), List.length_append]
    omega
  have data_le : tail.2.data.length = tail.2.nbytes.toNat := listed'.length_data (by simp)
  have within : (tail.2.data ++ Nodes.text back).length - config.nUnits.toNat ≤
      tail.2.data.length := by
    rw [List.length_append]
    omega
  rw [afterNth_unitEnds_bytes mode, Nat.min_eq_left within] at located
  simp only [keepTrackOfTailBytes, ran, except_ok_bind]
  split
  · next more =>
    rw [gt_iff_lt, UInt64.lt_iff_toNat_lt, left] at more
    have offset : (s'.totalBytes - s'.bytesUpToTailBuffer - config.nUnits).toNat =
        (tail.2.data ++ Nodes.text back).length - config.nUnits.toNat := by
      rw [Word.toNat_sub_of_le (by omega), left]
    refine ⟨_, front', tail, back, rfl, same.trans (.setOffset _ _), split,
      listed'.same (.setOffset _ _) rfl,
      ⟨reached'.counted.sameList (.setOffset _ _) rfl rfl, ?_⟩, ?_⟩
    · rw [← split, located]
      exact congrArg _ offset
    · exact offset.trans_le (within.trans_eq data_le)
  · next enough =>
    rw [gt_iff_lt, UInt64.lt_iff_toNat_lt, left] at enough
    rw [Nat.sub_eq_zero_of_le (Nat.not_lt.mp enough)] at located
    refine ⟨_, front', tail, back, rfl, same.trans (.setOffset _ _), split,
      listed'.same (.setOffset _ _) rfl,
      ⟨reached'.counted.sameList (.setOffset _ _) rfl rfl, ?_⟩, Nat.zero_le _⟩
    rw [← split, located]
    rfl

/-- After the shift the tail starts inside its buffer or in the last one. -/
theorem shiftTail_total {config : Config} {s : State bufsiz} {front back : Nodes bufsiz}
    {tail : Nat × LineBuffer bufsiz} (listed : Listed s front (tail :: back))
    (positioned : Positioned config (front ++ tail :: back) front s)
    (within : s.tailOffset.toNat ≤ tail.2.nbytes.toNat)
    (filled : ∀ node ∈ back, 0 < node.2.nbytes.toNat) :
    ∃ s' front' tail' back', shiftTail s = .ok s' ∧ SameList s s' ∧
      front' ++ tail' :: back' = front ++ tail :: back ∧
      Listed s' front' (tail' :: back') ∧
      Positioned config (front ++ tail :: back) front' s' ∧
      s'.tailOffset.toNat ≤ tail'.2.nbytes.toNat ∧
      (back' ≠ [] → s'.tailOffset.toNat < tail'.2.nbytes.toNat) := by
  simp only [shiftTail, listed.load_tail, except_ok_bind]
  split
  · next shifted =>
    have same := (SameList.passLines s tail.2 tail.2.next).trans (.setOffset _ 0)
    have next := listed.next_tail
    cases back with
    | nil => exact absurd next shifted.2
    | cons after back =>
        have counted := positioned.counted.pass listed same rfl (fun _ => rfl)
        have held : tail.2.data.length = tail.2.nbytes.toNat := listed.length_data (by simp)
        refine ⟨_, front ++ [tail], after, back, rfl, same, by simp,
          listed.moveTail same (by simp) (by simp) next, ⟨counted, ?_⟩, Nat.zero_le _,
          fun _ => filled after (.head _)⟩
        rw [← positioned.position, shifted.1, ← held]
        simp
  · next kept =>
    refine ⟨s, front, tail, back, rfl, .refl s, rfl, listed, positioned, within, ?_⟩
    intro more
    refine Nat.lt_of_le_of_ne within fun same => kept ⟨UInt64.toNat_inj.mp same, ?_⟩
    rw [listed.next_tail]
    simpa using more

/-- `keep_track_of_tail` finds the start of the required tail, from any earlier
position of the tail. -/
theorem keepTrackOfTail_total {config : Config} {s : State bufsiz}
    {front rest : Nodes bufsiz} (listed : Listed s front rest)
    (reached : Reached config (front ++ rest) front s)
    (filled : ∀ node ∈ (front ++ rest).tail, 0 < node.2.nbytes.toNat) :
    ∃ s' front' tail back, keepTrackOfTail config s = .ok s' ∧ SameList s s' ∧
      front' ++ tail :: back = front ++ rest ∧ Listed s' front' (tail :: back) ∧
      Positioned config (front ++ rest) front' s' ∧
      s'.tailOffset.toNat ≤ tail.2.nbytes.toNat ∧
      (back ≠ [] → s'.tailOffset.toNat < tail.2.nbytes.toNat) := by
  obtain ⟨s', front', tail, back, ran, same, split, listed', positioned, within⟩ :
      ∃ s' front' tail back,
        (if config.countLines then keepTrackOfTailLines config.nUnits s
          else keepTrackOfTailBytes config.nUnits s) = .ok s' ∧
        SameList s s' ∧ front' ++ tail :: back = front ++ rest ∧
        Listed s' front' (tail :: back) ∧ Positioned config (front ++ rest) front' s' ∧
        s'.tailOffset.toNat ≤ tail.2.nbytes.toNat := by
    cases mode : config.countLines with
    | true => exact keepTrackOfTailLines_total mode listed reached
    | false => exact keepTrackOfTailBytes_total mode listed reached
  have behind : ∀ node ∈ back, 0 < node.2.nbytes.toNat := by
    intro node member
    refine filled node ?_
    rw [← split]
    cases front' with
    | nil => exact member
    | cons head front' => simp [member]
  rw [← split] at positioned
  obtain ⟨s'', front'', tail', back', shifts, same', split', rest⟩ :=
    shiftTail_total listed' positioned within behind
  rw [split] at split' rest
  refine ⟨s'', front'', tail', back', ?_, same.trans same', split', rest⟩
  simp only [keepTrackOfTail, ran, except_ok_bind, shifts]

end Tailserver.Buffer
