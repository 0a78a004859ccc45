import Tailserver.Buffer.Holds

/-! One append in full. A ready buffer takes every chunk; it stays ready unless
the allocator is asked for a block and has none. -/

set_option autoImplicit false

namespace Tailserver.Buffer

open CMemory

variable {bufsiz : Nat}

/-- The node holds exactly `bytes`, and counts their lines in line mode. -/
structure Fills (config : Config) (node : LineBuffer bufsiz) (bytes : List UInt8) :
    Prop where
  nbytes : node.nbytes.toNat = bytes.length
  data : node.data = bytes
  nlines : config.countLines = true → node.nlines.toNat = bytes.count newline

/-- The list grew by the bytes of `node`, and the totals with it. -/
structure Extends (config : Config) (s s' : State bufsiz) (nodes nodes' : Nodes bufsiz)
    (node : LineBuffer bufsiz) (bytes : List UInt8) : Prop where
  text : Nodes.text nodes' = Nodes.text nodes ++ bytes
  filled : (∀ other ∈ nodes.tail, 0 < other.2.nbytes.toNat) →
    ∀ other ∈ nodes'.tail, 0 < other.2.nbytes.toNat
  nlines : config.countLines = true →
    (∀ other ∈ nodes, other.2.nlines.toNat = other.2.data.count newline) →
    ∀ other ∈ nodes', other.2.nlines.toNat = other.2.data.count newline
  totalBytes : s'.totalBytes = s.totalBytes + node.nbytes
  totalLines : config.countLines = true → s'.totalLines = s.totalLines + node.nlines
  bytesUpTo : s'.bytesUpToTailBuffer = s.bytesUpToTailBuffer
  linesUpTo : s'.linesUpToTailBuffer = s.linesUpToTailBuffer

theorem Clean.fills {config : Config} {node : LineBuffer bufsiz} {buffer : Area bufsiz}
    {bytes : List UInt8} (clean : Clean config node) (small : bufsiz < addressSpace)
    (fits : bytes.length ≤ bufsiz) (holds : buffer.val.take bytes.length = bytes) :
    Fills config (committedNode config (filledNode node buffer) bytes) bytes := by
  constructor
  · exact toNat_ofNat_of_le_bufsiz small fits
  · exact data_committedNode small holds fits
  · intro mode
    have count_le := List.count_le_length (a := newline) (l := bytes)
    simp only [committedNode, filledNode, mode, if_true, clean mode, UInt64.zero_add]
    exact toNat_ofNat_of_le_bufsiz small (by omega)

theorem mem_tail_snoc {α : Type} {front : List α} {old new value : α}
    (member : value ∈ (front ++ [new]).tail) :
    value ∈ (front ++ [old]).tail ∨ value = new ∧ old ∈ (front ++ [old]).tail := by
  cases front with
  | nil => simp at member
  | cons head front =>
      simp only [List.cons_append, List.tail_cons, List.mem_append, List.mem_singleton]
        at member ⊢
      rcases member with member | rfl
      · exact .inl (.inl member)
      · exact .inr ⟨rfl, .inr trivial⟩

/-- Copying into the last buffer extends the list. -/
theorem Linked.merged_extends {config : Config} {s : State bufsiz} {block : Nat}
    {front init : Nodes bufsiz} {final : Nat × LineBuffer bufsiz}
    {node : LineBuffer bufsiz} {buffer : Area bufsiz} {bytes : List UInt8}
    (linked : Linked (mergedState (committedState config s block node) final node buffer)
      (block, node) front (init ++ [(final.1, mergedNode final.2 node buffer)]))
    (nonempty : bytes ≠ []) (fills : Fills config node bytes)
    (holds : (mergedNode final.2 node buffer).data = final.2.data ++ node.data) :
    Extends config s (mergedState (committedState config s block node) final node buffer)
      (front ++ (init ++ [final]))
      (front ++ (init ++ [(final.1, mergedNode final.2 node buffer)])) node bytes := by
  have length : (mergedNode final.2 node buffer).data.length =
      (mergedNode final.2 node buffer).nbytes.toNat :=
    LineBuffer.length_data
      (linked.fits (final.1, mergedNode final.2 node buffer) (by simp))
  have text : Nodes.text (front ++ (init ++ [(final.1, mergedNode final.2 node buffer)])) =
      Nodes.text (front ++ (init ++ [final])) ++ bytes := by
    simp [holds, fills.data]
  refine ⟨text, ?_, ?_, rfl, ?_, rfl, rfl⟩
  · intro filled other member
    rw [← List.append_assoc] at member filled
    rcases mem_tail_snoc member with old | ⟨rfl, _⟩
    · exact filled other old
    · have positive := List.length_pos_iff.mpr nonempty
      rw [← length, holds, fills.data, List.length_append]
      omega
  · intro mode counted other member
    simp only [List.mem_append, List.mem_singleton] at member
    rcases member with member | member | rfl
    · exact counted other (by simp [member])
    · exact counted other (by simp [member])
    · have before := counted final (by simp)
      have added := fills.nlines mode
      have small := linked.small
      have bounded : (Nodes.text (front ++ (init ++ [final])) ++ bytes).count newline <
          2 ^ 64 := by
        rw [text] at small
        exact Nat.lt_of_le_of_lt List.count_le_length small
      have within : final.2.data.count newline ≤
          (Nodes.text (front ++ (init ++ [final]))).count newline := by
        simp only [Nodes.text_append, Nodes.text_cons, Nodes.text_nil, List.append_nil,
          List.count_append]
        omega
      rw [List.count_append] at bounded
      show (final.2.nlines + node.nlines).toNat =
        (mergedNode final.2 node buffer).data.count newline
      rw [holds, fills.data, List.count_append, Word.toNat_add_of_lt (by omega), before,
        added]
  · intro mode
    simp only [mergedState, committedState, mode, if_true]

theorem linked_extends {config : Config} (s : State bufsiz) (block : Nat)
    (front init : Nodes bufsiz) (final : Nat × LineBuffer bufsiz)
    {node : LineBuffer bufsiz} {bytes : List UInt8}
    (nonempty : bytes ≠ []) (fills : Fills config node bytes) :
    Extends config s (linkedState (committedState config s block node) final block)
      (front ++ (init ++ [final]))
      (front ++ (init ++ [(final.1, linkedNode final.2 block), (block, node)]))
      node bytes := by
  have data : (linkedNode final.2 block).data = final.2.data := rfl
  refine ⟨by simp [data, fills.data], ?_, ?_, rfl, ?_, rfl, rfl⟩
  · intro filled other member
    have split : front ++ (init ++ [(final.1, linkedNode final.2 block), (block, node)]) =
        (front ++ init ++ [(final.1, linkedNode final.2 block)]) ++ [(block, node)] := by
      simp
    rw [split, List.tail_append_of_ne_nil (by simp), List.mem_append,
      List.mem_singleton] at member
    rw [← List.append_assoc] at filled
    rcases member with member | rfl
    · rcases mem_tail_snoc member with old | ⟨rfl, old⟩
      · exact filled other old
      · exact filled final old
    · show 0 < node.nbytes.toNat
      rw [fills.nbytes]
      exact List.length_pos_iff.mpr nonempty
  · intro mode counted other member
    simp only [List.mem_append, List.mem_cons, List.not_mem_nil, or_false] at member
    rcases member with member | member | rfl | rfl
    · exact counted other (by simp [member])
    · exact counted other (by simp [member])
    · exact counted final (by simp)
    · show node.nlines.toNat = node.data.count newline
      rw [fills.data, fills.nlines mode]
  · intro mode
    simp only [linkedState, committedState, mode, if_true]

theorem Keeps.append {config : Config} {text bytes : List UInt8} {nodes nodes' : Nodes bufsiz}
    (keeps : Keeps config text nodes) (grown : Nodes.text nodes' = Nodes.text nodes ++ bytes) :
    Keeps config (text ++ bytes) nodes' := by
  obtain ⟨lost, rfl, decided⟩ := keeps
  refine ⟨lost, by rw [grown, List.append_assoc], ?_⟩
  rcases decided with nothing | many
  · exact .inl nothing
  · right
    rw [grown, List.countP_append]
    omega

/-- The counters of a grown list, before the tail moves. -/
theorem Holds.reached {config : Config} {s s' : State bufsiz} {front back rest : Nodes bufsiz}
    {tail : Nat × LineBuffer bufsiz} {node : LineBuffer bufsiz} {text bytes : List UInt8}
    (holds : Holds config s front tail back text) (listed : Listed s' front rest)
    (grows : Extends config s s' (front ++ tail :: back) (front ++ rest) node bytes)
    (fills : Fills config node bytes) : Reached config (front ++ rest) front s' := by
  have counted := holds.positioned.counted
  have small := listed.small
  rw [grows.text, List.length_append] at small
  refine ⟨⟨?_, ?_, ?_, ?_, ?_⟩, ?_⟩
  · have total := counted.totalBytes
    have added := fills.nbytes
    rw [grows.totalBytes, Word.toNat_add_of_lt (by omega), grows.text, List.length_append]
    omega
  · rw [grows.bytesUpTo]
    exact counted.bytesUpTo
  · intro mode
    have total := counted.totalLines mode
    have added := fills.nlines mode
    have total_le := List.count_le_length (a := newline)
      (l := Nodes.text (front ++ tail :: back))
    have added_le := List.count_le_length (a := newline) (l := bytes)
    rw [grows.totalLines mode, Word.toNat_add_of_lt (by omega), grows.text,
      List.count_append]
    omega
  · intro mode
    rw [grows.linesUpTo]
    exact counted.linesUpTo mode
  · intro mode
    exact grows.nlines mode (counted.nlines mode)
  · have position := holds.positioned.position
    unfold startOf at position ⊢
    rw [grows.text]
    refine Nat.le_trans ?_ (Units.lastStart_append_ge _ _ _)
    rw [← position]
    exact Nat.le_add_right _ _

/-- Growing the list and looking for the new start of the tail. -/
theorem Holds.keepTrackOfTail {config : Config} {s s' : State bufsiz}
    {front back rest : Nodes bufsiz} {tail : Nat × LineBuffer bufsiz}
    {node : LineBuffer bufsiz} {text bytes : List UInt8}
    (holds : Holds config s front tail back text) (listed : Listed s' front rest)
    (grows : Extends config s s' (front ++ tail :: back) (front ++ rest) node bytes)
    (fills : Fills config node bytes) :
    ∃ s'' front' tail' back', keepTrackOfTail config s' = .ok s'' ∧ SameList s' s'' ∧
      front' ++ tail' :: back' = front ++ rest ∧ Listed s'' front' (tail' :: back') ∧
      Holds config s'' front' tail' back' (text ++ bytes) := by
  have filled := grows.filled holds.filled
  obtain ⟨s'', front', tail', back', ran, same, split, listed', positioned, within, inside⟩ :=
    keepTrackOfTail_total listed (holds.reached listed grows fills) filled
  refine ⟨s'', front', tail', back', ran, same, split, listed', ?_⟩
  rw [← split] at positioned filled
  refine ⟨positioned, within, inside, filled, ?_⟩
  rw [split]
  exact holds.keeps.append grows.text

/-- Only the counters and the offset matter. -/
theorem Holds.frame {config : Config} {s s' : State bufsiz} {front back : Nodes bufsiz}
    {tail : Nat × LineBuffer bufsiz} {text : List UInt8}
    (holds : Holds config s front tail back text)
    (totalBytes : s'.totalBytes = s.totalBytes) (totalLines : s'.totalLines = s.totalLines)
    (bytesUpTo : s'.bytesUpToTailBuffer = s.bytesUpToTailBuffer)
    (linesUpTo : s'.linesUpToTailBuffer = s.linesUpToTailBuffer)
    (offset : s'.tailOffset = s.tailOffset) : Holds config s' front tail back text where
  positioned := {
    counted := {
      totalBytes := by rw [totalBytes]; exact holds.positioned.counted.totalBytes
      bytesUpTo := by rw [bytesUpTo]; exact holds.positioned.counted.bytesUpTo
      totalLines := by rw [totalLines]; exact holds.positioned.counted.totalLines
      linesUpTo := by rw [linesUpTo]; exact holds.positioned.counted.linesUpTo
      nlines := holds.positioned.counted.nlines }
    position := by rw [offset]; exact holds.positioned.position }
  within := by rw [offset]; exact holds.within
  inside := by rw [offset]; exact holds.inside
  filled := holds.filled
  keeps := holds.keeps

/-! ## Dropping the first buffer -/

/-- The test for dropping is exact: the bytes behind the first buffer hold more
units than the tail needs. -/
theorem Holds.droppable_iff {config : Config} {s : State bufsiz} {front back others : Nodes bufsiz}
    {tail head : Nat × LineBuffer bufsiz} {text : List UInt8}
    (holds : Holds config s front tail back text) (listed : Listed s front (tail :: back))
    (split : front ++ tail :: back = head :: others) :
    firstBufferDroppable config s head.2 = true ↔
      config.nUnits.toNat < (Nodes.text others).countP (unitEnds config) := by
  have counted := holds.positioned.counted
  have held : head.2.data.length = head.2.nbytes.toNat :=
    listed.length_data (by simp [split])
  rw [split] at counted
  cases mode : config.countLines with
  | true =>
      have total := counted.totalLines mode
      have lines := counted.nlines mode head (.head _)
      rw [Nodes.text_cons, List.count_append] at total
      simp only [firstBufferDroppable, mode, if_true, decide_eq_true_iff, gt_iff_lt,
        UInt64.lt_iff_toNat_lt]
      rw [Word.toNat_sub_of_le (by omega), countP_unitEnds_lines mode]
      omega
  | false =>
      have total := counted.totalBytes
      rw [Nodes.text_cons, List.length_append] at total
      simp only [firstBufferDroppable, mode, Bool.false_eq_true, if_false,
        decide_eq_true_iff, gt_iff_lt, UInt64.lt_iff_toNat_lt]
      rw [Word.toNat_sub_of_le (by omega), countP_unitEnds_bytes mode]
      omega

/-- The first buffer is never dropped while the tail starts in it, so the
assertion holds. -/
theorem Holds.not_droppable {config : Config} {s : State bufsiz} {back : Nodes bufsiz}
    {tail : Nat × LineBuffer bufsiz} {text : List UInt8}
    (holds : Holds config s [] tail back text) (listed : Listed s [] (tail :: back)) :
    firstBufferDroppable config s tail.2 = false := by
  by_contra dropped
  have many := (holds.droppable_iff listed rfl).mp (Bool.eq_true_of_not_eq_false dropped)
  have more : back ≠ [] := by
    intro none
    simp [none] at many
  have inside := holds.inside more
  have held : tail.2.data.length = tail.2.nbytes.toNat := listed.length_data (by simp)
  have behind := Units.length_le_lastStart many tail.2.data
  have position := holds.positioned.position
  simp only [Nodes.text_nil, List.length_nil, List.nil_append, startOf, Nodes.text_cons]
    at position
  omega

theorem Holds.dropped {config : Config} {s : State bufsiz} {front back : Nodes bufsiz}
    {head tail : Nat × LineBuffer bufsiz} {text : List UInt8}
    (holds : Holds config s (head :: front) tail back text)
    (listed : Listed s (head :: front) (tail :: back))
    (dropped : firstBufferDroppable config s head.2 = true) :
    Holds config (droppedState s head) front tail back text := by
  have many := (holds.droppable_iff listed rfl).mp dropped
  have counted := holds.positioned.counted
  have position := holds.positioned.position
  have held : head.2.data.length = head.2.nbytes.toNat := listed.length_data (by simp)
  have totalBytes := counted.totalBytes
  have bytesUpTo := counted.bytesUpTo
  simp only [List.cons_append, Nodes.text_cons, List.length_append] at totalBytes bytesUpTo
  refine ⟨⟨⟨?_, ?_, ?_, ?_, ?_⟩, ?_⟩, holds.within, holds.inside, ?_, ?_⟩
  · show (s.totalBytes - head.2.nbytes).toNat = _
    rw [Word.toNat_sub_of_le (by omega)]
    omega
  · show (s.bytesUpToTailBuffer - head.2.nbytes).toNat = _
    rw [Word.toNat_sub_of_le (by omega)]
    omega
  · intro mode
    have total := counted.totalLines mode
    have lines := counted.nlines mode head (.head _)
    simp only [List.cons_append, Nodes.text_cons, List.count_append] at total
    show (s.totalLines - head.2.nlines).toNat = _
    rw [Word.toNat_sub_of_le (by omega)]
    omega
  · intro mode
    have upTo := counted.linesUpTo mode
    have lines := counted.nlines mode head (.head _)
    simp only [Nodes.text_cons, List.count_append] at upTo
    show (s.linesUpToTailBuffer - head.2.nlines).toNat = _
    rw [Word.toNat_sub_of_le (by omega)]
    omega
  · intro mode node member
    exact counted.nlines mode node (.tail _ member)
  · have shifted : startOf config (head :: (front ++ tail :: back)) =
        head.2.data.length + startOf config (front ++ tail :: back) :=
      Units.lastStart_append_of_lt many head.2.data
    show (Nodes.text front).length + s.tailOffset.toNat = _
    rw [List.cons_append, shifted, Nodes.text_cons, List.length_append] at position
    omega
  · intro node member
    exact holds.filled node (List.mem_of_mem_tail member)
  · obtain ⟨lost, rfl, _⟩ := holds.keeps
    exact ⟨lost ++ head.2.data, by simp, .inr many⟩

/-! ## The whole append -/

/-- What one append does to a ready buffer. -/
inductive Appends (config : Config) (text : List UInt8)
    (fresh : Allocation (LineBuffer bufsiz)) :
    Except Fault (Bool × State bufsiz) → Prop where
  | ready {s : State bufsiz} : Ready config s text → Appends config text fresh (.ok (true, s))
  | exhausted {s : State bufsiz} : fresh = none → Exhausted config s text →
      Appends config text fresh (.ok (false, s))

/-- What one append of `size` bytes does to the nodes of a list: the bytes are copied
into the last one or linked behind it, and then the first one is dropped or the others
are all needed. -/
inductive Reshapes (config : Config) (size : Nat) (nodes : Nodes bufsiz) :
    Nodes bufsiz → Prop where
  | merged {init : Nodes bufsiz} {final final' : Nat × LineBuffer bufsiz} :
      nodes = init ++ [final] →
      final'.2.nbytes.toNat = final.2.nbytes.toNat + size →
      Reshapes config size nodes (init ++ [final'])
  | recycled {init others : Nodes bufsiz} {final final' node head : Nat × LineBuffer bufsiz} :
      nodes = init ++ [final] → final'.2.nbytes = final.2.nbytes →
      bufsiz ≤ final.2.nbytes.toNat + node.2.nbytes.toNat →
      init ++ [final', node] = head :: others → Reshapes config size nodes others
  | extended {init others : Nodes bufsiz} {final final' node head : Nat × LineBuffer bufsiz} :
      nodes = init ++ [final] → final'.2.nbytes = final.2.nbytes →
      bufsiz ≤ final.2.nbytes.toNat + node.2.nbytes.toNat →
      init ++ [final', node] = head :: others →
      (Nodes.text others).countP (unitEnds config) ≤ config.nUnits.toNat →
      Reshapes config size nodes (head :: others)

/-- The same with what becomes of the list. -/
inductive AppendsTo (config : Config) (text : List UInt8) (size : Nat)
    (fresh : Allocation (LineBuffer bufsiz)) (nodes : Nodes bufsiz) :
    Except Fault (Bool × State bufsiz) → Prop where
  | ready {s : State bufsiz} {spare tail : Nat × LineBuffer bufsiz} {front back : Nodes bufsiz} :
      Reshapes config size nodes (front ++ tail :: back) →
      Linked s spare front (tail :: back) → Holds config s front tail back text →
      Clean config spare.2 → AppendsTo config text size fresh nodes (.ok (true, s))
  | exhausted {s : State bufsiz} : fresh = none → Exhausted config s text →
      AppendsTo config text size fresh nodes (.ok (false, s))

/-- The end of an append whose bytes were linked behind the list. -/
theorem Holds.replaced {config : Config} {s : State bufsiz} {text : List UInt8} {size : Nat}
    {fresh : Allocation (LineBuffer bufsiz)} {nodes init front back : Nodes bufsiz}
    {final final' node tail : Nat × LineBuffer bufsiz}
    (holds : Holds config s front tail back text) (owner : Spareless s front (tail :: back))
    (sound : Allocates s fresh) (before : nodes = init ++ [final])
    (after : init ++ [final', node] = front ++ tail :: back)
    (kept : final'.2.nbytes = final.2.nbytes)
    (full : bufsiz ≤ final.2.nbytes.toNat + node.2.nbytes.toNat) :
    AppendsTo config text size fresh nodes (replaceAppend config s fresh) := by
  have listed := owner.toListed
  have replaced : Replaced config _ _ _ _ _ := owner.replaced sound
  generalize replaceAppend config s fresh = result at replaced ⊢
  cases replaced with
  | recycled first dropped linked =>
      subst first
      exact .ready (.recycled before kept full after) linked (holds.dropped listed dropped)
        (fun _ => rfl)
  | asserted first head dropped =>
      subst first
      cases head
      simp [holds.not_droppable listed] at dropped
  | exhausted _ missing =>
      exact .exhausted missing ⟨rfl, _, _, _, owner.exhausted, holds.frame rfl rfl rfl rfl rfl⟩
  | allocated undropped _ linked =>
      obtain ⟨head, others, same⟩ : ∃ head others, front ++ tail :: back = head :: others :=
        List.exists_cons_of_ne_nil (by simp)
      have needed : ¬ config.nUnits.toNat <
          (Nodes.text others).countP (unitEnds config) := by
        rw [← holds.droppable_iff listed same, undropped head (by rw [same]; rfl)]
        decide
      have reshapes : Reshapes config size nodes (front ++ tail :: back) := by
        rw [same]
        exact .extended before kept full (after.trans same) (Nat.not_lt.mp needed)
      exact .ready reshapes linked (holds.frame rfl rfl rfl rfl rfl) (fun _ => rfl)

theorem Holds.appendsTo {config : Config} {s : State bufsiz} {spare tail : Nat × LineBuffer bufsiz}
    {front back : Nodes bufsiz} {text bytes : List UInt8}
    {fresh : Allocation (LineBuffer bufsiz)} (holds : Holds config s front tail back text)
    (linked : Linked s spare front (tail :: back)) (clean : Clean config spare.2)
    (nonempty : bytes ≠ []) (fits : bytes.length ≤ bufsiz) (sound : Allocates s fresh) :
    AppendsTo config (text ++ bytes) bytes.length fresh (front ++ tail :: back)
      (bufferAppend config s bytes fresh) := by
  obtain ⟨buffer, placed, filled, commits⟩ := linked.commits config nonempty fits
  have fills := clean.fills linked.bufsiz_lt fits filled
  generalize committedNode config (filledNode spare.2 buffer) bytes = node at commits fills
  have commit := commits.linked
  obtain ⟨init, final, split, last, _⟩ := commit.exists_last
  rw [split] at commit
  have decides := commit.fitsLast last commits.fits
  have nodes : front ++ tail :: back = (front ++ init) ++ [final] := by
    rw [split, List.append_assoc]
  simp only [bufferAppend, bufferSetAppended, commits.places, except_ok_bind,
    if_neg commits.proper, commits.commits, decides]
  split
  · next room =>
    have room := of_decide_eq_true room
    obtain ⟨target, data, merges⟩ := commit.mergeAppended last room
    have merged := commit.merged room target
    have grows := merged.merged_extends nonempty fills data
    rw [← split] at grows
    obtain ⟨_, front', tail', back', ran, same, split', listed, holds'⟩ :=
      holds.keepTrackOfTail merged.toListed grows fills
    obtain ⟨resets, linked'⟩ := (merged.sameList same split' listed).resetAppend
    have reshapes : Reshapes config bytes.length (front ++ tail :: back)
        (front' ++ tail' :: back') := by
      rw [split', ← List.append_assoc]
      refine .merged nodes ?_
      rw [nbytes_mergedNode target linked.bufsiz_lt room, commits.nbytes]
    simp only [merges, except_ok_bind, ran, resets, except_pure]
    exact .ready reshapes linked' (holds'.frame rfl rfl rfl rfl rfl) (fun _ => rfl)
  · next full =>
    have full : bufsiz ≤ final.2.nbytes.toNat + node.nbytes.toNat := by
      have decision := of_decide_eq_false (Bool.eq_false_of_not_eq_true full)
      omega
    have owner := commit.linked commits.fits
    have grows := linked_extends s spare.1 front init final nonempty fills
    rw [← split] at grows
    rw [split] at linked
    obtain ⟨tracked, front', tail', back', ran, same, split', listed, holds'⟩ :=
      holds.keepTrackOfTail owner.toListed grows fills
    have sound' := same.allocates (owner.allocates linked sound)
    have owner' := owner.sameList same split' listed
    rw [← List.append_assoc] at split'
    simp only [commit.linkAppended last, except_ok_bind, ran]
    exact holds'.replaced owner' sound' nodes split'.symm rfl full

theorem Ready.append {config : Config} {s : State bufsiz} {text bytes : List UInt8}
    {fresh : Allocation (LineBuffer bufsiz)} (ready : Ready config s text)
    (nonempty : bytes ≠ []) (fits : bytes.length ≤ bufsiz) (sound : Allocates s fresh) :
    Appends config (text ++ bytes) fresh (bufferAppend config s bytes fresh) := by
  obtain ⟨spare, front, tail, back, linked, holds, clean⟩ := ready
  have appends := holds.appendsTo linked clean nonempty fits sound
  generalize bufferAppend config s bytes fresh = result at appends ⊢
  cases appends with
  | ready _ linked' holds' clean' => exact .ready ⟨_, _, _, _, linked', holds', clean'⟩
  | exhausted missing exhausted => exact .exhausted missing exhausted

end Tailserver.Buffer
