import Tailserver.Buffer.Checked
import Mathlib.Data.List.Chain

/-! How many blocks the list takes. Two neighbours hold at least a block's worth of
bytes together, and a block is only allocated when everything behind the first one
is needed, so the list stays in proportion to the tail. -/

set_option autoImplicit false

namespace Tailserver.Buffer

open CMemory

variable {bufsiz : Nat}

/-- Two neighbours hold at least `BUFSIZ` bytes together. -/
def Packed (nodes : Nodes bufsiz) : Prop :=
  nodes.IsChain fun left right => bufsiz ≤ left.2.nbytes.toNat + right.2.nbytes.toNat

/-- `buffer_tail_size()` after so many appends. -/
def tailSizeAfter (config : Config) (execution : Execution bufsiz) (count : Nat) : Nat :=
  match (execution.upTo count).run config with
  | .ok (_, s) => (bufferTailSize s).toNat
  | .error _ => 0

/-- The largest `buffer_tail_size()` reached after at most so many appends. -/
def largestTailSize (config : Config) (execution : Execution bufsiz) : Nat → Nat
  | 0 => tailSizeAfter config execution 0
  | count + 1 => max (largestTailSize config execution count)
      (tailSizeAfter config execution (count + 1))

/-! ## Neighbours -/

theorem Packed.tail {head : Nat × LineBuffer bufsiz} {nodes : Nodes bufsiz}
    (packed : Packed (head :: nodes)) : Packed nodes :=
  List.IsChain.tail packed

/-- Every two blocks of a list take up `BUFSIZ` bytes. -/
theorem Packed.half_le : {nodes : Nodes bufsiz} → Packed nodes →
    (∀ node ∈ nodes, node.2.nbytes.toNat ≤ bufsiz) →
    nodes.length / 2 * bufsiz ≤ (Nodes.text nodes).length
  | [], _, _ => by simp
  | [_], _, _ => by simp
  | first :: second :: rest, packed, fits => by
      have pair := List.rel_of_isChain_cons_cons packed
      have others := packed.tail.tail.half_le fun node member =>
        fits node (.tail _ (.tail _ member))
      have first_length := LineBuffer.length_data (fits first (.head _))
      have second_length := LineBuffer.length_data (fits second (.tail _ (.head _)))
      have halves : (first :: second :: rest).length / 2 = rest.length / 2 + 1 := by
        simp only [List.length_cons]
        omega
      rw [halves, Nat.succ_mul]
      simp only [Nodes.text_cons, List.length_append]
      omega

theorem Packed.append_last {init : Nodes bufsiz} {final final' : Nat × LineBuffer bufsiz}
    (packed : Packed (init ++ [final])) (more : final.2.nbytes.toNat ≤ final'.2.nbytes.toNat) :
    Packed (init ++ [final']) := by
  obtain ⟨front, _, joins⟩ := List.isChain_append.mp packed
  refine List.isChain_append.mpr ⟨front, .singleton _, ?_⟩
  intro last found first same
  cases Option.mem_some_iff.mp same
  have pair := joins last found final rfl
  omega

theorem Packed.append_node {init : Nodes bufsiz} {final final' node : Nat × LineBuffer bufsiz}
    (packed : Packed (init ++ [final])) (same : final'.2.nbytes = final.2.nbytes)
    (full : bufsiz ≤ final.2.nbytes.toNat + node.2.nbytes.toNat) :
    Packed (init ++ [final', node]) := by
  have split : init ++ [final', node] = (init ++ [final']) ++ [node] := by simp
  rw [split]
  refine List.isChain_append.mpr ⟨packed.append_last (by rw [same]), .singleton _, ?_⟩
  intro last found first same'
  rw [List.getLast?_concat] at found
  cases Option.mem_some_iff.mp found
  cases Option.mem_some_iff.mp same'
  rw [same]
  exact full

theorem Reshapes.packed {config : Config} {size : Nat} {nodes nodes' : Nodes bufsiz}
    (reshapes : Reshapes config size nodes nodes') (packed : Packed nodes) : Packed nodes' := by
  cases reshapes with
  | merged split grows =>
      subst split
      exact packed.append_last (by omega)
  | recycled split same full drops =>
      subst split
      have linked := packed.append_node same full
      rw [drops] at linked
      exact linked.tail
  | extended split same full keeps =>
      subst split
      rw [← keeps]
      exact packed.append_node same full

/-! ## The number of nodes -/

theorem Holds.length_le_requiredTail {config : Config} {s : State bufsiz}
    {front back others : Nodes bufsiz} {tail head : Nat × LineBuffer bufsiz} {text : List UInt8}
    (holds : Holds config s front tail back text)
    (split : front ++ tail :: back = head :: others)
    (few : (Nodes.text others).countP (unitEnds config) ≤ config.nUnits.toNat) :
    (Nodes.text others).length ≤ (requiredTail config text).length := by
  obtain ⟨lost, rfl, _⟩ := holds.keeps
  rw [requiredTail_eq_lastUnits, split, Nodes.text_cons, ← List.append_assoc]
  exact Units.length_le_lastUnits few _

/-- A list only grows when the tail takes up half of it. -/
theorem Reshapes.length_le {config : Config} {size limit : Nat} {s : State bufsiz}
    {nodes front back : Nodes bufsiz} {spare tail : Nat × LineBuffer bufsiz} {text : List UInt8}
    (reshapes : Reshapes config size nodes (front ++ tail :: back))
    (linked : Linked s spare front (tail :: back)) (holds : Holds config s front tail back text)
    (packed : Packed (front ++ tail :: back)) (positive : 0 < bufsiz)
    (within : (requiredTail config text).length ≤ limit)
    (bounded : nodes.length ≤ 2 * (limit / bufsiz) + 2) :
    (front ++ tail :: back).length ≤ 2 * (limit / bufsiz) + 2 := by
  have fits := linked.fits
  generalize shape : front ++ tail :: back = nodes' at reshapes packed fits
  cases reshapes with
  | merged split =>
      subst split
      simpa using bounded
  | recycled split _ _ drops =>
      subst split
      have counts := congrArg List.length drops
      simp only [List.length_append, List.length_cons, List.length_nil] at counts bounded
      omega
  | @extended _ others _ _ _ head split _ _ _ few =>
      have needed := holds.length_le_requiredTail shape few
      have halves := packed.tail.half_le fun node member => fits node (.tail _ member)
      have blocks : others.length / 2 ≤ limit / bufsiz :=
        (Nat.le_div_iff_mul_le positive).mpr (by omega)
      rw [List.length_cons]
      omega

/-- A ready buffer with a packed list of at most so many nodes. -/
def Compact (config : Config) (s : State bufsiz) (text : List UInt8) (most : Nat) : Prop :=
  ∃ spare front tail back, Linked s spare front (tail :: back) ∧
    Holds config s front tail back text ∧ Clean config spare.2 ∧
    Packed (front ++ tail :: back) ∧ (front ++ tail :: back).length ≤ most

theorem Compact.append {config : Config} {s : State bufsiz} {text bytes : List UInt8}
    {limit : Nat} {fresh : Allocation (LineBuffer bufsiz)}
    (compact : Compact config s text (2 * (limit / bufsiz) + 2)) (nonempty : bytes ≠ [])
    (fits : bytes.length ≤ bufsiz) (granted : fresh.isSome) (sound : Allocates s fresh)
    (within : (requiredTail config (text ++ bytes)).length ≤ limit) :
    ∃ s', bufferAppend config s bytes fresh = .ok (true, s') ∧
      Compact config s' (text ++ bytes) (2 * (limit / bufsiz) + 2) := by
  obtain ⟨spare, front, tail, back, linked, holds, clean, packed, bounded⟩ := compact
  have appends := holds.appendsTo linked clean nonempty fits sound
  have positive : 0 < bufsiz := Nat.lt_of_lt_of_le (List.length_pos_iff.mpr nonempty) fits
  generalize bufferAppend config s bytes fresh = result at appends ⊢
  cases appends with
  | exhausted missing => simp [missing] at granted
  | @ready s' _ _ _ _ reshapes linked' holds' clean' =>
      have packed' := reshapes.packed packed
      exact ⟨s', rfl, _, _, _, _, linked', holds', clean', packed',
        reshapes.length_le linked' holds' packed' positive within bounded⟩

/-- The run lemma: every tail on the way stays within the limit. -/
theorem Compact.appendAll {config : Config} {s : State bufsiz} {text : List UInt8} {limit : Nat}
    {steps : List (Step bufsiz)} (compact : Compact config s text (2 * (limit / bufsiz) + 2))
    (proper : ∀ step ∈ steps, step.1 ≠ [] ∧ step.1.length ≤ bufsiz)
    (supplied : Supplied config s steps)
    (within : ∀ count, (requiredTail config
      (text ++ ((steps.take count).map Prod.fst).flatten)).length ≤ limit) :
    ∃ s', appendAll config s steps = .ok (true, s') ∧
      Compact config s' (text ++ (steps.map Prod.fst).flatten) (2 * (limit / bufsiz) + 2) := by
  induction steps generalizing s text with
  | nil => exact ⟨s, rfl, by simpa using compact⟩
  | cons step steps ih =>
      obtain ⟨bytes, fresh⟩ := step
      obtain ⟨granted, sound, supplied⟩ := supplied
      obtain ⟨nonempty, fits⟩ := proper _ (.head _)
      obtain ⟨s₁, ran, compact₁⟩ := compact.append nonempty fits granted sound
        (by simpa using within 1)
      obtain ⟨s', rest, compact'⟩ := ih compact₁
        (fun step member => proper step (.tail _ member)) (supplied _ ran)
        (fun count => by simpa using within (count + 1))
      refine ⟨s', ?_, by simpa using compact'⟩
      simp only [Buffer.appendAll, ran, except_ok_bind, if_true, rest]

/-! ## Executions -/

/-- `buffer_tail_size` is the length of the tail. -/
theorem Execution.Supplied.tailSizeAfter_eq {config : Config} {execution : Execution bufsiz}
    (supplied : execution.Supplied config) (zeroed : execution.Zeroed)
    (proper : execution.Proper) (count : Nat) :
    tailSizeAfter config execution count =
      (requiredTail config (execution.upTo count).text).length := by
  obtain ⟨s, ran, ready⟩ := (supplied.upTo count).run (proper.upTo count) (fun _ => zeroed)
  rw [tailSizeAfter, ran]
  exact ready.bufferTailSize

theorem tailSizeAfter_le_largest (config : Config) (execution : Execution bufsiz)
    {count most : Nat} (bounded : count ≤ most) :
    tailSizeAfter config execution count ≤ largestTailSize config execution most := by
  induction most with
  | zero =>
      rw [Nat.le_zero.mp bounded]
      exact Nat.le_refl _
  | succ most ih =>
      rcases Nat.le_succ_iff.mp bounded with before | rfl
      · exact Nat.le_trans (ih before) (Nat.le_max_left _ _)
      · exact Nat.le_max_right _ _

theorem largestTailSize_le {config : Config} {execution : Execution bufsiz} {limit : Nat}
    (within : ∀ count, tailSizeAfter config execution count ≤ limit) (most : Nat) :
    largestTailSize config execution most ≤ limit := by
  induction most with
  | zero => exact within 0
  | succ most ih => exact Nat.max_le.mpr ⟨ih, within _⟩

theorem Execution.packed_initial (execution : Execution bufsiz) :
    Packed [(execution.first.1, renewedNode execution.first.2)] :=
  .singleton _

/-- After any appends: the list is packed, and its length stays in proportion to the
largest tail there was, in byte mode to `n_units`. -/
theorem packed_of_execution (config : Config) (execution : Execution bufsiz)
    (supplied : execution.Supplied config) (zeroed : execution.Zeroed)
    (proper : execution.Proper) :
    ∃ s nodes, execution.run config = .ok (true, s) ∧ Intact s nodes ∧ Packed nodes ∧
      nodes.length ≤
        2 * (largestTailSize config execution execution.steps.length / bufsiz) + 2 ∧
      (config.countLines = false →
        nodes.length ≤ 2 * (config.nUnits.toNat / bufsiz) + 2) := by
  let largest := largestTailSize config execution execution.steps.length
  have start : Compact config execution.initial [] (2 * (largest / bufsiz) + 2) :=
    ⟨_, _, _, _, supplied.linked, execution.holds config, fun _ => zeroed,
      execution.packed_initial, Nat.le_add_left 1 _⟩
  have within : ∀ count, (requiredTail config
      ([] ++ ((execution.steps.take count).map Prod.fst).flatten)).length ≤ largest := by
    intro count
    have reached := tailSizeAfter_le_largest config execution
      (Nat.min_le_right count execution.steps.length)
    rw [supplied.tailSizeAfter_eq zeroed proper, Execution.upTo, ← List.take_eq_take_min]
      at reached
    exact reached
  obtain ⟨s, ran, _, _, _, _, linked, holds, _, packed, bounded⟩ :=
    start.appendAll proper (supplied.steps _ supplied.init) within
  refine ⟨s, _, supplied.run_eq.trans ran, linked.intact holds, packed, bounded, fun mode => ?_⟩
  have limited : largest ≤ config.nUnits.toNat := by
    refine largestTailSize_le (fun count => ?_) _
    rw [supplied.tailSizeAfter_eq zeroed proper count, length_requiredTail mode]
    exact Nat.min_le_left _ _
  have fewer := Nat.div_le_div_right (c := bufsiz) limited
  omega

theorem packed_of_sampleExecution :
    ∃ s nodes, sampleExecution.run ⟨false, 5⟩ = .ok (true, s) ∧ Intact s nodes ∧
      Packed nodes ∧ nodes.length ≤ 2 * (largestTailSize ⟨false, 5⟩ sampleExecution 4 / 4) + 2 ∧
      (false = false → nodes.length ≤ 2 * ((5 : UInt64).toNat / 4) + 2) :=
  packed_of_execution ⟨false, 5⟩ sampleExecution (by decide) rfl (by decide)

end Tailserver.Buffer
