import Tailserver.Buffer.Execution
import Tailserver.Buffer.Readable

/-! What appends do whatever fresh memory holds. The shape of the list never
depends on it, but the tail does in line mode: `buffer_init` sets `nlines` of the
first buffer twice and of the spare buffer never. -/

set_option autoImplicit false

namespace Tailserver.Buffer

open CMemory

variable {bufsiz : Nat}

/-- The shape an append leaves behind, with a spare block or without. -/
inductive Shaped (s : State bufsiz) (fresh : Allocation (LineBuffer bufsiz))
    (front rest : Nodes bufsiz) : Bool → Prop where
  | spare {spare : Nat × LineBuffer bufsiz} :
      Linked s spare front rest → Shaped s fresh front rest true
  | spareless : s.append = none → fresh = none → Spareless s front rest →
      Shaped s fresh front rest false

/-- The last line buffer after an append: the old last one with the bytes behind
its own, or the former spare one. -/
inductive Received (config : Config) (spare : LineBuffer bufsiz) (bytes : List UInt8)
    (nodes : Nodes bufsiz) (final : LineBuffer bufsiz) : Prop where
  | copied {old : Nat × LineBuffer bufsiz} : old ∈ nodes →
      final.data = old.2.data ++ bytes →
      final.nlines = old.2.nlines + (committedNode config spare bytes).nlines →
      Received config spare bytes nodes final
  | linked : final.data = bytes → final.nlines = (committedNode config spare bytes).nlines →
      Received config spare bytes nodes final

theorem Shaped.listed {s : State bufsiz} {fresh : Allocation (LineBuffer bufsiz)}
    {front rest : Nodes bufsiz} {continues : Bool} (shaped : Shaped s fresh front rest continues) :
    Listed s front rest := by
  cases shaped with
  | spare linked => exact linked.toListed
  | spareless _ _ owner => exact owner.toListed

theorem Replaced.shaped {config : Config} {s s' : State bufsiz} {front rest : Nodes bufsiz}
    {fresh : Allocation (LineBuffer bufsiz)} {continues : Bool} (owner : Spareless s front rest)
    (replaced : Replaced config s fresh front rest (.ok (continues, s'))) :
    ∃ front', Shaped s' fresh front' rest continues ∧ s'.tailOffset = s.tailOffset := by
  cases replaced with
  | @recycled _ back _ _ linked => exact ⟨back, .spare linked, rfl⟩
  | exhausted _ missing => exact ⟨front, .spareless rfl missing owner.exhausted, rfl⟩
  | allocated _ _ linked => exact ⟨front, .spare linked, rfl⟩

theorem mem_rest_of_snoc {α : Type} {front rest init : List α} {final : α}
    (split : front ++ rest = init ++ [final]) (nonempty : rest ≠ []) : final ∈ rest := by
  have last := congrArg List.getLast? split
  rw [List.getLast?_append_of_ne_nil _ nonempty, List.getLast?_concat] at last
  exact List.mem_of_getLast? last

/-- An append that returns leaves a list whose tail can be read, and the appended
bytes where they were placed, in a block that is still allocated. -/
theorem Linked.append_returns {config : Config} {s s' : State bufsiz}
    {spare : Nat × LineBuffer bufsiz} {front rest : Nodes bufsiz} {bytes : List UInt8}
    {fresh : Allocation (LineBuffer bufsiz)} {continues : Bool}
    (linked : Linked s spare front rest) (nonempty : bytes ≠ [])
    (fits : bytes.length ≤ bufsiz) (sound : Allocates s fresh)
    (ran : bufferAppend config s bytes fresh = .ok (continues, s')) :
    ∃ front' rest' final node, Shaped s' fresh front' rest' continues ∧ Within s' ∧
      final ∈ rest' ∧ Received config spare.2 bytes (front ++ rest) final.2 ∧
      s'.heap.lookup spare.1 = some node ∧ node.buffer.val.take bytes.length = bytes := by
  obtain ⟨buffer, filled, grown⟩ := linked.grown nonempty fits fresh
  have data : (committedNode config (filledNode spare.2 buffer) bytes).data = bytes :=
    data_committedNode linked.bufsiz_lt filled fits
  have lines : (committedNode config (filledNode spare.2 buffer) bytes).nlines =
      (committedNode config spare.2 bytes).nlines := rfl
  have kept : (committedNode config (filledNode spare.2 buffer) bytes).buffer.val.take
      bytes.length = bytes := filled
  generalize committedNode config (filledNode spare.2 buffer) bytes = node
    at grown data lines kept
  rw [ran] at grown
  generalize returned : Except.ok (continues, s') = result at grown
  cases grown with
  | @merged init final target split holds merged =>
      obtain ⟨tracked, tracks, returned⟩ := except_bind_ok returned.symm
      obtain ⟨same, front', rest', split', listed⟩ :=
        keepTrackOfTail_listed merged.toListed tracks
      have within := keepTrackOfTail_within merged.toListed tracks
      obtain ⟨resets, linked'⟩ := (merged.sameList same split' listed).resetAppend
      rw [resets] at returned
      cases returned
      have received : Received config spare.2 bytes (front ++ rest)
          (mergedNode final.2 node target) :=
        .copied (show final ∈ front ++ rest by simp [split]) (by rw [holds, data])
          (congrArg (final.2.nlines + ·) lines)
      rw [← List.append_assoc] at split'
      exact ⟨front', rest', _, _, .spare linked',
        within.of_listed listed linked'.toListed rfl,
        mem_rest_of_snoc split' listed.nonempty, received, AList.lookup_insert _, kept⟩
  | @linked init final split owner =>
      obtain ⟨tracked, tracks, returned⟩ := except_bind_ok returned.symm
      obtain ⟨same, front', rest', split', listed⟩ :=
        keepTrackOfTail_listed owner.toListed tracks
      have within := keepTrackOfTail_within owner.toListed tracks
      have owner' := owner.sameList same split' listed
      rw [split] at linked
      have sound' := same.allocates (owner.allocates linked sound)
      have last : (spare.1, node) ∈ rest' := by
        have ends : front' ++ rest' =
            (front ++ (init ++ [(final.1, linkedNode final.2 spare.1)])) ++
              [(spare.1, node)] := by simpa using split'
        exact mem_rest_of_snoc ends listed.nonempty
      have replaced : Replaced config _ _ _ _ _ := owner'.replaced sound'
      rw [returned] at replaced
      obtain ⟨front'', shaped, offset⟩ := replaced.shaped owner'
      have found := shaped.listed.lookup (List.mem_append_right _ last)
      exact ⟨front'', rest', (spare.1, node), node, shaped,
        within.of_listed listed shaped.listed offset, last, .linked data lines, found, kept⟩

/-! ## Line counts -/

/-- The line buffers met from `first`. -/
inductive OnList (s : State bufsiz) : LineBuffer bufsiz → Prop where
  | first {node : LineBuffer bufsiz} : load s.heap s.first = .ok node → OnList s node
  | next {node after : LineBuffer bufsiz} : OnList s node →
      load s.heap node.next = .ok after → OnList s after

/-- Every buffer of the list counts its own newlines. -/
def LinesCounted (s : State bufsiz) : Prop :=
  ∀ node, OnList s node → node.nlines.toNat = node.data.count newline

theorem onList_of_chain {s : State bufsiz} {nodes : Nodes bufsiz} {start : Pointer}
    (chain : Chain LineBuffer.next s.heap start nodes none)
    (starts : ∀ node, load s.heap start = .ok node → OnList s node) :
    ∀ node ∈ nodes, OnList s node.2 := by
  induction nodes generalizing start with
  | nil => simp
  | cons head rest ih =>
      obtain ⟨rfl, found, chain⟩ := Chain.cons_iff.mp chain
      have first := starts head.2 (load_of_lookup found)
      intro node member
      rcases List.mem_cons.mp member with same | member
      · rwa [same]
      · exact ih chain (fun after loaded => .next first loaded) node member

theorem Listed.mem_of_onList {s : State bufsiz} {front rest : Nodes bufsiz}
    (listed : Listed s front rest) {node : LineBuffer bufsiz} (reached : OnList s node) :
    ∃ block, (block, node) ∈ front ++ rest := by
  have chain := listed.chain
  induction reached with
  | first loaded =>
      obtain ⟨head, others, split⟩ := List.exists_cons_of_ne_nil
        (show front ++ rest ≠ [] by simp [listed.nonempty])
      rw [split, Chain.cons_iff] at chain
      rw [chain.1, load_of_lookup chain.2.1] at loaded
      cases loaded
      exact ⟨head.1, by simp [split]⟩
  | next _ loaded ih =>
      obtain ⟨block, member⟩ := ih
      obtain ⟨before, after, split⟩ := List.append_of_mem member
      rw [split] at chain
      cases after with
      | nil =>
          have ended := chain.next_of_last
          simp only at ended
          rw [ended] at loaded
          cases loaded
      | cons node after =>
          have links := chain.next_of_split
          have found := chain.lookup (List.mem_append_right _ (.tail _ (.head _)))
          simp only at links
          rw [links, load_of_lookup found] at loaded
          cases loaded
          exact ⟨node.1, by simp [split]⟩

theorem Listed.linesCounted_iff {s : State bufsiz} {front rest : Nodes bufsiz}
    (listed : Listed s front rest) :
    LinesCounted s ↔
      ∀ node ∈ front ++ rest, node.2.nlines.toNat = node.2.data.count newline := by
  constructor
  · intro counted node member
    apply counted
    apply onList_of_chain listed.chain _ node member
    intro other loaded
    exact .first loaded
  · intro counted node reached
    obtain ⟨block, member⟩ := listed.mem_of_onList reached
    exact counted (block, node) member

/-- The first append shows whether the spare block was clean. -/
theorem Received.zero_of_counted {config : Config} {spare final : LineBuffer bufsiz}
    {bytes : List UInt8} {nodes : Nodes bufsiz} (mode : config.countLines = true)
    (received : Received config spare bytes nodes final)
    (before : ∀ node ∈ nodes, node.2.nlines.toNat = node.2.data.count newline)
    (after : final.nlines.toNat = final.data.count newline) : spare.nlines = 0 := by
  have exact_ : final.nlines = UInt64.ofNat (final.data.count newline) := by
    rw [← after, UInt64.ofNat_toNat]
  cases received with
  | copied member data lines =>
      have old := before _ member
      rw [lines, data, List.count_append, UInt64.ofNat_add, ← old, UInt64.ofNat_toNat]
        at exact_
      simpa [committedNode, mode] using exact_
  | linked data lines =>
      rw [lines, data] at exact_
      simpa [committedNode, mode] using exact_

/-! ## Two executions -/

/-- What a buffer reports, and whether it counted lines correctly. -/
structure Reports (config : Config) (s : State bufsiz) (reported : List UInt8) : Prop where
  tail : bufferTail s = .ok reported
  size : (bufferTailSize s).toNat = reported.length
  lines : config.countLines = true → LinesCounted s

/-- Both executions return and report the same tail. -/
def Agree (config : Config) (execution other : Execution bufsiz) : Prop :=
  ∃ s s' tail, execution.run config = .ok (true, s) ∧ other.run config = .ok (true, s') ∧
    Reports config s tail ∧ Reports config s' tail

theorem Holds.reports {config : Config} {s : State bufsiz} {front back : Nodes bufsiz}
    {tail : Nat × LineBuffer bufsiz} {text : List UInt8}
    (holds : Holds config s front tail back text) (listed : Listed s front (tail :: back)) :
    Reports config s (requiredTail config text) where
  tail := holds.bufferTail listed
  size := holds.bufferTailSize listed
  lines mode := listed.linesCounted_iff.mpr (holds.positioned.counted.nlines mode)

/-- An execution whose spare block is clean, or which appends nothing, reports
the required tail. -/
theorem Execution.Supplied.reports {config : Config} {execution : Execution bufsiz}
    (supplied : execution.Supplied config) (proper : execution.Proper)
    (clean : config.countLines = false ∨ execution.steps = [] ∨ execution.Zeroed) :
    ∃ s, execution.run config = .ok (true, s) ∧
      Reports config s (requiredTail config execution.text) := by
  by_cases nothing : execution.steps = []
  · have text : execution.text = [] := by simp [Execution.text, nothing]
    refine ⟨execution.initial, ?_, ?_⟩
    · rw [supplied.run_eq, nothing]
      rfl
    · rw [text]
      exact (execution.holds config).reports supplied.linked.toListed
  · have zeroed : config.countLines = true → execution.Zeroed := by
      intro mode
      rcases clean with bytes | steps | zeroed
      · simp [mode] at bytes
      · exact absurd steps nothing
      · exact zeroed
    obtain ⟨s, ran, _, _, _, _, linked, holds, _⟩ := supplied.run proper zeroed
    exact ⟨s, ran, holds.reports linked.toListed⟩

/-- An execution that counts the lines of its first append had a clean block. -/
theorem Execution.Supplied.zeroed {config : Config} {execution : Execution bufsiz}
    (supplied : execution.Supplied config) (proper : execution.Proper)
    (mode : config.countLines = true) (appends : execution.steps ≠ []) {s : State bufsiz}
    (ran : (execution.upTo 1).run config = .ok (true, s)) (counted : LinesCounted s) :
    execution.Zeroed := by
  obtain ⟨⟨bytes, fresh⟩, rest, steps⟩ := List.exists_cons_of_ne_nil appends
  have provided := supplied.steps _ supplied.init
  rw [steps] at provided
  obtain ⟨_, sound, _⟩ := provided
  obtain ⟨nonempty, fits⟩ := proper (bytes, fresh) (by simp [steps])
  have first : bufferAppend config execution.initial bytes fresh = .ok (true, s) := by
    rw [(supplied.upTo 1).run_eq] at ran
    simp only [Execution.upTo, steps, List.take_succ_cons, List.take_zero, appendAll] at ran
    obtain ⟨⟨continues, s'⟩, appended, returned⟩ := except_bind_ok ran
    cases continues with
    | false => cases returned
    | true =>
        cases returned
        exact appended
  obtain ⟨_, _, _, _, shaped, _, last, received, _⟩ :=
    supplied.linked.append_returns nonempty fits sound first
  have before := (execution.holds config).positioned.counted.nlines mode
  have after := shaped.listed.linesCounted_iff.mp counted
  have zero : execution.spare.2.nlines = 0 :=
    received.zero_of_counted mode before (after _ (List.mem_append_right _ last))
  exact zero

/-- Two executions that append the same chunks agree after every append exactly
when lines do not count, nothing is appended, or both spare blocks were clean. -/
theorem executions_agree_iff (config : Config) (execution other : Execution bufsiz)
    (supplied : execution.Supplied config) (supplied' : other.Supplied config)
    (proper : execution.Proper)
    (same : execution.steps.map Prod.fst = other.steps.map Prod.fst) :
    (∀ count, Agree config (execution.upTo count) (other.upTo count)) ↔
      config.countLines = false ∨ execution.steps = [] ∨
        (execution.Zeroed ∧ other.Zeroed) := by
  have steps_iff : execution.steps = [] ↔ other.steps = [] := by
    rw [← List.map_eq_nil_iff (f := Prod.fst), same, List.map_eq_nil_iff]
  have proper' : other.Proper := by
    intro step member
    have chunk : step.1 ∈ execution.steps.map Prod.fst := by
      rw [same]
      exact List.mem_map_of_mem member
    obtain ⟨step', member', chunks⟩ := List.mem_map.mp chunk
    rw [← chunks]
    exact proper step' member'
  constructor
  · intro agree
    by_cases mode : config.countLines = false
    · exact .inl mode
    by_cases nothing : execution.steps = []
    · exact .inr (.inl nothing)
    have lines := Bool.eq_true_of_not_eq_false mode
    obtain ⟨s, s', tail, ran, ran', reports, reports'⟩ := agree 1
    have zeroed := supplied.zeroed proper lines nothing ran (reports.lines lines)
    have zeroed' := supplied'.zeroed proper' lines (mt steps_iff.mpr nothing) ran'
      (reports'.lines lines)
    exact .inr (.inr ⟨zeroed, zeroed'⟩)
  · intro clean count
    have text : (execution.upTo count).text = (other.upTo count).text := by
      simp only [Execution.text, Execution.upTo, List.map_take, same]
    have empty : execution.steps = [] → (execution.upTo count).steps = [] := by
      intro nothing
      simp [Execution.upTo, nothing]
    have empty' : execution.steps = [] → (other.upTo count).steps = [] := by
      intro nothing
      simp [Execution.upTo, steps_iff.mp nothing]
    obtain ⟨s, ran, reports⟩ := (supplied.upTo count).reports (proper.upTo count)
      (clean.imp_right (.imp empty And.left))
    obtain ⟨s', ran', reports'⟩ := (supplied'.upTo count).reports (proper'.upTo count)
      (clean.imp_right (.imp empty' And.right))
    rw [← text] at reports'
    exact ⟨s, s', _, ran, ran', reports, reports'⟩

/-- Two lines, and a spare block whose memory held a line count. -/
def staleExecution (lines : UInt64) : Execution 4 where
  first := (1, ⟨sampleArea, 9, 9, some 5⟩)
  append := (2, ⟨sampleArea, 9, lines, some 5⟩)
  steps := [([97, 10], some (3, ⟨sampleArea, 9, 9, none⟩)),
    ([98, 10], some (4, ⟨sampleArea, 9, 9, none⟩))]

theorem staleExecutions_agree_iff :
    (∀ count, Agree ⟨true, 2⟩ ((staleExecution 0).upTo count)
        ((staleExecution 1).upTo count)) ↔
      (true = false ∨ (staleExecution 0).steps = [] ∨
        ((staleExecution 0).Zeroed ∧ (staleExecution 1).Zeroed)) :=
  executions_agree_iff ⟨true, 2⟩ (staleExecution 0) (staleExecution 1) (by decide)
    (by decide) (by decide) rfl

/-- Of two lines a tail of two lines loses the first. -/
theorem executions_disagree :
    ¬ ∀ (config : Config) (execution other : Execution 4), execution.Supplied config →
      other.Supplied config → execution.Proper →
      execution.steps.map Prod.fst = other.steps.map Prod.fst →
      ∀ count, Agree config (execution.upTo count) (other.upTo count) := by
  intro agree
  obtain ⟨s, s', tail, ran, ran', reports, reports'⟩ := agree ⟨true, 2⟩ (staleExecution 0)
    (staleExecution 1) (by decide) (by decide) (by decide) rfl 2
  have whole : (((staleExecution 0).upTo 2).run ⟨true, 2⟩ >>= fun result =>
      bufferTail result.2) = .ok [97, 10, 98, 10] := by decide
  have partial_ : (((staleExecution 1).upTo 2).run ⟨true, 2⟩ >>= fun result =>
      bufferTail result.2) = .ok [98, 10] := by decide
  rw [ran, except_ok_bind, reports.tail] at whole
  rw [ran', except_ok_bind, reports'.tail] at partial_
  cases whole
  cases partial_

end Tailserver.Buffer
