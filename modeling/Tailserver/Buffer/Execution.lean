import Tailserver.Buffer.Ready

/-! Executions of the buffer: `buffer_init` and then any number of appends, each
with what `malloc` would answer. The tail they leave is the required one. -/

set_option autoImplicit false

namespace Tailserver.Buffer

open CMemory

variable {bufsiz : Nat}

/-- One append: the chunk, and the block `malloc` would return. -/
abbrev Step (bufsiz : Nat) := List UInt8 × Allocation (LineBuffer bufsiz)

def appendAll (config : Config) :
    State bufsiz → List (Step bufsiz) → Except Fault (Bool × State bufsiz)
  | s, [] => .ok (true, s)
  | s, (bytes, fresh) :: steps => do
      let (continues, s) ← bufferAppend config s bytes fresh
      if continues then appendAll config s steps else return (false, s)

/-- Every `malloc` of the appends succeeds. -/
def Supplied (config : Config) : State bufsiz → List (Step bufsiz) → Prop
  | _, [] => True
  | s, (bytes, fresh) :: steps =>
      fresh.isSome ∧ Allocates s fresh ∧
        ∀ s', bufferAppend config s bytes fresh = .ok (true, s') → Supplied config s' steps

instance decidableSupplied (config : Config) :
    (s : State bufsiz) → (steps : List (Step bufsiz)) → Decidable (Supplied config s steps)
  | _, [] => isTrue trivial
  | s, (bytes, fresh) :: steps =>
      have : Decidable (∀ s', bufferAppend config s bytes fresh = .ok (true, s') →
          Supplied config s' steps) :=
        match bufferAppend config s bytes fresh with
        | .ok (true, s') =>
            have := decidableSupplied config s' steps
            decidable_of_iff (Supplied config s' steps) (by simp)
        | .ok (false, _) => isTrue (by simp)
        | .error _ => isTrue (by simp)
      inferInstanceAs (Decidable (_ ∧ _ ∧ _))

/-- Memory that holds one line buffer. -/
def single (node : Nat × LineBuffer bufsiz) : Heap (LineBuffer bufsiz) :=
  AList.insert node.1 node.2 ∅

structure Execution (bufsiz : Nat) where
  first : Nat × LineBuffer bufsiz
  append : Nat × LineBuffer bufsiz
  steps : List (Step bufsiz)

namespace Execution

def init (execution : Execution bufsiz) : Except Fault (Bool × State bufsiz) :=
  bufferInit (some execution.first) (some execution.append)

def run (config : Config) (execution : Execution bufsiz) :
    Except Fault (Bool × State bufsiz) := do
  let (continues, s) ← execution.init
  if continues then appendAll config s execution.steps else return (false, s)

def text (execution : Execution bufsiz) : List UInt8 :=
  (execution.steps.map Prod.fst).flatten

/-- The chunks are such as callers append. -/
def Proper (execution : Execution bufsiz) : Prop :=
  ∀ step ∈ execution.steps, step.1 ≠ [] ∧ step.1.length ≤ bufsiz

instance (execution : Execution bufsiz) : Decidable execution.Proper :=
  inferInstanceAs (Decidable (∀ step ∈ execution.steps, _))

/-- Every `malloc` returns a fresh block. -/
structure Supplied (config : Config) (execution : Execution bufsiz) : Prop where
  first : FreshBuffer ({} : State bufsiz) execution.first.1
  append : FreshBuffer
    ({ heap := single execution.first } : State bufsiz) execution.append.1
  steps : ∀ s, execution.init = .ok (true, s) → Buffer.Supplied config s execution.steps

instance (config : Config) (execution : Execution bufsiz) :
    Decidable (execution.Supplied config) :=
  have : Decidable (∀ s, execution.init = .ok (true, s) →
      Buffer.Supplied config s execution.steps) :=
    match execution.init with
    | .ok (true, s) => decidable_of_iff (Buffer.Supplied config s execution.steps) (by simp)
    | .ok (false, _) => isTrue (by simp)
    | .error _ => isTrue (by simp)
  decidable_of_iff (_ ∧ _ ∧ _) ⟨fun all => ⟨all.1, all.2.1, all.2.2⟩,
    fun all => ⟨all.first, all.append, all.steps⟩⟩

/-- The only field the code leaves unset reads as zero. -/
def Zeroed (execution : Execution bufsiz) : Prop := execution.append.2.nlines = 0

/-- The spare block `buffer_init` leaves behind. -/
def spare (execution : Execution bufsiz) : Nat × LineBuffer bufsiz :=
  (execution.append.1, { execution.append.2 with nbytes := 0, next := none })

/-- The state `buffer_init` leaves behind. -/
def initial (execution : Execution bufsiz) : State bufsiz where
  heap := (single (execution.first.1, renewedNode execution.first.2)).insert
    execution.append.1 execution.spare.2
  first := some execution.first.1
  last := some execution.first.1
  append := some execution.append.1
  tailBuffer := some execution.first.1

end Execution

/-! ## Initialization -/

theorem Execution.Supplied.different {config : Config} {execution : Execution bufsiz}
    (supplied : execution.Supplied config) : execution.append.1 ≠ execution.first.1 := by
  intro same
  apply supplied.append.1
  rw [same]
  exact AList.mem_insert _ |>.mpr (.inl rfl)

theorem insert_single (first : Nat × LineBuffer bufsiz) {block : Nat}
    (different : block ≠ first.1) (node before after : LineBuffer bufsiz) :
    AList.insert block after (AList.insert first.1 node
        (AList.insert block before (single first))) =
      AList.insert block after (single (first.1, node)) := by
  apply AList.ext
  simp [single, List.kerase_cons_ne, different, different.symm]

theorem Execution.Supplied.init {config : Config} {execution : Execution bufsiz}
    (supplied : execution.Supplied config) :
    execution.init = .ok (true, execution.initial) := by
  have different := supplied.different
  obtain ⟨⟨block₁, node₁⟩, ⟨block₂, node₂⟩, steps⟩ := execution
  simp only [Execution.init, bufferInit, allocate, reduceCtorEq, if_false]
  rw [State.modify_of_lookup rfl (AList.lookup_insert _)]
  simp only [except_ok_bind, AList.insert_insert]
  rw [State.modify_of_lookup rfl (AList.lookup_insert _)]
  simp only [except_ok_bind, AList.insert_insert]
  rw [State.modify_of_lookup rfl (AList.lookup_insert _)]
  simp only [except_ok_bind, AList.insert_insert]
  rw [State.modify_of_lookup rfl
    ((AList.lookup_insert_ne different.symm).trans (AList.lookup_insert _))]
  simp only [except_ok_bind]
  rw [State.modify_of_lookup rfl
    ((AList.lookup_insert_ne different).trans (AList.lookup_insert _))]
  simp only [except_ok_bind, except_pure, Execution.initial]
  have heaps := insert_single (block₁, renewedNode node₁) different
    (renewedNode node₁) { node₂ with nbytes := 0 } { node₂ with nbytes := 0, next := none }
  exact congrArg (fun heap => Except.ok (true, ({
    heap
    first := some block₁
    last := some block₁
    append := some block₂
    tailBuffer := some block₁ } : State bufsiz))) heaps

theorem Execution.Supplied.linked {config : Config} {execution : Execution bufsiz}
    (supplied : execution.Supplied config) :
    Linked execution.initial execution.spare []
      [(execution.first.1, renewedNode execution.first.2)] := by
  have different := supplied.different
  have kept : execution.initial.heap.lookup execution.first.1 =
      some (renewedNode execution.first.2) :=
    (AList.lookup_insert_ne different.symm).trans (AList.lookup_insert _)
  have absent : execution.append.1 ∉ single (execution.first.1,
      renewedNode execution.first.2) := supplied.append.1
  have blocks : execution.initial.heap.keys = [execution.append.1, execution.first.1] :=
    keys_insert_of_notMem _ absent
  refine ⟨⟨⟨rfl, kept, rfl⟩, by simp, rfl, rfl, by simp, ?_, ?_⟩, rfl,
    AList.lookup_insert _, rfl, ?_⟩
  · intro node member
    cases List.mem_singleton.mp member
    exact Nat.zero_le _
  · rw [blockCount, blocks]
    exact supplied.append.2
  · rw [blocks]
    exact .refl _

theorem Execution.holds (config : Config) (execution : Execution bufsiz) :
    Holds config execution.initial [] (execution.first.1, renewedNode execution.first.2) []
      [] := by
  have data : (renewedNode execution.first.2).data = [] := by
    simp [renewedNode, LineBuffer.data]
  have text : Nodes.text ([] ++ [(execution.first.1, renewedNode execution.first.2)]) =
      [] := by simp [data]
  refine ⟨⟨⟨?_, rfl, ?_, fun _ => rfl, ?_⟩, ?_⟩, Nat.zero_le _, ?_, ?_, ?_⟩
  · rw [text]
    rfl
  · intro _
    rw [text]
    rfl
  · intro _ node member
    cases List.mem_singleton.mp member
    rw [data]
    rfl
  · rw [startOf, text, Units.lastStart, Units.afterNth_nil]
    rfl
  · intro more
    exact absurd rfl more
  · intro node member
    cases member
  · exact ⟨[], by rw [text]; rfl, .inl rfl⟩

theorem Execution.Supplied.ready {config : Config} {execution : Execution bufsiz}
    (supplied : execution.Supplied config)
    (clean : config.countLines = true → execution.Zeroed) :
    Ready config execution.initial [] :=
  ⟨_, _, _, _, supplied.linked, execution.holds config, clean⟩

/-! ## Fewer appends -/

theorem Supplied.take {config : Config} {s : State bufsiz} {steps : List (Step bufsiz)}
    (supplied : Supplied config s steps) (count : Nat) :
    Supplied config s (steps.take count) := by
  induction steps generalizing s count with
  | nil => simpa using supplied
  | cons step steps ih =>
      cases count with
      | zero => trivial
      | succ count =>
          obtain ⟨granted, sound, supplied⟩ := supplied
          exact ⟨granted, sound, fun s' ran => ih (supplied s' ran) count⟩

namespace Execution

def upTo (execution : Execution bufsiz) (count : Nat) : Execution bufsiz :=
  { execution with steps := execution.steps.take count }

theorem Supplied.upTo {config : Config} {execution : Execution bufsiz}
    (supplied : execution.Supplied config) (count : Nat) :
    (execution.upTo count).Supplied config :=
  ⟨supplied.first, supplied.append, fun s ran => (supplied.steps s ran).take count⟩

theorem Proper.upTo {execution : Execution bufsiz} (proper : execution.Proper) (count : Nat) :
    (execution.upTo count).Proper :=
  fun step member => proper step (List.mem_of_mem_take member)

end Execution

/-! ## Appends -/

theorem Ready.bufferTail {config : Config} {s : State bufsiz} {text : List UInt8}
    (ready : Ready config s text) : bufferTail s = .ok (requiredTail config text) := by
  obtain ⟨_, _, _, _, linked, holds, _⟩ := ready
  exact holds.bufferTail linked.toListed

theorem Ready.bufferTailSize {config : Config} {s : State bufsiz} {text : List UInt8}
    (ready : Ready config s text) :
    (bufferTailSize s).toNat = (requiredTail config text).length := by
  obtain ⟨_, _, _, _, linked, holds, _⟩ := ready
  exact holds.bufferTailSize linked.toListed

theorem Exhausted.bufferTail {config : Config} {s : State bufsiz} {text : List UInt8}
    (exhausted : Exhausted config s text) : bufferTail s = .ok (requiredTail config text) := by
  obtain ⟨_, _, _, _, owner, holds⟩ := exhausted
  exact holds.bufferTail owner.toListed

theorem Ready.bufsiz_lt {config : Config} {s : State bufsiz} {text : List UInt8}
    (ready : Ready config s text) : bufsiz < addressSpace := by
  obtain ⟨_, _, _, _, linked, _⟩ := ready
  exact linked.bufsiz_lt

/-- The tail is in memory, so its length is a `ssize_t`. -/
theorem Ready.length_requiredTail_lt {config : Config} {s : State bufsiz} {text : List UInt8}
    (ready : Ready config s text) : ((requiredTail config text).length : Int) < Word.signedMax := by
  obtain ⟨_, front, tail, back, linked, holds, _⟩ := ready
  have bounded := linked.length_text_lt
  rw [holds.keeps.requiredTail_eq, List.length_drop]
  simp only [addressSpace] at bounded
  simp only [Word.signedMax]
  omega

theorem Ready.append_nil {config : Config} {s : State bufsiz} {text : List UInt8}
    (ready : Ready config s text) (fresh : Allocation (LineBuffer bufsiz)) :
    ∃ s', bufferAppend config s [] fresh = .ok (true, s') ∧ Ready config s' text := by
  obtain ⟨spare, front, tail, back, linked, holds, clean⟩ := ready
  obtain ⟨buffer, _, places⟩ := linked.placeBytes (show [].length ≤ bufsiz from Nat.zero_le _)
  refine ⟨{ s with heap := s.heap.insert spare.1 (filledNode spare.2 buffer) }, ?_,
    (spare.1, filledNode spare.2 buffer), front, tail, back, ?_, ?_, clean⟩
  · simp only [bufferAppend, places, except_ok_bind]
    rfl
  · exact linked.setSpare linked.spareNext rfl rfl rfl rfl rfl
  · exact holds.frame rfl rfl rfl rfl rfl

/-- No append to a ready buffer fails when `malloc` does not. -/
theorem Ready.append_granted {config : Config} {s : State bufsiz} {text bytes : List UInt8}
    {fresh : Allocation (LineBuffer bufsiz)} (ready : Ready config s text)
    (fits : bytes.length ≤ bufsiz) (granted : fresh.isSome) (sound : Allocates s fresh) :
    ∃ s', bufferAppend config s bytes fresh = .ok (true, s') ∧
      Ready config s' (text ++ bytes) := by
  by_cases empty : bytes = []
  · rw [empty, List.append_nil]
    exact ready.append_nil fresh
  · have appends := ready.append empty fits sound
    generalize bufferAppend config s bytes fresh = result at appends ⊢
    cases appends with
    | exhausted missing => simp [missing] at granted
    | @ready s' ready' => exact ⟨s', rfl, ready'⟩

/-- No sequence of appends to a ready buffer can fail. -/
theorem Ready.appendAll {config : Config} {s : State bufsiz} {text : List UInt8}
    {steps : List (Step bufsiz)} (ready : Ready config s text)
    (fits : ∀ step ∈ steps, step.1.length ≤ bufsiz) (supplied : Supplied config s steps) :
    ∃ s', appendAll config s steps = .ok (true, s') ∧
      Ready config s' (text ++ (steps.map Prod.fst).flatten) := by
  induction steps generalizing s text with
  | nil => exact ⟨s, rfl, by simpa using ready⟩
  | cons step steps ih =>
      obtain ⟨bytes, fresh⟩ := step
      obtain ⟨granted, sound, supplied⟩ := supplied
      obtain ⟨s₁, ran, ready₁⟩ := ready.append_granted (fits _ (.head _)) granted sound
      obtain ⟨s', rest, ready'⟩ := ih ready₁ (fun step member => fits step (.tail _ member))
        (supplied _ ran)
      refine ⟨s', ?_, by simpa using ready'⟩
      simp only [Buffer.appendAll, ran, except_ok_bind, if_true, rest]

theorem Execution.Supplied.run_eq {config : Config} {execution : Execution bufsiz}
    (supplied : execution.Supplied config) :
    execution.run config = appendAll config execution.initial execution.steps := by
  simp only [Execution.run, supplied.init, except_ok_bind, if_true]

theorem Execution.Supplied.run {config : Config} {execution : Execution bufsiz}
    (supplied : execution.Supplied config) (proper : execution.Proper)
    (clean : config.countLines = true → execution.Zeroed) :
    ∃ s, execution.run config = .ok (true, s) ∧ Ready config s execution.text := by
  rw [supplied.run_eq]
  exact (supplied.ready clean).appendAll (fun step member => (proper step member).2)
    (supplied.steps _ supplied.init)

/-- After any appends, walking the tail gives the required suffix of all the
bytes appended, and `buffer_tail_size` is its length. -/
theorem tail_of_execution (config : Config) (execution : Execution bufsiz)
    (supplied : execution.Supplied config) (zeroed : execution.Zeroed)
    (proper : execution.Proper) :
    ∃ s, execution.run config = .ok (true, s) ∧
      bufferTail s = .ok (requiredTail config execution.text) ∧
      (bufferTailSize s).toNat = (requiredTail config execution.text).length := by
  obtain ⟨s, ran, ready⟩ := supplied.run proper (fun _ => zeroed)
  exact ⟨s, ran, ready.bufferTail, ready.bufferTailSize⟩

/-- What a new block may hold. -/
def sampleArea : Area 4 := ⟨[7, 7, 7, 7], rfl⟩

/-- Four chunks that are copied, linked and recycled. -/
def sampleExecution : Execution 4 where
  first := (1, ⟨sampleArea, 9, 9, some 5⟩)
  append := (2, ⟨sampleArea, 9, 0, some 5⟩)
  steps := [([97, 10], some (3, ⟨sampleArea, 9, 9, none⟩)),
    ([98, 10, 99], some (4, ⟨sampleArea, 9, 9, none⟩)),
    ([10, 100, 101, 10], some (5, ⟨sampleArea, 9, 9, none⟩)),
    ([102], some (6, ⟨sampleArea, 9, 9, none⟩))]

theorem tail_of_sampleExecution :
    ∃ s, sampleExecution.run ⟨true, 1⟩ = .ok (true, s) ∧
      bufferTail s = .ok (requiredTail ⟨true, 1⟩ sampleExecution.text) ∧
      (bufferTailSize s).toNat =
        (requiredTail ⟨true, 1⟩ sampleExecution.text).length :=
  tail_of_execution ⟨true, 1⟩ sampleExecution (by decide) rfl (by decide)

end Tailserver.Buffer
