import Tailserver.Library.Memory

/-! Singly linked lists threaded through a heap. `Chain` walks from one pointer
to another and records the blocks it meets with their contents, so an edit of
the heap is an edit of that record. -/

set_option autoImplicit false

namespace CMemory

variable {α : Type} {next : α → Pointer} {heap : Heap α}

/-- Following `next` from `start` meets exactly `nodes` and arrives at `stop`. -/
def Chain (next : α → Pointer) (heap : Heap α) :
    Pointer → List (Nat × α) → Pointer → Prop
  | start, [], stop => start = stop
  | start, (block, value) :: rest, stop =>
      start = some block ∧ heap.lookup block = some value ∧
        Chain next heap (next value) rest stop

namespace Chain

@[simp] theorem nil_iff {start stop : Pointer} :
    Chain next heap start [] stop ↔ start = stop := Iff.rfl

@[simp] theorem cons_iff {start stop : Pointer} {node : Nat × α}
    {rest : List (Nat × α)} :
    Chain next heap start (node :: rest) stop ↔
      start = some node.1 ∧ heap.lookup node.1 = some node.2 ∧
        Chain next heap (next node.2) rest stop := Iff.rfl

theorem append_iff {start stop : Pointer} {front back : List (Nat × α)} :
    Chain next heap start (front ++ back) stop ↔
      ∃ middle, Chain next heap start front middle ∧
        Chain next heap middle back stop := by
  induction front generalizing start with
  | nil => simp
  | cons node front ih =>
      simp only [List.cons_append, cons_iff, ih]
      constructor
      · rintro ⟨same, found, middle, front, back⟩
        exact ⟨middle, ⟨same, found, front⟩, back⟩
      · rintro ⟨middle, ⟨same, found, front⟩, back⟩
        exact ⟨same, found, middle, front, back⟩

theorem lookup {start stop : Pointer} {nodes : List (Nat × α)}
    (chain : Chain next heap start nodes stop) {node : Nat × α}
    (member : node ∈ nodes) : heap.lookup node.1 = some node.2 := by
  induction nodes generalizing start with
  | nil => simp at member
  | cons head rest ih =>
      rcases List.mem_cons.mp member with rfl | member
      · exact chain.2.1
      · exact ih chain.2.2 member

/-- A chain only depends on the blocks it meets. -/
theorem congr {heap' : Heap α} {start stop : Pointer} {nodes : List (Nat × α)}
    (chain : Chain next heap start nodes stop)
    (agree : ∀ node ∈ nodes, heap'.lookup node.1 = heap.lookup node.1) :
    Chain next heap' start nodes stop := by
  induction nodes generalizing start with
  | nil => exact chain
  | cons head rest ih =>
      exact ⟨chain.1, (agree head (.head _)).trans chain.2.1,
        ih chain.2.2 (fun node member => agree node (.tail _ member))⟩

theorem insert {start stop : Pointer} {nodes : List (Nat × α)} {block : Nat}
    {value : α} (chain : Chain next heap start nodes stop)
    (absent : block ∉ nodes.map Prod.fst) :
    Chain next (heap.insert block value) start nodes stop := by
  refine chain.congr fun node member => AList.lookup_insert_ne ?_
  rintro same
  exact absent (same ▸ List.mem_map_of_mem member)

theorem erase {start stop : Pointer} {nodes : List (Nat × α)} {block : Nat}
    (chain : Chain next heap start nodes stop) (absent : block ∉ nodes.map Prod.fst) :
    Chain next (heap.erase block) start nodes stop := by
  refine chain.congr fun node member => AList.lookup_erase_ne ?_
  rintro same
  exact absent (same ▸ List.mem_map_of_mem member)

/-- Overwriting the last block of a chain redirects where the chain arrives. -/
theorem insert_last {start stop : Pointer} {nodes : List (Nat × α)} {block : Nat}
    {old : α} (new : α) (chain : Chain next heap start (nodes ++ [(block, old)]) stop)
    (absent : block ∉ nodes.map Prod.fst) :
    Chain next (heap.insert block new) start (nodes ++ [(block, new)]) (next new) := by
  obtain ⟨middle, front, same, _, _⟩ := append_iff.mp chain
  exact append_iff.mpr ⟨middle, front.insert absent, same,
    AList.lookup_insert heap, rfl⟩

/-- Extending a chain that ends in a null pointer by one more block. -/
theorem snoc {start : Pointer} {nodes : List (Nat × α)} {stop : Pointer}
    (chain : Chain next heap start nodes stop) (node : Nat × α)
    (arrives : stop = some node.1) (found : heap.lookup node.1 = some node.2) :
    Chain next heap start (nodes ++ [node]) (next node.2) :=
  append_iff.mpr ⟨stop, chain, arrives, found, rfl⟩

theorem next_of_split {start stop : Pointer} {front : List (Nat × α)}
    {node after : Nat × α} {back : List (Nat × α)}
    (chain : Chain next heap start (front ++ node :: after :: back) stop) :
    next node.2 = some after.1 := by
  obtain ⟨_, _, _, _, rest⟩ := append_iff.mp chain
  exact rest.1

theorem next_of_last {start stop : Pointer} {front : List (Nat × α)}
    {node : Nat × α} (chain : Chain next heap start (front ++ [node]) stop) :
    next node.2 = stop := by
  obtain ⟨_, _, _, _, rest⟩ := append_iff.mp chain
  exact rest

end Chain

end CMemory
