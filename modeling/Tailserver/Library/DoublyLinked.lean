import Tailserver.Library.Memory

/-! Doubly linked lists threaded through a heap. What a block of the list holds
is determined by its payload and its neighbours, so the list of payloads says
everything about the blocks. -/

set_option autoImplicit false

namespace CMemory

variable {α Payload : Type} {make : Payload → Pointer → Pointer → α} {heap : Heap α}

/-- The block a list starts with, or what follows the empty list. -/
def headOr : List (Nat × Payload) → Pointer → Pointer
  | [], stop => stop
  | node :: _, _ => some node.1

/-- The block a list ends with, or what precedes the empty list. -/
def lastOr : List (Nat × Payload) → Pointer → Pointer
  | [], start => start
  | node :: rest, _ => lastOr rest (some node.1)

/-- Between `start` and `stop` lie the blocks of `nodes`, each with links to its
two neighbours. -/
def Threaded (make : Payload → Pointer → Pointer → α) (heap : Heap α) :
    Pointer → List (Nat × Payload) → Pointer → Prop
  | _, [], _ => True
  | start, node :: rest, stop =>
      heap.lookup node.1 = some (make node.2 start (headOr rest stop)) ∧
        Threaded make heap (some node.1) rest stop

@[simp] theorem headOr_nil (stop : Pointer) :
    headOr ([] : List (Nat × Payload)) stop = stop := rfl

@[simp] theorem headOr_cons (node : Nat × Payload) (rest : List (Nat × Payload))
    (stop : Pointer) : headOr (node :: rest) stop = some node.1 := rfl

theorem headOr_append (front back : List (Nat × Payload)) (stop : Pointer) :
    headOr (front ++ back) stop = headOr front (headOr back stop) := by
  cases front <;> rfl

@[simp] theorem lastOr_nil (start : Pointer) :
    lastOr ([] : List (Nat × Payload)) start = start := rfl

@[simp] theorem lastOr_concat (front : List (Nat × Payload)) (node : Nat × Payload)
    (start : Pointer) : lastOr (front ++ [node]) start = some node.1 := by
  induction front generalizing start with
  | nil => rfl
  | cons head front ih => exact ih _

namespace Threaded

@[simp] theorem cons_iff {start stop : Pointer} {node : Nat × Payload}
    {rest : List (Nat × Payload)} :
    Threaded make heap start (node :: rest) stop ↔
      heap.lookup node.1 = some (make node.2 start (headOr rest stop)) ∧
        Threaded make heap (some node.1) rest stop := Iff.rfl

theorem append_iff {start stop : Pointer} {front back : List (Nat × Payload)} :
    Threaded make heap start (front ++ back) stop ↔
      Threaded make heap start front (headOr back stop) ∧
        Threaded make heap (lastOr front start) back stop := by
  induction front generalizing start with
  | nil => exact ⟨fun back => ⟨trivial, back⟩, And.right⟩
  | cons node front ih =>
      simp only [List.cons_append, cons_iff, ih, headOr_append, lastOr, and_assoc]

theorem lookup {start stop : Pointer} {front back : List (Nat × Payload)}
    {node : Nat × Payload}
    (threaded : Threaded make heap start (front ++ node :: back) stop) :
    heap.lookup node.1 =
      some (make node.2 (lastOr front start) (headOr back stop)) :=
  (append_iff.mp threaded).2.1

theorem congr {heap' : Heap α} {start stop : Pointer} {nodes : List (Nat × Payload)}
    (threaded : Threaded make heap start nodes stop)
    (agree : ∀ node ∈ nodes, heap'.lookup node.1 = heap.lookup node.1) :
    Threaded make heap' start nodes stop := by
  induction nodes generalizing start with
  | nil => trivial
  | cons node rest ih =>
      exact ⟨(agree node (.head _)).trans threaded.1,
        ih threaded.2 (fun other member => agree other (.tail _ member))⟩

theorem insert {start stop : Pointer} {nodes : List (Nat × Payload)} {block : Nat}
    (value : α) (threaded : Threaded make heap start nodes stop)
    (absent : block ∉ nodes.map Prod.fst) :
    Threaded make (heap.insert block value) start nodes stop := by
  apply threaded.congr
  intro node member
  apply AList.lookup_insert_ne
  intro same
  exact absent (same ▸ List.mem_map_of_mem member)

theorem erase {start stop : Pointer} {nodes : List (Nat × Payload)} {block : Nat}
    (threaded : Threaded make heap start nodes stop)
    (absent : block ∉ nodes.map Prod.fst) :
    Threaded make (heap.erase block) start nodes stop := by
  apply threaded.congr
  intro node member
  apply AList.lookup_erase_ne
  intro same
  exact absent (same ▸ List.mem_map_of_mem member)

/-- Rewriting the last block changes what follows the list. -/
theorem relinkLast {start stop : Pointer} {front : List (Nat × Payload)}
    {node : Nat × Payload} (stop' : Pointer)
    (threaded : Threaded make heap start (front ++ [node]) stop)
    (absent : node.1 ∉ front.map Prod.fst) :
    Threaded make (heap.insert node.1 (make node.2 (lastOr front start) stop')) start
      (front ++ [node]) stop' := by
  obtain ⟨before, _⟩ := append_iff.mp threaded
  exact append_iff.mpr ⟨before.insert _ absent, AList.lookup_insert heap, trivial⟩

/-- Rewriting the first block changes what precedes the list. -/
theorem relinkFirst {start stop : Pointer} {back : List (Nat × Payload)}
    {node : Nat × Payload} (start' : Pointer)
    (threaded : Threaded make heap start (node :: back) stop)
    (absent : node.1 ∉ back.map Prod.fst) :
    Threaded make (heap.insert node.1 (make node.2 start' (headOr back stop))) start'
      (node :: back) stop :=
  ⟨AList.lookup_insert heap, threaded.2.insert _ absent⟩

end Threaded

end CMemory
