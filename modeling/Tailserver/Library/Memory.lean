import Mathlib.Data.List.AList

/-! Memory as a C program sees it: blocks named by pointers, each holding one
value, and fixed-size byte areas inside a block. Every access is checked, so a
bad pointer, a bad index and a failed assertion are results and not holes. -/

set_option autoImplicit false

namespace CMemory

/-- The ways an execution can leave the behaviour of the source. `blocked` is
not an error: a call is still waiting for the environment to answer it. -/
inductive Fault where
  | nullDereference
  | danglingPointer
  | outOfBounds
  | assertionFailed
  | diverged
  | blocked
  deriving DecidableEq, Repr

/-- `none` is the null pointer. -/
abbrev Pointer := Option Nat

abbrev Heap (α : Type) := AList (fun _ : Nat => α)

/-- What an allocator answers: the null pointer, or a block together with the
value its memory happens to hold. -/
abbrev Allocation (α : Type) := Option (Nat × α)

section Heap

variable {α : Type}

def blockCount (heap : Heap α) : Nat := heap.keys.length

def load (heap : Heap α) : Pointer → Except Fault α
  | none => .error .nullDereference
  | some block =>
      match heap.lookup block with
      | none => .error .danglingPointer
      | some value => .ok value

def store (heap : Heap α) (value : α) : Pointer → Except Fault (Heap α)
  | none => .error .nullDereference
  | some block =>
      if block ∈ heap then .ok (heap.insert block value)
      else .error .danglingPointer

def release (heap : Heap α) : Pointer → Except Fault (Heap α)
  | none => .ok heap
  | some block =>
      if block ∈ heap then .ok (heap.erase block) else .error .danglingPointer

def allocate (heap : Heap α) : Allocation α → Heap α × Pointer
  | none => (heap, none)
  | some (block, value) => (heap.insert block value, some block)

/-- An allocator's success: the block is not in use, and the blocks in use
still fit into `limit` bytes when each takes `size` of them. -/
def Fresh (size limit : Nat) (heap : Heap α) (block : Nat) : Prop :=
  block ∉ heap ∧ (blockCount heap + 1) * size ≤ limit

instance (size limit : Nat) (heap : Heap α) (block : Nat) :
    Decidable (Fresh size limit heap block) :=
  inferInstanceAs (Decidable (_ ∧ _))

theorem load_of_lookup {heap : Heap α} {block : Nat} {value : α}
    (found : heap.lookup block = some value) :
    load heap (some block) = .ok value := by
  simp only [load, found]

theorem mem_of_lookup {heap : Heap α} {block : Nat} {value : α}
    (found : heap.lookup block = some value) : block ∈ heap :=
  AList.lookup_isSome.mp (by simp [found])

theorem store_of_lookup {heap : Heap α} {block : Nat} {old : α} (value : α)
    (found : heap.lookup block = some old) :
    store heap value (some block) = .ok (heap.insert block value) := by
  simp only [store, if_pos (mem_of_lookup found)]

theorem release_of_lookup {heap : Heap α} {block : Nat} {old : α}
    (found : heap.lookup block = some old) :
    release heap (some block) = .ok (heap.erase block) := by
  simp only [release, if_pos (mem_of_lookup found)]

theorem keys_insert_perm {heap : Heap α} {block : Nat} (value : α)
    (member : block ∈ heap) : (heap.insert block value).keys.Perm heap.keys := by
  rw [AList.keys_insert]
  exact (List.perm_cons_erase (AList.mem_keys.mp member)).symm

@[simp] theorem blockCount_empty : blockCount (∅ : Heap α) = 0 := rfl

theorem blockCount_insert_of_mem {heap : Heap α} {block : Nat} (value : α)
    (member : block ∈ heap) :
    blockCount (heap.insert block value) = blockCount heap :=
  (keys_insert_perm value member).length_eq

theorem keys_insert_of_notMem {heap : Heap α} {block : Nat} (value : α)
    (absent : block ∉ heap) : (heap.insert block value).keys = block :: heap.keys := by
  rw [AList.keys_insert,
    List.erase_of_not_mem (fun member => absent (AList.mem_keys.mpr member))]

theorem blockCount_insert_of_notMem {heap : Heap α} {block : Nat} (value : α)
    (absent : block ∉ heap) :
    blockCount (heap.insert block value) = blockCount heap + 1 := by
  simp only [blockCount, keys_insert_of_notMem value absent, List.length_cons]

theorem Fresh.congr {size limit : Nat} {heap heap' : Heap α} {block : Nat}
    (fresh : Fresh size limit heap block) (same : heap'.keys.Perm heap.keys) :
    Fresh size limit heap' block := by
  constructor
  · intro member
    exact fresh.1 (AList.mem_keys.mpr (same.mem_iff.mp (AList.mem_keys.mp member)))
  · rw [blockCount, same.length_eq]
    exact fresh.2

end Heap

section Except

variable {Error Value Result : Type}

theorem except_bind_ok {source : Except Error Value}
    {continuation : Value → Except Error Result} {result : Result}
    (success : (source >>= continuation) = .ok result) :
    ∃ value, source = .ok value ∧ continuation value = .ok result := by
  cases source with
  | error error => simp [bind, Except.bind] at success
  | ok value => exact ⟨value, rfl, success⟩

@[simp] theorem except_ok_bind (value : Value)
    (continuation : Value → Except Error Result) :
    (Except.ok value >>= continuation) = continuation value := rfl

@[simp] theorem except_pure (value : Value) :
    (pure value : Except Error Value) = .ok value := rfl

end Except

/-- The offset of the first `byte` in an area, as `memchr` finds it. -/
def memchr (area : List UInt8) (byte : UInt8) : Option Nat := area.idxOf? byte

theorem memchr_eq_none_iff {area : List UInt8} {byte : UInt8} :
    memchr area byte = none ↔ byte ∉ area := List.idxOf?_eq_none_iff

theorem memchr_eq_some {area : List UInt8} {byte : UInt8} {found : Nat}
    (searched : memchr area byte = some found) :
    ∃ front back, area = front ++ byte :: back ∧ byte ∉ front ∧ found = front.length := by
  induction area generalizing found with
  | nil => simp [memchr] at searched
  | cons head rest ih =>
      simp only [memchr, List.idxOf?_cons] at searched
      split at searched
      · next same =>
        have head_eq : head = byte := by simpa using same
        subst head_eq
        exact ⟨[], rest, rfl, by simp, (Option.some.inj searched).symm⟩
      · next different =>
        obtain ⟨index, located, rfl⟩ := Option.map_eq_some_iff.mp searched
        obtain ⟨front, back, rfl, absent, rfl⟩ := ih located
        refine ⟨head :: front, back, rfl, ?_, rfl⟩
        have distinct : byte ≠ head := fun same => different (by simp [same])
        simp [distinct, absent]

/-- A byte area of fixed size, such as a `char` array. -/
abbrev Area (size : Nat) := { bytes : List UInt8 // bytes.length = size }

namespace Area

variable {size : Nat}

def read (area : Area size) (offset length : Nat) : Except Fault (List UInt8) :=
  if offset + length ≤ size then .ok ((area.val.drop offset).take length)
  else .error .outOfBounds

def write (area : Area size) (offset : Nat) (bytes : List UInt8) :
    Except Fault (Area size) :=
  if fits : offset + bytes.length ≤ size then
    .ok ⟨area.val.take offset ++ bytes ++ area.val.drop (offset + bytes.length), by
      simp only [List.length_append, List.length_take, List.length_drop, area.property]
      omega⟩
  else .error .outOfBounds

theorem read_of_le (area : Area size) {offset length : Nat}
    (fits : offset + length ≤ size) :
    area.read offset length = .ok ((area.val.drop offset).take length) := by
  simp only [read, if_pos fits]

theorem length_read {area : Area size} {offset length : Nat} {bytes : List UInt8}
    (ran : area.read offset length = .ok bytes) : bytes.length = length := by
  unfold read at ran
  split at ran
  · cases ran
    have held := area.property
    simp only [List.length_take, List.length_drop]
    omega
  · cases ran

theorem length_read_le {area : Area size} {offset length : Nat} {bytes : List UInt8}
    (ran : area.read offset length = .ok bytes) : bytes.length ≤ size := by
  unfold read at ran
  split at ran
  · cases ran
    have held := area.property
    simp only [List.length_take, List.length_drop]
    omega
  · cases ran

theorem write_of_le (area : Area size) {offset : Nat} {bytes : List UInt8}
    (fits : offset + bytes.length ≤ size) :
    ∃ written : Area size, area.write offset bytes = .ok written ∧
      written.val.take (offset + bytes.length) = area.val.take offset ++ bytes := by
  refine ⟨_, dif_pos fits, ?_⟩
  have before : (area.val.take offset ++ bytes).length = offset + bytes.length := by
    simp only [List.length_append, List.length_take, area.property]
    omega
  exact List.take_left' before

end Area

end CMemory
