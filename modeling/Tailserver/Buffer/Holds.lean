import Tailserver.Buffer.Counted

/-! A list that holds the end of everything ever appended, with the tail at its
place. Reading such a buffer gives the required tail, and appending keeps it,
whether the next spare block is recycled, allocated or missing. -/

set_option autoImplicit false

namespace Tailserver.Buffer

open CMemory

variable {bufsiz : Nat}

/-- The nodes hold `text` up to bytes that no tail needs any more. -/
def Keeps (config : Config) (text : List UInt8) (nodes : Nodes bufsiz) : Prop :=
  ∃ lost, text = lost ++ Nodes.text nodes ∧
    (lost = [] ∨ config.nUnits.toNat < (Nodes.text nodes).countP (unitEnds config))

structure Holds (config : Config) (s : State bufsiz) (front : Nodes bufsiz)
    (tail : Nat × LineBuffer bufsiz) (back : Nodes bufsiz) (text : List UInt8) :
    Prop where
  positioned : Positioned config (front ++ tail :: back) front s
  within : s.tailOffset.toNat ≤ tail.2.nbytes.toNat
  inside : back ≠ [] → s.tailOffset.toNat < tail.2.nbytes.toNat
  filled : ∀ node ∈ (front ++ tail :: back).tail, 0 < node.2.nbytes.toNat
  keeps : Keeps config text (front ++ tail :: back)

/-- No lines are counted yet in the spare block. -/
def Clean (config : Config) (node : LineBuffer bufsiz) : Prop :=
  config.countLines = true → node.nlines = 0

/-- A buffer that can take more bytes. -/
def Ready (config : Config) (s : State bufsiz) (text : List UInt8) : Prop :=
  ∃ spare front tail back, Linked s spare front (tail :: back) ∧
    Holds config s front tail back text ∧ Clean config spare.2

/-- A buffer without a spare block. -/
def Exhausted (config : Config) (s : State bufsiz) (text : List UInt8) : Prop :=
  s.append = none ∧ ∃ front tail back, Spareless s front (tail :: back) ∧
    Holds config s front tail back text

/-! ## Reading -/

theorem Keeps.requiredTail_eq {config : Config} {text : List UInt8} {nodes : Nodes bufsiz}
    (keeps : Keeps config text nodes) :
    requiredTail config text = (Nodes.text nodes).drop (startOf config nodes) := by
  obtain ⟨lost, rfl, nothing | many⟩ := keeps
  · rw [nothing, List.nil_append, requiredTail_eq_lastUnits]
    rfl
  · rw [requiredTail_eq_lastUnits, Units.lastUnits_append_of_lt many]
    rfl

/-- What a caller finds in a chunk from `offset` on. -/
theorem chunkBytes_of_lookup {s : State bufsiz} {block : Nat} {node : LineBuffer bufsiz}
    {offset : UInt64} (found : s.heap.lookup block = some node)
    (fits : node.nbytes.toNat ≤ bufsiz) (within : offset.toNat ≤ node.nbytes.toNat) :
    chunkBytes s (some block) offset (node.nbytes - offset) =
      .ok (node.data.drop offset.toNat) := by
  have left : (node.nbytes - offset).toNat = node.nbytes.toNat - offset.toNat :=
    Word.toNat_sub_of_le within
  simp only [chunkBytes, load_of_lookup found, except_ok_bind]
  rw [Area.read_of_le _ (by omega), left, LineBuffer.data, List.drop_take]

theorem walkTail_chain {s : State bufsiz} {nodes : Nodes bufsiz} {fuel : Nat}
    {pos : Pointer} {offset : UInt64}
    (chain : Chain LineBuffer.next s.heap pos nodes none)
    (fits : ∀ node ∈ nodes, node.2.nbytes.toNat ≤ bufsiz)
    (filled : ∀ node ∈ nodes, 0 < node.2.nbytes.toNat)
    (within : ∀ node ∈ nodes.head?, offset.toNat ≤ node.2.nbytes.toNat)
    (enough : nodes.length < fuel) :
    ∃ chunks, walkTail s fuel pos offset = .ok chunks ∧
      chunks.flatten = (Nodes.text nodes).drop offset.toNat := by
  induction nodes generalizing fuel pos offset with
  | nil =>
      obtain ⟨fuel, rfl⟩ : ∃ rest, fuel = rest + 1 := ⟨fuel - 1, by omega⟩
      have ended : pos = none := chain
      subst ended
      exact ⟨[], rfl, by simp⟩
  | cons head rest ih =>
      obtain ⟨fuel, rfl⟩ : ∃ rest, fuel = rest + 1 := ⟨fuel - 1, by omega⟩
      obtain ⟨rfl, found, chain⟩ := Chain.cons_iff.mp chain
      have head_fits := fits head (.head _)
      have head_within := within head rfl
      have positive : head.2.nbytes > 0 :=
        UInt64.lt_iff_toNat_lt.mpr (filled head (.head _))
      have bytes := chunkBytes_of_lookup found head_fits head_within
      obtain ⟨chunks, ran, joined⟩ := @ih fuel head.2.next 0 chain
        (fun node member => fits node (.tail _ member))
        (fun node member => filled node (.tail _ member))
        (fun _ _ => Nat.zero_le _) (Nat.lt_of_succ_lt_succ enough)
      refine ⟨head.2.data.drop offset.toNat :: chunks, ?_, ?_⟩
      · simp only [walkTail, bufferChunkSize, bufferAdvanceChunk, load_of_lookup found,
          except_ok_bind, except_pure, if_pos positive, bytes, ran]
      · have held := LineBuffer.length_data head_fits
        have whole : (Nodes.text rest).drop (0 : UInt64).toNat = Nodes.text rest := rfl
        rw [List.flatten_cons, joined, whole, Nodes.text_cons,
          List.drop_append_of_le_length (by omega)]

theorem Holds.filled_back {config : Config} {s : State bufsiz} {front back : Nodes bufsiz}
    {tail : Nat × LineBuffer bufsiz} {text : List UInt8}
    (holds : Holds config s front tail back text) :
    ∀ node ∈ back, 0 < node.2.nbytes.toNat := by
  intro node member
  apply holds.filled
  cases front with
  | nil => exact member
  | cons head front => simp [member]

theorem Holds.walkTail {config : Config} {s : State bufsiz} {front back : Nodes bufsiz}
    {tail : Nat × LineBuffer bufsiz} {text : List UInt8}
    (holds : Holds config s front tail back text) (listed : Listed s front (tail :: back)) :
    ∃ chunks,
      walkTail s (blockCount s.heap + 1) (bufferGetTailChunk s) (bufferGetTailOffset s) =
        .ok chunks ∧
      chunks.flatten = (Nodes.text (tail :: back)).drop s.tailOffset.toNat := by
  obtain ⟨middle, _, chain⟩ := Chain.append_iff.mp listed.chain
  have starts : bufferGetTailChunk s = middle := listed.tailBuffer.trans chain.1.symm
  rw [starts]
  rcases Nat.eq_zero_or_pos tail.2.nbytes.toNat with empty | positive
  · -- An empty buffer is where the tail starts only when it is the last one.
    have alone : back = [] := by
      by_contra more
      have inside := holds.inside more
      omega
    subst alone
    have unread : tail.2.nbytes = 0 := UInt64.toNat_inj.mp empty
    have data : tail.2.data = [] := by simp [LineBuffer.data, empty]
    refine ⟨[], ?_, by simp [data]⟩
    have size : bufferChunkSize s middle = .ok 0 := by
      rw [chain.1]
      simp only [bufferChunkSize, load_of_lookup chain.2.1, except_ok_bind, unread,
        except_pure]
    simp only [Buffer.walkTail, size, except_ok_bind]
    rfl
  · have bounded := listed.length_le
    rw [List.length_append] at bounded
    apply walkTail_chain chain
    · intro node member
      exact listed.fits node (List.mem_append_right _ member)
    · intro node member
      rcases List.mem_cons.mp member with same | member
      · rwa [same]
      · exact holds.filled_back node member
    · intro node member
      cases Option.mem_some_iff.mp member
      exact holds.within
    · omega

theorem Holds.bufferTail {config : Config} {s : State bufsiz} {front back : Nodes bufsiz}
    {tail : Nat × LineBuffer bufsiz} {text : List UInt8}
    (holds : Holds config s front tail back text) (listed : Listed s front (tail :: back)) :
    bufferTail s = .ok (requiredTail config text) := by
  obtain ⟨chunks, ran, joined⟩ := holds.walkTail listed
  simp only [Buffer.bufferTail, ran, except_ok_bind, except_pure, joined]
  rw [holds.keeps.requiredTail_eq, ← holds.positioned.position, Nodes.text_append,
    List.drop_append]
  simp

theorem Holds.bufferTailSize {config : Config} {s : State bufsiz} {front back : Nodes bufsiz}
    {tail : Nat × LineBuffer bufsiz} {text : List UInt8}
    (holds : Holds config s front tail back text) (listed : Listed s front (tail :: back)) :
    (bufferTailSize s).toNat = (requiredTail config text).length := by
  have total := holds.positioned.counted.totalBytes
  have upTo := holds.positioned.counted.bytesUpTo
  have within := holds.within
  have held : tail.2.data.length = tail.2.nbytes.toNat := listed.length_data (by simp)
  simp only [Nodes.text_append, Nodes.text_cons, List.length_append] at total
  have behind : (s.totalBytes - s.bytesUpToTailBuffer).toNat =
      tail.2.data.length + (Nodes.text back).length := by
    rw [Word.toNat_sub_of_le (by omega)]
    omega
  rw [holds.keeps.requiredTail_eq, ← holds.positioned.position, List.length_drop,
    Buffer.bufferTailSize, Word.toNat_sub_of_le (by omega), behind]
  simp only [Nodes.text_append, Nodes.text_cons, List.length_append]
  omega

end Tailserver.Buffer
