import Tailserver.Buffer.FreshMemory

/-! An append for which `malloc` has no block. The bytes are linked and counted by
then, so the buffer is as after a successful append but for the spare block, whatever
the counters of fresh memory were. -/

set_option autoImplicit false

namespace Tailserver.Buffer

open CMemory

variable {bufsiz : Nat}

/-- Does `buffer_set_appended` come to its `malloc`? -/
def callsMalloc (config : Config) (s : State bufsiz) (bytes : List UInt8) :
    Except Fault Bool := do
  let s ← placeBytes s (bufferEnd s) bytes
  if UInt64.ofNat bytes.length = 0 then return false
  let s ← commitAppended config s (UInt64.ofNat bytes.length)
  if ← fitsLast s then return false
  let s ← linkAppended s
  let s ← keepTrackOfTail config s
  let first ← load s.heap s.first
  return !firstBufferDroppable config s first

/-! ## Out of memory -/

/-- The state between the linking and the `malloc`. -/
structure Linking (config : Config) (s tracked : State bufsiz) (front rest : Nodes bufsiz)
    (bytes : List UInt8) : Prop where
  owner : Spareless tracked front rest
  within : Within tracked
  totalBytes : tracked.totalBytes = s.totalBytes + UInt64.ofNat bytes.length
  fresh : ∀ block, FreshBuffer s block → FreshBuffer tracked block
  exhausted : bufferAppend config s bytes none =
    .ok (false, { tracked with append := none })
  granted : ∀ block node, bufferAppend config s bytes (some (block, node)) =
    .ok (true, extendedState tracked block node)

theorem Linked.linking {config : Config} {s : State bufsiz}
    {spare : Nat × LineBuffer bufsiz} {front rest : Nodes bufsiz} {bytes : List UInt8}
    (linked : Linked s spare front rest) (fits : bytes.length ≤ bufsiz)
    (calls : callsMalloc config s bytes = .ok true) :
    ∃ tracked front' rest', Linking config s tracked front' rest' bytes := by
  obtain ⟨buffer, placed, _, places, commits, commit⟩ := linked.placedCommitted config fits
  obtain ⟨init, final, rfl, last, _⟩ := commit.exists_last
  have sized : (UInt64.ofNat bytes.length).toNat = bytes.length :=
    toNat_ofNat_of_le_bufsiz linked.bufsiz_lt fits
  have owner := commit.linked (sized.trans_le fits)
  have links := commit.linkAppended last
  simp only [callsMalloc, places, except_ok_bind] at calls
  by_cases empty : UInt64.ofNat bytes.length = 0
  · rw [if_pos empty] at calls
    cases calls
  rw [if_neg empty] at calls
  simp only [commits, except_ok_bind] at calls
  obtain ⟨room, decides, calls⟩ := except_bind_ok calls
  cases room with
  | true => cases calls
  | false =>
      simp only [Bool.false_eq_true, if_false, links, except_ok_bind] at calls
      obtain ⟨tracked, tracks, calls⟩ := except_bind_ok calls
      obtain ⟨first, loads, calls⟩ := except_bind_ok calls
      have kept : firstBufferDroppable config tracked first = false := by
        simpa [except_pure] using calls
      have appends : ∀ fresh, bufferAppend config s bytes fresh =
          replaceAppend config tracked fresh := by
        intro fresh
        simp only [bufferAppend, places, except_ok_bind, bufferSetAppended, if_neg empty,
          commits, decides, links, tracks, Bool.false_eq_true, if_false]
      obtain ⟨same, front', rest', split, listed⟩ :=
        keepTrackOfTail_listed owner.toListed tracks
      refine ⟨tracked, front', rest', owner.sameList same split listed,
        keepTrackOfTail_within owner.toListed tracks, same.totalBytes, ?_, ?_, ?_⟩
      · intro block fresh
        have sound : Allocates s (some (block, final.2)) := by
          intro other node answered
          cases answered
          exact fresh
        exact same.allocates (owner.allocates linked sound) block final.2 rfl
      · rw [appends]
        simp [replaceAppend, loads, except_ok_bind, kept, allocate, except_pure]
      · intro block node
        have renewed := renewAppend_of_lookup
          (s := { tracked with heap := tracked.heap.insert block node, append := some block })
          rfl (AList.lookup_insert tracked.heap)
        simp only [AList.insert_insert] at renewed
        rw [appends]
        simp only [replaceAppend, loads, except_ok_bind, kept, allocate, Bool.false_eq_true,
          if_false, reduceCtorEq, renewed, except_pure]
        rfl

/-! ## Everything can still be freed -/

/-- The loop of `buffer_final` frees the blocks of the list, each once, and no others. -/
theorem freeList_total {fuel : Nat} {s : State bufsiz} {nodes : Nodes bufsiz}
    {others : List Nat} (chain : Chain LineBuffer.next s.heap s.first nodes none)
    (owned : s.heap.keys.Perm (others ++ nodes.map Prod.fst)) (enough : nodes.length < fuel) :
    ∃ heap, freeList fuel s = .ok { s with heap, first := none } ∧ heap.keys.Perm others := by
  induction nodes generalizing fuel s with
  | nil =>
      obtain ⟨fuel, rfl⟩ : ∃ rest, fuel = rest + 1 := ⟨fuel - 1, by omega⟩
      have ended : s.first = none := chain
      refine ⟨s.heap, ?_, by simpa using owned⟩
      rw [freeList, if_pos ended, ← ended]
  | cons head rest ih =>
      obtain ⟨fuel, rfl⟩ : ∃ rest, fuel = rest + 1 := ⟨fuel - 1, by omega⟩
      obtain ⟨points, found, chain⟩ := Chain.cons_iff.mp chain
      have nodup := owned.nodup_iff.mp s.heap.keys_nodup
      have moved : (others ++ (head :: rest).map Prod.fst).Perm
          (head.1 :: (others ++ rest.map Prod.fst)) := by
        simp
      have absent : head.1 ∉ rest.map Prod.fst := by
        have once := (List.nodup_cons.mp (moved.nodup_iff.mp nodup)).1
        exact fun member => once (List.mem_append_right _ member)
      have left : (s.heap.erase head.1).keys.Perm (others ++ rest.map Prod.fst) := by
        rw [AList.keys_erase]
        have erased := (owned.trans moved).erase head.1
        rwa [List.erase_cons_head] at erased
      obtain ⟨heap, frees, rest⟩ := @ih fuel
        { s with heap := s.heap.erase head.1, first := head.2.next }
        (chain.erase absent) left (Nat.lt_of_succ_lt_succ enough)
      refine ⟨heap, ?_, rest⟩
      rw [freeList, if_neg (by simp [points]), points, load_of_lookup found, except_ok_bind,
        release_of_lookup found, except_ok_bind, frees]

theorem heap_eq_empty {α : Type} {heap : Heap α} (none : heap.keys.Perm []) : heap = ∅ := by
  apply AList.ext
  have empty : heap.entries.map Sigma.fst = [] := none.eq_nil
  simpa using empty

/-- The state `s'` after `bytes` were appended to `s` and there was no memory for the
next spare block. -/
structure OutOfMemory (config : Config) (s s' : State bufsiz) (bytes : List UInt8) : Prop where
  append : s'.append = none
  /-- The chunk is counted once. -/
  totalBytes : s'.totalBytes = s.totalBytes + UInt64.ofNat bytes.length
  /-- The list has no cycle and ends at `last`. -/
  acyclic : ∃ nodes : Nodes bufsiz, Chain LineBuffer.next s'.heap s'.first nodes none ∧
    (nodes.map Prod.fst).Nodup ∧ s'.last = nodes.getLast?.map Prod.fst
  /-- An append that gets its memory offers the same tail. -/
  tail : ∃ tail, bufferTail s' = .ok tail ∧
    ∀ block node, FreshBuffer s block → ∃ s'',
      bufferAppend config s bytes (some (block, node)) = .ok (true, s'') ∧
        bufferTail s'' = .ok tail ∧ bufferTailSize s'' = bufferTailSize s'
  /-- Nothing is freed twice and nothing is left. -/
  freed : ∃ s'', bufferFinal s' = .ok s'' ∧ s''.heap = ∅

theorem Linked.outOfMemory {config : Config} {s : State bufsiz}
    {spare : Nat × LineBuffer bufsiz} {front rest : Nodes bufsiz} {bytes : List UInt8}
    (linked : Linked s spare front rest) (fits : bytes.length ≤ bufsiz)
    (calls : callsMalloc config s bytes = .ok true) :
    ∃ s', bufferAppend config s bytes none = .ok (false, s') ∧
      OutOfMemory config s s' bytes := by
  obtain ⟨tracked, front', rest', linking⟩ := linked.linking fits calls
  obtain ⟨owner, within⟩ := linking.owner, linking.within
  have listed : Listed { tracked with append := none } front' rest' := owner.exhausted.toListed
  obtain ⟨tail, offers⟩ := bufferTail_total owner.toListed within
  have enough := listed.length_le
  obtain ⟨heap, frees, empty⟩ := @freeList_total bufsiz
    (blockCount tracked.heap + 1) { tracked with append := none } (front' ++ rest') []
    owner.chain owner.owned (Nat.lt_succ_of_le enough)
  refine ⟨_, linking.exhausted, rfl, linking.totalBytes, ?_, ⟨tail, offers _ listed rfl, ?_⟩, ?_⟩
  · exact ⟨front' ++ rest', owner.chain, owner.nodup, owner.last⟩
  · intro block node fresh
    have fresh' := linking.fresh block fresh
    exact ⟨_, linking.granted block node, offers _ (owner.extended fresh' node).toListed rfl, rfl⟩
  · refine ⟨{ tracked with append := none, heap, first := none }, ?_, heap_eq_empty empty⟩
    simp only [bufferFinal, frees, except_ok_bind, release, except_pure]

/-- Whatever fresh memory holds, appends that succeed leave a list with a spare block. -/
theorem Linked.appendAll {config : Config} {s s' : State bufsiz} {steps : List (Step bufsiz)}
    (linked : ∃ spare front rest, Linked s spare front rest)
    (proper : ∀ step ∈ steps, step.1 ≠ [] ∧ step.1.length ≤ bufsiz)
    (supplied : Supplied config s steps) (ran : appendAll config s steps = .ok (true, s')) :
    ∃ spare front rest, Linked s' spare front rest := by
  induction steps generalizing s with
  | nil =>
      cases ran
      exact linked
  | cons step steps ih =>
      obtain ⟨bytes, fresh⟩ := step
      obtain ⟨_, sound, supplied⟩ := supplied
      obtain ⟨nonempty, fits⟩ := proper _ (.head _)
      obtain ⟨⟨continues, next⟩, appends, ran⟩ := except_bind_ok ran
      cases continues with
      | false => cases ran
      | true =>
          obtain ⟨spare, front, rest, linked⟩ := linked
          obtain ⟨_, _, _, _, shaped, _⟩ := linked.append_returns nonempty fits sound appends
          cases shaped with
          | spare linked' =>
              exact ih ⟨_, _, _, linked'⟩ (fun step member => proper step (.tail _ member))
                (supplied _ appends) ran

theorem Execution.Supplied.run_linked {config : Config} {execution : Execution bufsiz}
    (supplied : execution.Supplied config) (proper : execution.Proper) {s : State bufsiz}
    (ran : execution.run config = .ok (true, s)) :
    ∃ spare front rest, Linked s spare front rest := by
  rw [supplied.run_eq] at ran
  exact Linked.appendAll ⟨_, _, _, supplied.linked⟩ proper (supplied.steps _ supplied.init) ran

/-! ## Any end -/

/-- The blocks are those of the list and the spare one, if there is one. -/
def Whole (s : State bufsiz) : Prop :=
  (∃ spare front rest, Linked s spare front rest) ∨
    s.append = none ∧ ∃ front rest, Spareless s front rest

/-- No append can do more harm than to use up the spare block. -/
theorem Whole.append {config : Config} {s s' : State bufsiz} {bytes : List UInt8}
    {fresh : Allocation (LineBuffer bufsiz)} {continues : Bool} (whole : Whole s)
    (nonempty : bytes ≠ []) (fits : bytes.length ≤ bufsiz) (sound : Allocates s fresh)
    (ran : bufferAppend config s bytes fresh = .ok (continues, s')) : Whole s' := by
  rcases whole with ⟨spare, front, rest, linked⟩ | ⟨missing, _⟩
  · obtain ⟨_, _, _, _, shaped, _⟩ := linked.append_returns nonempty fits sound ran
    cases shaped with
    | spare linked' => exact .inl ⟨_, _, _, linked'⟩
    | spareless missing _ owner => exact .inr ⟨missing, _, _, owner⟩
  · rw [bufferAppend, bufferEnd, missing] at ran
    cases ran

theorem Whole.bufferFinal {s : State bufsiz} (whole : Whole s) :
    ∃ s', bufferFinal s = .ok s' ∧ s'.heap = ∅ := by
  rcases whole with ⟨spare, front, rest, linked⟩ | ⟨spareless, front, rest, owner⟩
  · obtain ⟨heap, frees, left⟩ := @freeList_total bufsiz (blockCount s.heap + 1) s
      (front ++ rest) [spare.1] linked.chain linked.owned
      (Nat.lt_succ_of_le linked.toListed.length_le)
    have kept : spare.1 ∈ heap := AList.mem_keys.mpr (left.mem_iff.mpr (by simp))
    refine ⟨{ s with heap := heap.erase spare.1, first := none }, ?_, ?_⟩
    · simp only [Buffer.bufferFinal, frees, except_ok_bind, linked.append, release, if_pos kept,
        except_pure]
    · apply heap_eq_empty
      rw [AList.keys_erase]
      have erased := left.erase spare.1
      rwa [List.erase_cons_head] at erased
  · obtain ⟨heap, frees, left⟩ := @freeList_total bufsiz (blockCount s.heap + 1) s
      (front ++ rest) [] owner.chain owner.owned (Nat.lt_succ_of_le owner.toListed.length_le)
    refine ⟨{ s with heap, first := none }, ?_, heap_eq_empty left⟩
    simp only [Buffer.bufferFinal, frees, except_ok_bind, spareless, release, except_pure]

/-- The blocks that `buffer_init` gets are unused. -/
structure InitAllocates (fresh₁ fresh₂ : Allocation (LineBuffer bufsiz)) : Prop where
  first : ∀ first, fresh₁ = some first → FreshBuffer ({} : State bufsiz) first.1
  append : ∀ first append, fresh₁ = some first → fresh₂ = some append →
    FreshBuffer ({ heap := single first } : State bufsiz) append.1

/-- It gets both, or it returns false. -/
theorem InitAllocates.bufferInit {fresh₁ fresh₂ : Allocation (LineBuffer bufsiz)}
    (allocates : InitAllocates fresh₁ fresh₂) (config : Config) :
    (∃ first append, fresh₁ = some first ∧ fresh₂ = some append ∧
        (Execution.mk first append []).Supplied config ∧
        bufferInit fresh₁ fresh₂ = .ok (true, (Execution.mk first append []).initial)) ∨
      ∃ s, bufferInit fresh₁ fresh₂ = .ok (false, s) := by
  cases fresh₁ with
  | none => exact .inr ⟨_, rfl⟩
  | some first =>
      cases fresh₂ with
      | none =>
          right
          simp only [Buffer.bufferInit, allocate, reduceCtorEq, if_false]
          rw [State.modify_of_lookup rfl (AList.lookup_insert _)]
          simp only [except_ok_bind, AList.insert_insert]
          rw [State.modify_of_lookup rfl (AList.lookup_insert _)]
          exact ⟨_, rfl⟩
      | some append =>
          have supplied : (Execution.mk first append []).Supplied config :=
            ⟨allocates.first first rfl, allocates.append first append rfl rfl,
              fun _ _ => trivial⟩
          exact .inl ⟨first, append, rfl, rfl, supplied, supplied.init⟩

end Tailserver.Buffer
