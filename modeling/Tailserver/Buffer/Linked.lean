import Tailserver.Buffer.Basic
import Mathlib.Data.List.Perm.Subperm

/-! The shape of the list of line buffers: which blocks are linked in which
order, where the tail stands among them, and which block is the spare one. No
counter is mentioned, so this shape survives any contents of fresh memory. -/

set_option autoImplicit false

namespace Tailserver.Buffer

open CMemory

variable {bufsiz : Nat}

/-- Line buffers with the blocks that hold them, in list order. -/
abbrev Nodes (bufsiz : Nat) := List (Nat × LineBuffer bufsiz)

/-- The bytes held by consecutive line buffers. -/
def Nodes.text (nodes : Nodes bufsiz) : List UInt8 :=
  (nodes.map fun node => node.2.data).flatten

/-- The list from `first` is `front ++ rest`, and the tail starts in the head of
`rest`. -/
structure Listed (s : State bufsiz) (front rest : Nodes bufsiz) : Prop where
  chain : Chain LineBuffer.next s.heap s.first (front ++ rest) none
  nonempty : rest ≠ []
  tailBuffer : s.tailBuffer = rest.head?.map Prod.fst
  last : s.last = (front ++ rest).getLast?.map Prod.fst
  nodup : ((front ++ rest).map Prod.fst).Nodup
  fits : ∀ node ∈ front ++ rest, node.2.nbytes.toNat ≤ bufsiz
  room : blockCount s.heap * sizeofLineBuffer bufsiz ≤ addressSpace

/-- A list together with the spare block; there are no other blocks. -/
structure Linked (s : State bufsiz) (spare : Nat × LineBuffer bufsiz)
    (front rest : Nodes bufsiz) : Prop extends Listed s front rest where
  append : s.append = some spare.1
  spareLookup : s.heap.lookup spare.1 = some spare.2
  spareNext : spare.2.next = none
  owned : s.heap.keys.Perm (spare.1 :: (front ++ rest).map Prod.fst)

/-- Only the fields that say where the tail starts differ. -/
structure SameList (s s' : State bufsiz) : Prop where
  heap : s'.heap = s.heap
  first : s'.first = s.first
  last : s'.last = s.last
  append : s'.append = s.append
  totalLines : s'.totalLines = s.totalLines
  totalBytes : s'.totalBytes = s.totalBytes

theorem SameList.refl (s : State bufsiz) : SameList s s := ⟨rfl, rfl, rfl, rfl, rfl, rfl⟩

theorem SameList.trans {s s' s'' : State bufsiz} (before : SameList s s')
    (after : SameList s' s'') : SameList s s'' where
  heap := after.heap.trans before.heap
  first := after.first.trans before.first
  last := after.last.trans before.last
  append := after.append.trans before.append
  totalLines := after.totalLines.trans before.totalLines
  totalBytes := after.totalBytes.trans before.totalBytes

theorem SameList.passLines (s : State bufsiz) (tail : LineBuffer bufsiz) (next : Pointer) :
    SameList s { passLines s tail with tailBuffer := next } := ⟨rfl, rfl, rfl, rfl, rfl, rfl⟩

theorem SameList.passBytes (s : State bufsiz) (tail : LineBuffer bufsiz) (next : Pointer) :
    SameList s { passBytes s tail with tailBuffer := next } := ⟨rfl, rfl, rfl, rfl, rfl, rfl⟩

theorem SameList.setOffset (s : State bufsiz) (offset : UInt64) :
    SameList s { s with tailOffset := offset } := ⟨rfl, rfl, rfl, rfl, rfl, rfl⟩

theorem Listed.moveTail {s s' : State bufsiz} {front rest front' rest' : Nodes bufsiz}
    (listed : Listed s front rest) (same : SameList s s')
    (split : front' ++ rest' = front ++ rest) (nonempty : rest' ≠ [])
    (tailBuffer : s'.tailBuffer = rest'.head?.map Prod.fst) :
    Listed s' front' rest' where
  chain := by rw [same.heap, same.first, split]; exact listed.chain
  nonempty := nonempty
  tailBuffer := tailBuffer
  last := by rw [same.last, split]; exact listed.last
  nodup := by rw [split]; exact listed.nodup
  fits := by rw [split]; exact listed.fits
  room := by rw [same.heap]; exact listed.room

theorem Listed.same {s s' : State bufsiz} {front rest : Nodes bufsiz}
    (listed : Listed s front rest) (same : SameList s s')
    (tailBuffer : s'.tailBuffer = s.tailBuffer) : Listed s' front rest :=
  listed.moveTail same rfl listed.nonempty (tailBuffer.trans listed.tailBuffer)

theorem Listed.lookup {s : State bufsiz} {front rest : Nodes bufsiz}
    (listed : Listed s front rest) {node : Nat × LineBuffer bufsiz}
    (member : node ∈ front ++ rest) : s.heap.lookup node.1 = some node.2 :=
  listed.chain.lookup member

theorem Listed.load_tail {s : State bufsiz} {front back : Nodes bufsiz}
    {tail : Nat × LineBuffer bufsiz} (listed : Listed s front (tail :: back)) :
    load s.heap s.tailBuffer = .ok tail.2 := by
  rw [listed.tailBuffer]
  exact load_of_lookup (listed.lookup (by simp))

/-- The list has at most as many nodes as there are blocks. -/
theorem Listed.length_le {s : State bufsiz} {front rest : Nodes bufsiz}
    (listed : Listed s front rest) :
    (front ++ rest).length ≤ blockCount s.heap := by
  have included : (front ++ rest).map Prod.fst ⊆ s.heap.keys := by
    intro block member
    obtain ⟨node, found, rfl⟩ := List.mem_map.mp member
    exact AList.mem_keys.mp (mem_of_lookup (listed.lookup found))
  have bounded := (List.subperm_of_subset listed.nodup included).length_le
  rwa [List.length_map] at bounded

theorem Listed.next_tail {s : State bufsiz} {front back : Nodes bufsiz}
    {tail : Nat × LineBuffer bufsiz} (listed : Listed s front (tail :: back)) :
    tail.2.next = back.head?.map Prod.fst := by
  cases back with
  | nil => exact listed.chain.next_of_last
  | cons after back => exact listed.chain.next_of_split

/-! ## Moving the tail -/

theorem skipUnneeded_listed {unneeded : State bufsiz → LineBuffer bufsiz → Bool}
    {pass : State bufsiz → LineBuffer bufsiz → State bufsiz}
    (passes : ∀ s tail next, SameList s { pass s tail with tailBuffer := next })
    {fuel : Nat} {s s' : State bufsiz} {front rest : Nodes bufsiz}
    (listed : Listed s front rest) (ran : skipUnneeded unneeded pass fuel s = .ok s') :
    SameList s s' ∧ ∃ front' rest', front' ++ rest' = front ++ rest ∧
      Listed s' front' rest' := by
  induction fuel generalizing s front rest with
  | zero => cases ran
  | succ fuel ih =>
      obtain ⟨tail, back, rfl⟩ := List.exists_cons_of_ne_nil listed.nonempty
      simp only [skipUnneeded, listed.load_tail, except_ok_bind] at ran
      split at ran
      · have same := passes s tail.2 tail.2.next
        cases back with
        | nil =>
            have ended : tail.2.next = none := listed.next_tail
            rw [ended] at ran
            cases fuel <;> simp [skipUnneeded, load, bind, Except.bind] at ran
        | cons after back =>
            have moved : Listed _ (front ++ [tail]) (after :: back) :=
              listed.moveTail same (by simp) (by simp) listed.next_tail
            obtain ⟨sameAfter, front', rest', split, listed'⟩ := ih moved ran
            exact ⟨same.trans sameAfter, front', rest', by simpa using split, listed'⟩
      · simp only [except_pure, Except.ok.injEq] at ran
        subst ran
        exact ⟨.refl s, front, _, rfl, listed⟩

/-- The loop that moves the tail stops at the first needed buffer. An invariant
of the passed buffers that rules out running off the end is all it takes. -/
theorem skipUnneeded_total {unneeded : State bufsiz → LineBuffer bufsiz → Bool}
    {pass : State bufsiz → LineBuffer bufsiz → State bufsiz}
    (passes : ∀ s tail next, SameList s { pass s tail with tailBuffer := next })
    (invariant : Nodes bufsiz → State bufsiz → Prop) {nodes : Nodes bufsiz}
    (next : ∀ front tail back s, front ++ tail :: back = nodes →
      Listed s front (tail :: back) → invariant front s → unneeded s tail.2 = true →
      back ≠ [] ∧ invariant (front ++ [tail])
        { pass s tail.2 with tailBuffer := tail.2.next })
    {fuel : Nat} {s : State bufsiz} {front rest : Nodes bufsiz}
    (enough : rest.length ≤ fuel) (split : front ++ rest = nodes)
    (listed : Listed s front rest) (start : invariant front s) :
    ∃ s' front' tail back, skipUnneeded unneeded pass fuel s = .ok s' ∧
      SameList s s' ∧ front' ++ tail :: back = nodes ∧
      Listed s' front' (tail :: back) ∧ invariant front' s' ∧
      unneeded s' tail.2 = false := by
  induction fuel generalizing s front rest with
  | zero => exact absurd (List.length_eq_zero_iff.mp (Nat.le_zero.mp enough)) listed.nonempty
  | succ fuel ih =>
      obtain ⟨tail, back, rfl⟩ := List.exists_cons_of_ne_nil listed.nonempty
      simp only [skipUnneeded, listed.load_tail, except_ok_bind]
      cases decision : unneeded s tail.2 with
      | false => exact ⟨s, front, tail, back, rfl, .refl s, split, listed, start, decision⟩
      | true =>
          have same := passes s tail.2 tail.2.next
          obtain ⟨more, preserved⟩ := next front tail back s split listed start decision
          have moved : Listed _ (front ++ [tail]) back := listed.moveTail same
            (by simp) more listed.next_tail
          simp only [List.length_cons] at enough
          obtain ⟨s', front', tail', back', ran, sameAfter, rest⟩ :=
            ih (by omega) (by simpa using split) moved preserved
          exact ⟨s', front', tail', back', ran, same.trans sameAfter, rest⟩

theorem shiftTail_listed {s s' : State bufsiz} {front rest : Nodes bufsiz}
    (listed : Listed s front rest) (ran : shiftTail s = .ok s') :
    SameList s s' ∧ ∃ front' rest', front' ++ rest' = front ++ rest ∧
      Listed s' front' rest' := by
  obtain ⟨tail, back, rfl⟩ := List.exists_cons_of_ne_nil listed.nonempty
  simp only [shiftTail, listed.load_tail, except_ok_bind] at ran
  split at ran
  · next shifted =>
    simp only [except_pure, Except.ok.injEq] at ran
    subst ran
    have same := (SameList.passLines s tail.2 tail.2.next).trans (.setOffset _ 0)
    have more : back ≠ [] := by
      rintro rfl
      exact shifted.2 listed.next_tail
    exact ⟨same, front ++ [tail], back, by simp,
      listed.moveTail same (by simp) more listed.next_tail⟩
  · simp only [except_pure, Except.ok.injEq] at ran
    subst ran
    exact ⟨.refl s, front, _, rfl, listed⟩

theorem keepTrackOfTailLines_listed {nLines : UInt64} {s s' : State bufsiz}
    {front rest : Nodes bufsiz} (listed : Listed s front rest)
    (ran : keepTrackOfTailLines nLines s = .ok s') :
    SameList s s' ∧ ∃ front' rest', front' ++ rest' = front ++ rest ∧
      Listed s' front' rest' := by
  obtain ⟨skipped, skips, ran⟩ := except_bind_ok ran
  obtain ⟨same, front', rest', split, listed'⟩ :=
    skipUnneeded_listed SameList.passLines listed skips
  obtain ⟨tail, _, ran⟩ := except_bind_ok ran
  have settled : ∃ offset, s' = { skipped with tailOffset := offset } := by
    split at ran
    · obtain ⟨_, _, ran⟩ := except_bind_ok ran
      obtain ⟨_, _, ran⟩ := except_bind_ok ran
      exact ⟨_, (Except.ok.inj ran).symm⟩
    · exact ⟨_, (Except.ok.inj ran).symm⟩
  obtain ⟨offset, rfl⟩ := settled
  have sameOffset := SameList.setOffset skipped offset
  exact ⟨same.trans sameOffset, front', rest', split, listed'.same sameOffset rfl⟩

theorem keepTrackOfTailBytes_listed {nBytes : UInt64} {s s' : State bufsiz}
    {front rest : Nodes bufsiz} (listed : Listed s front rest)
    (ran : keepTrackOfTailBytes nBytes s = .ok s') :
    SameList s s' ∧ ∃ front' rest', front' ++ rest' = front ++ rest ∧
      Listed s' front' rest' := by
  obtain ⟨skipped, skips, ran⟩ := except_bind_ok ran
  obtain ⟨same, front', rest', split, listed'⟩ :=
    skipUnneeded_listed SameList.passBytes listed skips
  have settled : ∃ offset, s' = { skipped with tailOffset := offset } := by
    split at ran <;> exact ⟨_, (Except.ok.inj ran).symm⟩
  obtain ⟨offset, rfl⟩ := settled
  have sameOffset := SameList.setOffset skipped offset
  exact ⟨same.trans sameOffset, front', rest', split, listed'.same sameOffset rfl⟩

/-- Whatever the counters say, the tail only moves within the list. -/
theorem keepTrackOfTail_listed {config : Config} {s s' : State bufsiz}
    {front rest : Nodes bufsiz} (listed : Listed s front rest)
    (ran : keepTrackOfTail config s = .ok s') :
    SameList s s' ∧ ∃ front' rest', front' ++ rest' = front ++ rest ∧
      Listed s' front' rest' := by
  obtain ⟨settled, settles, ran⟩ := except_bind_ok ran
  have moved : SameList s settled ∧ ∃ front' rest', front' ++ rest' = front ++ rest ∧
      Listed settled front' rest' := by
    split at settles
    · exact keepTrackOfTailLines_listed listed settles
    · exact keepTrackOfTailBytes_listed listed settles
  obtain ⟨same, front', rest', split, listed'⟩ := moved
  obtain ⟨sameAfter, front'', rest'', split', listed''⟩ := shiftTail_listed listed' ran
  exact ⟨same.trans sameAfter, front'', rest'', split'.trans split, listed''⟩

end Tailserver.Buffer
