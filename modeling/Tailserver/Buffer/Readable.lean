import Tailserver.Buffer.Holds

/-! The tail can be read whatever the counters say: keeping track of it leaves its
start within the first buffer it takes bytes from. -/

set_option autoImplicit false

namespace Tailserver.Buffer

open CMemory

variable {bufsiz : Nat}

theorem skipUnneeded_exit {unneeded : State bufsiz → LineBuffer bufsiz → Bool}
    {pass : State bufsiz → LineBuffer bufsiz → State bufsiz} {fuel : Nat}
    {s s' : State bufsiz} (ran : skipUnneeded unneeded pass fuel s = .ok s') :
    ∃ tail, load s'.heap s'.tailBuffer = .ok tail ∧ unneeded s' tail = false := by
  induction fuel generalizing s with
  | zero => cases ran
  | succ fuel ih =>
      obtain ⟨tail, loads, ran⟩ := except_bind_ok ran
      cases decision : unneeded s tail with
      | true =>
          rw [decision, if_pos rfl] at ran
          exact ih ran
      | false =>
          rw [decision] at ran
          cases ran
          exact ⟨tail, loads, decision⟩

theorem skipNewlines_le {count : Nat} {region : List UInt8} {beg : Nat}
    (ran : skipNewlines count region = .ok beg) : beg ≤ region.length := by
  induction count generalizing region beg with
  | zero =>
      cases ran
      exact Nat.zero_le _
  | succ count ih =>
      simp only [skipNewlines] at ran
      cases searched : memchr region newline with
      | none =>
          rw [searched] at ran
          cases ran
      | some found =>
          rw [searched] at ran
          obtain ⟨further, skips, returned⟩ := except_bind_ok ran
          cases returned
          obtain ⟨front, back, rfl, _, rfl⟩ := memchr_eq_some searched
          have inside := ih skips
          simp only [List.length_drop, List.length_append, List.length_cons] at inside ⊢
          omega

/-- The tail starts within its buffer. -/
def Within (s : State bufsiz) : Prop :=
  ∃ tail, load s.heap s.tailBuffer = .ok tail ∧ s.tailOffset.toNat ≤ tail.nbytes.toNat

theorem keepTrackOfTailLines_within {nLines : UInt64} {s s' : State bufsiz}
    (small : bufsiz < addressSpace) (ran : keepTrackOfTailLines nLines s = .ok s') :
    Within s' := by
  obtain ⟨skipped, _, ran⟩ := except_bind_ok ran
  obtain ⟨tail, loads, ran⟩ := except_bind_ok ran
  split at ran
  · obtain ⟨region, reads, ran⟩ := except_bind_ok ran
    obtain ⟨beg, skips, returned⟩ := except_bind_ok ran
    cases returned
    refine ⟨tail, loads, ?_⟩
    have inside := skipNewlines_le skips
    have fits := Area.length_read_le reads
    have length := Area.length_read reads
    rw [toNat_ofNat_of_le_bufsiz small (by omega)]
    omega
  · cases ran
    exact ⟨tail, loads, Nat.zero_le _⟩

theorem keepTrackOfTailBytes_within {nBytes : UInt64} {s s' : State bufsiz}
    (fits : ∀ tail, load s'.heap s'.tailBuffer = .ok tail → tail.nbytes.toNat < addressSpace)
    (ran : keepTrackOfTailBytes nBytes s = .ok s') : Within s' := by
  obtain ⟨skipped, skips, ran⟩ := except_bind_ok ran
  obtain ⟨tail, loads, needed⟩ := skipUnneeded_exit skips
  split at ran
  · next more =>
    cases ran
    have small := fits tail loads
    refine ⟨tail, loads, ?_⟩
    simp only [bytesUnneeded, decide_eq_false_iff_not, gt_iff_lt, UInt64.lt_iff_toNat_lt,
      UInt64.toNat_sub, addressSpace] at needed more small ⊢
    omega
  · cases ran
    exact ⟨tail, loads, Nat.zero_le _⟩

theorem shiftTail_within {s s' : State bufsiz} {front rest : Nodes bufsiz}
    (listed : Listed s front rest) (within : Within s) (ran : shiftTail s = .ok s') :
    Within s' := by
  obtain ⟨same, front', rest', _, listed'⟩ := shiftTail_listed listed ran
  obtain ⟨tail', back, rfl⟩ := List.exists_cons_of_ne_nil listed'.nonempty
  obtain ⟨tail, loads, ran⟩ := except_bind_ok ran
  split at ran
  · cases ran
    exact ⟨tail'.2, listed'.load_tail, Nat.zero_le _⟩
  · cases ran
    exact within

theorem keepTrackOfTail_within {config : Config} {s s' : State bufsiz}
    {front rest : Nodes bufsiz} (listed : Listed s front rest)
    (ran : keepTrackOfTail config s = .ok s') : Within s' := by
  obtain ⟨settled, settles, ran⟩ := except_bind_ok ran
  split at settles
  · obtain ⟨_, front', rest', _, listed'⟩ := keepTrackOfTailLines_listed listed settles
    exact shiftTail_within listed' (keepTrackOfTailLines_within listed.bufsiz_lt settles) ran
  · obtain ⟨_, front', rest', _, listed'⟩ := keepTrackOfTailBytes_listed listed settles
    refine shiftTail_within listed' (keepTrackOfTailBytes_within ?_ settles) ran
    intro tail loads
    obtain ⟨head, back, rfl⟩ := List.exists_cons_of_ne_nil listed'.nonempty
    rw [listed'.load_tail] at loads
    cases loads
    have fits := listed'.fits head (by simp)
    have small := listed.bufsiz_lt
    omega

/-- Only where the tail starts matters. -/
theorem Within.of_listed {s s' : State bufsiz} {front rest front' : Nodes bufsiz}
    (within : Within s) (listed : Listed s front rest) (listed' : Listed s' front' rest)
    (offset : s'.tailOffset = s.tailOffset) : Within s' := by
  obtain ⟨head, back, rfl⟩ := List.exists_cons_of_ne_nil listed.nonempty
  obtain ⟨tail, loads, inside⟩ := within
  rw [listed.load_tail] at loads
  cases loads
  exact ⟨head.2, listed'.load_tail, offset ▸ inside⟩

/-- The walk meets the same chunks in all memory that holds the list. -/
theorem walkTail_total {nodes : Nodes bufsiz} {offset : UInt64}
    (fits : ∀ node ∈ nodes, node.2.nbytes.toNat ≤ bufsiz)
    (within : ∀ node ∈ nodes.head?, offset.toNat ≤ node.2.nbytes.toNat) :
    ∃ chunks, ∀ (s : State bufsiz) fuel pos, Chain LineBuffer.next s.heap pos nodes none →
      nodes.length < fuel → walkTail s fuel pos offset = .ok chunks := by
  induction nodes generalizing offset with
  | nil =>
      refine ⟨[], ?_⟩
      intro s fuel pos chain enough
      obtain ⟨fuel, rfl⟩ : ∃ rest, fuel = rest + 1 := ⟨fuel - 1, by omega⟩
      have ended : pos = none := chain
      subst ended
      rfl
  | cons head rest ih =>
      obtain ⟨chunks, walks⟩ := @ih 0 (fun node member => fits node (.tail _ member))
        (fun _ _ => Nat.zero_le _)
      by_cases positive : head.2.nbytes > 0
      · refine ⟨head.2.data.drop offset.toNat :: chunks, ?_⟩
        intro s fuel pos chain enough
        obtain ⟨fuel, rfl⟩ : ∃ rest, fuel = rest + 1 := ⟨fuel - 1, by omega⟩
        obtain ⟨rfl, found, chain⟩ := Chain.cons_iff.mp chain
        have bytes := chunkBytes_of_lookup found (fits head (.head _)) (within head rfl)
        have later := walks s fuel head.2.next chain (Nat.lt_of_succ_lt_succ enough)
        simp only [walkTail, bufferChunkSize, bufferAdvanceChunk, load_of_lookup found,
          except_ok_bind, except_pure, if_pos positive, bytes, later]
      · refine ⟨[], ?_⟩
        intro s fuel pos chain enough
        obtain ⟨fuel, rfl⟩ : ∃ rest, fuel = rest + 1 := ⟨fuel - 1, by omega⟩
        obtain ⟨rfl, found, _⟩ := Chain.cons_iff.mp chain
        simp only [walkTail, bufferChunkSize, load_of_lookup found, except_ok_bind,
          except_pure, if_neg positive]

/-- The same list with the tail at the same place offers the same tail. -/
theorem bufferTail_total {s : State bufsiz} {front rest : Nodes bufsiz}
    (listed : Listed s front rest) (within : Within s) :
    ∃ tail, ∀ s', Listed s' front rest → s'.tailOffset = s.tailOffset →
      bufferTail s' = .ok tail := by
  obtain ⟨head, back, rfl⟩ := List.exists_cons_of_ne_nil listed.nonempty
  obtain ⟨tail, loads, inside⟩ := within
  rw [listed.load_tail] at loads
  cases loads
  have starts : ∀ node ∈ (head :: back).head?, s.tailOffset.toNat ≤ node.2.nbytes.toNat := by
    intro node member
    cases Option.mem_some_iff.mp member
    exact inside
  obtain ⟨chunks, walks⟩ := walkTail_total
    (fun node member => listed.fits node (List.mem_append_right _ member)) starts
  refine ⟨chunks.flatten, ?_⟩
  intro s' listed' offset
  obtain ⟨middle, _, chain⟩ := Chain.append_iff.mp listed'.chain
  have pos : bufferGetTailChunk s' = middle := listed'.tailBuffer.trans chain.1.symm
  have bounded := listed'.length_le
  rw [List.length_append] at bounded
  have walked := walks s' (blockCount s'.heap + 1) middle chain (by omega)
  simp only [Buffer.bufferTail, pos, bufferGetTailOffset, offset, walked, except_ok_bind,
    except_pure]

end Tailserver.Buffer
