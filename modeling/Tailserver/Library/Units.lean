import Mathlib.Data.List.Basic
import Mathlib.Data.List.Count
import Mathlib.Data.List.TakeDrop

/-! The last units of a sequence. A unit ends at each element that satisfies a
predicate: bytes are units of their own, lines end at newlines. The suffix that
keeps `count` units starts right after the unit end that leaves `count` of them. -/

set_option autoImplicit false

namespace Units

variable {α : Type} (ends : α → Bool)

/-- The position right after the `count`-th unit end. -/
def afterNth : Nat → List α → Nat
  | 0, _ => 0
  | _ + 1, [] => 0
  | count + 1, head :: rest =>
      if ends head then afterNth count rest + 1 else afterNth (count + 1) rest + 1

/-- Where the last `count` units and the unfinished one after them start. -/
def lastStart (count : Nat) (text : List α) : Nat :=
  afterNth ends (text.countP ends - count) text

def lastUnits (count : Nat) (text : List α) : List α :=
  text.drop (lastStart ends count text)

variable {ends}

@[simp] theorem afterNth_zero (text : List α) : afterNth ends 0 text = 0 := by
  cases text <;> rfl

@[simp] theorem afterNth_nil (count : Nat) : afterNth ends count [] = 0 := by
  cases count <;> rfl

theorem afterNth_le_length (count : Nat) (text : List α) :
    afterNth ends count text ≤ text.length := by
  induction text generalizing count with
  | nil => simp
  | cons head rest ih =>
      cases count with
      | zero => simp
      | succ count =>
          simp only [afterNth, List.length_cons]
          split <;> exact Nat.succ_le_succ (ih _)

theorem afterNth_mono {low high : Nat} (ordered : low ≤ high) (text : List α) :
    afterNth ends low text ≤ afterNth ends high text := by
  induction text generalizing low high with
  | nil => simp
  | cons head rest ih =>
      cases low with
      | zero => simp
      | succ low =>
          obtain ⟨high, rfl⟩ : ∃ rest, high = rest + 1 := ⟨high - 1, by omega⟩
          simp only [afterNth]
          split
          · exact Nat.succ_le_succ (ih (Nat.le_of_succ_le_succ ordered))
          · exact Nat.succ_le_succ (ih ordered)

/-- A position that the front already determines ignores what follows it. -/
theorem afterNth_append_of_le {count : Nat} {front : List α}
    (within : count ≤ front.countP ends) (back : List α) :
    afterNth ends count (front ++ back) = afterNth ends count front := by
  induction front generalizing count with
  | nil =>
      have none : count = 0 := by simpa using within
      simp [none]
  | cons head front ih =>
      cases count with
      | zero => simp
      | succ count =>
          simp only [List.cons_append, afterNth]
          split
          · next ended =>
            rw [List.countP_cons_of_pos ended] at within
            rw [ih (Nat.le_of_succ_le_succ within)]
          · next open_ =>
            rw [List.countP_cons_of_neg open_] at within
            rw [ih within]

/-- A position past every unit end of the front lies in the back. -/
theorem afterNth_append_of_lt {count : Nat} {front : List α}
    (past : front.countP ends < count) (back : List α) :
    afterNth ends count (front ++ back) =
      front.length + afterNth ends (count - front.countP ends) back := by
  induction front generalizing count with
  | nil => simp
  | cons head front ih =>
      obtain ⟨count, rfl⟩ : ∃ rest, count = rest + 1 := ⟨count - 1, by omega⟩
      simp only [List.cons_append, afterNth, List.length_cons]
      split
      · next ended =>
        rw [List.countP_cons_of_pos ended] at past ⊢
        rw [ih (Nat.lt_of_succ_lt_succ past), Nat.add_sub_add_right]
        omega
      · next open_ =>
        rw [List.countP_cons_of_neg open_] at past ⊢
        rw [ih past]
        omega

theorem countP_take_afterNth {count : Nat} {text : List α}
    (within : count ≤ text.countP ends) :
    (text.take (afterNth ends count text)).countP ends = count := by
  induction text generalizing count with
  | nil =>
      have none : count = 0 := by simpa using within
      simp [none]
  | cons head rest ih =>
      cases count with
      | zero => simp
      | succ count =>
          simp only [afterNth]
          split
          · next ended =>
            rw [List.countP_cons_of_pos ended] at within
            rw [List.take_succ_cons, List.countP_cons_of_pos ended,
              ih (Nat.le_of_succ_le_succ within)]
          · next open_ =>
            rw [List.countP_cons_of_neg open_] at within
            rw [List.take_succ_cons, List.countP_cons_of_neg open_, ih within]

/-- When every element ends a unit, positions are lengths. -/
theorem afterNth_of_forall {text : List α} (every : ∀ head ∈ text, ends head = true)
    (count : Nat) : afterNth ends count text = min count text.length := by
  induction text generalizing count with
  | nil => simp
  | cons head rest ih =>
      cases count with
      | zero => simp
      | succ count =>
          simp only [afterNth, every head (.head _), if_true, List.length_cons]
          rw [ih (fun value member => every value (.tail _ member))]
          omega

theorem lastStart_le_length (count : Nat) (text : List α) :
    lastStart ends count text ≤ text.length :=
  afterNth_le_length _ text

theorem length_lastUnits (count : Nat) (text : List α) :
    (lastUnits ends count text).length = text.length - lastStart ends count text :=
  List.length_drop ..

/-- The kept suffix holds the requested units, or all there are. -/
theorem countP_lastUnits (count : Nat) (text : List α) :
    (lastUnits ends count text).countP ends = min count (text.countP ends) := by
  have whole : (text.take (lastStart ends count text)).countP ends +
      (lastUnits ends count text).countP ends = text.countP ends := by
    rw [← List.countP_append, lastUnits, List.take_append_drop]
  have before : (text.take (lastStart ends count text)).countP ends =
      text.countP ends - count := countP_take_afterNth (Nat.sub_le _ _)
  omega

/-- More text never moves the start of the kept suffix back. -/
theorem lastStart_append_ge (count : Nat) (text more : List α) :
    lastStart ends count text ≤ lastStart ends count (text ++ more) := by
  have fewer : text.countP ends - count ≤ (text ++ more).countP ends - count := by
    rw [List.countP_append]
    omega
  unfold lastStart
  rw [← afterNth_append_of_le (Nat.sub_le (text.countP ends) count) more]
  exact afterNth_mono fewer _

theorem lastStart_of_le {count : Nat} {text : List α}
    (few : text.countP ends ≤ count) : lastStart ends count text = 0 := by
  rw [lastStart, Nat.sub_eq_zero_of_le few, afterNth_zero]

theorem lastUnits_of_le {count : Nat} {text : List α}
    (few : text.countP ends ≤ count) : lastUnits ends count text = text := by
  rw [lastUnits, lastStart_of_le few, List.drop_zero]

/-- More than `count` units behind `front` decide the start by themselves. -/
theorem lastStart_append_of_lt {count : Nat} {back : List α}
    (many : count < back.countP ends) (front : List α) :
    lastStart ends count (front ++ back) = front.length + lastStart ends count back := by
  have past : front.countP ends < (front ++ back).countP ends - count := by
    rw [List.countP_append]
    omega
  have rest : (front ++ back).countP ends - count - front.countP ends =
      back.countP ends - count := by
    rw [List.countP_append]
    omega
  rw [lastStart, afterNth_append_of_lt past, rest, lastStart]

theorem length_le_lastStart {count : Nat} {back : List α}
    (many : count < back.countP ends) (front : List α) :
    front.length ≤ lastStart ends count (front ++ back) := by
  rw [lastStart_append_of_lt many]
  exact Nat.le_add_right _ _

/-- At most `count` units are all kept. -/
theorem lastStart_append_of_le {count : Nat} {back : List α}
    (few : back.countP ends ≤ count) (front : List α) :
    lastStart ends count (front ++ back) ≤ front.length := by
  have within : (front ++ back).countP ends - count ≤ front.countP ends := by
    rw [List.countP_append]
    omega
  rw [lastStart, afterNth_append_of_le within]
  exact afterNth_le_length _ _

theorem length_le_lastUnits {count : Nat} {back : List α}
    (few : back.countP ends ≤ count) (front : List α) :
    back.length ≤ (lastUnits ends count (front ++ back)).length := by
  have start := lastStart_append_of_le few front
  rw [length_lastUnits, List.length_append]
  omega

/-- The kept suffix is the longest one with at most `count` units. -/
theorem suffix_lastUnits_iff {count : Nat} {part text : List α} :
    part <:+ lastUnits ends count text ↔ part <:+ text ∧ part.countP ends ≤ count := by
  have within : lastUnits ends count text <:+ text := List.drop_suffix _ _
  constructor
  · intro kept
    refine ⟨kept.trans within, Nat.le_trans kept.sublist.countP_le ?_⟩
    rw [countP_lastUnits]
    exact Nat.min_le_left _ _
  · rintro ⟨⟨front, rfl⟩, few⟩
    exact List.suffix_of_suffix_length_le (List.suffix_append _ _) within
      (length_le_lastUnits few front)

/-- Text in front of more than `count` units does not matter. -/
theorem lastUnits_append_of_lt {count : Nat} {back : List α}
    (many : count < back.countP ends) (front : List α) :
    lastUnits ends count (front ++ back) = lastUnits ends count back := by
  rw [lastUnits, lastStart_append_of_lt many, List.drop_append, lastUnits]
  simp

/-- A position at the end of a sequence is right after a unit end. -/
theorem ends_of_afterNth_eq_length {count : Nat} {init : List α} {last : α}
    (within : count ≤ (init ++ [last]).countP ends)
    (reached : afterNth ends count (init ++ [last]) = (init ++ [last]).length) :
    ends last = true ∧ count = (init ++ [last]).countP ends := by
  have past : init.countP ends < count := by
    by_contra early
    rw [afterNth_append_of_le (Nat.not_lt.mp early)] at reached
    have bounded := @afterNth_le_length _ ends count init
    simp only [List.length_append, List.length_singleton] at reached
    omega
  have total : (init ++ [last]).countP ends = init.countP ends + [last].countP ends :=
    List.countP_append
  cases ended : ends last with
  | true =>
      have one : [last].countP ends = 1 := by simp [ended]
      exact ⟨rfl, by omega⟩
  | false =>
      have none : [last].countP ends = 0 := by simp [ended]
      omega

/-- Text in front matters exactly when there are too few units behind it. -/
theorem lastUnits_append_iff {count : Nat} {front back : List α} :
    lastUnits ends count (front ++ back) = lastUnits ends count back ↔
      front = [] ∨ count < back.countP ends ∨
        (back.countP ends = count ∧ ∃ init last, front = init ++ [last] ∧ ends last = true) := by
  have total : (front ++ back).countP ends = front.countP ends + back.countP ends :=
    List.countP_append
  constructor
  · intro same
    by_cases many : count < back.countP ends
    · exact .inr (.inl many)
    rcases List.eq_nil_or_concat' front with none | ⟨init, last, split⟩
    · exact .inl none
    right
    right
    have within : (front ++ back).countP ends - count ≤ front.countP ends := by omega
    have length := congrArg List.length same
    have bounded := @lastStart_le_length _ ends count (front ++ back)
    rw [lastUnits_of_le (Nat.not_lt.mp many), length_lastUnits, List.length_append] at length
    rw [List.length_append] at bounded
    have reached : afterNth ends ((front ++ back).countP ends - count) front =
        front.length := by
      rw [← afterNth_append_of_le within back]
      show lastStart ends count (front ++ back) = front.length
      omega
    rw [split] at reached within total
    obtain ⟨ended, all⟩ := ends_of_afterNth_eq_length within reached
    have some : 0 < (init ++ [last]).countP ends :=
      List.countP_pos_iff.mpr ⟨last, by simp, ended⟩
    exact ⟨by omega, init, last, split, ended⟩
  · rintro (rfl | many | ⟨exactly, init, last, rfl, ended⟩)
    · rfl
    · exact lastUnits_append_of_lt many front
    · have one : [last].countP ends = 1 := by simp [ended]
      have front : (init ++ [last]).countP ends = init.countP ends + 1 := by
        rw [List.countP_append, one]
      have start : lastStart ends count (init ++ [last] ++ back) = (init ++ [last]).length := by
        have position : (init ++ [last] ++ back).countP ends - count = init.countP ends + 1 := by
          omega
        rw [lastStart, position, afterNth_append_of_le (Nat.le_of_eq front.symm),
          afterNth_append_of_lt (Nat.lt_succ_self _)]
        simp [afterNth, ended]
      rw [lastUnits_of_le (Nat.le_of_eq exactly), lastUnits, start, List.drop_left]

/-- A segment that the start does not precede, with at most `count` units behind
it, holds the start. -/
theorem lastStart_of_segment {count : Nat} {front segment back : List α}
    (few : back.countP ends ≤ count)
    (reached : front.length ≤ lastStart ends count (front ++ (segment ++ back))) :
    lastStart ends count (front ++ (segment ++ back)) =
      front.length + afterNth ends ((segment ++ back).countP ends - count) segment := by
  have total : (front ++ (segment ++ back)).countP ends =
      front.countP ends + (segment ++ back).countP ends := List.countP_append ..
  by_cases many : count < (segment ++ back).countP ends
  · have past : front.countP ends < (front ++ (segment ++ back)).countP ends - count := by
      omega
    have within : (segment ++ back).countP ends - count ≤ segment.countP ends := by
      rw [List.countP_append]
      omega
    rw [lastStart, afterNth_append_of_lt past, total,
      show front.countP ends + (segment ++ back).countP ends - count - front.countP ends =
        (segment ++ back).countP ends - count by omega,
      afterNth_append_of_le within]
  · have bounded := lastStart_append_of_le (Nat.not_lt.mp many) front
    rw [Nat.sub_eq_zero_of_le (Nat.not_lt.mp many), afterNth_zero]
    omega

end Units
