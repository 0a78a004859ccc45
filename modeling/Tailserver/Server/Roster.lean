import Mathlib.Logic.Function.Basic
import Mathlib.Logic.Relation

/-! What the tailers are for, without their links: a plain list of open connections.
A connection enters the list in front or is closed at once, and whoever leaves the
list is closed as it leaves. -/

set_option autoImplicit false

namespace Tailserver.Server

@[ext] structure Roster where
  /-- The sockets on the list, the newest first. -/
  listed : List Nat := []
  accepted : Nat := 0
  /-- How often each socket was closed. -/
  closes : Nat → Nat := fun _ => 0

namespace Roster

/-- Only `kept` stay. -/
def keep (roster : Roster) (kept : List Nat) : Roster where
  listed := kept
  accepted := roster.accepted
  closes socket :=
    if socket ∈ roster.listed ∧ socket ∉ kept then roster.closes socket + 1
    else roster.closes socket

def refuse (roster : Roster) : Roster where
  listed := roster.listed
  accepted := roster.accepted + 1
  closes := Function.update roster.closes roster.accepted 1

def register (roster : Roster) : Roster where
  listed := roster.accepted :: roster.listed
  accepted := roster.accepted + 1
  closes := Function.update roster.closes roster.accepted 0

inductive Step (roster : Roster) : Roster → Prop where
  | refuse : Step roster roster.refuse
  | register : Step roster roster.register
  | keep {kept : List Nat} : kept.Sublist roster.listed → Step roster (roster.keep kept)

/-- Nothing is listed twice, and what was accepted is listed and open or unlisted and
closed once. -/
structure Sound (roster : Roster) : Prop where
  nodup : roster.listed.Nodup
  known : ∀ socket ∈ roster.listed, socket < roster.accepted
  opened : ∀ socket ∈ roster.listed, roster.closes socket = 0
  closed : ∀ socket < roster.accepted, socket ∉ roster.listed → roster.closes socket = 1

variable {roster roster' : Roster}

theorem closes_keep_of_left {kept : List Nat} {socket : Nat} (listed : socket ∈ roster.listed)
    (left : socket ∉ kept) : (roster.keep kept).closes socket = roster.closes socket + 1 :=
  if_pos ⟨listed, left⟩

theorem closes_keep_of_kept {kept : List Nat} {socket : Nat} (stays : socket ∈ kept) :
    (roster.keep kept).closes socket = roster.closes socket :=
  if_neg fun left => left.2 stays

theorem closes_keep_of_unlisted {kept : List Nat} {socket : Nat}
    (absent : socket ∉ roster.listed) :
    (roster.keep kept).closes socket = roster.closes socket :=
  if_neg fun left => absent left.1

theorem Sound.accepted_notMem (sound : roster.Sound) : roster.accepted ∉ roster.listed :=
  fun member => Nat.lt_irrefl _ (sound.known _ member)

theorem Sound.refuse (sound : roster.Sound) : roster.refuse.Sound where
  nodup := sound.nodup
  known socket member := Nat.lt_succ_of_lt (sound.known socket member)
  opened socket member := by
    have different := Nat.ne_of_lt (sound.known socket member)
    exact (Function.update_of_ne different ..).trans (sound.opened socket member)
  closed socket lt absent := by
    rcases Nat.lt_succ_iff_lt_or_eq.mp lt with old | rfl
    · exact (Function.update_of_ne (Nat.ne_of_lt old) ..).trans (sound.closed socket old absent)
    · exact Function.update_self ..

theorem Sound.register (sound : roster.Sound) : roster.register.Sound where
  nodup := List.nodup_cons.mpr ⟨sound.accepted_notMem, sound.nodup⟩
  known socket member := by
    rcases List.mem_cons.mp member with rfl | member
    · exact Nat.lt_succ_self _
    · exact Nat.lt_succ_of_lt (sound.known socket member)
  opened socket member := by
    rcases List.mem_cons.mp member with rfl | member
    · exact Function.update_self ..
    · have different := Nat.ne_of_lt (sound.known socket member)
      exact (Function.update_of_ne different ..).trans (sound.opened socket member)
  closed socket lt absent := by
    obtain ⟨different, absent⟩ := not_or.mp (mt List.mem_cons.mpr absent)
    have old : socket < roster.accepted :=
      Nat.lt_of_le_of_ne (Nat.le_of_lt_succ lt) different
    exact (Function.update_of_ne different ..).trans (sound.closed socket old absent)

theorem Sound.keep (sound : roster.Sound) {kept : List Nat}
    (sublist : kept.Sublist roster.listed) : (roster.keep kept).Sound := by
  refine ⟨sound.nodup.sublist sublist, ?_, ?_, ?_⟩
  · intro socket member
    exact sound.known socket (sublist.subset member)
  · intro socket (member : socket ∈ kept)
    rw [closes_keep_of_kept member]
    exact sound.opened socket (sublist.subset member)
  · intro socket lt (absent : socket ∉ kept)
    by_cases listed : socket ∈ roster.listed
    · rw [closes_keep_of_left listed absent, sound.opened socket listed]
    · rw [closes_keep_of_unlisted listed]
      exact sound.closed socket lt listed

theorem Sound.step (sound : roster.Sound) (step : Step roster roster') : roster'.Sound := by
  cases step with
  | refuse => exact sound.refuse
  | register => exact sound.register
  | keep sublist => exact sound.keep sublist

/-- Every run of the plain list is sound. -/
theorem sound_of_run (run : Relation.ReflTransGen Step {} roster) : roster.Sound := by
  induction run with
  | refl => exact ⟨.nil, by simp, by simp, by simp⟩
  | tail _ step sound => exact sound.step step

end Roster

end Tailserver.Server
