import Mathlib.Data.List.Induction

/-! A resource that is held one at a time. The log of what was done with it is followed
from left to right, and stops where a second one is acquired or one that is not held is
used or released. -/

set_option autoImplicit false

namespace Exclusive

variable {α : Type} [DecidableEq α]

inductive Access (α : Type) where
  | acquire (value : α)
  | use (value : α)
  | release (value : α)
  deriving DecidableEq

/-- What is held after an access, if it may be made. -/
def Access.next : Option α → Access α → Option (Option α)
  | none, .acquire value => some (some value)
  | some held, .use value => if value = held then some (some held) else none
  | some held, .release value => if value = held then some none else none
  | _, _ => none

/-- What is held after all of them. -/
def holding (log : List (Access α)) : Option (Option α) :=
  log.foldlM Access.next none

theorem holding_append (log more : List (Access α)) :
    holding (log ++ more) = (holding log).bind fun held => more.foldlM Access.next held := by
  rw [holding, List.foldlM_append]
  rfl

theorem holding_concat (log : List (Access α)) (access : Access α) :
    holding (log ++ [access]) = (holding log).bind fun held => access.next held := by
  rw [holding_append]
  congr 1
  funext held
  rw [List.foldlM_cons]
  cases access.next held <;> rfl

/-- Each was released as often as it was acquired, but for the one that is still held. -/
theorem count_acquire_of_holding {log : List (Access α)} {held : Option α}
    (holds : holding log = some held) (value : α) :
    log.count (.acquire value) = log.count (.release value) + held.toList.count value := by
  induction log using List.reverseRecOn generalizing held with
  | nil =>
      cases holds
      rfl
  | append_singleton log access ih =>
      rw [holding_concat] at holds
      obtain ⟨before, earlier, holds⟩ := Option.bind_eq_some_iff.mp holds
      have counted := ih earlier
      rw [List.count_append, List.count_append, counted]
      cases before with
      | none =>
          cases access with
          | acquire value' =>
              cases holds
              by_cases same : value' = value <;> simp [same]
          | use value' => cases holds
          | release value' => cases holds
      | some held' =>
          cases access with
          | acquire value' => cases holds
          | use value' =>
              simp only [Access.next, Option.ite_none_right_eq_some] at holds
              obtain ⟨rfl, same⟩ := holds
              cases same
              simp
          | release value' =>
              simp only [Access.next, Option.ite_none_right_eq_some] at holds
              obtain ⟨rfl, same⟩ := holds
              cases same
              by_cases same : value' = value <;> simp [same]

end Exclusive
