import Mathlib.Algebra.BigOperators.Group.List.Basic
import Mathlib.Algebra.GroupWithZero.Nat

/-! Accounts over runs: when every step pays its cost out of an account, or out of the credit
it brings along, so does every run. -/

set_option autoImplicit false

namespace Amortized

variable {σ ε : Type} {step : σ → ε → σ → Prop}

inductive Run (step : σ → ε → σ → Prop) : σ → List ε → σ → Prop where
  | nil (s : σ) : Run step s [] s
  | cons {s s' s'' : σ} {event : ε} {events : List ε} :
      step s event s' → Run step s' events s'' → Run step s (event :: events) s''

/-- `account s saved` says that `saved` is left in state `s`. -/
def Pays (step : σ → ε → σ → Prop) (account : σ → Nat → Prop) (cost credit : ε → Nat) : Prop :=
  ∀ s s' event saved, account s saved → step s event s' →
    ∃ saved', account s' saved' ∧ cost event + saved' ≤ saved + credit event

variable {account : σ → Nat → Prop} {cost credit : ε → Nat}

theorem Pays.run (pays : Pays step account cost credit) {s s' : σ} {events : List ε}
    {saved : Nat} (opening : account s saved) (run : Run step s events s') :
    ∃ saved', account s' saved' ∧
      (events.map cost).sum + saved' ≤ saved + (events.map credit).sum := by
  induction run generalizing saved with
  | nil s => exact ⟨saved, opening, Nat.le_of_eq (Nat.zero_add saved)⟩
  | @cons s s' s'' event events stepped _ ih =>
      obtain ⟨middle, kept, paid⟩ := pays s s' event saved opening stepped
      obtain ⟨closing, kept', paid'⟩ := ih kept
      refine ⟨closing, kept', ?_⟩
      simp only [List.map_cons, List.sum_cons]
      omega

/-- Without credit the cost of a run is bounded by what is there at its start. -/
theorem Pays.sum_le (pays : Pays step account cost fun _ => 0) {s s' : σ} {events : List ε}
    {saved : Nat} (opening : account s saved) (run : Run step s events s') :
    ∃ saved', account s' saved' ∧ (events.map cost).sum + saved' ≤ saved := by
  obtain ⟨saved', kept, paid⟩ := pays.run opening run
  rw [List.sum_map_zero, Nat.add_zero] at paid
  exact ⟨saved', kept, paid⟩

end Amortized
