import Tailserver.Library.Memory

/-! Postconditions of executions that may have to wait. `Returns` says that an
execution leaves the behaviour of the source in no way: it returns a value that
satisfies the postcondition, or a call in it still waits for its answer. `Lockstep`
compares an execution with one of an abstract machine. -/

set_option autoImplicit false

namespace CMemory

variable {α β : Type}

def Returns (execution : Except Fault α) (post : α → Prop) : Prop :=
  match execution with
  | .ok value => post value
  | .error fault => fault = .blocked

namespace Returns

@[simp] theorem ok_iff {value : α} {post : α → Prop} :
    Returns (.ok value) post ↔ post value := Iff.rfl

@[simp] theorem blocked {post : α → Prop} : Returns (.error .blocked) post := rfl

theorem bind {execution : Except Fault α} {continuation : α → Except Fault β}
    {middle : α → Prop} {post : β → Prop} (first : Returns execution middle)
    (next : ∀ value, middle value → Returns (continuation value) post) :
    Returns (execution >>= continuation) post := by
  cases execution with
  | ok value => exact next value first
  | error fault => exact first

theorem bind_ok {execution : Except Fault α} {continuation : α → Except Fault β}
    {value : α} {post : β → Prop} (ran : execution = .ok value)
    (next : Returns (continuation value) post) : Returns (execution >>= continuation) post := by
  rw [ran]
  exact next

theorem mono {execution : Except Fault α} {strong weak : α → Prop}
    (returns : Returns execution strong) (implies : ∀ value, strong value → weak value) :
    Returns execution weak := by
  cases execution with
  | ok value => exact implies value returns
  | error fault => exact returns

theorem and {execution : Except Fault α} {post post' : α → Prop}
    (returns : Returns execution post) (returns' : Returns execution post') :
    Returns execution fun value => post value ∧ post' value := by
  cases execution with
  | ok value => exact ⟨returns, returns'⟩
  | error fault => exact returns

theorem of_bind {execution : Except Fault α} {continuation : α → Except Fault β}
    {post : β → Prop} (returns : Returns (execution >>= continuation) post) :
    Returns execution fun _ => True := by
  cases execution with
  | ok value => trivial
  | error fault => exact returns

theorem of_ok {execution : Except Fault α} {post : α → Prop} {value : α}
    (returns : Returns execution post) (ran : execution = .ok value) : post value := by
  rw [ran] at returns
  exact returns

end Returns

/-- Two executions that return related values or stop with the same fault. -/
def Lockstep (related : α → β → Prop) : Except Fault α → Except Fault β → Prop
  | .ok value, .ok value' => related value value'
  | .error fault, .error fault' => fault = fault'
  | _, _ => False

namespace Lockstep

variable {γ : Type} {related : α → β → Prop} {execution : Except Fault α}
  {execution' : Except Fault β}

theorem mono {weaker : α → β → Prop} (lockstep : Lockstep related execution execution')
    (implies : ∀ value value', related value value' → weaker value value') :
    Lockstep weaker execution execution' := by
  cases execution <;> cases execution' <;> first | exact lockstep | exact implies _ _ lockstep

theorem bind {δ : Type} {related' : γ → δ → Prop} {continuation : α → Except Fault γ}
    {continuation' : β → Except Fault δ} (lockstep : Lockstep related execution execution')
    (next : ∀ value value', related value value' →
      Lockstep related' (continuation value) (continuation' value')) :
    Lockstep related' (execution >>= continuation) (execution' >>= continuation') := by
  cases execution with
  | ok value =>
      cases execution' with
      | ok value' => exact next value value' lockstep
      | error fault => exact lockstep.elim
  | error fault =>
      cases execution' with
      | ok value' => exact lockstep.elim
      | error fault' => exact lockstep

/-- The abstract machine may still compute something from its result. -/
theorem map_right {related' : α → γ → Prop} {result : β → γ}
    (lockstep : Lockstep related execution execution')
    (implies : ∀ value value', related value value' → related' value (result value')) :
    Lockstep related' execution (execution' >>= fun value' => .ok (result value')) := by
  cases execution <;> cases execution' <;> first | exact lockstep | exact implies _ _ lockstep

/-- What the abstract machine promises holds of the execution. -/
theorem returns {post : β → Prop} (lockstep : Lockstep related execution execution')
    (returns : Returns execution' post) :
    Returns execution fun value => ∃ value', related value value' ∧ post value' := by
  cases execution with
  | ok value =>
      cases execution' with
      | ok value' => exact ⟨value', lockstep, returns⟩
      | error fault => exact lockstep.elim
  | error fault =>
      cases execution' with
      | ok value' => exact lockstep.elim
      | error fault' => exact lockstep.trans returns

end Lockstep

end CMemory
