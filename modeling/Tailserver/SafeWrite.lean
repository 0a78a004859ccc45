import Tailserver.Kernel
import Tailserver.Library.Memory
import Mathlib.Algebra.GroupWithZero.Nat

/-! `write(2)` and the two loops of `safe_write.c` around it. What the kernel
answers to one call after the other is an argument; a call that got no answer yet
is blocked. -/

set_option autoImplicit false

namespace Tailserver

open CMemory

/-- What a write comes to: the result, the bytes delivered, and the answers that
are left for later calls. -/
structure Written where
  result : Int
  delivered : List UInt8
  answers : List WriteAnswer
  deriving DecidableEq, Repr

def isErrnoRetryFriendly (errno : Errno) : Bool :=
  errno = .eintr || errno = .eagain || errno = .ewouldblock

def panicLoopIterations : Nat := 1000000

/-- `write`, when it takes bytes. -/
def write (buf : List UInt8) (count : Nat) (answers : List WriteAnswer) : Written :=
  { result := (buf.take count).length, delivered := buf.take count, answers }

/-- The loop of `safe_write`. The first argument is how many more iterations the
safety counter allows. -/
def safeWriteLoop (buf : List UInt8) : Nat → List WriteAnswer → Except Fault Written
  | 0, answers => .ok { result := -1, delivered := [], answers }
  | _ + 1, [] => .error .blocked
  | _ + 1, .accepted count :: answers => .ok (write buf count answers)
  | iterations + 1, .failed errno :: answers =>
      if isErrnoRetryFriendly errno then safeWriteLoop buf iterations answers
      else .ok { result := -1, delivered := [], answers }

def safeWrite (buf : List UInt8) (answers : List WriteAnswer) : Except Fault Written :=
  safeWriteLoop buf panicLoopIterations answers

def safeWriteForever (buf : List UInt8) : List WriteAnswer → Except Fault Written
  | [] => .error .blocked
  | .accepted count :: answers => .ok (write buf count answers)
  | .failed errno :: answers =>
      if isErrnoRetryFriendly errno then safeWriteForever buf answers
      else .ok { result := -1, delivered := [], answers }

/-- The test every caller makes on the result of a write. -/
def writtenTooLittle (written : Written) (buf : List UInt8) : Bool :=
  written.result < buf.length

def stdoutWriteBlocking (buf : List UInt8) (answers : List WriteAnswer) :
    Except Fault (Bool × Written) := do
  let written ← safeWriteForever buf answers
  return (!writtenTooLittle written buf, written)

/-! ## What was written -/

/-- A write delivers a beginning of what it was given, and all of it unless its
result is short. -/
structure Delivers (buf : List UInt8) (written : Written) : Prop where
  isPrefix : written.delivered <+: buf
  complete : writtenTooLittle written buf = false → written.delivered = buf
  counted : written.delivered ≠ [] → written.result = written.delivered.length

theorem write_delivers (buf : List UInt8) (count : Nat) (answers : List WriteAnswer) :
    Delivers buf (write buf count answers) := by
  constructor
  · exact List.take_prefix count buf
  · intro enough
    simp only [writtenTooLittle, write, decide_eq_false_iff_not, List.length_take] at enough
    apply List.take_of_length_le
    omega
  · exact fun _ => rfl

theorem failed_delivers (buf : List UInt8) (answers : List WriteAnswer) :
    Delivers buf { result := -1, delivered := [], answers } := by
  constructor
  · exact List.nil_prefix
  · intro enough
    simp only [writtenTooLittle, decide_eq_false_iff_not] at enough
    omega
  · exact fun delivered => absurd rfl delivered

theorem safeWriteLoop_delivers {buf : List UInt8} {iterations : Nat}
    {answers : List WriteAnswer} {written : Written}
    (ran : safeWriteLoop buf iterations answers = .ok written) : Delivers buf written := by
  induction iterations generalizing answers with
  | zero =>
      cases ran
      exact failed_delivers buf answers
  | succ iterations ih =>
      cases answers with
      | nil => cases ran
      | cons answer answers =>
          cases answer with
          | accepted count =>
              cases ran
              exact write_delivers buf count answers
          | failed errno =>
              simp only [safeWriteLoop] at ran
              split at ran
              · exact ih ran
              · cases ran
                exact failed_delivers buf answers

theorem safeWriteForever_delivers {buf : List UInt8} {answers : List WriteAnswer}
    {written : Written} (ran : safeWriteForever buf answers = .ok written) :
    Delivers buf written := by
  induction answers with
  | nil => cases ran
  | cons answer answers ih =>
      cases answer with
      | accepted count =>
          cases ran
          exact write_delivers buf count answers
      | failed errno =>
          simp only [safeWriteForever] at ran
          split at ran
          · exact ih ran
          · cases ran
            exact failed_delivers buf answers

theorem safeWriteLoop_fault {buf : List UInt8} {iterations : Nat}
    {answers : List WriteAnswer} {fault : Fault}
    (ran : safeWriteLoop buf iterations answers = .error fault) : fault = .blocked := by
  induction iterations generalizing answers with
  | zero => cases ran
  | succ iterations ih =>
      cases answers with
      | nil =>
          cases ran
          rfl
      | cons answer answers =>
          cases answer with
          | accepted count => cases ran
          | failed errno =>
              simp only [safeWriteLoop] at ran
              split at ran
              · exact ih ran
              · cases ran

theorem safeWriteForever_fault {buf : List UInt8} {answers : List WriteAnswer}
    {fault : Fault} (ran : safeWriteForever buf answers = .error fault) :
    fault = .blocked := by
  induction answers with
  | nil =>
      cases ran
      rfl
  | cons answer answers ih =>
      cases answer with
      | accepted count => cases ran
      | failed errno =>
          simp only [safeWriteForever] at ran
          split at ran
          · exact ih ran
          · cases ran

/-! ## Complete writes -/

/-- A write of at most `size` bytes takes all of them in the end. -/
def Completes (size : Nat) (answers : List WriteAnswer) : Prop :=
  ∀ answer ∈ answers, match answer with
    | .accepted count => size ≤ count
    | .failed errno => isErrnoRetryFriendly errno = true

theorem Completes.safeWriteForever {size : Nat} {answers : List WriteAnswer}
    {buf : List UInt8} {written : Written} (completes : Completes size answers)
    (fits : buf.length ≤ size) (ran : safeWriteForever buf answers = .ok written) :
    writtenTooLittle written buf = false ∧ Completes size written.answers := by
  induction answers with
  | nil => cases ran
  | cons answer answers ih =>
      have later : Completes size answers := fun answer member =>
        completes answer (.tail _ member)
      cases answer with
      | accepted count =>
          have enough : size ≤ count := completes (.accepted count) (.head _)
          cases ran
          refine ⟨?_, later⟩
          simp only [writtenTooLittle, write, List.length_take, decide_eq_false_iff_not]
          omega
      | failed errno =>
          have retries : isErrnoRetryFriendly errno = true := completes (.failed errno) (.head _)
          simp only [Tailserver.safeWriteForever, retries, if_true] at ran
          exact ih later ran

/-! ## Slow readers -/

/-- The kernel makes no more difficulties than a slow reader causes, and takes as
many bytes in the end. -/
structure Slow (size : Nat) (answers : List WriteAnswer) : Prop where
  failures : ∀ errno, .failed errno ∈ answers → isErrnoRetryFriendly errno = true
  positive : ∀ count, .accepted count ∈ answers → 0 < count
  accepts : ∃ count, .accepted count ∈ answers
  enough : size ≤ (answers.map fun answer =>
    match answer with
    | .accepted count => count
    | .failed _ => 0).sum

/-- The count of the first write that takes bytes. -/
def firstAccepted : List WriteAnswer → Option Nat
  | [] => none
  | .accepted count :: _ => some count
  | .failed _ :: answers => firstAccepted answers

/-- Only the first write that takes bytes matters. -/
theorem Slow.safeWriteForever {size : Nat} {answers : List WriteAnswer}
    (slow : Slow size answers) (buf : List UInt8) :
    ∃ count rest, firstAccepted answers = some count ∧
      safeWriteForever buf answers = .ok (write buf count rest) := by
  obtain ⟨failures, -, ⟨count, accepted⟩, -⟩ := slow
  induction answers with
  | nil => cases accepted
  | cons answer answers ih =>
      cases answer with
      | accepted first => exact ⟨first, answers, rfl, rfl⟩
      | failed errno =>
          have retries := failures errno (.head _)
          have later : .accepted count ∈ answers := by simpa using accepted
          obtain ⟨first, rest, found, ran⟩ :=
            ih (fun errno member => failures errno (.tail _ member)) later
          refine ⟨first, rest, found, ?_⟩
          simp only [Tailserver.safeWriteForever, retries, if_true, ran]

end Tailserver
