import Tailserver.Library.Memory

/-! Strings that end at their first zero byte. Reading behind the zero byte is a
fault. -/

set_option autoImplicit false

namespace CMemory

/-- The bytes in front of the zero byte. -/
structure CString where
  bytes : List UInt8
  terminated : 0 ∉ bytes
  deriving DecidableEq

def charAt : List UInt8 → Nat → Except Fault UInt8
  | [], 0 => .ok 0
  | [], _ + 1 => .error .outOfBounds
  | byte :: _, 0 => .ok byte
  | _ :: rest, index + 1 => charAt rest index

/-- Does `strchr` find the byte? It finds the zero byte too. -/
def strchr (text : List UInt8) (byte : UInt8) : Bool := byte ∈ text || byte = 0

/-- In the "C" locale. -/
def isspace (byte : UInt8) : Bool := byte = 32 || (9 ≤ byte && byte ≤ 13)

def ascii (character : Char) : UInt8 := UInt8.ofNat character.toNat

@[simp] theorem charAt_nil : charAt [] 0 = .ok 0 := rfl

@[simp] theorem charAt_cons_zero (byte : UInt8) (rest : List UInt8) :
    charAt (byte :: rest) 0 = .ok byte := rfl

@[simp] theorem charAt_cons_succ (byte : UInt8) (rest : List UInt8) (index : Nat) :
    charAt (byte :: rest) (index + 1) = charAt rest index := rfl

/-- The zero byte itself may be read. -/
theorem charAt_length (text : List UInt8) : charAt text text.length = .ok 0 := by
  induction text with
  | nil => rfl
  | cons byte text ih => exact ih

theorem charAt_of_le {text : List UInt8} {index : Nat} (within : index ≤ text.length) :
    ∃ byte, charAt text index = .ok byte := by
  induction text generalizing index with
  | nil =>
      cases Nat.le_zero.mp within
      exact ⟨0, rfl⟩
  | cons byte text ih =>
      cases index with
      | zero => exact ⟨byte, rfl⟩
      | succ index => exact ih (Nat.le_of_succ_le_succ within)

theorem length_of_charAt_zero {text : List UInt8} {index : Nat} (terminated : 0 ∉ text)
    (ended : charAt text index = .ok 0) : index = text.length := by
  induction text generalizing index with
  | nil =>
      cases index with
      | zero => rfl
      | succ index => cases ended
  | cons byte text ih =>
      obtain ⟨nonzero, terminated⟩ := not_or.mp (mt List.mem_cons.mpr terminated)
      cases index with
      | zero => exact absurd (Except.ok.inj ended).symm nonzero
      | succ index => exact congrArg (· + 1) (ih terminated ended)

end CMemory
