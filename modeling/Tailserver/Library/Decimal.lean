import Mathlib.Data.Nat.Digits.Lemmas

/-! Decimal numerals as byte strings, most significant digit first. -/

set_option autoImplicit false

namespace Decimal

def digitByte (digit : Nat) : UInt8 := UInt8.ofNat (48 + digit)

/-- What `%llu` prints. -/
def decimal (number : Nat) : List UInt8 :=
  if number = 0 then [digitByte 0] else ((Nat.digits 10 number).reverse).map digitByte

def isDigit (byte : UInt8) : Bool := 48 ≤ byte ∧ byte ≤ 57

def digitValue (byte : UInt8) : Nat := byte.toNat - 48

/-- The number a string of digits denotes. -/
def value (digits : List UInt8) : Nat :=
  digits.foldl (fun number byte => 10 * number + digitValue byte) 0

theorem toNat_digitByte {digit : Nat} (small : digit < 10) :
    (digitByte digit).toNat = 48 + digit :=
  UInt8.toNat_ofNat_of_lt' (show 48 + digit < 2 ^ 8 by omega)

theorem digitValue_digitByte {digit : Nat} (small : digit < 10) :
    digitValue (digitByte digit) = digit := by
  rw [digitValue, toNat_digitByte small]
  omega

theorem isDigit_digitByte {digit : Nat} (small : digit < 10) :
    isDigit (digitByte digit) = true := by
  have same := toNat_digitByte small
  simp only [isDigit, decide_eq_true_iff, UInt8.le_iff_toNat_le, same]
  exact ⟨Nat.le_add_right _ _, show 48 + digit ≤ 57 by omega⟩

theorem isDigit_of_mem_decimal {number : Nat} {byte : UInt8}
    (member : byte ∈ decimal number) : isDigit byte = true := by
  unfold decimal at member
  split at member
  · rw [List.mem_singleton.mp member]
    exact isDigit_digitByte (by decide)
  · obtain ⟨digit, found, rfl⟩ := List.mem_map.mp member
    exact isDigit_digitByte (Nat.digits_lt_base (by decide) (List.mem_reverse.mp found))

@[simp] theorem value_nil : value [] = 0 := rfl

theorem value_append_singleton (digits : List UInt8) (byte : UInt8) :
    value (digits ++ [byte]) = 10 * value digits + digitValue byte := by
  simp [value]

/-- More digits never make a number smaller. -/
theorem value_le_append (digits more : List UInt8) : value digits ≤ value (digits ++ more) := by
  induction more generalizing digits with
  | nil => simp
  | cons byte more ih =>
      have step := ih (digits ++ [byte])
      rw [value_append_singleton] at step
      have split : digits ++ byte :: more = digits ++ [byte] ++ more := by simp
      rw [split]
      omega

theorem value_reverse_digits {digits : List Nat} (small : ∀ digit ∈ digits, digit < 10) :
    value (digits.reverse.map digitByte) = Nat.ofDigits 10 digits := by
  induction digits with
  | nil => rfl
  | cons digit digits ih =>
      rw [List.reverse_cons, List.map_append, List.map_singleton, value_append_singleton,
        ih (fun digit member => small digit (.tail _ member)),
        digitValue_digitByte (small digit (.head _)), Nat.ofDigits_cons]
      exact Nat.add_comm _ _

/-- A numeral denotes the number it was printed from. -/
theorem value_decimal (number : Nat) : value (decimal number) = number := by
  unfold decimal
  split
  · next zero => rw [zero]; rfl
  · rw [value_reverse_digits (fun digit member => Nat.digits_lt_base (by decide) member),
      Nat.ofDigits_digits]

example : decimal 1203 = [49, 50, 48, 51] := by decide

end Decimal
