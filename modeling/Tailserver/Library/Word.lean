import Mathlib.Data.UInt

/-! 64-bit words: unsigned arithmetic that does not wrap, and signed arithmetic
that does. -/

set_option autoImplicit false

namespace Word

theorem toNat_add_of_lt {left right : UInt64}
    (small : left.toNat + right.toNat < 2 ^ 64) :
    (left + right).toNat = left.toNat + right.toNat := by
  rw [UInt64.toNat_add, Nat.mod_eq_of_lt small]

theorem toNat_sub_of_le {left right : UInt64} (ordered : right.toNat ≤ left.toNat) :
    (left - right).toNat = left.toNat - right.toNat :=
  UInt64.toNat_sub_of_le _ _ (UInt64.le_iff_toNat_le.mpr ordered)

/-- The largest signed word. -/
def signedMax : Int := 2 ^ 63 - 1

/-- The signed word a number wraps to. -/
def signed (number : Int) : Int := number.bmod (2 ^ 64)

/-- The unsigned word a signed one is converted to. -/
def unsigned (number : Int) : Nat := (number % 2 ^ 64).toNat

theorem signed_of_le {number : Int} (nonneg : 0 ≤ number) (small : number ≤ signedMax) :
    signed number = number := by
  unfold signedMax at small
  exact Int.bmod_eq_of_le (by omega) (by omega)

/-- A number wraps to a negative word when its highest bit is set. -/
theorem signed_neg_iff (number : Nat) : signed number < 0 ↔ 2 ^ 63 ≤ number % 2 ^ 64 := by
  unfold signed
  rw [Int.bmod_def]
  omega

theorem unsigned_of_le {number : Int} (nonneg : 0 ≤ number) (small : number ≤ signedMax) :
    unsigned number = number.toNat := by
  unfold signedMax at small
  rw [unsigned, Int.emod_eq_of_lt nonneg (by omega)]

/-! ## Saturation -/

def largest : UInt64 := 0xffffffffffffffff

/-- The word nearest to a number. -/
def saturated (number : Nat) : UInt64 :=
  if number < 2 ^ 64 then UInt64.ofNat number else largest

theorem toNat_saturated_of_lt {number : Nat} (small : number < 2 ^ 64) :
    (saturated number).toNat = number := by
  rw [saturated, if_pos small, UInt64.toNat_ofNat_of_lt' small]

theorem saturated_of_le {number : Nat} (large : 2 ^ 64 ≤ number) :
    saturated number = largest := if_neg (Nat.not_lt.mpr large)

/-- A number whose product does not fit is above the quotient of the largest word. -/
theorem div_lt_saturated_iff {number : Nat} {factor : UInt64} (scales : 2 ≤ factor.toNat) :
    largest / factor < saturated number ↔ 2 ^ 64 ≤ number * factor.toNat := by
  have quotient : (largest / factor).toNat = (2 ^ 64 - 1) / factor.toNat := UInt64.toNat_div ..
  rw [UInt64.lt_iff_toNat_lt, quotient, Nat.div_lt_iff_lt_mul (by omega)]
  rcases Nat.lt_or_ge number (2 ^ 64) with small | large
  · rw [toNat_saturated_of_lt small]
    omega
  · rw [saturated_of_le large, show largest.toNat = 2 ^ 64 - 1 from rfl]
    have scaled : number * 2 ≤ number * factor.toNat := Nat.mul_le_mul_left _ scales
    have scaled' : (2 ^ 64 - 1) * 2 ≤ (2 ^ 64 - 1) * factor.toNat :=
      Nat.mul_le_mul_left _ scales
    omega

/-- Scaling a saturated number saturates where scaling the number does. -/
theorem saturated_mul {number : Nat} {factor : UInt64}
    (fits : number * factor.toNat < 2 ^ 64) (scales : 0 < factor.toNat) :
    saturated number * factor = saturated (number * factor.toNat) := by
  have small : number < 2 ^ 64 :=
    Nat.lt_of_le_of_lt (Nat.le_mul_of_pos_right number scales) fits
  apply UInt64.toNat_inj.mp
  rw [UInt64.toNat_mul, toNat_saturated_of_lt small, toNat_saturated_of_lt fits,
    Nat.mod_eq_of_lt fits]

end Word
