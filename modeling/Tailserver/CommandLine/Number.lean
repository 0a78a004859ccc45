import Tailserver.Library.CString
import Tailserver.Library.Decimal
import Tailserver.Library.Word
import Mathlib.Data.List.TakeWhile

/-! Numbers with a multiplier on the command line: `xstrtoumax` of `xstrtol.c`, called as
both programs call it, without `ptr` and for base 10. -/

set_option autoImplicit false

namespace Tailserver.CommandLine

open CMemory

/-! ## The source -/

/-- `strtol_error`, whose values are bits. -/
structure StrtolError where
  overflow : Bool := false
  invalidSuffixChar : Bool := false
  invalid : Bool := false
  deriving DecidableEq

def longintOk : StrtolError := {}
def longintOverflow : StrtolError := { overflow := true }
def longintInvalidSuffixChar : StrtolError := { invalidSuffixChar := true }
def longintInvalid : StrtolError := { invalid := true }

def StrtolError.or (err err' : StrtolError) : StrtolError where
  overflow := err.overflow || err'.overflow
  invalidSuffixChar := err.invalidSuffixChar || err'.invalidSuffixChar
  invalid := err.invalid || err'.invalid

/-- What `strtoumax` answers. -/
structure Converted where
  value : UInt64
  /-- How far `*endptr` is behind the start. -/
  length : Nat
  /-- `errno` is `ERANGE`. -/
  outOfRange : Bool
  deriving DecidableEq

/-- How many bytes the sign takes, and whether it is a minus. -/
def sign : List UInt8 → Nat × Bool
  | [] => (0, false)
  | byte :: _ =>
      if byte = ascii '+' then (1, false) else if byte = ascii '-' then (1, true)
      else (0, false)

/-- `strtoumax` of the C library, for base 10. -/
def strtoumax (s : List UInt8) : Converted :=
  let number := s.dropWhile isspace
  let (signLength, negative) := sign number
  let digits := (number.drop signLength).takeWhile Decimal.isDigit
  if digits = [] then { value := 0, length := 0, outOfRange := false }
  else
    let value := Word.saturated (Decimal.value digits)
    let outOfRange := decide (2 ^ 64 ≤ Decimal.value digits)
    { value := if negative && !outOfRange then -value else value
      length := (s.takeWhile isspace).length + signLength + digits.length
      outOfRange }

def bkmScale (x scaleFactor : UInt64) : StrtolError × UInt64 :=
  if Word.largest / scaleFactor < x then (longintOverflow, Word.largest)
  else (longintOk, x * scaleFactor)

def bkmScaleByPower (x base : UInt64) : Nat → StrtolError × UInt64
  | 0 => (longintOk, x)
  | power + 1 =>
      let (err, x) := bkmScale x base
      let (err', x) := bkmScaleByPower x base power
      (err.or err', x)

/-- The second suffix: the base, and how many bytes the suffixes take. -/
def secondSuffix (p : List UInt8) (validSuffixes : List UInt8) : Except Fault (UInt64 × Nat) :=
  if strchr validSuffixes (ascii '0') then do
    let second ← charAt p 1
    if second = ascii 'i' then
      let third ← charAt p 2
      return (1024, if third = ascii 'B' then 3 else 1)
    else if second = ascii 'B' || second = ascii 'D' then return (1000, 2)
    else return (1024, 1)
  else return (1024, 1)

/-- The `switch` on the suffix. -/
def applySuffix (tmp base : UInt64) (suffix : UInt8) : Option (StrtolError × UInt64) :=
  match Char.ofUInt8 suffix with
  | 'b' => some (bkmScale tmp 512)
  | 'B' => some (bkmScale tmp 1024)
  | 'c' => some (longintOk, tmp)
  | 'E' => some (bkmScaleByPower tmp base 6)
  | 'G' | 'g' => some (bkmScaleByPower tmp base 3)
  | 'k' | 'K' => some (bkmScaleByPower tmp base 1)
  | 'M' | 'm' => some (bkmScaleByPower tmp base 2)
  | 'P' => some (bkmScaleByPower tmp base 5)
  | 'T' | 't' => some (bkmScaleByPower tmp base 4)
  | 'w' => some (bkmScale tmp 2)
  | 'Y' => some (bkmScaleByPower tmp base 8)
  | 'Z' => some (bkmScaleByPower tmp base 7)
  | _ => none

/-- What `xstrtoumax` does at the end of the number: `p` is what is left there. -/
def scaleBySuffix (p : List UInt8) (tmp : UInt64) (err : StrtolError)
    (validSuffixes : List UInt8) : Except Fault (StrtolError × UInt64) := do
  let suffix ← charAt p 0
  if suffix = 0 then return (err, tmp)
  if !strchr validSuffixes suffix then return (err.or longintInvalidSuffixChar, tmp)
  let (base, suffixes) ← secondSuffix p validSuffixes
  match applySuffix tmp base suffix with
  | none => return (err.or longintInvalidSuffixChar, tmp)
  | some (overflow, tmp) =>
      let err := err.or overflow
      let next ← charAt p suffixes
      return (if next ≠ 0 then err.or longintInvalidSuffixChar else err, tmp)

/-- The error, and what is stored in `*val` if anything is. -/
def xstrtoumax (s : List UInt8) (validSuffixes : Option (List UInt8)) :
    Except Fault (StrtolError × Option UInt64) := do
  let ch ← charAt (s.dropWhile isspace) 0
  if ch = ascii '-' then return (longintInvalid, none)
  let converted := strtoumax s
  let p := s.drop converted.length
  if converted.length = 0 then
    match validSuffixes with
    | none => return (longintInvalid, none)
    | some suffixes =>
        let first ← charAt p 0
        if first ≠ 0 && strchr suffixes first then
          let (err, tmp) ← scaleBySuffix p 1 longintOk suffixes
          return (err, some tmp)
        else return (longintInvalid, none)
  else
    let err := if converted.outOfRange then longintOverflow else longintOk
    match validSuffixes with
    | none => return (err, some converted.value)
    | some suffixes =>
        let (err, tmp) ← scaleBySuffix p converted.value err suffixes
        return (err, some tmp)

/-- `"bkKmMGTPEZY0"`. -/
def multipliers : List UInt8 :=
  ['b', 'k', 'K', 'm', 'M', 'G', 'T', 'P', 'E', 'Z', 'Y', '0'].map ascii

/-! ## What a multiplier stands for -/

/-- What may follow the letter, and the base it selects. -/
inductive Second : List UInt8 → Nat → Prop where
  | none : Second [] 1024
  | binary : Second [ascii 'i', ascii 'B'] 1024
  | decimal : Second [ascii 'B'] 1000
  | obsolescent : Second [ascii 'D'] 1000

def powers : List (Char × Nat) :=
  [('k', 1), ('K', 1), ('m', 2), ('M', 2), ('G', 3), ('T', 4), ('P', 5), ('E', 6), ('Z', 7),
    ('Y', 8)]

inductive Multiplier : List UInt8 → Nat → Prop where
  | one : Multiplier [] 1
  | block {second : List UInt8} {base : Nat} :
      Second second base → Multiplier (ascii 'b' :: second) 512
  | power {letter : Char} {power : Nat} {second : List UInt8} {base : Nat} :
      (letter, power) ∈ powers → Second second base →
      Multiplier (ascii letter :: second) (base ^ power)

/-- The numbers that are written as digits, as a multiplier or as both. -/
inductive Denotes : List UInt8 → Nat → Prop where
  | digits {spaces plus digits suffix : List UInt8} {factor : Nat} :
      (∀ byte ∈ spaces, isspace byte = true) → plus = [] ∨ plus = [ascii '+'] →
      digits ≠ [] → (∀ byte ∈ digits, Decimal.isDigit byte = true) →
      Multiplier suffix factor →
      Denotes (spaces ++ (plus ++ (digits ++ suffix))) (Decimal.value digits * factor)
  | multiplier {suffix : List UInt8} {factor : Nat} :
      suffix ≠ [] → Multiplier suffix factor → Denotes suffix factor

/-! ## Scaling -/

/-- The error that goes with a saturated number. -/
def rangeError (number : Nat) : StrtolError := { overflow := 2 ^ 64 ≤ number }

theorem rangeError_of_lt {number : Nat} (small : number < 2 ^ 64) :
    rangeError number = longintOk := by
  rw [rangeError, decide_eq_false (Nat.not_le.mpr small)]
  rfl

theorem rangeError_of_le {number : Nat} (large : 2 ^ 64 ≤ number) :
    rangeError number = longintOverflow := by
  rw [rangeError, decide_eq_true large]
  rfl

theorem rangeError_or {number larger : Nat} (le : number ≤ larger) :
    (rangeError number).or (rangeError larger) = rangeError larger := by
  rcases Nat.lt_or_ge number (2 ^ 64) with small | large
  · rw [rangeError_of_lt small]
    rfl
  · rw [rangeError_of_le large, rangeError_of_le (Nat.le_trans large le)]
    rfl

theorem bkmScale_saturated (number : Nat) {factor : UInt64} (scales : 2 ≤ factor.toNat) :
    bkmScale (Word.saturated number) factor =
      (rangeError (number * factor.toNat), Word.saturated (number * factor.toNat)) := by
  unfold bkmScale
  split
  case isTrue exceeds =>
    have large := (Word.div_lt_saturated_iff scales).mp exceeds
    rw [Word.saturated_of_le large, rangeError_of_le large]
  case isFalse within =>
    have small := Nat.not_le.mp (mt (Word.div_lt_saturated_iff scales).mpr within)
    rw [Word.saturated_mul small (by omega), rangeError_of_lt small]

theorem bkmScaleByPower_saturated (number : Nat) {base : UInt64} (scales : 2 ≤ base.toNat)
    (power : Nat) :
    ∃ err, bkmScaleByPower (Word.saturated number) base power =
        (err, Word.saturated (number * base.toNat ^ power)) ∧
      (rangeError number).or err = rangeError (number * base.toNat ^ power) := by
  induction power generalizing number with
  | zero =>
      rw [Nat.pow_zero, Nat.mul_one]
      exact ⟨longintOk, rfl, by simp [StrtolError.or, longintOk]⟩
  | succ power ih =>
      obtain ⟨err, scaled, raised⟩ := ih (number * base.toNat)
      have product : number * base.toNat * base.toNat ^ power =
          number * base.toNat ^ (power + 1) := by
        rw [Nat.mul_assoc, Nat.pow_succ']
      rw [product] at scaled raised
      refine ⟨(rangeError (number * base.toNat)).or err, ?_, ?_⟩
      · simp only [bkmScaleByPower, bkmScale_saturated number scales, scaled]
      · rw [raised]
        exact rangeError_or (Nat.le_mul_of_pos_right number (Nat.pow_pos (by omega)))

/-! ## Suffixes -/

theorem secondSuffix_of_second {second : List UInt8} {base : Nat} (known : Second second base)
    (letter : UInt8) :
    ∃ word : UInt64, word.toNat = base ∧
      secondSuffix (letter :: second) multipliers = .ok (word, second.length + 1) := by
  cases known with
  | none => exact ⟨1024, rfl, rfl⟩
  | binary => exact ⟨1024, rfl, rfl⟩
  | decimal => exact ⟨1000, rfl, rfl⟩
  | obsolescent => exact ⟨1000, rfl, rfl⟩

theorem two_le_base {second : List UInt8} {base : Nat} (known : Second second base) :
    2 ≤ base := by
  cases known <;> decide

theorem letter_of_mem {letter : Char} {power : Nat} (member : (letter, power) ∈ powers)
    (tmp base : UInt64) :
    ascii letter ≠ 0 ∧ strchr multipliers (ascii letter) = true ∧
      applySuffix tmp base (ascii letter) = some (bkmScaleByPower tmp base power) := by
  simp only [powers, List.mem_cons, Prod.mk.injEq, List.not_mem_nil, or_false] at member
  rcases member with ⟨rfl, rfl⟩ | ⟨rfl, rfl⟩ | ⟨rfl, rfl⟩ | ⟨rfl, rfl⟩ | ⟨rfl, rfl⟩ |
    ⟨rfl, rfl⟩ | ⟨rfl, rfl⟩ | ⟨rfl, rfl⟩ | ⟨rfl, rfl⟩ | ⟨rfl, rfl⟩ <;>
    exact ⟨by decide, by decide, rfl⟩

/-- The tail of `scaleBySuffix` when there is nothing behind the suffixes. -/
theorem scaleBySuffix_of_applied {letter : UInt8} {second : List UInt8} {base : Nat}
    (known : Second second base) (nonzero : letter ≠ 0)
    (valid : strchr multipliers letter = true) (number factor : Nat)
    (applied : ∀ word : UInt64, word.toNat = base → ∃ err,
      applySuffix (Word.saturated number) word letter =
        some (err, Word.saturated (number * factor)) ∧
      (rangeError number).or err = rangeError (number * factor)) :
    scaleBySuffix (letter :: second) (Word.saturated number) (rangeError number) multipliers =
      .ok (rangeError (number * factor), Word.saturated (number * factor)) := by
  obtain ⟨word, same, selects⟩ := secondSuffix_of_second known letter
  obtain ⟨err, scales, raised⟩ := applied word same
  have ended : charAt (letter :: second) (second.length + 1) = .ok 0 :=
    charAt_length (letter :: second)
  simp only [scaleBySuffix, charAt_cons_zero, except_ok_bind, if_neg nonzero, valid,
    Bool.not_true, Bool.false_eq_true, if_false, selects, scales, ended, raised, except_pure,
    ne_eq, not_true_eq_false]

theorem scaleBySuffix_of_multiplier {suffix : List UInt8} {factor : Nat}
    (known : Multiplier suffix factor) (number : Nat) :
    scaleBySuffix suffix (Word.saturated number) (rangeError number) multipliers =
      .ok (rangeError (number * factor), Word.saturated (number * factor)) := by
  cases known with
  | one =>
      rw [Nat.mul_one]
      rfl
  | block second =>
      refine scaleBySuffix_of_applied second (by decide) (by decide) number 512 ?_
      intro word _
      have scaled := @bkmScale_saturated number 512 (by decide)
      refine ⟨_, congrArg some scaled, ?_⟩
      exact rangeError_or (Nat.le_mul_of_pos_right number (by decide))
  | power member second =>
      obtain ⟨nonzero, valid, _⟩ := letter_of_mem member 0 0
      refine scaleBySuffix_of_applied second nonzero valid number _ ?_
      rintro word rfl
      obtain ⟨err, scaled, raised⟩ :=
        bkmScaleByPower_saturated number (two_le_base second) _
      exact ⟨err, by rw [(letter_of_mem member _ _).2.2, scaled], raised⟩

/-! ## What the suffix is -/

def letters : List UInt8 := ascii 'b' :: powers.map fun entry => ascii entry.1

theorem letter_spec : ∀ letter ∈ letters, letter ≠ 0 ∧ strchr multipliers letter = true ∧
    isspace letter = false ∧ Decimal.isDigit letter = false ∧ letter ≠ ascii '-' ∧
    letter ≠ ascii '+' := by decide +kernel

theorem Multiplier.letter {letter : UInt8} {second : List UInt8} {factor : Nat}
    (known : Multiplier (letter :: second) factor) : letter ∈ letters := by
  cases known with
  | block => exact .head _
  | power member => exact .tail _ (List.mem_map.mpr ⟨_, member, rfl⟩)

theorem Multiplier.head {suffix : List UInt8} {factor : Nat} (known : Multiplier suffix factor)
    (byte : UInt8) (same : suffix.head? = some byte) : Decimal.isDigit byte = false := by
  cases suffix with
  | nil => cases same
  | cons letter second =>
      cases same
      exact (letter_spec _ known.letter).2.2.2.1

theorem letter_of_strchr {letter : UInt8} (nonzero : letter ≠ 0)
    (valid : strchr multipliers letter = true) :
    letter = ascii 'b' ∨ (∃ power ∈ powers, letter = ascii power.1) ∨ letter = ascii '0' := by
  have member : letter ∈ multipliers := by simpa [strchr, nonzero] using valid
  simp only [multipliers, List.map_cons, List.map_nil, List.mem_cons, List.not_mem_nil,
    or_false] at member
  simp only [powers, List.exists_mem_cons_iff]
  tauto

/-- The second suffix is read no further than it goes. -/
theorem secondSuffix_cases (letter : UInt8) (rest : List UInt8) :
    ∃ front back base, rest = front ++ back ∧ Second front base.toNat ∧
      secondSuffix (letter :: rest) multipliers = .ok (base, front.length + 1) := by
  have listed : strchr multipliers (ascii '0') = true := by decide
  have plain : ∀ second back, second ≠ ascii 'i' → second ≠ ascii 'B' → second ≠ ascii 'D' →
      rest = second :: back →
      secondSuffix (letter :: rest) multipliers = .ok (1024, 1) := by
    rintro second back notBinary notDecimal notObsolescent rfl
    simp only [secondSuffix, listed, if_true, charAt_cons_succ, charAt_cons_zero,
      except_ok_bind, if_neg notBinary, notDecimal, notObsolescent, decide_false, Bool.or_false,
      Bool.false_eq_true, if_false, except_pure]
  cases rest with
  | nil => exact ⟨[], [], 1024, rfl, .none, rfl⟩
  | cons second rest =>
      by_cases binary : second = ascii 'i'
      · subst binary
        cases rest with
        | nil => exact ⟨[], [ascii 'i'], 1024, rfl, .none, rfl⟩
        | cons third rest =>
            by_cases long : third = ascii 'B'
            · subst long
              exact ⟨[ascii 'i', ascii 'B'], rest, 1024, rfl, .binary, rfl⟩
            · refine ⟨[], ascii 'i' :: third :: rest, 1024, rfl, .none, ?_⟩
              simp only [secondSuffix, listed, if_true, charAt_cons_succ, charAt_cons_zero,
                except_ok_bind, if_neg long, except_pure, List.length_nil]
      by_cases decimal : second = ascii 'B'
      · subst decimal
        exact ⟨[ascii 'B'], rest, 1000, rfl, .decimal, rfl⟩
      by_cases obsolescent : second = ascii 'D'
      · subst obsolescent
        exact ⟨[ascii 'D'], rest, 1000, rfl, .obsolescent, rfl⟩
      exact ⟨[], second :: rest, 1024, rfl, .none,
        plain second rest binary decimal obsolescent rfl⟩

theorem applySuffix_zero (tmp base : UInt64) : applySuffix tmp base (ascii '0') = none := rfl

theorem multiplier_of_applied {letter : UInt8} {second : List UInt8} {tmp base : UInt64}
    {scaled : StrtolError × UInt64} (nonzero : letter ≠ 0)
    (valid : strchr multipliers letter = true) (known : Second second base.toNat)
    (applied : applySuffix tmp base letter = some scaled) :
    ∃ factor, Multiplier (letter :: second) factor := by
  rcases letter_of_strchr nonzero valid with rfl | ⟨⟨character, power⟩, member, rfl⟩ | rfl
  · exact ⟨512, .block known⟩
  · exact ⟨_, .power member known⟩
  · rw [applySuffix_zero] at applied
    cases applied

/-- Reading a suffix is safe, and when it finds nothing wrong there is a multiplier. -/
theorem scaleBySuffix_returns {p : List UInt8} (terminated : 0 ∉ p) (tmp : UInt64)
    (err : StrtolError) :
    ∃ err' tmp', scaleBySuffix p tmp err multipliers = .ok (err', tmp') ∧
      (err'.invalidSuffixChar = true ∨ ∃ factor, Multiplier p factor) := by
  have marked : ∀ err : StrtolError, (err.or longintInvalidSuffixChar).invalidSuffixChar = true :=
    fun err => Bool.or_true _
  cases p with
  | nil => exact ⟨err, tmp, rfl, .inr ⟨1, .one⟩⟩
  | cons letter rest =>
      have nonzero : letter ≠ 0 := fun zero => terminated (zero ▸ .head _)
      cases valid : strchr multipliers letter with
      | false =>
          refine ⟨err.or longintInvalidSuffixChar, tmp, ?_, .inl (marked err)⟩
          simp [scaleBySuffix, nonzero, valid, except_ok_bind, except_pure]
      | true =>
          obtain ⟨front, back, base, rfl, second, selects⟩ := secondSuffix_cases letter rest
          obtain ⟨next, reads⟩ := @charAt_of_le (letter :: (front ++ back)) (front.length + 1)
            (by simp)
          simp only [scaleBySuffix, charAt_cons_zero, except_ok_bind, if_neg nonzero, valid,
            Bool.not_true, Bool.false_eq_true, if_false, selects]
          cases applied : applySuffix tmp base letter with
          | none => exact ⟨_, _, rfl, .inl (marked err)⟩
          | some scaled =>
              simp only [reads, except_ok_bind, except_pure]
              refine ⟨_, _, rfl, ?_⟩
              by_cases ended : next = 0
              · subst ended
                have length := length_of_charAt_zero terminated reads
                have empty : back = [] := by simpa using length
                subst empty
                rw [List.append_nil]
                exact .inr (multiplier_of_applied nonzero valid second applied)
              · rw [if_pos ended]
                exact .inl (marked _)

/-! ## The whole number -/

theorem isDigit_iff {byte : UInt8} :
    Decimal.isDigit byte = true ↔ 48 ≤ byte.toNat ∧ byte.toNat ≤ 57 := by
  simp only [Decimal.isDigit, decide_eq_true_iff, UInt8.le_iff_toNat_le]
  rfl

theorem digit_starts {byte : UInt8} (digit : Decimal.isDigit byte = true) :
    isspace byte = false ∧ byte ≠ ascii '+' ∧ byte ≠ ascii '-' := by
  obtain ⟨low, _⟩ := isDigit_iff.mp digit
  refine ⟨?_, ?_, ?_⟩
  · have notSpace : byte ≠ 32 := by
      rintro rfl
      exact absurd low (by decide)
    have notControl : ¬ byte ≤ 13 := by
      rw [UInt8.le_iff_toNat_le]
      exact Nat.not_le.mpr (Nat.lt_of_lt_of_le (by decide) low)
    simp [isspace, notSpace, notControl]
  · rintro rfl
    exact absurd low (by decide)
  · rintro rfl
    exact absurd low (by decide)

theorem takeWhile_of_head {holds : UInt8 → Bool} {text : List UInt8}
    (stops : ∀ byte, text.head? = some byte → holds byte = false) :
    text.takeWhile holds = [] ∧ text.dropWhile holds = text := by
  cases text with
  | nil => exact ⟨rfl, rfl⟩
  | cons byte text => simp [stops byte rfl]

section Digits

variable {spaces plus digits suffix : List UInt8}

theorem dropWhile_spaces (spaced : ∀ byte ∈ spaces, isspace byte = true)
    (signed : plus = [] ∨ plus = [ascii '+']) (nonempty : digits ≠ [])
    (decimal : ∀ byte ∈ digits, Decimal.isDigit byte = true) :
    (spaces ++ (plus ++ (digits ++ suffix))).takeWhile isspace = spaces ∧
      (spaces ++ (plus ++ (digits ++ suffix))).dropWhile isspace =
        plus ++ (digits ++ suffix) ∧
      sign (plus ++ (digits ++ suffix)) = (plus.length, false) := by
  obtain ⟨digit, rest, rfl⟩ := List.exists_cons_of_ne_nil nonempty
  obtain ⟨notSpace, notPlus, notMinus⟩ := digit_starts (decimal digit (.head _))
  have stops : ∀ byte, (plus ++ (digit :: rest ++ suffix)).head? = some byte →
      isspace byte = false := by
    intro byte same
    rcases signed with rfl | rfl
    · cases same
      exact notSpace
    · cases same
      rfl
  obtain ⟨none, all⟩ := takeWhile_of_head stops
  refine ⟨?_, ?_, ?_⟩
  · rw [List.takeWhile_append_of_pos spaced, none, List.append_nil]
  · rw [List.dropWhile_append_of_pos spaced, all]
  · rcases signed with rfl | rfl
    · simp [sign, notPlus, notMinus]
    · rfl

/-- A text with digits in it, as `strtoumax` takes it apart. -/
theorem strtoumax_of_digits (spaced : ∀ byte ∈ spaces, isspace byte = true)
    (signed : plus = [] ∨ plus = [ascii '+']) (nonempty : digits ≠ [])
    (decimal : ∀ byte ∈ digits, Decimal.isDigit byte = true)
    (ends : ∀ byte, suffix.head? = some byte → Decimal.isDigit byte = false) :
    strtoumax (spaces ++ (plus ++ (digits ++ suffix))) =
      { value := Word.saturated (Decimal.value digits)
        length := spaces.length + plus.length + digits.length
        outOfRange := 2 ^ 64 ≤ Decimal.value digits } := by
  obtain ⟨spaces_eq, number, signs⟩ := @dropWhile_spaces _ _ _ suffix spaced signed nonempty decimal
  have taken : (digits ++ suffix).takeWhile Decimal.isDigit = digits := by
    rw [List.takeWhile_append_of_pos decimal, (takeWhile_of_head ends).1, List.append_nil]
  simp only [strtoumax, spaces_eq, number, signs, List.drop_left, taken, if_neg nonempty,
    Bool.false_and, Bool.false_eq_true, if_false]

end Digits

/-- Where there are digits, the text is made of spaces, a sign, digits and the rest. -/
theorem digits_of_strtoumax {s : List UInt8}
    (unsigned : charAt (s.dropWhile isspace) 0 ≠ .ok (ascii '-'))
    (found : (strtoumax s).length ≠ 0) :
    ∃ spaces plus digits suffix, s = spaces ++ (plus ++ (digits ++ suffix)) ∧
      (∀ byte ∈ spaces, isspace byte = true) ∧ (plus = [] ∨ plus = [ascii '+']) ∧
      digits ≠ [] ∧ (∀ byte ∈ digits, Decimal.isDigit byte = true) ∧
      ∀ byte, suffix.head? = some byte → Decimal.isDigit byte = false := by
  have signed : ∃ plus rest, s.dropWhile isspace = plus ++ rest ∧
      (plus = [] ∨ plus = [ascii '+']) ∧ (sign (s.dropWhile isspace)).1 = plus.length := by
    cases number : s.dropWhile isspace with
    | nil => exact ⟨[], [], rfl, .inl rfl, rfl⟩
    | cons byte rest =>
        by_cases plus : byte = ascii '+'
        · subst plus
          exact ⟨[ascii '+'], rest, rfl, .inr rfl, rfl⟩
        · have notMinus : byte ≠ ascii '-' := by
            rintro rfl
            rw [number] at unsigned
            exact unsigned rfl
          exact ⟨[], byte :: rest, rfl, .inl rfl, by simp [sign, plus, notMinus]⟩
  obtain ⟨plus, rest, number, signed, length⟩ := signed
  rw [number] at length
  refine ⟨s.takeWhile isspace, plus, rest.takeWhile Decimal.isDigit,
    rest.dropWhile Decimal.isDigit, ?_, fun _ member => List.mem_takeWhile_imp member, signed, ?_,
    fun _ member => List.mem_takeWhile_imp member, ?_⟩
  · rw [List.takeWhile_append_dropWhile, ← number, List.takeWhile_append_dropWhile]
  · intro none
    apply found
    simp only [strtoumax, number, length, List.drop_left, none, if_true]
  · intro byte same
    have stops := List.head?_dropWhile_not Decimal.isDigit rest
    rw [same] at stops
    exact stops

/-! ## The error and the value -/

/-- A text that denotes a number is converted to it, or to the largest word. -/
theorem xstrtoumax_of_denotes {s : List UInt8} {number : Nat} (denotes : Denotes s number) :
    xstrtoumax s (some multipliers) =
      .ok (rangeError number, some (Word.saturated number)) := by
  cases denotes with
  | @digits spaces plus digits suffix factor spaced signed nonempty decimal known =>
      obtain ⟨_, number, _⟩ := @dropWhile_spaces _ _ _ suffix spaced signed nonempty decimal
      have converted := strtoumax_of_digits spaced signed nonempty decimal known.head
      obtain ⟨byte, reads, notMinus⟩ : ∃ byte,
          charAt (plus ++ (digits ++ suffix)) 0 = .ok byte ∧ byte ≠ ascii '-' := by
        obtain ⟨digit, rest, rfl⟩ := List.exists_cons_of_ne_nil nonempty
        rcases signed with rfl | rfl
        · exact ⟨digit, rfl, (digit_starts (decimal digit (.head _))).2.2⟩
        · exact ⟨ascii '+', rfl, by decide⟩
      have length : spaces.length + plus.length + digits.length ≠ 0 := by
        have some := List.length_pos_iff.mpr nonempty
        omega
      have rest : (spaces ++ (plus ++ (digits ++ suffix))).drop
          (spaces.length + plus.length + digits.length) = suffix := by
        rw [← List.append_assoc, ← List.append_assoc, ← List.length_append,
          ← List.length_append, List.drop_left]
      have error : (if decide (2 ^ 64 ≤ Decimal.value digits) = true then longintOverflow
          else longintOk) = rangeError (Decimal.value digits) := by
        rcases Nat.lt_or_ge (Decimal.value digits) (2 ^ 64) with small | large
        · rw [rangeError_of_lt small, if_neg (by simpa using small)]
        · rw [rangeError_of_le large, if_pos (decide_eq_true large)]
      have scaled := scaleBySuffix_of_multiplier known (Decimal.value digits)
      simp only [xstrtoumax, number, reads, except_ok_bind, if_neg notMinus, converted,
        if_neg length, rest, error, scaled, except_pure]
  | multiplier nonempty known =>
      obtain ⟨letter, second, rfl⟩ := List.exists_cons_of_ne_nil nonempty
      obtain ⟨nonzero, valid, notSpace, notDigit, notMinus, unsigned⟩ :=
        letter_spec letter known.letter
      have number : (letter :: second).dropWhile isspace = letter :: second := by
        simp [notSpace]
      have converted : (strtoumax (letter :: second)).length = 0 := by
        simp [strtoumax, number, sign, notMinus, unsigned, notDigit]
      have scaled := scaleBySuffix_of_multiplier known 1
      rw [Nat.one_mul] at scaled
      simp only [xstrtoumax, number, charAt_cons_zero, except_ok_bind, if_neg notMinus,
        converted, if_true, List.drop_zero, nonzero, ne_eq, not_false_eq_true, decide_true,
        valid, Bool.and_true]
      rw [show longintOk = rangeError 1 from rfl, show (1 : UInt64) = Word.saturated 1 from rfl,
        scaled]
      rfl

/-- Every text is read without a fault, and when nothing is wrong with it but its size it
denotes a number. -/
theorem denotes_of_xstrtoumax (s : CString) :
    ∃ err val, xstrtoumax s.bytes (some multipliers) = .ok (err, val) ∧
      (err.invalid = true ∨ err.invalidSuffixChar = true ∨ ∃ number, Denotes s.bytes number) := by
  obtain ⟨ch, reads⟩ := @charAt_of_le (s.bytes.dropWhile isspace) 0 (Nat.zero_le _)
  by_cases minus : ch = ascii '-'
  · refine ⟨longintInvalid, none, ?_, .inl rfl⟩
    simp only [xstrtoumax, reads, except_ok_bind, if_pos minus, except_pure]
  have unsigned : charAt (s.bytes.dropWhile isspace) 0 ≠ .ok (ascii '-') := by
    rw [reads]
    exact fun same => minus (Except.ok.inj same)
  by_cases found : (strtoumax s.bytes).length = 0
  · obtain ⟨first, reads'⟩ := @charAt_of_le s.bytes 0 (Nat.zero_le _)
    cases valid : first ≠ 0 && strchr multipliers first with
    | false =>
        refine ⟨longintInvalid, none, ?_, .inl rfl⟩
        simp only [xstrtoumax, reads, except_ok_bind, if_neg minus, found, if_true,
          List.drop_zero, reads', valid, Bool.false_eq_true, if_false, except_pure]
    | true =>
        obtain ⟨err, tmp, scaled, known⟩ := scaleBySuffix_returns s.terminated 1 longintOk
        refine ⟨err, some tmp, ?_, ?_⟩
        · simp only [xstrtoumax, reads, except_ok_bind, if_neg minus, found, if_true,
            List.drop_zero, reads', valid, scaled, except_pure]
        · rcases known with invalid | ⟨factor, known⟩
          · exact .inr (.inl invalid)
          · refine .inr (.inr ⟨factor, .multiplier ?_ known⟩)
            intro empty
            rw [empty, charAt_nil, Except.ok.injEq] at reads'
            rw [← reads'] at valid
            cases valid
  · obtain ⟨spaces, plus, digits, suffix, split, spaced, signed, nonempty, decimal, ends⟩ :=
      digits_of_strtoumax unsigned found
    have converted := strtoumax_of_digits spaced signed nonempty decimal ends
    rw [← split] at converted
    have rest : s.bytes.drop (strtoumax s.bytes).length = suffix := by
      rw [converted, split, ← List.append_assoc, ← List.append_assoc, ← List.length_append,
        ← List.length_append, List.drop_left]
    have terminated : 0 ∉ suffix := fun member => s.terminated (by simp [split, member])
    obtain ⟨err, tmp, scaled, known⟩ := scaleBySuffix_returns terminated
      (strtoumax s.bytes).value
      (if (strtoumax s.bytes).outOfRange = true then longintOverflow else longintOk)
    refine ⟨err, some tmp, ?_, ?_⟩
    · simp only [xstrtoumax, reads, except_ok_bind, if_neg minus, if_neg found, rest, scaled,
        except_pure]
    · rcases known with invalid | ⟨factor, known⟩
      · exact .inr (.inl invalid)
      · rw [split]
        exact .inr (.inr ⟨_, .digits spaced signed nonempty decimal known⟩)

/-- The grammar of the numbers that both programs take is `Denotes`: a text is converted to
`number` exactly when it denotes it and it fits into 64 bits, and overflow alone is reported
exactly when it denotes a number that does not. No text is read past its end. -/
theorem xstrtoumax_iff (s : CString) :
    (∃ result, xstrtoumax s.bytes (some multipliers) = .ok result) ∧
      (∀ val : UInt64, xstrtoumax s.bytes (some multipliers) = .ok (longintOk, some val) ↔
        Denotes s.bytes val.toNat) ∧
      ((∃ val, xstrtoumax s.bytes (some multipliers) = .ok (longintOverflow, val)) ↔
        ∃ number, 2 ^ 64 ≤ number ∧ Denotes s.bytes number) := by
  obtain ⟨err, val, ran, known⟩ := denotes_of_xstrtoumax s
  refine ⟨⟨_, ran⟩, ?_, ?_⟩
  · intro word
    constructor
    · intro accepted
      rw [ran, Except.ok.injEq, Prod.mk.injEq] at accepted
      obtain ⟨rfl, rfl⟩ := accepted
      obtain invalid | invalid | ⟨number, denotes⟩ := known
      · cases invalid
      · cases invalid
      rw [xstrtoumax_of_denotes denotes, Except.ok.injEq, Prod.mk.injEq] at ran
      have small : number < 2 ^ 64 := by
        by_contra large
        rw [rangeError_of_le (Nat.not_lt.mp large)] at ran
        exact absurd ran.1 (by decide)
      rw [← Option.some.inj ran.2, Word.toNat_saturated_of_lt small]
      exact denotes
    · intro denotes
      rw [xstrtoumax_of_denotes denotes, rangeError_of_lt word.toNat_lt,
        UInt64.toNat_inj.mp (Word.toNat_saturated_of_lt word.toNat_lt)]
  · constructor
    · rintro ⟨word, accepted⟩
      rw [ran, Except.ok.injEq, Prod.mk.injEq] at accepted
      obtain ⟨rfl, rfl⟩ := accepted
      obtain invalid | invalid | ⟨number, denotes⟩ := known
      · cases invalid
      · cases invalid
      rw [xstrtoumax_of_denotes denotes, Except.ok.injEq, Prod.mk.injEq] at ran
      refine ⟨number, ?_, denotes⟩
      by_contra small
      rw [rangeError_of_lt (Nat.not_le.mp small)] at ran
      exact absurd ran.1 (by decide)
    · rintro ⟨number, large, denotes⟩
      exact ⟨_, by rw [xstrtoumax_of_denotes denotes, rangeError_of_le large]⟩

example : xstrtoumax (['1', '0', 'k', 'B'].map ascii) (some multipliers) =
    .ok (longintOk, some 10000) := by decide

end Tailserver.CommandLine
