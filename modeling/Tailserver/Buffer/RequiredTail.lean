import Tailserver.Buffer.Basic

/-! What the buffer is for: of all the bytes ever appended, the last `n_units`
bytes, or what follows the newline that leaves `n_units` newlines. -/

set_option autoImplicit false

namespace Tailserver.Buffer

/-- The suffix of `text` that the tail has to be. -/
def requiredTail (config : Config) (text : List UInt8) : List UInt8 :=
  if config.countLines then
    if text.count newline ≤ config.nUnits.toNat then text
    else text.drop (Units.afterNth (· == newline)
      (text.count newline - config.nUnits.toNat) text)
  else text.drop (text.length - config.nUnits.toNat)

/-- Which bytes end a unit: newlines, or all of them. -/
def unitEnds (config : Config) : UInt8 → Bool :=
  if config.countLines then (· == newline) else fun _ => true

theorem countP_unitEnds_lines {config : Config} (mode : config.countLines = true)
    (text : List UInt8) : text.countP (unitEnds config) = text.count newline := by
  simp only [unitEnds, mode, if_true, List.count]

theorem countP_unitEnds_bytes {config : Config} (mode : config.countLines = false)
    (text : List UInt8) : text.countP (unitEnds config) = text.length := by
  simp [unitEnds, mode]

theorem afterNth_unitEnds_bytes {config : Config} (mode : config.countLines = false)
    (count : Nat) (text : List UInt8) :
    Units.afterNth (unitEnds config) count text = min count text.length :=
  Units.afterNth_of_forall (by simp [unitEnds, mode]) count

/-- Both modes keep the last units; they differ in what a unit is. -/
theorem requiredTail_eq_lastUnits (config : Config) (text : List UInt8) :
    requiredTail config text =
      Units.lastUnits (unitEnds config) config.nUnits.toNat text := by
  cases mode : config.countLines with
  | true =>
      simp only [requiredTail, mode, if_true]
      split
      · next few =>
        rw [← countP_unitEnds_lines mode] at few
        exact (Units.lastUnits_of_le few).symm
      · rw [Units.lastUnits, Units.lastStart, countP_unitEnds_lines mode, unitEnds, mode]
        rfl
  | false =>
      simp only [requiredTail, mode, Bool.false_eq_true, if_false]
      rw [Units.lastUnits, Units.lastStart, countP_unitEnds_bytes mode,
        afterNth_unitEnds_bytes mode, Nat.min_eq_left (Nat.sub_le _ _)]

/-- In byte mode the required tail holds `n_units` bytes, or all there are. -/
theorem length_requiredTail {config : Config} (mode : config.countLines = false)
    (text : List UInt8) :
    (requiredTail config text).length = min config.nUnits.toNat text.length := by
  rw [requiredTail_eq_lastUnits, ← countP_unitEnds_bytes mode, Units.countP_lastUnits,
    countP_unitEnds_bytes mode]

theorem requiredTail_suffix (config : Config) (text : List UInt8) :
    requiredTail config text <:+ text := by
  rw [requiredTail_eq_lastUnits]
  exact List.drop_suffix _ _

/-- At most `n_units` units. -/
def Fits (config : Config) (part : List UInt8) : Prop :=
  part.countP (unitEnds config) ≤ config.nUnits.toNat

theorem suffix_requiredTail_iff {config : Config} {part text : List UInt8} :
    part <:+ requiredTail config text ↔ part <:+ text ∧ Fits config part := by
  rw [requiredTail_eq_lastUnits]
  exact Units.suffix_lastUnits_iff

@[simp] theorem requiredTail_nil (config : Config) : requiredTail config [] = [] :=
  List.suffix_nil.mp (requiredTail_suffix config [])

end Tailserver.Buffer
