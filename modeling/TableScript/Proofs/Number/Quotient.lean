import TableScript.Proofs.Number.HalfEven
import TableScript.Proofs.Number.Unpacked

set_option autoImplicit false

namespace TableScript

open Float.Model (Format UnpackedFloat totalExponent)
open Float.Model.UnpackedFloat
open Rounding (Significant HalfEven)

namespace Binary

theorem roundHalfEven_bounds (num den : Nat) :
    num / den ≤ roundHalfEven num den ∧ roundHalfEven num den ≤ num / den + 1 := by
  unfold roundHalfEven
  dsimp only
  repeat' split
  all_goals omega

section Height

variable {num den places : Nat} (height : (num / den).log2 = 52 + places)
include height

theorem quotient_of_height : 2 ^ 52 ≤ num / (den * 2 ^ places) ∧ num / (den * 2 ^ places) < 2 ^ 53 := by
  have nonzero : num / den ≠ 0 := fun zero => by
    rw [zero, Nat.log2_zero] at height
    omega
  have start := Nat.log2_self_le nonzero
  have finish := @Nat.lt_log2_self (num / den)
  rw [height] at start finish
  rw [← Nat.div_div_eq_div_mul]
  constructor
  · rwa [Nat.le_div_iff_mul_le (Nat.two_pow_pos places), ← Nat.pow_add]
  · rwa [Nat.div_lt_iff_lt_mul (Nat.two_pow_pos places), ← Nat.pow_add, Nat.add_right_comm 52 1 places]

/-- A fraction with 53 bits keeps them, unless it is rounded up to the next power of two. -/
theorem roundHalfEven_of_height :
    2 ^ 52 ≤ roundHalfEven num (den * 2 ^ places) ∧ roundHalfEven num (den * 2 ^ places) ≤ 2 ^ 53 := by
  obtain ⟨down, up⟩ := roundHalfEven_bounds num (den * 2 ^ places)
  obtain ⟨low, high⟩ := quotient_of_height height
  omega

/-- What is kept is the fraction to 53 significant bits. -/
theorem significant_roundHalfEven (exponent : Int) (positive : 0 < den) :
    Significant (num / den * 2 ^ exponent)
      (roundHalfEven num (den * 2 ^ places) * 2 ^ (exponent + places)) := by
  obtain ⟨low, high⟩ := quotient_of_height height
  have positives : 0 < den * 2 ^ places := Nat.mul_pos positive (Nat.two_pow_pos places)
  have den_pos : (0 : ℚ) < (den * 2 ^ places : Nat) := by exact_mod_cast positives
  have shifted : (num : ℚ) / den * 2 ^ exponent / 2 ^ (exponent + places) =
      num / (den * 2 ^ places : Nat) := by
    rw [zpow_add₀ two_ne_zero, zpow_natCast]
    push_cast
    field_simp
  refine ⟨exponent + places, roundHalfEven num (den * 2 ^ places), by push_cast; rfl, ?_, ?_, ?_⟩
  · rw [shifted]
    exact Rounding.halfEven_roundHalfEven num positives
  · rw [shifted, le_div_iff₀ den_pos]
    exact_mod_cast (Nat.le_div_iff_mul_le positives).mp low
  · rw [shifted, div_lt_iff₀ den_pos]
    exact_mod_cast (Nat.div_lt_iff_lt_mul positives).mp high

end Height

end Binary

namespace Double

/-- Whether an extended mantissa has all that rounding needs to know of a fraction. -/
structure Stands (extended : ExtendedMantissa) (num den : Nat) : Prop where
  mantissa : extended.mantissa = num / den
  accuracy : extended.accuracy = accuracyOfFraction (num % den) den

theorem accuracy_ofMantissaAndAccuracy (mantissa : Nat) (accuracy : Accuracy) :
    (ExtendedMantissa.ofMantissaAndAccuracy mantissa accuracy).accuracy = accuracy := by
  cases accuracy with
  | exact => rfl
  | inexact order => cases order <;> rfl

theorem mantissa_ofMantissaAndAccuracy (mantissa : Nat) (accuracy : Accuracy) :
    (ExtendedMantissa.ofMantissaAndAccuracy mantissa accuracy).mantissa = mantissa := by
  cases accuracy with
  | exact => rfl
  | inexact order => cases order <;> rfl

theorem stands_ofMantissaAndAccuracy (num den : Nat) :
    Stands (.ofMantissaAndAccuracy (num / den) (accuracyOfFraction (num % den) den)) num den :=
  ⟨mantissa_ofMantissaAndAccuracy _ _, accuracy_ofMantissaAndAccuracy _ _⟩

/-- One of the two bits is set if something is left of the fraction. -/
theorem Stands.bits {extended : ExtendedMantissa} {num den : Nat} (stands : Stands extended num den) :
    (extended.roundBit || extended.stickyBit) = decide (num % den ≠ 0) := by
  obtain ⟨-, exact⟩ := stands
  unfold accuracyOfFraction at exact
  obtain ⟨mantissa, round, sticky⟩ := extended
  by_cases none : num % den = 0
  · rw [if_pos none] at exact
    cases round <;> cases sticky <;> simp [ExtendedMantissa.accuracy, none] at exact ⊢
  · rw [if_neg none] at exact
    cases round <;> cases sticky <;> simp [ExtendedMantissa.accuracy, none] at exact ⊢

theorem Stands.shiftRightOne {extended : ExtendedMantissa} {num den : Nat} (positive : 0 < den)
    (stands : Stands extended num den) : Stands extended.shiftRightOne num (den * 2) := by
  have whole := stands.mantissa
  have small := Nat.mod_lt num positive
  constructor
  · rw [ExtendedMantissa.shiftRightOne, whole, Nat.div_div_eq_div_mul]
  · rw [ExtendedMantissa.shiftRightOne, stands.bits, whole, Nat.mod_mul]
    unfold accuracyOfFraction
    generalize num % den = rest at small ⊢
    rcases Nat.mod_two_eq_zero_or_one (num / den) with even | odd
    · rw [even, Nat.mul_zero, Nat.add_zero]
      by_cases none : rest = 0
      · simp [none, ExtendedMantissa.accuracy]
      · have below : compare (2 * rest) (den * 2) = .lt := Nat.compare_eq_lt.mpr (by omega)
        simp [none, below, ExtendedMantissa.accuracy]
    · rw [odd, Nat.mul_one]
      have some : rest + den ≠ 0 := by omega
      by_cases none : rest = 0
      · have tied : compare (2 * (rest + den)) (den * 2) = .eq := Nat.compare_eq_eq.mpr (by omega)
        rw [if_neg some, tied]
        simp [none, ExtendedMantissa.accuracy]
      · have above : compare (2 * (rest + den)) (den * 2) = .gt := Nat.compare_eq_gt.mpr (by omega)
        rw [if_neg some, above]
        simp [none, ExtendedMantissa.accuracy]

theorem Stands.shiftRight {extended : ExtendedMantissa} {num den : Nat} (positive : 0 < den)
    (stands : Stands extended num den) (places : Nat) :
    Stands (extended >>> places) num (den * 2 ^ places) := by
  induction places with
  | zero =>
    rw [Nat.pow_zero, Nat.mul_one]
    exact stands
  | succ places ih =>
    rw [Nat.pow_succ, ← Nat.mul_assoc]
    exact ih.shiftRightOne (Nat.mul_pos positive (Nat.two_pow_pos places))

theorem Stands.roundedMantissa {extended : ExtendedMantissa} {num den : Nat} (positive : 0 < den)
    (stands : Stands extended num den) :
    extended.roundedMantissa = Binary.roundHalfEven num den := by
  rw [ExtendedMantissa.roundedMantissa, stands.mantissa, stands.accuracy]
  unfold Binary.roundHalfEven accuracyOfFraction
  dsimp only
  generalize num % den = rest
  generalize num / den = quotient
  by_cases none : rest = 0
  · rw [if_pos none, none, Accuracy.roundToNearestEven, if_pos positive]
  · rw [if_neg none]
    rcases Nat.lt_trichotomy (2 * rest) den with below | tied | above
    · rw [Nat.compare_eq_lt.mpr below, if_pos below, Accuracy.roundToNearestEven]
    · rw [Nat.compare_eq_eq.mpr tied, if_neg (by omega), if_neg (by omega), Accuracy.roundToNearestEven]
      split <;> omega
    · rw [Nat.compare_eq_gt.mpr above, if_neg (by omega), if_pos above, Accuracy.roundToNearestEven]

theorem targetExponent_eq (exponent : Int) :
    Format.binary64.targetExponent exponent = max (exponent - 53) (-1074) := by
  rw [Format.targetExponent]
  rfl

/-- Shifting to the exponent of the leading bit keeps 53 bits. -/
theorem shiftToTargetExponent_eq {mantissa places : Nat} {exponent : Int} (accuracy : Accuracy)
    (height : mantissa.log2 = 52 + places) (above : -1074 ≤ exponent + places) :
    shiftToTargetExponent Format.binary64 mantissa exponent accuracy =
      (ExtendedMantissa.ofMantissaAndAccuracy mantissa accuracy >>> places, exponent + places) := by
  have target : Format.binary64.targetExponent (totalExponent mantissa exponent) = exponent + places := by
    rw [targetExponent_eq, totalExponent, height]
    omega
  have amount : (exponent + (places : Int) - exponent).toNat = places := by omega
  rw [shiftToTargetExponent, target, shiftToExponent, amount]

/-- Rounding shifts twice, since the rounded mantissa can have one bit too many. -/
theorem roundWithAccuracy_of_shifts (sign : Sign) {mantissa result : Nat} {exponent power final : Int}
    {accuracy : Accuracy} {first last : ExtendedMantissa}
    (shifted : shiftToTargetExponent Format.binary64 mantissa exponent accuracy = (first, power))
    (again : shiftToTargetExponent Format.binary64 first.roundedMantissa power .exact = (last, final))
    (kept : last.mantissa = result) (positive : 0 < result) :
    roundWithAccuracy Format.binary64 sign mantissa exponent accuracy =
      .finite sign result final positive := by
  subst kept
  rw [roundWithAccuracy, shifted]
  dsimp only
  rw [again]
  exact dif_neg (Nat.ne_of_gt positive)

/-- Rounding a fraction keeps the 53 bits from its leading one on, the rest deciding half to even. -/
theorem roundWithAccuracy_significant (sign : Sign) {num den places : Nat} {exponent : Int}
    (positive : 0 < den) (height : (num / den).log2 = 52 + places) (above : -1074 ≤ exponent + places)
    (below : exponent + places ≤ 970) :
    ∃ mantissa power pos,
      roundWithAccuracy Format.binary64 sign (num / den) exponent (accuracyOfFraction (num % den) den) =
        .finite sign mantissa power pos ∧ Normal mantissa power ∧
      exponent + places ≤ power ∧ power ≤ exponent + places + 1 ∧
      Significant (num / den * 2 ^ exponent) (mantissa * 2 ^ power) := by
  have stands := (stands_ofMantissaAndAccuracy num den).shiftRight positive places
  have rounded := stands.roundedMantissa (Nat.mul_pos positive (Nat.two_pow_pos places))
  have shifted := shiftToTargetExponent_eq (accuracyOfFraction (num % den) den) height above
  obtain ⟨low, high⟩ := Binary.roundHalfEven_of_height height
  have significant := Binary.significant_roundHalfEven height exponent positive
  generalize Binary.roundHalfEven num (den * 2 ^ places) = kept at rounded low high significant
  obtain inside | rfl := Nat.lt_or_eq_of_le high
  · have fits : kept.log2 = 52 + 0 := (Nat.log2_eq_iff (by omega)).mpr ⟨low, inside⟩
    have again := shiftToTargetExponent_eq .exact fits (by omega : -1074 ≤ exponent + places + (0 : Nat))
    rw [← rounded] at again
    have round := roundWithAccuracy_of_shifts sign shifted again rounded (by omega)
    refine ⟨kept, _, _, round, ⟨low, inside, by omega, by omega⟩, by omega, by omega, ?_⟩
    rw [Nat.cast_zero, add_zero]
    exact significant
  · have carried : (2 ^ 53).log2 = 52 + 1 := Nat.log2_two_pow
    have again := shiftToTargetExponent_eq .exact carried (by omega : -1074 ≤ exponent + places + (1 : Nat))
    rw [← rounded] at again
    have round := roundWithAccuracy_of_shifts sign shifted again (by rw [rounded]) (by decide)
    refine ⟨2 ^ 52, _, _, round, ⟨by decide, by decide, by omega, by omega⟩, by omega, by omega, ?_⟩
    convert significant using 1
    rw [zpow_add₀ two_ne_zero]
    push_cast
    ring

section Quotient

theorem log2_of_normal {mantissa : Nat} {exponent : Int} (normal : Normal mantissa exponent) :
    mantissa.log2 = 52 :=
  (Nat.log2_eq_iff (Nat.ne_of_gt (Nat.lt_of_lt_of_le (by decide) normal.low))).mpr ⟨normal.low, normal.high⟩

variable {left right : Nat} {powerX powerY : Int} (normalX : Normal left powerX)
  (normalY : Normal right powerY)
  (low : -1000 ≤ powerX - powerY) (high : powerX - powerY ≤ 900)
include normalX normalY

include low in
/-- The dividend gets 53 bits more, which makes at least 53 bits of the quotient. -/
theorem divCore_eq : divCore Format.binary64 left powerX right powerY =
    (left * 2 ^ 53 / right, powerX - powerY - 53, accuracyOfFraction (left * 2 ^ 53 % right) right) := by
  have target : min (powerX - powerY) (Format.binary64.targetExponent
      (totalExponent left powerX - totalExponent right powerY)) = powerX - powerY - 53 := by
    rw [targetExponent_eq, totalExponent, totalExponent, log2_of_normal normalX, log2_of_normal normalY]
    omega
  have amount : (powerX - powerY - (powerX - powerY - 53)).toNat = 53 := by omega
  rw [divCore, target, amount, Nat.shiftLeft_eq]

theorem log2_quotient : ∃ places, places ≤ 1 ∧ (left * 2 ^ 53 / right).log2 = 52 + places := by
  have positive : 0 < right := Nat.lt_of_lt_of_le (by decide) normalY.low
  have lowX := normalX.low
  have highX := normalX.high
  have lowY := normalY.low
  have highY := normalY.high
  have start : 2 ^ 52 ≤ left * 2 ^ 53 / right := (Nat.le_div_iff_mul_le positive).mpr (by omega)
  have finish : left * 2 ^ 53 / right < 2 ^ 54 := (Nat.div_lt_iff_lt_mul positive).mpr (by omega)
  have nonzero : left * 2 ^ 53 / right ≠ 0 := by omega
  by_cases small : left * 2 ^ 53 / right < 2 ^ 53
  · exact ⟨0, by decide, (Nat.log2_eq_iff nonzero).mpr ⟨start, small⟩⟩
  · exact ⟨1, by decide, (Nat.log2_eq_iff nonzero).mpr ⟨Nat.le_of_not_lt small, finish⟩⟩

include low high in
theorem div_finite (signX signY : Sign) (positiveX : 0 < left) (positiveY : 0 < right) :
    ∃ mantissa power positive, UnpackedFloat.div Format.binary64 (.finite signX left powerX positiveX)
        (.finite signY right powerY positiveY) = .finite (signX / signY) mantissa power positive ∧
      Normal mantissa power ∧
      Significant (left * 2 ^ powerX / (right * 2 ^ powerY)) (mantissa * 2 ^ power) := by
  obtain ⟨places, few, height⟩ := log2_quotient normalX normalY
  have above : -1074 ≤ powerX - powerY - 53 + (places : Int) := by omega
  obtain ⟨mantissa, power, positive, rounded, normal, -, -, significant⟩ :=
    roundWithAccuracy_significant (signX / signY) positiveY height above (by omega)
  refine ⟨mantissa, power, positive, ?_, normal, ?_⟩
  · rw [UnpackedFloat.div, divCore_eq normalX normalY low]
    exact rounded
  · convert significant using 1
    have right_pos : (0 : ℚ) < right := by exact_mod_cast positiveY
    rw [zpow_sub₀ two_ne_zero, zpow_sub₀ two_ne_zero]
    push_cast
    field_simp

variable {x y : Double} {negativeX negativeY : Bool}

omit normalX normalY in
theorem decode?_div_of_isNaN (numberX : x.isNaN = false) (numberY : y.isNaN = false) :
    Binary.decode? (x / y) = Binary.ofUnpacked? (unpack Format.binary64 (pack Format.binary64
      (UnpackedFloat.div Format.binary64 x.unpacked y.unpacked))) := by
  have machine : x / y = ofFloat (x.toFloat / y.toFloat) := by
    change combine _ x y = _
    rw [combine, numberX, numberY]
    rfl
  rw [machine, decode?_ofFloat, ← unpack_toFloat numberX, ← unpack_toFloat numberY]
  rfl

include low high in
/-- The quotient of two numbers that are not tiny, nor of very different size, is the exact quotient to 53
significant bits. -/
theorem decode?_div (decodedX : Binary.decode? x = some ⟨negativeX, left, powerX⟩)
    (decodedY : Binary.decode? y = some ⟨negativeY, right, powerY⟩) :
    ∃ mantissa power, Binary.decode? (x / y) = some ⟨negativeX ^^ negativeY, mantissa, power⟩ ∧
      Significant (left * 2 ^ powerX / (right * 2 ^ powerY)) (mantissa * 2 ^ power) := by
  have positiveX : 0 < left := Nat.lt_of_lt_of_le (by decide) normalX.low
  have positiveY : 0 < right := Nat.lt_of_lt_of_le (by decide) normalY.low
  obtain ⟨signX, rfl, seenX⟩ := unpacked_of_decode? decodedX positiveX
  obtain ⟨signY, rfl, seenY⟩ := unpacked_of_decode? decodedY positiveY
  obtain ⟨mantissa, power, positive, divided, normal, significant⟩ :=
    div_finite normalX normalY low high signX signY positiveX positiveY
  refine ⟨mantissa, power, ?_, significant⟩
  rw [decode?_div_of_isNaN (isNaN_of_decode? decodedX) (isNaN_of_decode? decodedY), seenX, seenY, divided,
    unpack_pack_normal _ normal]
  cases signX <;> cases signY <;> rfl

end Quotient

end Double

end TableScript
