import Mathlib
import TableScript.Proofs.Number.Whole

set_option autoImplicit false

namespace TableScript

open Float.Model (Format UnpackedFloat)
open Float.Model.UnpackedFloat (Sign pack unpack unpackMantissa unpackExponent unpackSign isNaNBits
  pack_unpack)

/-- The parts of a finite number as the arithmetic sees it. -/
def Binary.ofUnpacked? : UnpackedFloat → Option Binary
  | .finite sign mantissa exponent _ => some ⟨sign == .negative, mantissa, exponent⟩
  | .zero sign => some ⟨sign == .negative, 0, -1074⟩
  | .infinity _ => none
  | .notANumber => none

namespace Double

abbrev fractionField (x : Double) : BitVec 52 := @unpackMantissa Format.binary64 x.bits.toBitVec

abbrev exponentField (x : Double) : BitVec 11 := @unpackExponent Format.binary64 x.bits.toBitVec

abbrev signField (x : Double) : BitVec 1 := @unpackSign Format.binary64 x.bits.toBitVec

/-- The number as the arithmetic takes it apart. -/
def unpacked (x : Double) : UnpackedFloat := unpack Format.binary64 x.bits.toBitVec

section Fields

variable (x : Double)

theorem toNat_fractionField : x.fractionField.toNat = x.magnitude % 2 ^ 52 := by
  rw [fractionField, Float.Model.UnpackedFloat.unpackMantissa_def, BitVec.extractLsb'_toNat,
    Nat.shiftRight_zero, UInt64.toNat_toBitVec]
  simp only [magnitude, signBit]
  omega

theorem toNat_exponentField : x.exponentField.toNat = x.magnitude / 2 ^ 52 := by
  rw [exponentField, Float.Model.UnpackedFloat.unpackExponent_def, BitVec.extractLsb'_toNat,
    Nat.shiftRight_eq_div_pow, UInt64.toNat_toBitVec]
  simp only [magnitude, signBit]
  omega

theorem toNat_signField : x.signField.toNat = x.bits.toNat / 2 ^ 63 := by
  have small := x.bits.toNat_lt
  rw [signField, Float.Model.UnpackedFloat.unpackSign_def, BitVec.extractLsb'_toNat,
    Nat.shiftRight_eq_div_pow, UInt64.toNat_toBitVec]
  change x.bits.toNat / 2 ^ 63 % 2 ^ 1 = _
  omega

theorem exponentField_top : x.exponentField = -1#11 ↔ x.magnitude / 2 ^ 52 = 2047 := by
  rw [← BitVec.toNat_inj, x.toNat_exponentField]
  rfl

theorem fractionField_clear : x.fractionField = 0#52 ↔ x.magnitude % 2 ^ 52 = 0 := by
  rw [← BitVec.toNat_inj, x.toNat_fractionField]
  rfl

theorem ofBitVec_signField : (Sign.ofBitVec x.signField == .negative) = x.isNegative := by
  have bit := x.toNat_signField
  unfold isNegative signBit
  by_cases low : x.bits.toNat < 9223372036854775808
  · have clear : x.signField = 0#1 := BitVec.eq_of_toNat_eq (by rw [bit]; exact Nat.div_eq_of_lt low)
    rw [clear, decide_eq_false (Nat.not_le.mpr low)]
    rfl
  · have set : x.signField ≠ 0#1 := fun clear => by
      rw [clear] at bit
      change 0 = _ at bit
      omega
    rw [Sign.ofBitVec, if_neg set, decide_eq_true (Nat.le_of_not_lt low)]
    rfl

theorem isFinite_iff : x.isFinite = true ↔ x.magnitude / 2 ^ 52 < 2047 := by
  rw [isFinite, decide_eq_true_iff, infinityBits]
  omega

theorem isNaN_iff : x.isNaN = true ↔ x.exponentField = -1#11 ∧ x.fractionField ≠ 0#52 := by
  have small : x.magnitude < 2 ^ 63 := Nat.mod_lt _ (by decide)
  rw [isNaN, decide_eq_true_iff, infinityBits, x.exponentField_top, ne_eq, x.fractionField_clear]
  omega

end Fields

/-- What the arithmetic takes apart is what `decode?` finds. -/
theorem decode?_eq (x : Double) : Binary.decode? x = Binary.ofUnpacked? x.unpacked := by
  have fraction := x.toNat_fractionField
  have biased := x.toNat_exponentField
  have sign := x.ofBitVec_signField
  have small : x.magnitude < 2 ^ 63 := Nat.mod_lt _ (by decide)
  have inside : x.magnitude % 2 ^ 52 < 2 ^ 52 := Nat.mod_lt _ (by decide)
  have bottom : x.exponentField = 0#11 ↔ x.magnitude / 2 ^ 52 = 0 := by
    rw [← BitVec.toNat_inj, biased]
    rfl
  have leading : (1#1 ++ x.fractionField).toNat = 2 ^ 52 + x.magnitude % 2 ^ 52 := by
    rw [BitVec.toNat_append, fraction]
    change 1 <<< 52 ||| _ = _
    rw [← Nat.shiftLeft_add_eq_or_of_lt inside, Nat.shiftLeft_eq, Nat.one_mul]
  have unfolded : x.unpacked = unpack Format.binary64 x.bits.toBitVec := rfl
  unfold Binary.decode?
  rw [unfolded]
  unfold unpack
  simp only [x.exponentField_top, x.fractionField_clear, bottom, Nat.pow_eq]
  by_cases infinite : x.magnitude / 2 ^ 52 = 2047
  · have beyond : ¬ x.isFinite = true := by
      rw [isFinite_iff]
      omega
    rw [if_neg beyond, if_pos infinite]
    split <;> rfl
  have finite : x.isFinite = true := x.isFinite_iff.mpr (by omega)
  rw [if_pos finite, if_neg infinite]
  by_cases low : x.magnitude / 2 ^ 52 = 0
  · rw [if_pos low, if_pos low]
    by_cases zero : x.magnitude % 2 ^ 52 = 0
    · rw [dif_pos zero, zero]
      exact congrArg (fun negative => some (Binary.mk negative 0 (-1074))) sign.symm
    · rw [dif_neg zero]
      change _ = some (Binary.mk _ _ ((x.exponentField.toNat : Int) - (1023 + 52) + 1))
      rw [sign, fraction, biased, low]
      rfl
  · rw [if_neg low, if_neg low]
    change _ = some (Binary.mk _ _ ((x.exponentField.toNat : Int) - (1023 + 52)))
    rw [sign, leading, biased]
    rfl

theorem isNaN_of_decode? {x : Double} {parts : Binary} (decoded : Binary.decode? x = some parts) :
    x.isNaN = false := by
  unfold Binary.decode? at decoded
  split at decoded
  next finite =>
    rw [isFinite, decide_eq_true_iff] at finite
    exact decide_eq_false (Nat.not_lt.mpr (Nat.le_of_lt finite))
  next => cases decoded

/-- The machine takes over the bits of a number. -/
theorem unpack_toFloat {x : Double} (number : x.isNaN = false) : x.toFloat.toModel.unpack = x.unpacked := by
  change unpack Format.binary64 (pack Format.binary64 (unpack Format.binary64 x.bits.toBitVec)) = _
  have plain : @isNaNBits Format.binary64 x.bits.toBitVec = false :=
    decide_eq_false fun undefined => by
      rw [x.isNaN_iff.mpr undefined] at number
      cases number
  rw [pack_unpack, plain]
  rfl

/-- The parts of a result are those that the machine gave it. -/
theorem decode?_ofFloat (f : Float) : Binary.decode? (ofFloat f) = Binary.ofUnpacked? f.toModel.unpack := by
  unfold ofFloat
  split
  next undefined =>
    rw [Float.Model.UnpackedFloat.isNaN_iff.mp undefined]
    decide
  next => exact decode?_eq ⟨f.toBits⟩

theorem magnitude_ofMagnitude (negative : Bool) {bits : Nat} (bound : bits < signBit) :
    (ofMagnitude negative bits).magnitude = bits := by
  have word := toNat_bits_ofMagnitude negative bits bound
  have same := Nat.mod_eq_of_lt bound
  cases negative <;> simp [magnitude, word, same]

theorem isNegative_ofMagnitude (negative : Bool) {bits : Nat} (bound : bits < signBit) :
    (ofMagnitude negative bits).isNegative = negative := by
  have word := toNat_bits_ofMagnitude negative bits bound
  cases negative <;> simp [isNegative, word, Nat.not_le.mpr bound]

section Normal

/-- Whether a significand and an exponent are those of a number that is not tiny. -/
structure Normal (significand : Nat) (exponent : Int) : Prop where
  low : 2 ^ 52 ≤ significand
  high : significand < 2 ^ 53
  above : -1074 ≤ exponent
  below : exponent ≤ 971

variable {significand : Nat} {exponent : Int} (normal : Normal significand exponent) (negative : Bool)
include normal

/-- The leading bit of the significand counts in the exponent. -/
theorem decode?_ofMagnitude :
    Binary.decode? (ofMagnitude negative ((exponent + 1074).toNat * 2 ^ 52 + significand)) =
      some ⟨negative, significand, exponent⟩ := by
  obtain ⟨low, high, above, below⟩ := normal
  obtain ⟨biased, rfl⟩ : ∃ biased : Nat, exponent = (biased : Int) - 1074 :=
    ⟨(exponent + 1074).toNat, by omega⟩
  have shifted : ((biased : Int) - 1074 + 1074).toNat = biased := by omega
  have bound : biased * 2 ^ 52 + significand < signBit := by
    unfold signBit
    omega
  have size := magnitude_ofMagnitude negative bound
  have quotient : (biased * 2 ^ 52 + significand) / 2 ^ 52 = biased + 1 := by omega
  have rest : (biased * 2 ^ 52 + significand) % 2 ^ 52 = significand - 2 ^ 52 := by omega
  rw [shifted]
  unfold Binary.decode?
  rw [if_pos ((isFinite_iff _).mpr (by rw [size, quotient]; omega)), isNegative_ofMagnitude negative bound,
    size]
  simp only [Nat.pow_eq, quotient, rest]
  rw [if_neg (Nat.succ_ne_zero biased), Nat.add_sub_cancel' low]
  congr 2
  omega

end Normal

theorem unpacked_of_decode? {x : Double} {negative : Bool} {significand : Nat} {exponent : Int}
    (decoded : Binary.decode? x = some ⟨negative, significand, exponent⟩) (nonzero : 0 < significand) :
    ∃ sign, (sign == .negative) = negative ∧ x.unpacked = .finite sign significand exponent nonzero := by
  rw [decode?_eq] at decoded
  cases seen : x.unpacked with
  | finite sign mantissa power positive =>
    rw [seen] at decoded
    cases decoded
    exact ⟨sign, rfl, rfl⟩
  | zero sign =>
    rw [seen] at decoded
    cases decoded
    omega
  | infinity sign | notANumber =>
    rw [seen] at decoded
    cases decoded

/-- A number that is not tiny survives packing. -/
theorem unpack_pack_normal (sign : Sign) {mantissa : Nat} {exponent : Int} (normal : Normal mantissa exponent)
    (positive : 0 < mantissa) :
    unpack Format.binary64 (pack Format.binary64 (.finite sign mantissa exponent positive)) =
      .finite sign mantissa exponent positive := by
  have decoded := decode?_ofMagnitude normal (sign == .negative)
  obtain ⟨same, facing, seen⟩ := unpacked_of_decode? decoded positive
  obtain rfl : same = sign := by cases same <;> cases sign <;> first | rfl | cases facing
  rw [← seen]
  exact unpack_toFloat (isNaN_of_decode? decoded)

end Double

end TableScript
