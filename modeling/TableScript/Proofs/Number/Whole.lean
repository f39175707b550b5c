import Mathlib.Algebra.Group.Nat.Defs
import TableScript.Number.Binary
import TableScript.Proofs.Sorting.Comparison

set_option autoImplicit false

namespace TableScript

namespace Binary

theorem floorLog2_one (n : Nat) (positive : n ≠ 0) : floorLog2 n 1 = n.log2 := by
  have reached := Nat.log2_self_le positive
  have one : Nat.log2 1 = 0 := rfl
  simp [floorLog2, one, Nat.pow_eq, reached]

theorem roundHalfEven_of_dvd (num den : Nat) (positive : 0 < den) (exact : den ∣ num) :
    roundHalfEven num den = num / den := by
  have rest := Nat.mod_eq_zero_of_dvd exact
  simp [roundHalfEven, rest, positive]

/-- The significand that begins with the leading bit of `n`, 52 bits below it. -/
def leading (n : Nat) : Nat := n * 2 ^ 52 / 2 ^ n.log2

/-- Whether 53 bits from the leading one on hold all of `n`. -/
def Whole (n : Nat) : Prop := 2 ^ n.log2 ∣ n * 2 ^ 52

instance (n : Nat) : Decidable (Whole n) := inferInstanceAs (Decidable (_ ∣ _))

theorem leading_mul (n : Nat) (whole : Whole n) : leading n * 2 ^ n.log2 = n * 2 ^ 52 :=
  Nat.div_mul_cancel whole

theorem le_leading (n : Nat) (positive : n ≠ 0) : 2 ^ 52 ≤ leading n := by
  apply (Nat.le_div_iff_mul_le (Nat.two_pow_pos _)).mpr
  rw [Nat.mul_comm]
  exact Nat.mul_le_mul_right _ (Nat.log2_self_le positive)

theorem leading_lt (n : Nat) : leading n < 2 ^ 53 := by
  apply (Nat.div_lt_iff_lt_mul (Nat.two_pow_pos _)).mpr
  have below := Nat.mul_lt_mul_of_pos_right (@Nat.lt_log2_self n) (Nat.two_pow_pos 52)
  calc n * 2 ^ 52 < 2 ^ (n.log2 + 1) * 2 ^ 52 := below
    _ = 2 ^ 53 * 2 ^ n.log2 := by rw [Nat.pow_succ]; omega

/-- What is below the 53 bits is empty, so rounding at their end finds the significand. -/
theorem roundHalfEven_high (n extra : Nat) (height : n.log2 = extra + 52) (whole : Whole n) :
    roundHalfEven n (2 ^ extra) = leading n := by
  have product : leading n * 2 ^ extra = n := by
    apply Nat.eq_of_mul_eq_mul_right (Nat.two_pow_pos 52)
    rw [Nat.mul_assoc, ← Nat.pow_add, ← height]
    exact leading_mul n whole
  have positive := Nat.two_pow_pos extra
  rw [roundHalfEven_of_dvd n _ positive ⟨leading n, by rw [Nat.mul_comm, product]⟩]
  exact Nat.div_eq_of_eq_mul_left positive product.symm

theorem roundHalfEven_low (n missing : Nat) (height : n.log2 + missing = 52) :
    roundHalfEven (n * 2 ^ missing) 1 = leading n := by
  rw [roundHalfEven_of_dvd _ 1 Nat.one_pos (Nat.one_dvd _), Nat.div_one, leading, ← height, Nat.pow_add,
    Nat.mul_comm (2 ^ n.log2), ← Nat.mul_assoc, Nat.mul_div_cancel _ (Nat.two_pow_pos _)]

theorem nearestBits_of_whole (n : Nat) (positive : n ≠ 0) (small : n < 2 ^ 64) (whole : Whole n) :
    nearestBits n 1 = (n.log2 + 1022) * 2 ^ 52 + leading n := by
  have bound := leading_lt n
  have height : n.log2 < 64 := (Nat.log2_lt positive).mpr small
  have exponent : max ((n.log2 : Int) - 52) (-1074) = (n.log2 : Int) - 52 := by omega
  have biased : ((n.log2 : Int) - 52 + 1074).toNat = n.log2 + 1022 := by omega
  have finite : (n.log2 + 1022) * 2 ^ 52 + leading n ≤ Double.infinityBits :=
    calc (n.log2 + 1022) * 2 ^ 52 + leading n
      _ ≤ 1085 * 2 ^ 52 + 2 ^ 53 := Nat.add_le_add (Nat.mul_le_mul_right _ (by omega)) (Nat.le_of_lt bound)
      _ ≤ Double.infinityBits := by decide
  simp only [nearestBits, floorLog2_one n positive, positive, if_false, exponent, biased, Nat.pow_eq,
    Nat.one_mul]
  rw [← Nat.min_eq_left finite]
  congr 2
  split
  next high => exact roundHalfEven_high n _ (by omega) whole
  next low => exact roundHalfEven_low n _ (by omega)

/-- On whole numbers the bits grow with the number: within a binade the significand does, and a higher
binade begins above the end of a lower one. -/
theorem nearestBits_lt (n m : Nat) (less : n < m) (small : m < 2 ^ 64) (wholeN : Whole n)
    (wholeM : Whole m) : nearestBits n 1 < nearestBits m 1 := by
  have positiveM : m ≠ 0 := by omega
  rw [nearestBits_of_whole m positiveM small wholeM]
  by_cases zero : n = 0
  · have start := le_leading m positiveM
    have none : nearestBits n 1 = 0 := by simp [nearestBits, zero]
    omega
  · rw [nearestBits_of_whole n zero (by omega) wholeN]
    have heights : n.log2 ≤ m.log2 := by
      have below := Nat.lt_of_le_of_lt (Nat.log2_self_le zero) (Nat.lt_trans less Nat.lt_log2_self)
      exact Nat.lt_succ_iff.mp ((Nat.pow_lt_pow_iff_right (by decide)).mp below)
    obtain lower | same := Nat.lt_or_eq_of_le heights
    · have finish := leading_lt n
      have start := le_leading m positiveM
      omega
    · have significands : leading n < leading m := by
        apply Nat.lt_of_mul_lt_mul_right (a := 2 ^ m.log2)
        rw [leading_mul m wholeM, ← same, leading_mul n wholeN]
        omega
      omega

theorem nearestBits_lt_signBit (n : Nat) : nearestBits n 1 < Double.signBit := by
  have bound : nearestBits n 1 ≤ Double.infinityBits := by
    unfold nearestBits
    split
    · exact Nat.zero_le _
    · exact Nat.min_le_right _ _
  simp only [Double.infinityBits] at bound
  simp only [Double.signBit]
  omega

/-- Up to the width of a significand every number is whole. -/
theorem whole_of_le (n : Nat) (small : n ≤ 2 ^ 53) : Whole n := by
  obtain below | rfl := Nat.lt_or_eq_of_le small
  · have height : n.log2 ≤ 52 := by
      by_cases zero : n = 0
      · simp [zero]
      · exact Nat.lt_succ_iff.mp ((Nat.log2_lt zero).mpr below)
    exact Nat.dvd_trans (Nat.pow_dvd_pow 2 height) (Nat.dvd_mul_left _ _)
  · decide

end Binary

namespace Double

theorem toNat_bits_ofMagnitude (negative : Bool) (magnitude : Nat) (bound : magnitude < signBit) :
    (ofMagnitude negative magnitude).bits.toNat = if negative then magnitude + signBit else magnitude := by
  unfold ofMagnitude
  rw [UInt64.toNat_ofNat']
  apply Nat.mod_eq_of_lt
  unfold signBit at bound ⊢
  split <;> omega

theorem orderKey_ofMagnitude (negative : Bool) (magnitude : Nat) (bound : magnitude < signBit) :
    (ofMagnitude negative magnitude).orderKey = if negative then -(magnitude : Int) - 1 else magnitude := by
  have bits := toNat_bits_ofMagnitude negative magnitude bound
  have same := Nat.mod_eq_of_lt bound
  cases negative with
  | false => simp [orderKey, isNegative, Double.magnitude, bits, same, Nat.not_le.mpr bound]
  | true => simp [orderKey, isNegative, Double.magnitude, bits, same]

/-- Whether an integer is one of the numbers. -/
def Represents (n : Int64) : Prop := Binary.Whole n.toInt.natAbs

instance (n : Int64) : Decidable (Represents n) := inferInstanceAs (Decidable (Binary.Whole _))

theorem orderKey_ofInt64 (n : Int64) :
    (ofInt64 n).orderKey =
      if n.toInt < 0 then -(Binary.nearestBits n.toInt.natAbs 1 : Int) - 1
      else Binary.nearestBits n.toInt.natAbs 1 := by
  rw [ofInt64, Binary.nearest, orderKey_ofMagnitude _ _ (Binary.nearestBits_lt_signBit _)]
  simp

theorem orderKey_ofInt64_lt (a b : Int64) (less : a.toInt < b.toInt) (holdsA : Represents a)
    (holdsB : Represents b) : (ofInt64 a).orderKey < (ofInt64 b).orderKey := by
  have boundA := a.le_toInt
  have boundB := b.toInt_lt
  rw [orderKey_ofInt64, orderKey_ofInt64]
  by_cases negativeB : b.toInt < 0
  · have bits := Binary.nearestBits_lt b.toInt.natAbs a.toInt.natAbs (by omega) (by omega) holdsB holdsA
    rw [if_pos (by omega), if_pos negativeB]
    omega
  · by_cases negativeA : a.toInt < 0
    · rw [if_pos negativeA, if_neg negativeB]
      omega
    · have bits := Binary.nearestBits_lt a.toInt.natAbs b.toInt.natAbs (by omega) (by omega) holdsA holdsB
      rw [if_neg negativeA, if_neg negativeB]
      omega

instance : Std.TransCmp totalCompare := inferInstanceAs (Std.TransCmp (compareOn orderKey))

/-- The order of integers that are numbers is the order of those numbers. -/
theorem totalCompare_ofInt64 (a b : Int64) (holdsA : Represents a) (holdsB : Represents b) :
    (ofInt64 a).totalCompare (ofInt64 b) = compare a.toInt b.toInt :=
  compare_eq_compare (orderKey_ofInt64_lt a b · holdsA holdsB)
    (fun same => congrArg (fun n => (ofInt64 n).orderKey) (Int64.toInt.inj same))
    (orderKey_ofInt64_lt b a · holdsB holdsA)

end Double

end TableScript
