import TableScript.Proofs.Number.Nearest

set_option autoImplicit false

namespace TableScript

open Float.Model (UnpackedFloat)
open Float.Model.UnpackedFloat (Sign)

theorem Rounding.HalfEven.mono {x y : ℚ} {a b : ℤ} (first : HalfEven x a) (second : HalfEven y b)
    (le : x ≤ y) : a ≤ b := by
  apply le_of_not_gt
  intro above
  obtain ⟨low, -⟩ := abs_le.mp first.near
  obtain ⟨-, high⟩ := abs_le.mp second.near
  have step : (b : ℚ) + 1 ≤ a := by exact_mod_cast above
  obtain rfl : x = y := by linarith
  exact absurd (first.unique second) above.ne'

namespace Binary

theorem roundHalfEven_mono {n m den : Nat} (le : n ≤ m) (positive : 0 < den) :
    roundHalfEven n den ≤ roundHalfEven m den := by
  have den_pos : (0 : ℚ) < den := by exact_mod_cast positive
  have order : (n : ℚ) / den ≤ m / den := by
    gcongr
  have below := Rounding.halfEven_roundHalfEven n positive
  exact_mod_cast below.mono (Rounding.halfEven_roundHalfEven m positive) order

/-- The bits never fall as the number grows. -/
theorem nearestBits_mono {n m : Nat} (le : n ≤ m) (small : m < 2 ^ 64) :
    nearestBits n 1 ≤ nearestBits m 1 := by
  by_cases zero : n = 0
  · rw [zero]
    exact Nat.zero_le _
  have positive : m ≠ 0 := by omega
  have heights : n.log2 ≤ m.log2 :=
    (Nat.le_log2 positive).mpr ((Nat.log2_self_le zero).trans le)
  obtain ⟨-, high, -⟩ := leadingRounded_significant zero
  obtain ⟨low, -, -⟩ := leadingRounded_significant positive
  rw [nearestBits_eq zero (by omega), nearestBits_eq positive small]
  obtain lower | same := Nat.lt_or_eq_of_le heights
  · omega
  · have significands : leadingRounded n ≤ leadingRounded m := by
      unfold leadingRounded
      rw [same]
      split
      · exact roundHalfEven_mono le (Nat.mul_pos Nat.one_pos (Nat.two_pow_pos _))
      · exact roundHalfEven_mono (Nat.mul_le_mul_right _ le) Nat.one_pos
    omega

end Binary

namespace Double

variable {left right : Nat} {powerX powerY : Int}

/-- Less by exponent and, with the same exponent, by significand is less by bits. -/
theorem lt_parts_iff (normalX : Normal left powerX) (normalY : Normal right powerY) :
    (compare powerX powerY).then (compare left right) = .lt ↔
      (powerX + 1074).toNat * 2 ^ 52 + left < (powerY + 1074).toNat * 2 ^ 52 + right := by
  obtain ⟨lowX, highX, aboveX, belowX⟩ := normalX
  obtain ⟨lowY, highY, aboveY, belowY⟩ := normalY
  rw [Ordering.then_eq_lt, Int.compare_eq_lt, Int.compare_eq_eq, Nat.compare_eq_lt]
  omega

/-- The key of zero and of numbers that are not tiny, by their parts. -/
inductive HasKey : UnpackedFloat → Int → Prop
  | zero : HasKey (.zero .positive) 0
  | positive {significand : Nat} {exponent : Int} (normal : Normal significand exponent)
      (pos : 0 < significand) :
      HasKey (.finite .positive significand exponent pos)
        ((exponent + 1074).toNat * 2 ^ 52 + significand : Nat)
  | negative {significand : Nat} {exponent : Int} (normal : Normal significand exponent)
      (pos : 0 < significand) :
      HasKey (.finite .negative significand exponent pos)
        (-((exponent + 1074).toNat * 2 ^ 52 + significand : Nat) - 1)

theorem HasKey.compare_eq_lt {x y : UnpackedFloat} {keyX keyY : Int} (hasX : HasKey x keyX)
    (hasY : HasKey y keyY) : x.compare y = some .lt ↔ keyX < keyY := by
  cases hasX with
  | zero =>
    cases hasY with
    | zero => exact iff_of_false nofun (by omega)
    | positive => exact iff_of_true rfl (by omega)
    | negative => exact iff_of_false nofun (by omega)
  | positive normalX =>
    cases hasY with
    | zero => exact iff_of_false nofun (by omega)
    | positive normalY =>
      rw [Nat.cast_lt, ← lt_parts_iff normalX normalY]
      exact Option.some_inj
    | negative => exact iff_of_false nofun (by omega)
  | negative normalX =>
    cases hasY with
    | zero => exact iff_of_true rfl (by omega)
    | positive => exact iff_of_true rfl (by omega)
    | negative normalY =>
      -- Among negative numbers the larger magnitude is the smaller number.
      rw [sub_lt_sub_iff_right, neg_lt_neg_iff, Nat.cast_lt, ← lt_parts_iff normalY normalX]
      refine Option.some_inj.trans ?_
      rw [Ordering.swap_then, ← Std.OrientedCmp.eq_swap, ← Std.OrientedCmp.eq_swap]

theorem hasKey_ofInt64 (n : Int64) : HasKey (ofInt64 n).unpacked (ofInt64 n).orderKey := by
  by_cases zero : n.toInt = 0
  · obtain rfl : n = 0 := Int64.toInt.inj zero
    exact .zero
  · have low := n.le_toInt
    have high := n.toInt_lt
    obtain ⟨significand, exponent, bits, normal, -⟩ :=
      Binary.nearestBits_approximates (n := n.toInt.natAbs) (by omega) (by omega)
    have decoded := decode?_ofMagnitude normal (n.toInt < 0)
    have positive : 0 < significand := Nat.lt_of_lt_of_le (by decide) normal.low
    rw [← bits] at decoded
    obtain ⟨sign, facing, seen⟩ := unpacked_of_decode? decoded positive
    have same : (ofInt64 n).unpacked = .finite sign significand exponent positive := seen
    rw [same, orderKey_ofInt64, bits]
    cases sign with
    | negative =>
      rw [if_pos (of_decide_eq_true facing.symm)]
      exact .negative normal positive
    | positive =>
      rw [if_neg (of_decide_eq_false facing.symm)]
      exact .positive normal positive

theorem isNaN_ofInt64 (n : Int64) : (ofInt64 n).isNaN = false := by
  by_cases zero : n.toInt = 0
  · obtain rfl : n = 0 := Int64.toInt.inj zero
    rfl
  · obtain ⟨significand, exponent, decoded, -⟩ := rounds_ofInt64 n zero
    exact isNaN_of_decode? decoded

/-- Words are compared as their keys are. -/
theorem less_ofInt64_iff (a b : Int64) :
    (ofInt64 a).less (ofInt64 b) = true ↔ (ofInt64 a).orderKey < (ofInt64 b).orderKey := by
  rw [less, decide_eq_true_iff]
  change Float.lt _ _ = true ↔ _
  rw [Float.lt, decide_eq_true_iff]
  change Float.Model.lt _ _ = true ↔ _
  refine beq_iff_eq.trans ?_
  rw [unpack_toFloat (isNaN_ofInt64 a), unpack_toFloat (isNaN_ofInt64 b)]
  exact (hasKey_ofInt64 a).compare_eq_lt (hasKey_ofInt64 b)

theorem orderKey_ofInt64_mono {a b : Int64} (le : a.toInt ≤ b.toInt) :
    (ofInt64 a).orderKey ≤ (ofInt64 b).orderKey := by
  have lowA := a.le_toInt
  have highB := b.toInt_lt
  rw [orderKey_ofInt64, orderKey_ofInt64]
  split
  next negativeA =>
    split
    next negativeB =>
      have magnitudes := Binary.nearestBits_mono (n := b.toInt.natAbs) (m := a.toInt.natAbs)
        (by omega) (by omega)
      omega
    next => omega
  next =>
    rw [if_neg (by omega)]
    exact_mod_cast Binary.nearestBits_mono (n := a.toInt.natAbs) (m := b.toInt.natAbs) (by omega) (by omega)

/-- A word that is less as a floating-point number is less. -/
theorem lt_of_less {a b : Int64} (rounded : (ofInt64 a).less (ofInt64 b) = true) : a.toInt < b.toInt := by
  rw [less_ofInt64_iff] at rounded
  apply lt_of_not_ge
  intro above
  exact absurd (orderKey_ofInt64_mono above) rounded.not_ge

theorem orderKey_injective {x y : Double} (same : x.orderKey = y.orderKey) : x = y := by
  obtain ⟨bitsX⟩ := x
  obtain ⟨bitsY⟩ := y
  have belowX := bitsX.toNat_lt
  have belowY := bitsY.toNat_lt
  congr 1
  apply UInt64.toNat_inj.mp
  unfold orderKey isNegative magnitude signBit at same
  simp only [decide_eq_true_eq] at same
  split at same <;> split at same <;> omega

/-- Two words that are not one floating-point number are compared exactly. -/
theorem less_iff_of_apart {a b : Int64} (apart : a = b ∨ ofInt64 a ≠ ofInt64 b) :
    (ofInt64 a).less (ofInt64 b) = true ↔ a.toInt < b.toInt := by
  refine ⟨lt_of_less, fun less => (less_ofInt64_iff a b).mpr (lt_of_le_of_ne ?_ ?_)⟩
  · exact orderKey_ofInt64_mono less.le
  · intro same
    rcases apart with rfl | apart
    · exact lt_irrefl _ less
    · exact apart (orderKey_injective same)

/-- A neighbour of a number whose size a significand holds is a number as well, and stands between it and every
other word on that side. -/
theorem ofInt64_ne_of_small {a b : Int64} (small : a.toInt.natAbs < 2 ^ 53) (different : a ≠ b) :
    ofInt64 a ≠ ofInt64 b := by
  have represented (n : Int64) (near : n.toInt.natAbs ≤ 2 ^ 53) : Represents n := Binary.whole_of_le _ near
  have unequal : a.toInt ≠ b.toInt := fun same => different (Int64.toInt.inj same)
  have exact (n : Int) (low : -2 ^ 53 ≤ n) (high : n ≤ 2 ^ 53) : (Int64.ofInt n).toInt = n :=
    Int64.toInt_ofInt_of_le (by omega) (by omega)
  intro same
  have keys : (ofInt64 a).orderKey = (ofInt64 b).orderKey := congrArg orderKey same
  rcases Int.lt_or_lt_of_ne unequal with above | below
  · have next := exact (a.toInt + 1) (by omega) (by omega)
    have step := orderKey_ofInt64_lt a (Int64.ofInt (a.toInt + 1)) (by omega) (represented a small.le)
      (represented _ (by omega))
    have rest : (ofInt64 (Int64.ofInt (a.toInt + 1))).orderKey ≤ (ofInt64 b).orderKey :=
      orderKey_ofInt64_mono (by omega)
    omega
  · have next := exact (a.toInt - 1) (by omega) (by omega)
    have step := orderKey_ofInt64_lt (Int64.ofInt (a.toInt - 1)) a (by omega) (represented _ (by omega))
      (represented a small.le)
    have rest : (ofInt64 b).orderKey ≤ (ofInt64 (Int64.ofInt (a.toInt - 1))).orderKey :=
      orderKey_ofInt64_mono (by omega)
    omega

end Double

end TableScript
