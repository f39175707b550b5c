import Mathlib
import TableScript.Number.Rounding

set_option autoImplicit false

namespace TableScript.Rounding

/-- The integer is nearest to the number, and the even one if two are. -/
structure HalfEven (x : ℚ) (n : ℤ) : Prop where
  near : |x - n| ≤ 1 / 2
  tie : |x - n| = 1 / 2 → Even n

theorem halfEven_intCast (n : ℤ) : HalfEven n n := by
  constructor <;> norm_num

theorem HalfEven.neg {x : ℚ} {n : ℤ} (rounded : HalfEven x n) : HalfEven (-x) (-n) := by
  have turned : |-x - (-n : ℤ)| = |x - n| := by
    rw [← abs_neg]
    congr 1
    push_cast
    ring
  constructor
  · rw [turned]
    exact rounded.near
  · intro tie
    exact (rounded.tie (turned ▸ tie)).neg

/-- Of two neighbours at the same distance only one is even. -/
theorem HalfEven.le {x : ℚ} {a b : ℤ} (first : HalfEven x a) (second : HalfEven x b) : a ≤ b := by
  apply le_of_not_gt
  intro above
  obtain ⟨-, high⟩ := abs_le.mp second.near
  obtain ⟨low, -⟩ := abs_le.mp first.near
  have step : (b : ℚ) + 1 ≤ a := by exact_mod_cast above
  have next : a = b + 1 := by
    have bound : (a : ℚ) ≤ b + 1 := by linarith
    exact le_antisymm (by exact_mod_cast bound) above
  have evenA : Even a := first.tie (by rw [next]; push_cast; rw [abs_eq (by norm_num)]; right; linarith)
  have evenB : Even b := second.tie (by rw [abs_eq (by norm_num)]; left; linarith)
  rw [next] at evenA
  exact (Int.even_add_one.mp evenA) evenB

theorem HalfEven.unique {x : ℚ} {a b : ℤ} (first : HalfEven x a) (second : HalfEven x b) : a = b :=
  le_antisymm (first.le second) (second.le first)

theorem halfEven_of_near {x : ℚ} {n : ℤ} (near : |x - n| < 1 / 2) : HalfEven x n :=
  ⟨near.le, fun tie => absurd tie near.ne⟩

theorem halfEven_roundHalfEven (num : ℕ) {den : ℕ} (positive : 0 < den) :
    HalfEven (num / den) (Binary.roundHalfEven num den) := by
  have den_pos : (0 : ℚ) < den := by exact_mod_cast positive
  have divided := Nat.div_add_mod' num den
  have small := Nat.mod_lt num positive
  unfold Binary.roundHalfEven
  dsimp only
  generalize num / den = quotient at divided ⊢
  generalize num % den = rest at divided small ⊢
  have exact : (num : ℚ) / den = (quotient : ℤ) + rest / den := by
    rw [← divided]
    push_cast
    field_simp
  have half : (rest : ℚ) / den < 1 / 2 ↔ 2 * rest < den := by
    rw [div_lt_div_iff₀ den_pos two_pos, one_mul, mul_comm]
    exact_mod_cast Iff.rfl
  have beyond : 1 / 2 < (rest : ℚ) / den ↔ den < 2 * rest := by
    rw [div_lt_div_iff₀ two_pos den_pos, one_mul, mul_comm (rest : ℚ)]
    exact_mod_cast Iff.rfl
  have nonneg : 0 ≤ (rest : ℚ) / den := by positivity
  have below_one : (rest : ℚ) / den < 1 := by
    rw [div_lt_one den_pos]
    exact_mod_cast small
  rw [exact]
  generalize (rest : ℚ) / den = part at half beyond nonneg below_one
  split
  next low =>
    have before := half.mpr low
    exact halfEven_of_near (abs_lt.mpr ⟨by linarith, by linarith⟩)
  next notLow =>
    have reached : 1 / 2 ≤ part := not_lt.mp fun before => notLow (half.mp before)
    split
    next high =>
      have after := beyond.mpr high
      exact halfEven_of_near (abs_lt.mpr ⟨by push_cast; linarith, by push_cast; linarith⟩)
    next notHigh =>
      -- Only a half is left, and the two neighbours are told apart by parity.
      have tied : part = 1 / 2 := le_antisymm (not_lt.mp fun after => notHigh (beyond.mp after)) reached
      rw [tied]
      split
      next even =>
        refine ⟨by norm_num, fun _ => ?_⟩
        exact (Int.even_coe_nat quotient).mpr (Nat.even_iff.mpr even)
      next odd =>
        refine ⟨by push_cast; norm_num, fun _ => ?_⟩
        exact (Int.even_coe_nat (quotient + 1)).mpr (Nat.even_iff.mpr (by omega))

section Twice

variable {num inner outer : ℤ} {den half : ℕ} (fine : den < 2 * half)

include fine in
theorem HalfEven.le_of_twice (positive : 0 < den) (first : HalfEven (num / den * (2 * half)) inner)
    (second : HalfEven (inner / (2 * half)) outer) : (num : ℚ) / den - outer ≤ 1 / 2 := by
  have den_pos : (0 : ℚ) < den := by exact_mod_cast positive
  have half_pos : (0 : ℚ) < half := by exact_mod_cast (by omega : 0 < half)
  apply le_of_not_gt
  intro beyond
  obtain ⟨-, moved⟩ := abs_le.mp first.near
  obtain ⟨-, reached⟩ := abs_le.mp second.near
  have kept : (inner : ℚ) ≤ outer * (2 * half) + half := by
    rw [sub_le_iff_le_add, div_le_iff₀ (by positivity)] at reached
    linarith
  -- The number lies beyond the half by a positive multiple of `half / den`.
  have distance : ((num : ℚ) / den * (2 * half) - (outer * (2 * half) + half)) * den =
      half * (2 * num - (2 * outer + 1) * den : ℤ) := by
    push_cast
    field_simp
  have whole : (1 : ℚ) ≤ (2 * num - (2 * outer + 1) * den : ℤ) := by
    have above : (0 : ℚ) < (2 * num - (2 * outer + 1) * den : ℤ) := by
      have scaled : (outer + 1 / 2 : ℚ) * den < num := by
        rw [← lt_div_iff₀ den_pos]
        linarith
      push_cast
      linarith
    exact_mod_cast above
  have far : (half : ℚ) * 1 ≤ 1 / 2 * den := calc
    (half : ℚ) * 1 ≤ half * (2 * num - (2 * outer + 1) * den : ℤ) := by gcongr
    _ = ((num : ℚ) / den * (2 * half) - (outer * (2 * half) + half)) * den := distance.symm
    _ ≤ 1 / 2 * den := by gcongr; linarith
  have coarse : (2 * half : ℚ) ≤ den := by linarith
  exact absurd fine (not_lt.mpr (by exact_mod_cast coarse))

include fine in
/-- Rounding at a finer unit first does no harm: the fraction is either a half or further from it than the
first rounding moves it. -/
theorem HalfEven.of_twice (positive : 0 < den) (first : HalfEven (num / den * (2 * half)) inner)
    (second : HalfEven (inner / (2 * half)) outer) : HalfEven (num / den) outer := by
  have half_pos : (0 : ℚ) < half := by exact_mod_cast (by omega : 0 < half)
  constructor
  · have above := first.le_of_twice fine positive second
    have turned : HalfEven ((-num : ℤ) / den * (2 * half)) (-inner) := by
      convert first.neg using 1
      push_cast
      ring
    have mirrored : HalfEven ((-inner : ℤ) / (2 * half)) (-outer) := by
      convert second.neg using 1
      push_cast
      ring
    have below := turned.le_of_twice fine positive mirrored
    push_cast at below
    rw [neg_div] at below
    exact abs_le.mpr ⟨by linarith, above⟩
  · intro tie
    -- A half is a multiple of the finer unit, which the first rounding leaves alone.
    obtain ⟨side, one, place⟩ : ∃ side : ℤ, |(side : ℚ)| = 1 ∧ (num : ℚ) / den = outer + side / 2 := by
      rcases (abs_eq (by norm_num)).mp tie with above | below
      · exact ⟨1, by norm_num, by push_cast; linarith⟩
      · exact ⟨-1, by norm_num, by push_cast; linarith⟩
    have unit : (num : ℚ) / den * (2 * half) = (outer * (2 * half) + side * half : ℤ) := by
      rw [place]
      push_cast
      ring
    rw [unit] at first
    have same := first.unique (halfEven_intCast _)
    apply second.tie
    have apart : (inner : ℚ) / (2 * half) - outer = side / 2 := by
      rw [same]
      push_cast
      field_simp
      ring
    rw [apart, abs_div, one, abs_two]

end Twice

/-- The result is the number rounded half to even to 53 significant bits. -/
def Significant (x result : ℚ) : Prop :=
  ∃ (unit inner : ℤ), result = inner * 2 ^ unit ∧ HalfEven (x / 2 ^ unit) inner ∧
    2 ^ 52 ≤ x / 2 ^ unit ∧ x / 2 ^ unit < 2 ^ 53

/-- A bound by an integer survives rounding. -/
theorem HalfEven.le_of_intCast_le {x : ℚ} {n bound : ℤ} (rounded : HalfEven x n) (above : bound ≤ x) :
    bound ≤ n := by
  obtain ⟨-, high⟩ := abs_le.mp rounded.near
  have near : (bound : ℚ) < n + 1 := by linarith
  exact Int.lt_add_one_iff.mp (by exact_mod_cast near)

theorem unit_lt (bound : ℤ) {x : ℚ} {unit : ℤ} (low : 2 ^ 52 ≤ x / 2 ^ unit) (small : x < 2 ^ (52 + bound)) :
    unit < bound := by
  have positive : (0 : ℚ) < 2 ^ unit := by positivity
  have start : (2 : ℚ) ^ (52 : ℤ) = 2 ^ 52 := by norm_num
  rw [le_div_iff₀ positive, ← start, ← zpow_add₀ two_ne_zero] at low
  have powers : (2 : ℚ) ^ (52 + unit) < 2 ^ (52 + bound) := lt_of_le_of_lt low small
  rw [zpow_lt_zpow_iff_right₀ one_lt_two] at powers
  omega

section Whole

variable {n : ℕ} {result : ℚ} (significant : Significant n result)
include significant

/-- What has at most 53 bits needs no rounding. -/
theorem Significant.eq_of_lt (small : n < 2 ^ 53) : result = n := by
  obtain ⟨unit, inner, rfl, rounded, low, -⟩ := significant
  have fine : unit < 1 := unit_lt 1 low (by exact_mod_cast small)
  obtain ⟨places, rfl⟩ : ∃ places : ℕ, unit = -places := ⟨(-unit).toNat, by omega⟩
  have shifted : (n : ℚ) / 2 ^ (-places : ℤ) = (n * 2 ^ places : ℤ) := by
    rw [zpow_neg, zpow_natCast, div_inv_eq_mul]
    push_cast
    ring
  rw [shifted] at rounded
  rw [rounded.unique (halfEven_intCast _), ← shifted]
  field_simp

/-- What has more bits stays a whole number and does not become smaller than the least of them. -/
theorem Significant.le_of_le (large : 2 ^ 53 ≤ n) : ∃ whole : ℕ, result = whole ∧ 2 ^ 53 ≤ whole := by
  obtain ⟨unit, inner, rfl, rounded, low, high⟩ := significant
  have coarse : 0 < unit := by
    have positive : (0 : ℚ) < 2 ^ unit := by positivity
    have bound : (2 ^ 53 : ℚ) ≤ n := by exact_mod_cast large
    rw [div_lt_iff₀ positive] at high
    have above : (2 : ℚ) ^ (0 : ℤ) < 2 ^ unit := by
      rw [zpow_zero]
      linarith
    exact (zpow_lt_zpow_iff_right₀ one_lt_two).mp above
  obtain ⟨places, rfl⟩ : ∃ places : ℕ, unit = (places + 1 : ℕ) := ⟨(unit - 1).toNat, by omega⟩
  have kept : 2 ^ 52 ≤ inner := rounded.le_of_intCast_le (by exact_mod_cast low)
  obtain ⟨whole, rfl⟩ := Int.eq_ofNat_of_zero_le (show 0 ≤ inner by omega)
  refine ⟨whole * 2 ^ (places + 1), by rw [zpow_natCast]; push_cast; rfl, ?_⟩
  calc 2 ^ 53 = 2 ^ 52 * 2 ^ 1 := by norm_num
    _ ≤ whole * 2 ^ (places + 1) := Nat.mul_le_mul (by omega) (Nat.pow_le_pow_right (by decide) (by omega))

end Whole

/-- Rounding a fraction to 53 significant bits does not change the integer that it is then rounded to, if
its numerator has no more than 52 bits. -/
theorem Significant.halfEven {num den : ℕ} {result : ℚ} {outer : ℤ} (small : num < 2 ^ 52)
    (positive : 0 < den) (significant : Significant (num / den) result) (rounded : HalfEven result outer) :
    HalfEven (num / den) outer := by
  obtain ⟨unit, inner, rfl, first, low, -⟩ := significant
  have den_pos : (0 : ℚ) < den := by exact_mod_cast positive
  have small_cast : (num : ℚ) < 2 ^ 52 := by exact_mod_cast small
  have fine : unit < 0 := by
    apply unit_lt 0 low
    have atMost : (num : ℚ) / den ≤ num := div_le_self (by positivity) (by exact_mod_cast positive)
    exact_mod_cast atMost.trans_lt small_cast
  obtain ⟨places, rfl⟩ : ∃ places : ℕ, unit = -(places + 1 : ℕ) := ⟨(-unit - 1).toNat, by omega⟩
  have inverse : (2 : ℚ) ^ (-(places + 1 : ℕ) : ℤ) = (2 * ((2 ^ places : ℕ) : ℚ))⁻¹ := by
    rw [zpow_neg, zpow_natCast, pow_succ']
    push_cast
    rfl
  rw [inverse] at first low rounded
  rw [div_inv_eq_mul] at first low
  have finer : den < 2 * 2 ^ places := by
    have scaled : (2 ^ 52 : ℚ) * den ≤ num * (2 * (2 ^ places : ℕ)) := by
      rw [div_mul_eq_mul_div, le_div_iff₀ den_pos] at low
      exact low
    have below : (2 ^ 52 : ℚ) * den < 2 ^ 52 * (2 * (2 ^ places : ℕ)) :=
      scaled.trans_lt (mul_lt_mul_of_pos_right small_cast (by positivity))
    exact_mod_cast lt_of_mul_lt_mul_left below (by positivity)
  rw [← div_eq_mul_inv] at rounded
  rw [← Int.cast_natCast (R := ℚ) num] at first ⊢
  exact HalfEven.of_twice finer positive first rounded

end TableScript.Rounding
