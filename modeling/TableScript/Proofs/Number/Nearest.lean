import TableScript.Proofs.Money.Worth
import TableScript.Proofs.Number.Quotient

set_option autoImplicit false

namespace TableScript

open Float.Model (Format UnpackedFloat totalExponent)
open Float.Model.UnpackedFloat
open Rounding (Significant HalfEven)

namespace Binary

/-- The number with these parts. -/
def value (b : Binary) : ℚ := (if b.negative then -1 else 1) * (b.significand * 2 ^ b.exponent)

theorem halfEven_toIntBy (b : Binary) : HalfEven b.value (b.toIntBy roundHalfEven) := by
  obtain ⟨negative, significand, exponent⟩ := b
  have size : HalfEven (significand * 2 ^ exponent)
      ((if 0 ≤ exponent then significand * Nat.pow 2 exponent.toNat
        else roundHalfEven significand (Nat.pow 2 (-exponent).toNat) : Nat) : Int) := by
    split
    next whole =>
      obtain ⟨places, rfl⟩ := Int.eq_ofNat_of_zero_le whole
      rw [Int.toNat_natCast]
      convert Rounding.halfEven_intCast (significand * Nat.pow 2 places : Nat) using 1
      push_cast [Nat.pow_eq]
      rw [zpow_natCast]
    next broken =>
      obtain ⟨places, rfl⟩ : ∃ places : ℕ, exponent = -places := ⟨(-exponent).toNat, by omega⟩
      rw [neg_neg, Int.toNat_natCast, Nat.pow_eq]
      convert Rounding.halfEven_roundHalfEven significand (Nat.two_pow_pos places) using 1
      rw [zpow_neg, zpow_natCast, ← div_eq_mul_inv]
      push_cast
      rfl
  unfold value toIntBy
  dsimp only
  cases negative with
  | false => simpa using size
  | true => simpa using size.neg

theorem log2_mul_two_pow {n : Nat} (positive : n ≠ 0) (places : Nat) :
    (n * 2 ^ places).log2 = n.log2 + places := by
  have power := Nat.two_pow_pos places
  rw [Nat.log2_eq_iff (Nat.mul_ne_zero positive (Nat.ne_of_gt power))]
  constructor
  · rw [Nat.pow_add]
    exact Nat.mul_le_mul_right _ (Nat.log2_self_le positive)
  · rw [Nat.add_right_comm, Nat.pow_add]
    exact Nat.mul_lt_mul_of_pos_right Nat.lt_log2_self power

/-- The significand that begins with the leading bit of a number. -/
def leadingRounded (n : Nat) : Nat :=
  if 0 ≤ (n.log2 : Int) - 52 then roundHalfEven n (1 * Nat.pow 2 ((n.log2 : Int) - 52).toNat)
  else roundHalfEven (n * Nat.pow 2 (-((n.log2 : Int) - 52)).toNat) 1

theorem leadingRounded_significant {n : Nat} (positive : n ≠ 0) :
    2 ^ 52 ≤ leadingRounded n ∧ leadingRounded n ≤ 2 ^ 53 ∧
      Significant n (leadingRounded n * 2 ^ ((n.log2 : Int) - 52)) := by
  unfold leadingRounded
  by_cases high : 52 ≤ n.log2
  · obtain ⟨places, height⟩ := Nat.exists_eq_add_of_le high
    have shift : (n.log2 : Int) - 52 = places := by omega
    rw [shift, if_pos (Int.natCast_nonneg places), Int.toNat_natCast, Nat.pow_eq]
    have divided : (n / 1).log2 = 52 + places := by rw [Nat.div_one, height]
    obtain ⟨start, finish⟩ := roundHalfEven_of_height divided
    refine ⟨start, finish, ?_⟩
    simpa using significant_roundHalfEven divided 0 Nat.one_pos
  · obtain ⟨places, height⟩ : ∃ places : Nat, n.log2 + (places + 1) = 52 := ⟨51 - n.log2, by omega⟩
    have shift : (n.log2 : Int) - 52 = -(places + 1 : Nat) := by omega
    rw [shift, if_neg (by omega), neg_neg, Int.toNat_natCast, Nat.pow_eq]
    have divided : (n * 2 ^ (places + 1) / 1).log2 = 52 + 0 := by
      rw [Nat.div_one, log2_mul_two_pow positive, height]
    have bounds := roundHalfEven_of_height divided
    have significant := significant_roundHalfEven divided (-(places + 1 : Nat)) Nat.one_pos
    rw [Nat.pow_zero, Nat.mul_one] at bounds significant
    refine ⟨bounds.1, bounds.2, ?_⟩
    convert significant using 1
    · rw [zpow_neg, zpow_natCast]
      push_cast
      field_simp
    · rw [Nat.cast_zero, add_zero]

/-- The parts are those of a word to 53 significant bits. -/
structure Approximates (significand : Nat) (exponent : Int) (n : Nat) : Prop where
  normal : Double.Normal significand exponent
  above : -52 ≤ exponent
  below : exponent ≤ 12
  written : Significant n (significand * 2 ^ exponent)

section Word

variable {n : Nat} (positive : n ≠ 0) (small : n < 2 ^ 64)
include positive small

theorem nearestBits_eq :
    nearestBits n 1 = ((n.log2 : Int) - 52 + 1074).toNat * 2 ^ 52 + leadingRounded n := by
  have height : n.log2 < 64 := (Nat.log2_lt positive).mpr small
  have exponent : max ((n.log2 : Int) - 52) (-1074) = (n.log2 : Int) - 52 := by omega
  obtain ⟨-, high, -⟩ := leadingRounded_significant positive
  have finite : ((n.log2 : Int) - 52 + 1074).toNat * 2 ^ 52 + leadingRounded n ≤ Double.infinityBits := by
    simp only [Double.infinityBits]
    omega
  rw [nearestBits, if_neg positive, floorLog2_one n positive]
  dsimp only
  rw [exponent, Nat.pow_eq]
  exact Nat.min_eq_left finite

/-- A significand that became too long is one bit shorter in the next exponent. -/
theorem nearestBits_approximates :
    ∃ significand exponent, nearestBits n 1 = (exponent + 1074).toNat * 2 ^ 52 + significand ∧
      Approximates significand exponent n := by
  have height : n.log2 < 64 := (Nat.log2_lt positive).mpr small
  obtain ⟨low, high, significant⟩ := leadingRounded_significant positive
  have bits := nearestBits_eq positive small
  obtain inside | carried := Nat.lt_or_eq_of_le high
  · exact ⟨leadingRounded n, _, bits, ⟨low, inside, by omega, by omega⟩, by omega, by omega, significant⟩
  · have normal : Double.Normal (2 ^ 52) ((n.log2 : Int) - 52 + 1) :=
      ⟨by decide, by decide, by omega, by omega⟩
    rw [carried] at bits significant
    refine ⟨2 ^ 52, (n.log2 : Int) - 52 + 1, ?_, normal, by omega, by omega, ?_⟩
    · rw [bits]
      omega
    · convert significant using 1
      rw [zpow_add₀ two_ne_zero]
      push_cast
      ring

end Word

end Binary

namespace Double

/-- Whether the number is `± n` to 53 significant bits. -/
def Rounds (x : Double) (negative : Bool) (n : Nat) : Prop :=
  ∃ significand exponent, Binary.decode? x = some ⟨negative, significand, exponent⟩ ∧
    Binary.Approximates significand exponent n

theorem rounds_ofInt64 (n : Int64) (nonzero : n.toInt ≠ 0) :
    Rounds (ofInt64 n) (n.toInt < 0) n.toInt.natAbs := by
  have low := n.le_toInt
  have high := n.toInt_lt
  obtain ⟨significand, exponent, bits, approximates⟩ :=
    Binary.nearestBits_approximates (n := n.toInt.natAbs) (by omega) (by omega)
  refine ⟨significand, exponent, ?_, approximates⟩
  rw [ofInt64, Binary.nearest, bits]
  exact decode?_ofMagnitude approximates.normal _

theorem Rounds.isZero {x : Double} {negative : Bool} {n : Nat} (rounds : Rounds x negative n) :
    x.isZero = false := by
  obtain ⟨significand, exponent, decoded, approximates⟩ := rounds
  rw [Double.isZero, beq_eq_false_iff_ne]
  intro zero
  rw [Binary.decode?, isFinite, zero] at decoded
  have clear : 0 = significand := congrArg Binary.significand (Option.some.inj decoded)
  have low := approximates.normal.low
  omega

/-- A whole mantissa that was not cut is rounded to 53 significant bits. -/
theorem roundWithAccuracy_whole {num places : Nat} {exponent : Int} (height : num.log2 = 52 + places)
    (above : -1074 ≤ exponent + places) (below : exponent + places ≤ 970) :
    ∃ mantissa power pos,
      roundWithAccuracy Format.binary64 .positive num exponent .exact = .finite .positive mantissa power pos ∧
      Normal mantissa power ∧ exponent + places ≤ power ∧ power ≤ exponent + places + 1 ∧
      Significant (num * 2 ^ exponent) (mantissa * 2 ^ power) := by
  have exact : accuracyOfFraction (num % 1) 1 = .exact := by rw [Nat.mod_one]; rfl
  have divided : (num / 1).log2 = 52 + places := by rw [Nat.div_one, height]
  have rounded := roundWithAccuracy_significant .positive Nat.one_pos divided above below
  rw [exact, Nat.div_one] at rounded
  simpa using rounded

theorem unpack_one : (Float.ofBits 4607182418800017408).toModel.unpack =
    .finite .positive (2 ^ 52) (-52) (by decide) := by
  rfl

theorem unpack_toFloat_toUInt64 {n : Nat} (positive : n ≠ 0) (small : n < 2 ^ 53) : ∃ mantissa power pos,
    n.toUInt64.toFloat.toModel.unpack = .finite .positive mantissa power pos ∧ Normal mantissa power ∧
      (n.log2 : Int) - 52 ≤ power ∧ power ≤ (n.log2 : Int) - 51 ∧ (mantissa : ℚ) * 2 ^ power = n := by
  have height : n.log2 ≤ 52 := Nat.lt_succ_iff.mp ((Nat.log2_lt positive).mpr small)
  obtain ⟨spare, balance⟩ := Nat.exists_eq_add_of_le height
  have shifted : (n * 2 ^ spare).log2 = 52 + 0 := by rw [Binary.log2_mul_two_pow positive, ← balance]
  have word : n.toUInt64.toNat = n := Nat.mod_eq_of_lt (by omega)
  have target : Format.binary64.targetExponent (totalExponent n 0) = -spare := by
    rw [targetExponent_eq, totalExponent]
    omega
  obtain ⟨mantissa, power, pos, rounded, normal, above, below, significant⟩ :=
    roundWithAccuracy_whole shifted (by omega : -1074 ≤ -(spare : Int) + (0 : Nat)) (by omega)
  have converted : UnpackedFloat.ofUInt64 Format.binary64 n.toUInt64 =
      .finite .positive mantissa power pos := by
    have order : compare (n : Int) 0 = .gt := Int.compare_eq_gt.mpr (by omega)
    have amount : (0 - -(spare : Int)).toNat = spare := by omega
    have exponent : 0 - (spare : Int) = -spare := by omega
    rw [UnpackedFloat.ofUInt64, UnpackedFloat.ofNat, word, UnpackedFloat.ofInt, UnpackedFloat.normalize,
      order]
    dsimp only
    rw [Int.toNat_natCast, UnpackedFloat.round, target, decreaseExponent, amount, exponent, Nat.shiftLeft_eq]
    exact rounded
  refine ⟨mantissa, power, pos, ?_, normal, by omega, by omega, ?_⟩
  · change unpack _ (pack _ (UnpackedFloat.ofUInt64 Format.binary64 n.toUInt64)) = _
    rw [converted, unpack_pack_normal _ normal]
  · apply Significant.eq_of_lt _ small
    convert significant using 1
    rw [zpow_neg, zpow_natCast]
    push_cast
    field_simp

theorem mul_positive {left right : Nat} {powerX powerY : Int} (positiveX : 0 < left) (positiveY : 0 < right) :
    UnpackedFloat.mul Format.binary64 (.finite .positive left powerX positiveX)
        (.finite .positive right powerY positiveY) =
      roundWithAccuracy Format.binary64 .positive (left * right) (powerX + powerY) .exact :=
  rfl

theorem unpack_ofNat {n : Nat} (positive : n ≠ 0) (small : n < 2 ^ 64) : ∃ mantissa power pos,
    (Float.ofNat n).toModel.unpack = .finite .positive mantissa power pos ∧
      Binary.Approximates mantissa power n := by
  by_cases exact : n < 2 ^ 53
  · have machine : Float.ofNat n = n.toUInt64.toFloat * Float.ofBits 4607182418800017408 := by
      change Float.ofScientific n false 0 = _
      rw [Float.ofScientific, dif_pos ⟨exact, by decide⟩]
      rfl
    obtain ⟨whole, exponent, wholePos, seen, normal, low, high, same⟩ :=
      unpack_toFloat_toUInt64 positive exact
    have height : n.log2 ≤ 52 := Nat.lt_succ_iff.mp ((Nat.log2_lt positive).mpr exact)
    have product : (whole * 2 ^ 52).log2 = 52 + 52 := by
      rw [Binary.log2_mul_two_pow (Nat.ne_of_gt wholePos), log2_of_normal normal]
    obtain ⟨mantissa, power, pos, rounded, kept, above, below, significant⟩ :=
      roundWithAccuracy_whole product (by omega : -1074 ≤ exponent + (-52) + ((52 : Nat) : Int)) (by omega)
    refine ⟨mantissa, power, pos, ?_, kept, by omega, by omega, ?_⟩
    · rw [machine]
      change unpack Format.binary64 (pack Format.binary64 (UnpackedFloat.mul Format.binary64
        n.toUInt64.toFloat.toModel.unpack (Float.ofBits 4607182418800017408).toModel.unpack)) = _
      rw [seen, unpack_one, mul_positive, rounded, unpack_pack_normal _ kept]
    · convert significant using 1
      have unit : (2 : ℚ) ^ 52 * 2 ^ (-52 : Int) = 1 := by norm_num
      rw [← same, zpow_add₀ two_ne_zero]
      push_cast
      linear_combination -((whole : ℚ) * 2 ^ exponent) * unit
  · have machine : (Float.ofNat n).toModel = Float.Model.ofScientific n 0 := by
      change (Float.ofScientific n false 0).toModel = _
      rw [Float.ofScientific, dif_neg fun both => exact both.1]
      rfl
    have height : n.log2 < 64 := (Nat.log2_lt positive).mpr small
    have product : (n * 2 ^ 53).log2 = 52 + (n.log2 + 1) := by
      rw [Binary.log2_mul_two_pow positive]
      omega
    obtain ⟨mantissa, power, pos, rounded, kept, above, below, significant⟩ :=
      roundWithAccuracy_whole product (by omega : -1074 ≤ (-53 : Int) + ((n.log2 + 1 : Nat) : Int)) (by omega)
    refine ⟨mantissa, power, pos, ?_, kept, by omega, by omega, ?_⟩
    · rw [machine]
      change unpack _ (pack _ (UnpackedFloat.ofScientific Format.binary64 n 0)) = _
      have range : (2 : Int) ^ Format.binary64.exponentBits = 2048 := rfl
      have bits : Format.binary64.mantissaBits = 53 := rfl
      rw [UnpackedFloat.ofScientific, dif_neg positive, if_neg (by decide), range, if_neg (by omega),
        if_pos (by decide)]
      rw [mul_positive, Nat.shiftLeft_eq, bits, Int.toNat_zero, Nat.pow_zero, Nat.mul_one, Int.add_zero]
      rw [← unpack_pack_normal .positive kept pos, ← rounded]
      rfl
    · convert significant using 1
      have unit : (2 : ℚ) ^ 53 * 2 ^ (-53 : Int) = 1 := by norm_num
      push_cast
      linear_combination -(n : ℚ) * unit

theorem rounds_ofNat {n : Nat} (positive : n ≠ 0) (small : n < 2 ^ 64) : Rounds (ofNat n) false n := by
  obtain ⟨mantissa, power, pos, seen, approximates⟩ := unpack_ofNat positive small
  refine ⟨mantissa, power, ?_, approximates⟩
  rw [ofNat, decode?_ofFloat, seen]
  rfl

section Quotient

variable {y : Double} {other : Bool} {num den : Nat} (positive : 0 < den)
include positive

theorem halfEven_quotient {divisor result : ℚ} {outer : ℤ} (small : num < 2 ^ 52)
    (written : Significant den divisor) (significant : Significant (num / divisor) result)
    (rounded : HalfEven result outer) : HalfEven (num / den) outer := by
  by_cases exact : den < 2 ^ 53
  · rw [written.eq_of_lt exact] at significant
    exact significant.halfEven small positive rounded
  · obtain ⟨whole, rfl, large⟩ := written.le_of_le (Nat.le_of_not_lt exact)
    have vanishes : ∀ size : ℕ, 2 ^ 53 ≤ size → HalfEven (num / size) 0 := by
      intro size above
      have sizePos : (0 : ℚ) < size := by exact_mod_cast Nat.lt_of_lt_of_le (by decide) above
      have twice : (2 * num : ℚ) < size := by exact_mod_cast (by omega : 2 * num < size)
      apply Rounding.halfEven_of_near
      rw [Int.cast_zero, sub_zero, abs_of_nonneg (by positivity), div_lt_div_iff₀ sizePos two_pos]
      linarith
    have outside := significant.halfEven small (Nat.lt_of_lt_of_le (by decide) large) rounded
    rw [outside.unique (vanishes whole large)]
    exact vanishes den (Nat.le_of_not_lt exact)

omit positive in
theorem fits_of_halfEven {x : ℚ} {n : ℤ} (rounded : HalfEven x n) (bounded : |x| ≤ 2 ^ 52) : Word.Fits n := by
  obtain ⟨low, high⟩ := abs_le.mp rounded.near
  obtain ⟨least, greatest⟩ := abs_le.mp bounded
  have below : ((-2 ^ 53 : ℤ) : ℚ) ≤ n := by
    push_cast
    linarith
  have above : (n : ℚ) ≤ (2 ^ 53 : ℤ) := by
    push_cast
    linarith
  have below' : -2 ^ 53 ≤ n := by exact_mod_cast below
  have above' : n ≤ 2 ^ 53 := by exact_mod_cast above
  unfold Word.Fits Word.least Word.greatest
  omega

theorem halfEven?_div {x : Double} {negative : Bool} (roundsX : Rounds x negative num)
    (roundsY : Rounds y other den) (small : num < 2 ^ 52) :
    ∃ amount : Int64, Rounding.halfEven? (x / y) = some amount ∧
      HalfEven ((if negative ^^ other then -1 else 1) * (num / den)) amount.toInt := by
  obtain ⟨left, powerX, decodedX, normalX, lowX, highX, writtenX⟩ := roundsX
  obtain ⟨right, powerY, decodedY, normalY, lowY, highY, writtenY⟩ := roundsY
  obtain ⟨mantissa, power, decoded, significant⟩ :=
    decode?_div normalX normalY (by omega) (by omega) decodedX decodedY
  have num_exact := writtenX.eq_of_lt (small.trans (by decide))
  have bounded : |(if negative ^^ other then -1 else 1) * (num / den : ℚ)| ≤ 2 ^ 52 := by
    have den_one : (1 : ℚ) ≤ den := by exact_mod_cast positive
    have num_le : (num : ℚ) ≤ 2 ^ 52 := by exact_mod_cast small.le
    have sign : |if negative ^^ other then (-1 : ℚ) else 1| = 1 := by split <;> simp
    rw [abs_mul, sign, one_mul, abs_of_nonneg (by positivity)]
    exact (div_le_self (by positivity) den_one).trans num_le
  have rounded := Binary.halfEven_toIntBy ⟨negative ^^ other, mantissa, power⟩
  have exact : HalfEven ((if negative ^^ other then -1 else 1) * (num / den))
      (Binary.toIntBy Binary.roundHalfEven ⟨negative ^^ other, mantissa, power⟩) := by
    rw [num_exact] at significant
    generalize (negative ^^ other) = turned at rounded ⊢
    unfold Binary.value at rounded
    cases turned with
    | false =>
      simp only [Bool.false_eq_true, if_false, one_mul] at rounded ⊢
      exact halfEven_quotient positive small writtenY significant rounded
    | true =>
      simp only [if_true, neg_one_mul] at rounded ⊢
      have mirrored := rounded.neg
      rw [neg_neg] at mirrored
      simpa using (halfEven_quotient positive small writtenY significant mirrored).neg
  obtain ⟨amount, narrowed⟩ : ∃ amount, Word.narrow?
      (Binary.toIntBy Binary.roundHalfEven ⟨negative ^^ other, mantissa, power⟩) = some amount :=
    ⟨_, (Word.narrow?_eq_some_iff _ _).mpr ⟨fits_of_halfEven exact bounded, rfl⟩⟩
  refine ⟨amount, ?_, ?_⟩
  · rw [Rounding.halfEven?, decoded]
    exact narrowed
  · rw [Word.toInt_of_narrow? _ _ narrowed]
    exact exact

omit positive in
theorem halfEven?_zero_div (roundsY : Rounds y other den) : Rounding.halfEven? (ofInt64 0 / y) = some 0 := by
  obtain ⟨right, powerY, decodedY, approximates⟩ := roundsY
  have rightPos : 0 < right := Nat.lt_of_lt_of_le (by decide) approximates.normal.low
  obtain ⟨signY, -, seenY⟩ := unpacked_of_decode? decodedY rightPos
  have zero : (ofInt64 0).unpacked = .zero .positive := rfl
  have quotient : UnpackedFloat.div Format.binary64 (.zero .positive) y.unpacked =
      .zero (.positive / signY) := by
    rw [seenY]
    rfl
  have decoded : Binary.decode? (ofInt64 0 / y) = some ⟨.positive / signY == .negative, 0, -1074⟩ := by
    rw [decode?_div_of_isNaN rfl (isNaN_of_decode? decodedY), zero, quotient, pack, unpack_packedZero]
    rfl
  have rounded := Binary.halfEven_toIntBy ⟨.positive / signY == .negative, 0, -1074⟩
  rw [Binary.value, Nat.cast_zero, zero_mul, mul_zero] at rounded
  rw [Rounding.halfEven?, decoded, Option.bind_some, rounded.unique (Rounding.halfEven_intCast 0)]
  rfl

/-- An amount of at most 52 bits over a divisor that was rounded to 53 bits: the result is the exact quotient
rounded once. -/
theorem halfEven?_ofInt64_div (a : Int64) (small : a.toInt.natAbs < 2 ^ 52) (roundsY : Rounds y other den) :
    ∃ amount : Int64, Rounding.halfEven? (ofInt64 a / y) = some amount ∧
      HalfEven (a.toInt / ((if other then -1 else 1) * den)) amount.toInt := by
  by_cases zero : a.toInt = 0
  · obtain rfl : a = 0 := Int64.toInt.inj zero
    refine ⟨0, halfEven?_zero_div roundsY, ?_⟩
    simpa using Rounding.halfEven_intCast 0
  · obtain ⟨amount, found, exact⟩ := halfEven?_div positive (rounds_ofInt64 a zero) roundsY small
    refine ⟨amount, found, ?_⟩
    convert exact using 1
    have parts : (a.toInt : ℚ) = (if a.toInt < 0 then -1 else 1) * (a.toInt.natAbs : ℚ) := by
      rw [Nat.cast_natAbs, Int.cast_abs]
      split
      next below => rw [abs_of_neg (by exact_mod_cast below), neg_one_mul, neg_neg]
      next above => rw [abs_of_nonneg (by exact_mod_cast Int.not_lt.mp above), one_mul]
    rw [parts]
    by_cases below : a.toInt < 0 <;> cases other <;> simp [below, neg_div, div_neg]

end Quotient

end Double

end TableScript
