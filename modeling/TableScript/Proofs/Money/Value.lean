import Mathlib.Algebra.Order.Field.Rat
import Mathlib.Data.Int.Cast.Lemmas
import Mathlib.Tactic.FieldSimp
import TableScript.Proofs.Money.Worth

set_option autoImplicit false

namespace TableScript

/-- The largest power of ten that a word holds. -/
theorem Word.fits_pow_ten (count : Nat) (small : count ≤ 18) : Fits (10 ^ count : Nat) := by
  have bound : 10 ^ count ≤ 10 ^ 18 := Nat.pow_le_pow_right (by decide) small
  generalize 10 ^ count = power at bound
  unfold Fits least greatest
  omega

/-- No word but zero has room for a larger power of ten. -/
theorem Word.not_fits_mul_pow_ten (factor : Int) (count : Nat) (nonzero : factor ≠ 0) (large : 18 < count) :
    ¬ Fits (factor * (10 ^ count : Nat)) := by
  have bound : 10 ^ 19 ≤ 10 ^ count := Nat.pow_le_pow_right (by decide) large
  generalize 10 ^ count = power at bound
  unfold Fits least greatest
  rcases Int.lt_or_lt_of_ne nonzero with negative | positive
  · have below : factor * power ≤ -1 * power := Int.mul_le_mul_of_nonneg_right (by omega) (by omega)
    omega
  · have above : 1 * (power : Int) ≤ factor * power := Int.mul_le_mul_of_nonneg_right (by omega) (by omega)
    omega

namespace Money

/-- The number that the amount denotes. -/
def value (m : Money) : ℚ := m.amount.toInt / 10 ^ m.scale

/-- Whether a number has an amount of 64 bits at a scale. -/
def Writable (number : ℚ) (scale : Nat) : Prop := ∃ amount : Int64, (amount.toInt : ℚ) = number * 10 ^ scale

theorem value_mul (m : Money) (scale : Nat) (reached : m.scale ≤ scale) :
    m.value * 10 ^ scale = m.worth scale := by
  obtain ⟨extra, rfl⟩ := Nat.exists_eq_add_of_le reached
  rw [value, worth, Nat.add_sub_cancel_left]
  push_cast
  rw [pow_add]
  field_simp

theorem writable_iff_fits {number : ℚ} {scale : Nat} {amount : Int} (exact : number * 10 ^ scale = amount) :
    Writable number scale ↔ Word.Fits amount := by
  constructor
  · rintro ⟨word, same⟩
    have equal : word.toInt = amount := Int.cast_injective (same.trans exact)
    rw [← equal]
    exact Word.fits_toInt word
  · intro fits
    have narrowed : Word.narrow? amount = some (Int64.ofInt amount) :=
      (Word.narrow?_eq_some_iff _ _).mpr ⟨fits, rfl⟩
    exact ⟨_, by rw [Word.toInt_of_narrow? _ _ narrowed, exact]⟩

theorem writable_value_iff (m : Money) (scale : Nat) (reached : m.scale ≤ scale) :
    Writable m.value scale ↔ Word.Fits (m.worth scale) :=
  writable_iff_fits (m.value_mul scale reached)

/-- The factor fits wherever the product does. -/
theorem amountAt?_eq_narrow? (m : Money) (scale : Nat) (nonzero : m.amount.toInt ≠ 0) :
    m.amountAt? scale = Word.narrow? (m.worth scale) := by
  unfold amountAt?
  split
  next same =>
    rw [worth, Nat.sub_eq_zero_of_le same, Nat.pow_zero, Int.natCast_one, Int.mul_one, Word.narrow?_toInt]
  next =>
    rw [Nat.pow_eq, worth]
    generalize scale - m.scale = count
    by_cases small : count ≤ 18
    · have fits := Word.fits_pow_ten count small
      have narrowed := (Word.narrow?_eq_some_iff _ _).mpr ⟨fits, rfl⟩
      rw [narrowed, Option.bind_some, Word.mul?, Word.toInt_of_narrow? _ _ narrowed]
    · have large : ¬ Word.Fits ((10 ^ count : Nat) : Int) := by
        rw [← Int.one_mul ((10 ^ count : Nat) : Int)]
        exact Word.not_fits_mul_pow_ten 1 count (by decide) (by omega)
      rw [(Word.narrow?_eq_none_iff _).mpr large, Option.bind_none,
        (Word.narrow?_eq_none_iff _).mpr (Word.not_fits_mul_pow_ten _ count nonzero (by omega))]

theorem writable_iff_isSome (m : Money) (scale : Nat) (nonzero : m.amount.toInt ≠ 0)
    (reached : m.scale ≤ scale) : Writable m.value scale ↔ (m.amountAt? scale).isSome := by
  rw [m.writable_value_iff scale reached, m.amountAt?_eq_narrow? scale nonzero]
  simp [Word.narrow?]

/-- Wherever an amount reaches a scale, zero or not, it denotes the same number there. -/
theorem toInt_eq_value_mul (m : Money) (scale : Nat) (reached : m.scale ≤ scale) (word : Int64)
    (found : m.amountAt? scale = some word) : (word.toInt : ℚ) = m.value * 10 ^ scale := by
  rw [m.toInt_of_amountAt? scale word found, m.value_mul scale reached]

/-- At one scale a number has one amount. -/
theorem eq_of_value {a b : Money} (currency : a.currency = b.currency) (scale : a.scale = b.scale)
    (value : a.value = b.value) : a = b := by
  have amounts : (a.amount.toInt : ℚ) = b.amount.toInt := by
    simpa [Money.value, scale] using value
  have amount : a.amount = b.amount := Int64.toInt_inj.mp (Int.cast_injective amounts)
  cases a
  cases b
  simp_all

end Money

end TableScript
