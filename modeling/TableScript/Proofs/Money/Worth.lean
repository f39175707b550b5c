import Mathlib.Algebra.Group.Nat.Defs
import TableScript.Proofs.Number.Word
import TableScript.Proofs.Sorting.Comparison
import TableScript.Value.Order

set_option autoImplicit false

namespace TableScript

namespace Money

/-- The amount at a scale that is not smaller, without a bound. -/
def worth (m : Money) (scale : Nat) : Int := m.amount.toInt * (10 ^ (scale - m.scale) : Nat)

/-- Whether the order of two amounts is found exactly: those of one currency fit at the larger scale. -/
def Commensurable (a b : Money) : Prop :=
  a.currency = b.currency →
    (a.amountAt? (max a.scale b.scale)).isSome ∧ (b.amountAt? (max a.scale b.scale)).isSome

instance (a b : Money) : Decidable (Commensurable a b) := inferInstanceAs (Decidable (_ → _))

theorem Commensurable.symm {a b : Money} (exact : Commensurable a b) : Commensurable b a := by
  intro same
  rw [Nat.max_comm]
  exact (exact same.symm).symm

theorem toInt_of_amountAt? (m : Money) (scale : Nat) (word : Int64)
    (found : m.amountAt? scale = some word) : word.toInt = m.worth scale := by
  unfold amountAt? at found
  split at found
  next smaller =>
    obtain rfl := Option.some.inj found
    simp [worth, Nat.sub_eq_zero_of_le smaller]
  next =>
    obtain ⟨factor, narrowed, product⟩ := Option.bind_eq_some_iff.mp found
    rw [Word.toInt_of_narrow? _ _ product, Word.toInt_of_narrow? _ _ narrowed, worth, Nat.pow_eq]

/-- A larger scale keeps the order. -/
theorem compare_worth (a b : Money) (scale larger : Nat) (reachedA : a.scale ≤ scale)
    (reachedB : b.scale ≤ scale) (grown : scale ≤ larger) :
    compare (a.worth larger) (b.worth larger) = compare (a.worth scale) (b.worth scale) := by
  have rescaled (m : Money) (reached : m.scale ≤ scale) :
      m.worth larger = m.worth scale * (10 ^ (larger - scale) : Nat) := by
    rw [worth, worth, Int.mul_assoc, ← Int.natCast_mul, ← Nat.pow_add]
    congr 3
    omega
  have positive : (0 : Int) < (10 ^ (larger - scale) : Nat) := Int.natCast_pos.mpr (Nat.pow_pos (by decide))
  rw [rescaled a reachedA, rescaled b reachedB]
  exact compare_eq_compare (Int.mul_lt_mul_of_pos_right · positive) (congrArg (· * _))
    (Int.mul_lt_mul_of_pos_right · positive)

/-- At any scale that both reach, the currency decides and then the worth. -/
theorem order_eq_worth (a b : Money) (scale : Nat) (exact : Commensurable a b) (reachedA : a.scale ≤ scale)
    (reachedB : b.scale ≤ scale) :
    a.order b = (compare a.currency b.currency).then (compare (a.worth scale) (b.worth scale)) := by
  unfold order
  split
  next different =>
    cases decided : compare a.currency b.currency with
    | eq => exact absurd (Std.LawfulEqCmp.eq_of_compare decided) different
    | lt | gt => rfl
  next same =>
    have sameCurrency : a.currency = b.currency := Decidable.not_not.mp same
    obtain ⟨foundA, foundB⟩ := exact sameCurrency
    obtain ⟨left, eqLeft⟩ := Option.isSome_iff_exists.mp foundA
    obtain ⟨right, eqRight⟩ := Option.isSome_iff_exists.mp foundB
    have larger : max a.scale b.scale ≤ scale := Nat.max_le.mpr ⟨reachedA, reachedB⟩
    rw [compare_worth a b _ scale (Nat.le_max_left _ _) (Nat.le_max_right _ _) larger,
      ← toInt_of_amountAt? a _ left eqLeft, ← toInt_of_amountAt? b _ right eqRight]
    simp [eqLeft, eqRight, sameCurrency]

end Money

end TableScript
