import TableScript.Proofs.Money.Worth
import TableScript.Proofs.Quantity.Measure
import TableScript.Value.Equality

set_option autoImplicit false

namespace TableScript

theorem mul_lt_of_lt_tdiv {part whole divisor : Int} (positive : 0 < divisor)
    (less : part < whole.tdiv divisor) : part * divisor < whole := by
  have parts := Int.mul_tdiv_add_tmod whole divisor
  have rest := Int.lt_tmod_of_pos whole positive
  have next : (part + 1) * divisor ≤ whole.tdiv divisor * divisor :=
    Int.mul_le_mul_of_nonneg_right less (Int.le_of_lt positive)
  rw [Int.mul_comm] at parts
  rw [Int.add_mul] at next
  omega

theorem lt_mul_of_tdiv_lt {part whole divisor : Int} (positive : 0 < divisor)
    (less : whole.tdiv divisor < part) : whole < part * divisor := by
  have parts := Int.mul_tdiv_add_tmod whole divisor
  have rest := Int.tmod_lt_of_pos whole positive
  have next : (whole.tdiv divisor + 1) * divisor ≤ part * divisor :=
    Int.mul_le_mul_of_nonneg_right less (Int.le_of_lt positive)
  rw [Int.mul_comm] at parts
  rw [Int.add_mul] at next
  omega

/-- Dividing and clamping moves an amount past no word: where the result differs from one, it lies as the exact
quotient does, and it does not differ from the exact quotient if that is a word. -/
theorem Word.toInt_clamp_tdiv (word : Int64) {whole divisor : Int} (positive : 0 < divisor) :
    (word.toInt < (clamp (whole.tdiv divisor)).toInt → word.toInt * divisor < whole) ∧
      ((clamp (whole.tdiv divisor)).toInt < word.toInt → whole < word.toInt * divisor) ∧
      (word.toInt * divisor = whole → (clamp (whole.tdiv divisor)).toInt = word.toInt) := by
  have low := word.le_toInt
  have high := word.toInt_lt
  rw [toInt_clamp]
  unfold least greatest
  refine ⟨fun less => mul_lt_of_lt_tdiv positive ?_, fun less => lt_mul_of_tdiv_lt positive ?_, ?_⟩
  · omega
  · omega
  · rintro rfl
    rw [Int.mul_tdiv_cancel _ (Int.ne_of_gt positive)]
    omega

namespace Quantity

variable {a b : Quantity}

/-- The amount of `b` in the system of `a` lies to that of `a` as what they measure, if it does not equal it, and
it equals it if they measure the same. -/
theorem amountIn_spec (family : a.family = b.family) :
    (a.amount.toInt < (b.amountIn a.system).toInt → a.measure < b.measure) ∧
      ((b.amountIn a.system).toInt < a.amount.toInt → b.measure < a.measure) ∧
      (a.measure = b.measure → (b.amountIn a.system).toInt = a.amount.toInt) := by
  obtain ⟨amountA, familyA, systemA, hintA⟩ := a
  obtain ⟨amountB, familyB, systemB, hintB⟩ := b
  obtain rfl : familyA = familyB := family
  cases familyA <;> cases systemA <;> cases systemB <;>
    simp only [amountIn, measure, inCommon, metricRatio?, ↓reduceIte, reduceCtorEq]
  -- Within a system, and for data, nothing is converted.
  all_goals first
    | (refine ⟨?_, ?_, ?_⟩ <;> omega)
    | exact Word.toInt_clamp_tdiv amountA (by decide)

/-- Converted to the other's system, the quantity has the other's amount, although it measures something else. -/
def PassesFor (b a : Quantity) : Prop := a.amount = b.amountIn a.system ∧ a.measure ≠ b.measure

instance (a b : Quantity) : Decidable (PassesFor a b) := inferInstanceAs (Decidable (_ ∧ _))

/-- Of two quantities of one family each passes for the other, or neither does. -/
def Even (a b : Quantity) : Prop := a.family = b.family → (a.PassesFor b ↔ b.PassesFor a)

instance (a b : Quantity) : Decidable (Even a b) := inferInstanceAs (Decidable (_ → _))

theorem amount_eq_iff (family : a.family = b.family) :
    a.amount = b.amountIn a.system ↔ a.measure = b.measure ∨ b.PassesFor a := by
  constructor
  · intro same
    by_cases measures : a.measure = b.measure
    · exact .inl measures
    · exact .inr ⟨same, measures⟩
  · rintro (measures | passes)
    · exact Int64.toInt_inj.mp ((amountIn_spec family).2.2 measures).symm
    · exact passes.1

/-- The two directions find the amounts equal together, or neither does. -/
theorem even_iff (family : a.family = b.family) :
    Even a b ↔ (a.amount = b.amountIn a.system ↔ b.amount = a.amountIn b.system) := by
  rw [amount_eq_iff family, amount_eq_iff family.symm]
  constructor
  · intro even
    rw [even family, eq_comm]
  · rintro agree -
    by_cases measures : a.measure = b.measure
    · exact iff_of_false (fun passes => passes.2 measures.symm) fun passes => passes.2 measures
    · simp only [measures, Ne.symm measures, false_or] at agree
      exact agree.symm

theorem order_eq (family : a.family = b.family) :
    a.order b = if a.amount = b.amountIn a.system then .eq else compare a.measure b.measure := by
  obtain ⟨less, greater, -⟩ := amountIn_spec family
  unfold order
  split
  next same => rw [← same, Int.compare_eq_eq.mpr rfl]
  next different =>
    rcases Int.lt_or_lt_of_ne (mt Int64.toInt_inj.mp different) with below | above
    · rw [Int.compare_eq_lt.mpr below, Int.compare_eq_lt.mpr (less below)]
    · rw [Int.compare_eq_gt.mpr above, Int.compare_eq_gt.mpr (greater above)]

theorem order_mirrored (family : a.family = b.family) (even : Even a b) : b.order a = (a.order b).swap := by
  rw [order_eq family, order_eq family.symm]
  by_cases same : a.amount = b.amountIn a.system
  · rw [if_pos same, if_pos (((even_iff family).mp even).mp same)]
    rfl
  · rw [if_neg same, if_neg (mt ((even_iff family).mp even).mpr same)]
    exact Std.OrientedCmp.eq_swap

theorem same_comm (even : Even a b) : a.same b = b.same a := by
  unfold same
  by_cases family : a.family = b.family
  · have agree := (even_iff family).mp even
    rw [Bool.eq_iff_iff]
    simp only [family, beq_self_eq_true, Bool.true_and, beq_iff_eq, agree]
  · have apart : (b.family == a.family) = false := by simpa using Ne.symm family
    rw [apart, beq_false_of_ne family]
    rfl

end Quantity

end TableScript
