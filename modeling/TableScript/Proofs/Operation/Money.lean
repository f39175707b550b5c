import Mathlib.Algebra.Order.Ring.Cast
import Mathlib.Tactic.Ring
import TableScript.Operation.Binary
import TableScript.Proofs.Money.Value

set_option autoImplicit false

namespace TableScript

/-- Whether the comparison holds of two numbers. -/
def BinaryOp.Holds : BinaryOp → ℚ → ℚ → Prop
  | .eq, x, y => x = y
  | .notEq, x, y => x ≠ y
  | .lt, x, y => x < y
  | .ltEq, x, y => x ≤ y
  | .gt, x, y => y < x
  | .gtEq, x, y => y ≤ x
  | _, _, _ => False

theorem BinaryOp.holds_mul (op : BinaryOp) (x y factor : ℚ) (positive : 0 < factor) :
    op.Holds (x * factor) (y * factor) ↔ op.Holds x y := by
  cases op <;> simp [Holds, mul_lt_mul_iff_of_pos_right positive, mul_le_mul_iff_of_pos_right positive,
    mul_left_inj' positive.ne']

namespace Operation

open Money (Writable)

/-- The outcome is an error with the code. -/
def FailsWith (code : String) (outcome : Outcome) : Prop := ∃ error, outcome = .error error ∧ error.code = code

/-- Both amounts can be written at the larger of the two scales. -/
def Meets (a b : Money) : Prop :=
  Writable a.value (max a.scale b.scale) ∧ Writable b.value (max a.scale b.scale)

/-- The outcome is the number as an amount at the larger of the two scales, and an overflow if one of the
operands or the number cannot be written there. -/
structure GivesExactly (a b : Money) (number : ℚ) (outcome : Outcome) : Prop where
  written : Meets a b → Writable number (max a.scale b.scale) →
    ∃ total : Money, outcome = .ok (.money total) ∧ total.currency = a.currency ∧
      total.scale = max a.scale b.scale ∧ total.value = number
  refused : ¬ (Meets a b ∧ Writable number (max a.scale b.scale)) → FailsWith "OP-0003" outcome

/-- All comparisons are answered as the numbers compare, or none is. -/
structure ComparesExactly (a b : Money) : Prop where
  answered : Meets a b → ∀ op : BinaryOp, op.isComparison → ∃ answer,
    binary (.money a) (.money b) op = .ok (.bool answer) ∧ (answer ↔ op.Holds a.value b.value)
  refused : ¬ Meets a b → ∀ op : BinaryOp, op.isComparison →
    FailsWith "OP-0003" (binary (.money a) (.money b) op)

theorem binary_money (a b : Money) (op : BinaryOp) (plain : op = .add ∨ op = .sub ∨ op.isComparison) :
    binary (.money a) (.money b) op = moneys a b op := by
  cases op <;> first | rfl | simp [BinaryOp.isComparison] at plain

theorem moneyResult_exact (operation : Arithmetic) (currency : String) (scale : Nat) (amount : Int)
    (number : ℚ) (exact : number * 10 ^ scale = amount) :
    (Writable number scale →
      ∃ total : Money, moneyResult operation ⟨0, currency, scale⟩ (Word.narrow? amount) = .ok (.money total) ∧
        total.currency = currency ∧ total.scale = scale ∧ total.value = number) ∧
    (¬ Writable number scale →
      FailsWith "OP-0003" (moneyResult operation ⟨0, currency, scale⟩ (Word.narrow? amount))) := by
  rw [Money.writable_iff_fits exact]
  constructor
  · intro fits
    have narrowed := (Word.narrow?_eq_some_iff amount _).mpr ⟨fits, rfl⟩
    refine ⟨⟨Int64.ofInt amount, currency, scale⟩, by rw [narrowed]; rfl, rfl, rfl, ?_⟩
    rw [Money.value, Word.toInt_of_narrow? _ _ narrowed, ← exact]
    field_simp
  · intro overflows
    rw [(Word.narrow?_eq_none_iff amount).mpr overflows]
    exact ⟨.overflow operation, rfl, rfl⟩

section Met

variable {a b : Money} {left right : Int64}

theorem moneys_add (same : a.currency = b.currency) (reachesA : a.amountAt? (max a.scale b.scale) = some left)
    (reachesB : b.amountAt? (max a.scale b.scale) = some right) :
    moneys a b .add =
      moneyResult .addition ⟨0, a.currency, max a.scale b.scale⟩ (Word.narrow? (left.toInt + right.toInt)) := by
  simp [moneys, same, reachesA, reachesB, Word.add?]

theorem moneys_sub (same : a.currency = b.currency) (reachesA : a.amountAt? (max a.scale b.scale) = some left)
    (reachesB : b.amountAt? (max a.scale b.scale) = some right) :
    moneys a b .sub =
      moneyResult .subtraction ⟨0, a.currency, max a.scale b.scale⟩
        (Word.narrow? (left.toInt - right.toInt)) := by
  simp [moneys, same, reachesA, reachesB, Word.sub?]

theorem moneys_comparison (same : a.currency = b.currency)
    (reachesA : a.amountAt? (max a.scale b.scale) = some left)
    (reachesB : b.amountAt? (max a.scale b.scale) = some right) (op : BinaryOp) (comparison : op.isComparison) :
    ∃ answer, moneys a b op = .ok (.bool answer) ∧ (answer ↔ op.Holds left.toInt right.toInt) := by
  cases op <;> simp [BinaryOp.isComparison] at comparison <;>
    simp [moneys, same, reachesA, reachesB, truth, BinaryOp.Holds, Int64.toInt_inj]

end Met

theorem moneys_missed (a b : Money) (op : BinaryOp) (same : a.currency = b.currency)
    (missed : ¬ ((a.amountAt? (max a.scale b.scale)).isSome ∧ (b.amountAt? (max a.scale b.scale)).isSome)) :
    moneys a b op = .error (.overflow .currencyScaling) := by
  simp only [moneys, same, ne_eq, not_true_eq_false, ↓reduceIte]
  cases reachesA : a.amountAt? (max a.scale b.scale) with
  | none => rfl
  | some left =>
    cases reachesB : b.amountAt? (max a.scale b.scale) with
    | none => rfl
    | some right => exact absurd ⟨by simp [reachesA], by simp [reachesB]⟩ missed

/-- Where the larger scale is reached, zero or not, the numbers are those of the amounts. -/
theorem reaches_or_missed (a b : Money) :
    (∃ left right, a.amountAt? (max a.scale b.scale) = some left ∧
      b.amountAt? (max a.scale b.scale) = some right ∧
      (left.toInt : ℚ) = a.value * 10 ^ max a.scale b.scale ∧
      (right.toInt : ℚ) = b.value * 10 ^ max a.scale b.scale) ∨
    ¬ ((a.amountAt? (max a.scale b.scale)).isSome ∧ (b.amountAt? (max a.scale b.scale)).isSome) := by
  by_cases reaches : (a.amountAt? (max a.scale b.scale)).isSome ∧ (b.amountAt? (max a.scale b.scale)).isSome
  · obtain ⟨left, reachesA⟩ := Option.isSome_iff_exists.mp reaches.1
    obtain ⟨right, reachesB⟩ := Option.isSome_iff_exists.mp reaches.2
    exact .inl ⟨left, right, reachesA, reachesB, a.toInt_eq_value_mul _ (Nat.le_max_left _ _) _ reachesA,
      b.toInt_eq_value_mul _ (Nat.le_max_right _ _) _ reachesB⟩
  · exact .inr reaches

theorem meets_iff (a b : Money) (nonzeroA : a.amount ≠ 0) (nonzeroB : b.amount ≠ 0) :
    Meets a b ↔ (a.amountAt? (max a.scale b.scale)).isSome ∧ (b.amountAt? (max a.scale b.scale)).isSome := by
  have apart (m : Money) (nonzero : m.amount ≠ 0) : m.amount.toInt ≠ 0 :=
    fun zero => nonzero (Int64.toInt_inj.mp zero)
  rw [Meets, a.writable_iff_isSome _ (apart a nonzeroA) (Nat.le_max_left _ _),
    b.writable_iff_isSome _ (apart b nonzeroB) (Nat.le_max_right _ _)]

section Nonzero

variable {a b : Money}

/-- An operation that combines the two amounts at the larger scale gives the number that they combine to. -/
theorem givesExactly_of (nonzeroA : a.amount ≠ 0) (nonzeroB : b.amount ≠ 0) (same : a.currency = b.currency)
    (op : BinaryOp) (operation : Arithmetic) (combine : Int → Int → Int) (number : ℚ)
    (combines : ∀ left right, a.amountAt? (max a.scale b.scale) = some left →
      b.amountAt? (max a.scale b.scale) = some right →
      moneys a b op = moneyResult operation ⟨0, a.currency, max a.scale b.scale⟩
        (Word.narrow? (combine left.toInt right.toInt)))
    (exact : ∀ left right : Int, (left : ℚ) = a.value * 10 ^ max a.scale b.scale →
      (right : ℚ) = b.value * 10 ^ max a.scale b.scale →
      number * 10 ^ max a.scale b.scale = combine left right) :
    GivesExactly a b number (moneys a b op) := by
  have meets := meets_iff a b nonzeroA nonzeroB
  obtain ⟨left, right, reachesA, reachesB, leftIs, rightIs⟩ | missed := reaches_or_missed a b
  · have met : Meets a b := meets.mpr ⟨by simp [reachesA], by simp [reachesB]⟩
    rw [combines left right reachesA reachesB]
    obtain ⟨written, refused⟩ :=
      moneyResult_exact operation a.currency _ _ number (exact _ _ leftIs rightIs)
    exact ⟨fun _ => written, fun fails => refused fun writable => fails ⟨met, writable⟩⟩
  · rw [moneys_missed a b op same missed]
    exact ⟨fun met => absurd (meets.mp met) missed, fun _ => ⟨_, rfl, rfl⟩⟩

theorem add_givesExactly (nonzeroA : a.amount ≠ 0) (nonzeroB : b.amount ≠ 0) (same : a.currency = b.currency) :
    GivesExactly a b (a.value + b.value) (moneys a b .add) := by
  apply givesExactly_of nonzeroA nonzeroB same .add .addition (· + ·)
  · intro left right reachesA reachesB
    exact moneys_add same reachesA reachesB
  · intro left right leftIs rightIs
    rw [Int.cast_add, leftIs, rightIs, add_mul]

theorem sub_givesExactly (nonzeroA : a.amount ≠ 0) (nonzeroB : b.amount ≠ 0) (same : a.currency = b.currency) :
    GivesExactly a b (a.value - b.value) (moneys a b .sub) := by
  apply givesExactly_of nonzeroA nonzeroB same .sub .subtraction (· - ·)
  · intro left right reachesA reachesB
    exact moneys_sub same reachesA reachesB
  · intro left right leftIs rightIs
    rw [Int.cast_sub, leftIs, rightIs, sub_mul]

theorem comparesExactly (nonzeroA : a.amount ≠ 0) (nonzeroB : b.amount ≠ 0) (same : a.currency = b.currency) :
    ComparesExactly a b := by
  have meets := meets_iff a b nonzeroA nonzeroB
  obtain ⟨left, right, reachesA, reachesB, leftIs, rightIs⟩ | missed := reaches_or_missed a b
  · refine ⟨fun _ op comparison => ?_, fun fails => ?_⟩
    · obtain ⟨answer, answered, holds⟩ := moneys_comparison same reachesA reachesB op comparison
      refine ⟨answer, (binary_money a b op (.inr (.inr comparison))).trans answered, ?_⟩
      rw [holds, leftIs, rightIs]
      exact op.holds_mul a.value b.value _ (pow_pos Nat.ofNat_pos _)
    · exact absurd (meets.mpr ⟨by simp [reachesA], by simp [reachesB]⟩) fails
  · refine ⟨fun met => absurd (meets.mp met) missed, fun _ op comparison => ?_⟩
    rw [binary_money a b op (.inr (.inr comparison)), moneys_missed a b op same missed]
    exact ⟨_, rfl, rfl⟩

end Nonzero

/-- Swapping the summands changes neither the sum nor the failure. -/
theorem moneys_add_comm (a b : Money) (same : a.currency = b.currency) :
    moneys a b .add = moneys b a .add := by
  simp only [moneys, same, ne_eq, not_true_eq_false, ↓reduceIte, Nat.max_comm b.scale a.scale]
  cases a.amountAt? (max a.scale b.scale) with
  | none => cases b.amountAt? (max a.scale b.scale) <;> rfl
  | some left =>
    cases b.amountAt? (max a.scale b.scale) with
    | none => rfl
    | some right => simp only [Word.add?, Int.add_comm]

/-- A sum that succeeds is exact, also where an amount is zero. -/
theorem eq_of_moneys_add {a b : Money} {outcome : Value} (succeeds : moneys a b .add = .ok outcome) :
    ∃ total : Money, outcome = .money total ∧ a.currency = b.currency ∧ total.currency = a.currency ∧
      total.scale = max a.scale b.scale ∧ total.value = a.value + b.value := by
  have same : a.currency = b.currency := by
    apply Decidable.byContradiction
    intro different
    simp [moneys, different] at succeeds
  obtain ⟨left, right, reachesA, reachesB, leftIs, rightIs⟩ | missed := reaches_or_missed a b
  · have exact : (a.value + b.value) * 10 ^ max a.scale b.scale = (left.toInt + right.toInt : Int) := by
      rw [Int.cast_add, leftIs, rightIs, add_mul]
    rw [moneys_add same reachesA reachesB] at succeeds
    obtain ⟨written, refused⟩ := moneyResult_exact .addition a.currency _ _ _ exact
    by_cases writable : Writable (a.value + b.value) (max a.scale b.scale)
    · obtain ⟨total, sum, currency, scale, value⟩ := written writable
      exact ⟨total, Except.ok.inj (succeeds.symm.trans sum), same, currency, scale, value⟩
    · obtain ⟨error, fails, -⟩ := refused writable
      cases succeeds.symm.trans fails
  · rw [moneys_missed a b .add same missed] at succeeds
    cases succeeds

theorem moneys_add_assoc {a b c ab bc : Money} {left right : Value} (first : moneys a b .add = .ok (.money ab))
    (leftSum : moneys ab c .add = .ok left) (second : moneys b c .add = .ok (.money bc))
    (rightSum : moneys a bc .add = .ok right) : left = right := by
  obtain ⟨total, ⟨⟩, -, currencyAB, scaleAB, valueAB⟩ := eq_of_moneys_add first
  obtain ⟨total, ⟨⟩, -, currencyBC, scaleBC, valueBC⟩ := eq_of_moneys_add second
  obtain ⟨totalLeft, rfl, -, currencyLeft, scaleLeft, valueLeft⟩ := eq_of_moneys_add leftSum
  obtain ⟨totalRight, rfl, -, currencyRight, scaleRight, valueRight⟩ := eq_of_moneys_add rightSum
  have currency : totalLeft.currency = totalRight.currency := by rw [currencyLeft, currencyAB, currencyRight]
  have scale : totalLeft.scale = totalRight.scale := by
    rw [scaleLeft, scaleAB, scaleRight, scaleBC, Nat.max_assoc]
  have value : totalLeft.value = totalRight.value := by
    rw [valueLeft, valueAB, valueRight, valueBC, add_assoc]
  rw [Money.eq_of_value currency scale value]

theorem moneys_of_currencies (a b : Money) (op : BinaryOp) (different : a.currency ≠ b.currency) :
    moneys a b op = .error (.currencies a.currency b.currency) := by
  rw [moneys, if_pos different]

/-- On amounts other than zero of one currency, sums and differences are written exactly at the larger scale
or overflow, and comparisons are those of the numbers. Sums of one currency may be swapped, and two ways to add
three amounts that both succeed have the same result. Amounts of two currencies have neither. -/
theorem money_operators_exact (a b : Money) :
    (a.currency = b.currency → a.amount ≠ 0 → b.amount ≠ 0 →
      GivesExactly a b (a.value + b.value) (binary (.money a) (.money b) .add) ∧
        GivesExactly a b (a.value - b.value) (binary (.money a) (.money b) .sub) ∧ ComparesExactly a b) ∧
    (a.currency = b.currency → binary (.money a) (.money b) .add = binary (.money b) (.money a) .add) ∧
    (∀ c ab bc left right, binary (.money a) (.money b) .add = .ok (.money ab) →
      binary (.money ab) (.money c) .add = .ok left → binary (.money b) (.money c) .add = .ok (.money bc) →
      binary (.money a) (.money bc) .add = .ok right → left = right) ∧
    (a.currency ≠ b.currency → ∀ op : BinaryOp, op = .add ∨ op = .sub ∨ op.isComparison →
      FailsWith "OP-0019" (binary (.money a) (.money b) op)) := by
  refine ⟨fun same nonzeroA nonzeroB => ?_, fun same => ?_, ?_, fun different op plain => ?_⟩
  · exact ⟨add_givesExactly nonzeroA nonzeroB same, sub_givesExactly nonzeroA nonzeroB same,
      comparesExactly nonzeroA nonzeroB same⟩
  · exact moneys_add_comm a b same
  · intro c ab bc left right first leftSum second rightSum
    exact moneys_add_assoc first leftSum second rightSum
  · rw [binary_money a b op plain, moneys_of_currencies a b op different]
    exact ⟨_, rfl, rfl⟩

/-- A dollar and a half, less the twentieth part of a cent, and two dollars; and one euro. -/
theorem money_operators_exact_across_scales :
    let a : Money := ⟨150, "USD", 2⟩
    let b : Money := ⟨-5, "USD", 4⟩
    let euro : Money := ⟨1, "EUR", 0⟩
    (a.currency = b.currency ∧ a.amount ≠ 0 ∧ b.amount ≠ 0) ∧
      GivesExactly a b (a.value + b.value) (.ok (.money ⟨14995, "USD", 4⟩)) ∧
      GivesExactly a b (a.value - b.value) (.ok (.money ⟨15005, "USD", 4⟩)) ∧ ComparesExactly a b ∧
      binary (.money b) (.money a) .add = .ok (.money ⟨14995, "USD", 4⟩) ∧
      binary (.money ⟨14995, "USD", 4⟩) (.money ⟨2, "USD", 0⟩) .add =
        binary (.money a) (.money ⟨19995, "USD", 4⟩) .add ∧
      FailsWith "OP-0019" (binary (.money a) (.money euro) .gtEq) := by
  have first : binary (.money ⟨150, "USD", 2⟩) (.money ⟨-5, "USD", 4⟩) .add =
      .ok (.money ⟨14995, "USD", 4⟩) := by rfl
  have less : binary (.money ⟨150, "USD", 2⟩) (.money ⟨-5, "USD", 4⟩) .sub =
      .ok (.money ⟨15005, "USD", 4⟩) := by rfl
  have second : binary (.money ⟨-5, "USD", 4⟩) (.money ⟨2, "USD", 0⟩) .add =
      .ok (.money ⟨19995, "USD", 4⟩) := by rfl
  have left : binary (.money ⟨14995, "USD", 4⟩) (.money ⟨2, "USD", 0⟩) .add =
      .ok (.money ⟨34995, "USD", 4⟩) := by rfl
  have right : binary (.money ⟨150, "USD", 2⟩) (.money ⟨19995, "USD", 4⟩) .add =
      .ok (.money ⟨34995, "USD", 4⟩) := by rfl
  intro a b euro
  obtain ⟨exact, swaps, associates, -⟩ := money_operators_exact a b
  obtain ⟨sum, difference, compares⟩ := exact rfl (by decide) (by decide)
  have regrouped := associates _ _ _ _ _ first left second right
  refine ⟨⟨rfl, by decide, by decide⟩, first ▸ sum, less ▸ difference, compares, ?_, ?_, ?_⟩
  · exact (swaps rfl).symm.trans first
  · exact (left.trans (congrArg Except.ok regrouped)).trans right.symm
  · exact (money_operators_exact a euro).2.2.2 (by decide) .gtEq (.inr (.inr rfl))

end Operation

end TableScript
