import TableScript.Proofs.Number.Word
import TableScript.Proofs.Operation.Money

set_option autoImplicit false

namespace TableScript

/-- Division with the quotient rounded toward zero: what is left is less than the divisor and has the sign of the
dividend. -/
structure Truncates (dividend divisor quotient rest : Int) : Prop where
  total : rest + divisor * quotient = dividend
  less : rest.natAbs < divisor.natAbs
  positive : 0 ≤ dividend → 0 ≤ rest
  negative : dividend ≤ 0 → rest ≤ 0

/-- There is one such division, unless the divisor is zero. -/
theorem truncates_iff {dividend divisor quotient rest : Int} :
    Truncates dividend divisor quotient rest ↔
      divisor ≠ 0 ∧ quotient = dividend.tdiv divisor ∧ rest = dividend.tmod divisor := by
  constructor
  · intro truncates
    obtain ⟨total, less, positive, negative⟩ := truncates
    have nonzero : divisor ≠ 0 := by omega
    refine ⟨nonzero, ?_⟩
    rcases Int.le_total 0 dividend with above | below
    · have unique := (Int.tdiv_tmod_unique above nonzero).mpr ⟨total, positive above, by omega⟩
      exact ⟨unique.1.symm, unique.2.symm⟩
    · have unique := (Int.tdiv_tmod_unique' below nonzero).mpr ⟨total, by omega, negative below⟩
      exact ⟨unique.1.symm, unique.2.symm⟩
  · rintro ⟨nonzero, rfl, rfl⟩
    have less : (dividend.tmod divisor).natAbs < divisor.natAbs := by
      rw [Int.natAbs_tmod]
      exact Nat.mod_lt _ (Int.natAbs_pos.mpr nonzero)
    refine ⟨Int.tmod_add_mul_tdiv dividend divisor, less, fun above => ?_, fun below => ?_⟩
    · exact ((Int.tdiv_tmod_unique above nonzero).mp ⟨rfl, rfl⟩).2.1
    · exact ((Int.tdiv_tmod_unique' below nonzero).mp ⟨rfl, rfl⟩).2.2

/-- The product of the quotient and the divisor lies between zero and the dividend. -/
theorem Truncates.product_between {dividend divisor quotient rest : Int}
    (truncates : Truncates dividend divisor quotient rest) :
    (0 ≤ dividend → 0 ≤ divisor * quotient ∧ divisor * quotient ≤ dividend) ∧
      (dividend ≤ 0 → dividend ≤ divisor * quotient ∧ divisor * quotient ≤ 0) := by
  have bounded : rest.natAbs ≤ dividend.natAbs := by
    rw [(truncates_iff.mp truncates).2.2, Int.natAbs_tmod]
    exact Nat.mod_le _ _
  obtain ⟨total, -, positive, negative⟩ := truncates
  constructor <;> intro side <;> omega

namespace BinaryOp

/-- The operators that compute with integers. -/
def isArithmetic : BinaryOp → Bool
  | .add | .sub | .mul | .div | .mod => true
  | _ => false

/-- The exact integer that an operator stands for. Where the divisor is zero there is none. -/
inductive Denotes (a b : Int) : BinaryOp → Int → Prop
  | add : Denotes a b .add (a + b)
  | sub : Denotes a b .sub (a - b)
  | mul : Denotes a b .mul (a * b)
  | div {quotient rest : Int} (truncates : Truncates a b quotient rest) : Denotes a b .div quotient
  | mod {quotient rest : Int} (truncates : Truncates a b quotient rest) : Denotes a b .mod rest

section Denotes

variable {a b : Int} (result : Int)

theorem denotes_add : Denotes a b .add result ↔ result = a + b :=
  ⟨fun stands => by cases stands; rfl, fun same => same ▸ .add⟩

theorem denotes_sub : Denotes a b .sub result ↔ result = a - b :=
  ⟨fun stands => by cases stands; rfl, fun same => same ▸ .sub⟩

theorem denotes_mul : Denotes a b .mul result ↔ result = a * b :=
  ⟨fun stands => by cases stands; rfl, fun same => same ▸ .mul⟩

theorem denotes_div : Denotes a b .div result ↔ b ≠ 0 ∧ result = a.tdiv b := by
  constructor
  · intro stands
    cases stands with
    | div truncates =>
      obtain ⟨nonzero, same, -⟩ := truncates_iff.mp truncates
      exact ⟨nonzero, same⟩
  · rintro ⟨nonzero, rfl⟩
    exact .div (truncates_iff.mpr ⟨nonzero, rfl, rfl⟩)

theorem denotes_mod : Denotes a b .mod result ↔ b ≠ 0 ∧ result = a.tmod b := by
  constructor
  · intro stands
    cases stands with
    | mod truncates =>
      obtain ⟨nonzero, -, same⟩ := truncates_iff.mp truncates
      exact ⟨nonzero, same⟩
  · rintro ⟨nonzero, rfl⟩
    exact .mod (truncates_iff.mpr ⟨nonzero, rfl, rfl⟩)

end Denotes

/-- An operator stands for an integer unless it divides by zero. -/
theorem exists_denotes {op : BinaryOp} (arithmetic : op.isArithmetic) (a : Int) {b : Int}
    (divided : ¬ ((op = .div ∨ op = .mod) ∧ b = 0)) : ∃ result, Denotes a b op result := by
  cases op <;> simp only [isArithmetic, Bool.false_eq_true] at arithmetic
  case add => exact ⟨_, .add⟩
  case sub => exact ⟨_, .sub⟩
  case mul => exact ⟨_, .mul⟩
  case div => exact ⟨_, (denotes_div _).mpr ⟨fun zero => divided ⟨.inl rfl, zero⟩, rfl⟩⟩
  case mod => exact ⟨_, (denotes_mod _).mpr ⟨fun zero => divided ⟨.inr rfl, zero⟩, rfl⟩⟩

end BinaryOp

namespace Operation

open BinaryOp (Denotes)
open Word (Fits narrow?)

/-- The remainder of the least word by minus one: it is zero, but the quotient is no word. -/
structure LacksQuotient (op : BinaryOp) (a b : Int64) : Prop where
  remainder : op = .mod
  dividend : a.toInt = Word.least
  divisor : b.toInt = -1

/-- The outcome is the exact integer where that is a word, and where it is none the operator overflows. It overflows
besides only where the quotient for a remainder is no word, and it fails otherwise only for a divisor zero. -/
structure Computes (op : BinaryOp) (a b : Int64) (outcome : Outcome) : Prop where
  exact : ∀ result, Denotes a.toInt b.toInt op result → Fits result → ¬ LacksQuotient op a b →
    ∃ word : Int64, outcome = .ok (.int word) ∧ word.toInt = result
  overflow : FailsWith "OP-0003" outcome ↔
    (∃ result, Denotes a.toInt b.toInt op result ∧ ¬ Fits result) ∨ LacksQuotient op a b
  zero : FailsWith "OP-0002" outcome ↔ (op = .div ∨ op = .mod) ∧ b.toInt = 0

section Outcome

variable {op : BinaryOp} {a b : Int64}

theorem checked_eq_ok (operation : Arithmetic) {result : Int} (fits : Fits result) :
    ∃ word : Int64, checked operation (narrow? result) = .ok (.int word) ∧ word.toInt = result := by
  have narrowed : narrow? result = some (Int64.ofInt result) := (Word.narrow?_eq_some_iff _ _).mpr ⟨fits, rfl⟩
  exact ⟨Int64.ofInt result, by rw [narrowed]; rfl, Word.toInt_of_narrow? _ _ narrowed⟩

theorem checked_eq_error (operation : Arithmetic) {result : Int} (large : ¬ Fits result) :
    checked operation (narrow? result) = .error (.overflow operation) := by
  rw [(Word.narrow?_eq_none_iff result).mpr large]
  rfl

theorem failsWith_error {code : String} (error : EvalError) :
    FailsWith code (.error error) ↔ error.code = code := by
  constructor
  · rintro ⟨_, ⟨⟩, same⟩
    exact same
  · exact fun same => ⟨error, rfl, same⟩

theorem not_failsWith_ok {code : String} (value : Value) : ¬ FailsWith code (.ok value) := nofun

/-- An operator that stands for one integer and checks it. -/
theorem computes_checked (operation : Arithmetic) {result : Int}
    (denotes : ∀ other, Denotes a.toInt b.toInt op other ↔ other = result)
    (divided : ¬ ((op = .div ∨ op = .mod) ∧ b.toInt = 0)) (quotient : ¬ LacksQuotient op a b) :
    Computes op a b (checked operation (narrow? result)) := by
  by_cases fits : Fits result
  · obtain ⟨word, succeeds, same⟩ := checked_eq_ok operation fits
    rw [succeeds]
    refine ⟨fun other stands _ _ => ⟨word, rfl, ?_⟩, ⟨fun fails => ?_, ?_⟩, ⟨fun fails => ?_, fun zero => ?_⟩⟩
    · rw [same, (denotes other).mp stands]
    · exact absurd fails (not_failsWith_ok _)
    · rintro (⟨other, stands, large⟩ | lacks)
      · exact absurd ((denotes other).mp stands ▸ fits) large
      · exact absurd lacks quotient
    · exact absurd fails (not_failsWith_ok _)
    · exact absurd zero divided
  · rw [checked_eq_error operation fits]
    refine ⟨fun other stands small _ => ?_, ⟨fun _ => ?_, fun _ => ⟨_, rfl, rfl⟩⟩, ⟨fun fails => ?_, fun zero => ?_⟩⟩
    · exact absurd ((denotes other).mp stands ▸ small) fits
    · exact .inl ⟨result, (denotes result).mpr rfl, fits⟩
    · exact absurd ((failsWith_error _).mp fails) (by simp [EvalError.code])
    · exact absurd zero divided

/-- A divisor zero is refused before anything is computed. -/
theorem computes_zero (error : EvalError) (code : error.code = "OP-0002") (divides : op = .div ∨ op = .mod)
    (zero : b.toInt = 0) : Computes op a b (.error error) := by
  have undivided : ∀ result, ¬ Denotes a.toInt b.toInt op result := by
    intro result stands
    cases stands with
    | div truncates => exact (truncates_iff.mp truncates).1 zero
    | mod truncates => exact (truncates_iff.mp truncates).1 zero
    | _ => simp at divides
  refine ⟨fun result stands => absurd stands (undivided result), ⟨fun fails => ?_, ?_⟩, ?_⟩
  · rw [failsWith_error, code] at fails
    exact absurd fails (by decide)
  · rintro (⟨result, stands, -⟩ | lacks)
    · exact absurd stands (undivided result)
    · exact absurd lacks.divisor (by omega)
  · exact iff_of_true ⟨error, rfl, code⟩ ⟨divides, zero⟩

/-- The quotient of two words is a word, but for that of the least one by minus one. -/
theorem fits_quotient_iff {quotient rest : Int} (truncates : Truncates a.toInt b.toInt quotient rest) :
    Fits quotient ↔ ¬ (a.toInt = Word.least ∧ b.toInt = -1) := by
  have size : quotient.natAbs = a.toInt.natAbs / b.toInt.natAbs := by
    rw [(truncates_iff.mp truncates).2.1, Int.natAbs_tdiv]
    rfl
  obtain ⟨low, high⟩ := Word.fits_toInt a
  obtain ⟨total, less, -, -⟩ := truncates
  unfold Fits Word.least Word.greatest at *
  by_cases unit : b.toInt.natAbs = 1
  · rcases Int.natAbs_eq_iff.mp unit with one | minus
    · rw [one] at total ⊢
      omega
    · rw [minus] at total ⊢
      omega
  · have half : quotient.natAbs ≤ a.toInt.natAbs / 2 := by
      rw [size]
      exact Nat.div_le_div_left (by omega) (by decide)
    omega

theorem fits_product {quotient rest : Int} (truncates : Truncates a.toInt b.toInt quotient rest) :
    Fits (quotient * b.toInt) := by
  have product := truncates.product_between
  obtain ⟨low, high⟩ := Word.fits_toInt a
  rw [Int.mul_comm]
  unfold Fits Word.least Word.greatest at *
  omega

theorem binary_div (nonzero : b.toInt ≠ 0) :
    binary (.int a) (.int b) .div = checked .division (narrow? (a.toInt.tdiv b.toInt)) := by
  have divisor : b ≠ 0 := fun zero => nonzero (by rw [zero]; rfl)
  change (if b = 0 then .error .divisionByZero else checked .division (Word.div? a b)) = _
  rw [if_neg divisor, Word.div?, if_neg nonzero]

/-- The remainder is refused with the quotient. -/
theorem binary_mod (nonzero : b.toInt ≠ 0) :
    binary (.int a) (.int b) .mod =
      if Fits (a.toInt.tdiv b.toInt) then checked .remainder (narrow? (a.toInt.tmod b.toInt))
      else .error (.overflow .remainder) := by
  have divisor : b ≠ 0 := fun zero => nonzero (by rw [zero]; rfl)
  change (if b = 0 then .error .moduloByZero else checked .remainder (Word.rem? a b)) = _
  rw [if_neg divisor, Word.rem?, Word.div?, if_neg nonzero, narrow?]
  split <;> rfl

theorem computes_quotient (a b : Int64) : Computes .div a b (binary (.int a) (.int b) .div) := by
  by_cases zero : b.toInt = 0
  · obtain rfl : b = 0 := Int64.toInt.inj (zero.trans Int64.toInt_zero.symm)
    exact computes_zero .divisionByZero rfl (.inl rfl) zero
  · rw [binary_div zero]
    refine computes_checked .division (fun other => ?_) (fun divided => zero divided.2) nofun
    rw [BinaryOp.denotes_div, and_iff_right zero]

theorem computes_rest (a b : Int64) : Computes .mod a b (binary (.int a) (.int b) .mod) := by
  by_cases zero : b.toInt = 0
  · obtain rfl : b = 0 := Int64.toInt.inj (zero.trans Int64.toInt_zero.symm)
    exact computes_zero .moduloByZero rfl (.inr rfl) zero
  have truncates : Truncates a.toInt b.toInt _ _ := truncates_iff.mpr ⟨zero, rfl, rfl⟩
  have fits := fits_quotient_iff truncates
  rw [binary_mod zero]
  split
  next small =>
    refine computes_checked .remainder (fun other => ?_) (fun divided => zero divided.2) fun lacks => ?_
    · rw [BinaryOp.denotes_mod, and_iff_right zero]
    · exact fits.mp small ⟨lacks.dividend, lacks.divisor⟩
  next large =>
    obtain ⟨dividend, divisor⟩ := Decidable.not_not.mp (mt fits.mpr large)
    have lacks : LacksQuotient .mod a b := ⟨rfl, dividend, divisor⟩
    refine ⟨fun _ _ _ present => absurd lacks present, iff_of_true ⟨_, rfl, rfl⟩ (.inr lacks), ?_⟩
    refine iff_of_false (fun fails => ?_) fun divided => zero divided.2
    exact absurd ((failsWith_error _).mp fails) (by decide)

theorem computes (a b : Int64) {op : BinaryOp} (arithmetic : op.isArithmetic) :
    Computes op a b (binary (.int a) (.int b) op) := by
  cases op <;> simp only [BinaryOp.isArithmetic, Bool.false_eq_true] at arithmetic
  case add => exact computes_checked .addition BinaryOp.denotes_add (by simp) nofun
  case sub => exact computes_checked .subtraction BinaryOp.denotes_sub (by simp) nofun
  case mul => exact computes_checked .multiplication BinaryOp.denotes_mul (by simp) nofun
  case div => exact computes_quotient a b
  case mod => exact computes_rest a b

/-- What succeeds is the integer that the operator stands for. -/
theorem denotes_of_ok (arithmetic : op.isArithmetic) {value : Value}
    (succeeds : binary (.int a) (.int b) op = .ok value) :
    ∃ word : Int64, value = .int word ∧ Denotes a.toInt b.toInt op word.toInt := by
  obtain ⟨exact, overflow, zero⟩ := succeeds ▸ computes a b arithmetic
  obtain ⟨result, stands⟩ := BinaryOp.exists_denotes arithmetic a.toInt
    fun divided => not_failsWith_ok value (zero.mpr divided)
  have fits : Fits result := by
    by_contra large
    exact not_failsWith_ok value (overflow.mpr (.inl ⟨result, stands, large⟩))
  obtain ⟨word, ⟨⟩, rfl⟩ := exact result stands fits
    fun lacks => not_failsWith_ok value (overflow.mpr (.inr lacks))
  exact ⟨word, rfl, stands⟩

/-- A quotient and what is left beside it make up the dividend, and no step overflows. -/
theorem dividend_made_up {quotient rest : Value} (divides : binary (.int a) (.int b) .div = .ok quotient)
    (leaves : binary (.int a) (.int b) .mod = .ok rest) :
    ∃ product, binary quotient (.int b) .mul = .ok product ∧ binary product rest .add = .ok (.int a) := by
  obtain ⟨q, rfl, isQuotient⟩ := denotes_of_ok rfl divides
  obtain ⟨r, rfl, isRest⟩ := denotes_of_ok rfl leaves
  obtain ⟨nonzero, quotientIs⟩ := (BinaryOp.denotes_div _).mp isQuotient
  obtain ⟨-, restIs⟩ := (BinaryOp.denotes_mod _).mp isRest
  have truncates : Truncates a.toInt b.toInt q.toInt r.toInt := truncates_iff.mpr ⟨nonzero, quotientIs, restIs⟩
  obtain ⟨product, multiplies, productIs⟩ := checked_eq_ok .multiplication (fits_product truncates)
  refine ⟨.int product, multiplies, ?_⟩
  have total : product.toInt + r.toInt = a.toInt := by
    rw [productIs, Int.mul_comm, Int.add_comm]
    exact truncates.total
  change checked .addition (narrow? (product.toInt + r.toInt)) = _
  rw [total, Word.narrow?_toInt]
  rfl

end Outcome

/-- On integers, every operator gives the exact integer where that is a word, overflows where it is not, and is refused
for a divisor zero. Besides, the remainder of the least word by minus one overflows, which is zero; nothing else fails.
A quotient times the divisor and the remainder added to it are the dividend, if both are given. -/
theorem integers_exact (a b : Int64) :
    (∀ op : BinaryOp, op.isArithmetic → Computes op a b (binary (.int a) (.int b) op)) ∧
    ∀ quotient rest, binary (.int a) (.int b) .div = .ok quotient → binary (.int a) (.int b) .mod = .ok rest →
      ∃ product, binary quotient (.int b) .mul = .ok product ∧ binary product rest .add = .ok (.int a) :=
  ⟨fun _ => computes a b, fun _ _ => dividend_made_up⟩

/-- Seven less than nothing, halved: three less, and one less remains. -/
theorem integers_exact_of_debt :
    (BinaryOp.isArithmetic .mod ∧ Denotes (-7) 2 .mod (-1) ∧ Fits (-1) ∧ ¬ LacksQuotient .mod (-7) 2 ∧
      ∃ word : Int64, binary (.int (-7)) (.int 2) .mod = .ok (.int word) ∧ word.toInt = -1) ∧
    binary (.int (-7)) (.int 2) .div = .ok (.int (-3)) ∧ binary (.int (-7)) (.int 2) .mod = .ok (.int (-1)) ∧
      ∃ product, binary (.int (-3)) (.int 2) .mul = .ok product ∧
        binary product (.int (-1)) .add = .ok (.int (-7)) := by
  have truncates : Truncates (-7) 2 (-3) (-1) := ⟨by decide, by decide, by decide, by decide⟩
  have present : ¬ LacksQuotient .mod (-7) 2 := fun lacks => absurd lacks.divisor (by decide)
  have divides : binary (.int (-7)) (.int 2) .div = .ok (.int (-3)) := by rfl
  have leaves : binary (.int (-7)) (.int 2) .mod = .ok (.int (-1)) := by rfl
  obtain ⟨computed, madeUp⟩ := integers_exact (-7) 2
  refine ⟨⟨rfl, .mod truncates, by decide, present, ?_⟩, divides, leaves, madeUp _ _ divides leaves⟩
  exact (computed .mod rfl).exact (-1) (.mod truncates) (by decide) present

/-- The remainder of the least word by minus one is zero, which is a word, and it overflows. -/
theorem rest_of_least_overflows :
    let least : Int64 := -9223372036854775808
    let minusOne : Int64 := -1
    Denotes least.toInt minusOne.toInt .mod 0 ∧ Fits 0 ∧
      binary (.int least) (.int minusOne) .mod = .error (.overflow .remainder) ∧
      FailsWith "OP-0003" (binary (.int least) (.int minusOne) .mod) := by
  intro least minusOne
  have truncates : Truncates least.toInt minusOne.toInt 9223372036854775808 0 :=
    ⟨by decide, by decide, by decide, by decide⟩
  exact ⟨.mod truncates, by decide, by rfl, _, rfl, rfl⟩

end Operation

end TableScript
