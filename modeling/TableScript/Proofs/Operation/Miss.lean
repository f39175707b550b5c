import TableScript.Operation.Binary
import TableScript.Operation.Position

set_option autoImplicit false

namespace TableScript

/-- A position or a pair of positions that names no part of a sequence. -/
def EvalError.isMiss : EvalError → Bool
  | .indexRange .. => true
  | .sliceOrder .. => true
  | _ => false

theorem EvalError.isMiss_iff (error : EvalError) :
    error.isMiss = true ↔ error.code = "INDEX-0001" ∨ error.code = "INDEX-0003" := by
  cases error <;> simp [isMiss, code]

/-- The outcome is no miss. -/
def NeverMisses {α : Type} (outcome : Except EvalError α) : Prop :=
  ∀ error, outcome = .error error → error.isMiss = false

section Outcomes

variable {α β : Type}

@[simp] theorem neverMisses_ok (value : α) : NeverMisses (.ok value) := by
  intro error failed
  cases failed

@[simp] theorem neverMisses_pure (value : α) : NeverMisses (pure value) := neverMisses_ok value

@[simp] theorem neverMisses_error (error : EvalError) :
    NeverMisses (.error error : Except EvalError α) ↔ error.isMiss = false := by
  constructor
  · intro harmless
    exact harmless error rfl
  · intro harmless other failed
    cases failed
    exact harmless

@[simp] theorem neverMisses_throw (error : EvalError) :
    NeverMisses (throw error : Except EvalError α) ↔ error.isMiss = false := neverMisses_error error

theorem NeverMisses.bind {outcome : Except EvalError α} {next : α → Except EvalError β}
    (first : NeverMisses outcome) (rest : ∀ value, NeverMisses (next value)) :
    NeverMisses (outcome >>= next) := by
  cases outcome with
  | error error => exact (neverMisses_error error).mpr (first error rfl)
  | ok value => exact rest value

theorem NeverMisses.map {outcome : Except EvalError α} (first : NeverMisses outcome) (f : α → β) :
    NeverMisses (outcome.map f) := by
  cases outcome with
  | error error => exact (neverMisses_error error).mpr (first error rfl)
  | ok value => exact neverMisses_ok (f value)

theorem NeverMisses.mapM {f : α → Except EvalError β} (each : ∀ item, NeverMisses (f item))
    (items : List α) : NeverMisses (items.mapM f) := by
  induction items with
  | nil => exact neverMisses_ok []
  | cons item rest ih =>
      rw [List.mapM_cons]
      exact (each item).bind fun value => ih.bind fun values => neverMisses_ok _

theorem NeverMisses.foldlM {f : β → α → Except EvalError β} (each : ∀ total item, NeverMisses (f total item))
    (items : List α) (start : β) : NeverMisses (items.foldlM f start) := by
  induction items generalizing start with
  | nil => exact neverMisses_ok start
  | cons item rest ih =>
      rw [List.foldlM_cons]
      exact (each start item).bind fun total => ih total

end Outcomes

namespace Operation

@[simp] theorem checked_neverMisses (operation : Arithmetic) (result : Option Int64) :
    NeverMisses (checked operation result) := by
  cases result <;> simp [EvalError.isMiss, checked]

@[simp] theorem truth_neverMisses (value : Bool) : NeverMisses (truth value) := neverMisses_ok _

@[simp] theorem moneyResult_neverMisses (operation : Arithmetic) (model : Money)
    (result : Option Int64) : NeverMisses (moneyResult operation model result) := by
  cases result <;> simp [EvalError.isMiss, moneyResult]

@[simp] theorem quantityResult_neverMisses (operation : Arithmetic) (model : Quantity)
    (result : Option Int64) : NeverMisses (quantityResult operation model result) := by
  cases result <;> simp [EvalError.isMiss, quantityResult]

theorem integers_neverMisses (a b : Int64) (op : BinaryOp) : NeverMisses (integers a b op) := by
  unfold integers
  repeat' split
  all_goals simp [EvalError.isMiss]

theorem floats_neverMisses (a b : Double) (op : BinaryOp) : NeverMisses (floats a b op) := by
  unfold floats
  repeat' split
  all_goals simp [EvalError.isMiss]

theorem texts_neverMisses (a b : String) (op : BinaryOp) : NeverMisses (texts a b op) := by
  unfold texts
  split <;> simp [EvalError.isMiss]

theorem moneys_neverMisses (a b : Money) (op : BinaryOp) : NeverMisses (moneys a b op) := by
  simp only [moneys]
  repeat' split
  all_goals simp [EvalError.isMiss]

theorem moneyTimes_neverMisses (m : Money) (scalar : Value) : NeverMisses (moneyTimes m scalar) := by
  unfold moneyTimes
  split <;> simp [EvalError.isMiss]

theorem moneyOver_neverMisses (m : Money) (divisor : Double) : NeverMisses (moneyOver m divisor) := by
  unfold moneyOver
  split <;> simp [EvalError.isMiss]

theorem moneyScalar_neverMisses (m : Money) (scalar : Value) (op : BinaryOp) :
    NeverMisses (moneyScalar m scalar op) := by
  unfold moneyScalar
  repeat' split
  all_goals simp [EvalError.isMiss, moneyTimes_neverMisses, moneyOver_neverMisses]

theorem scalarMoney_neverMisses (scalar : Value) (m : Money) (op : BinaryOp) :
    NeverMisses (scalarMoney scalar m op) := by
  unfold scalarMoney
  split <;> simp [EvalError.isMiss, moneyTimes_neverMisses]

theorem quantityRatio_neverMisses (left right : Int64) : NeverMisses (quantityRatio left right) := by
  unfold quantityRatio
  repeat' split
  all_goals simp [EvalError.isMiss]

theorem quantities_neverMisses (a b : Quantity) (op : BinaryOp) : NeverMisses (quantities a b op) := by
  unfold quantities
  repeat' split
  all_goals simp [EvalError.isMiss, quantityRatio_neverMisses]

theorem quantityTimes_neverMisses (q : Quantity) (scalar : Value) :
    NeverMisses (quantityTimes q scalar) := by
  unfold quantityTimes
  split <;> simp [EvalError.isMiss]

theorem quantityOver_neverMisses (q : Quantity) (divisor : Double) :
    NeverMisses (quantityOver q divisor) := by
  unfold quantityOver
  split <;> simp [EvalError.isMiss]

theorem quantityScalar_neverMisses (q : Quantity) (scalar : Value) (op : BinaryOp) :
    NeverMisses (quantityScalar q scalar op) := by
  unfold quantityScalar
  repeat' split
  all_goals simp [EvalError.isMiss, quantityTimes_neverMisses, quantityOver_neverMisses]

theorem scalarQuantity_neverMisses (scalar : Value) (q : Quantity) (op : BinaryOp) :
    NeverMisses (scalarQuantity scalar q op) := by
  unfold scalarQuantity
  split <;> simp [EvalError.isMiss, quantityTimes_neverMisses]

theorem fallback_neverMisses (left right : Value) (op : BinaryOp) :
    NeverMisses (fallback left right op) := by
  unfold fallback
  repeat' split
  all_goals simp [EvalError.isMiss]

theorem arithmetic_neverMisses (left right : Value) (op : BinaryOp) :
    NeverMisses (arithmetic left right op) := by
  unfold arithmetic
  split
  all_goals first
    | exact integers_neverMisses _ _ op
    | exact floats_neverMisses _ _ op
    | exact texts_neverMisses _ _ op
    | exact moneys_neverMisses _ _ op
    | exact moneyScalar_neverMisses _ _ op
    | exact scalarMoney_neverMisses _ _ op
    | exact quantities_neverMisses _ _ op
    | exact quantityScalar_neverMisses _ _ op
    | exact scalarQuantity_neverMisses _ _ op
    | exact fallback_neverMisses _ _ op

theorem holds_neverMisses (needle haystack : Value) : NeverMisses (holds needle haystack) := by
  unfold holds
  repeat' split
  all_goals simp [EvalError.isMiss]

theorem binary_neverMisses (left right : Value) (op : BinaryOp) : NeverMisses (binary left right op) := by
  unfold binary
  split
  all_goals first
    | exact truth_neverMisses _
    | exact neverMisses_ok _
    | exact (holds_neverMisses left right).map _
    | exact arithmetic_neverMisses left right _

theorem unary_neverMisses (value : Value) (op : UnaryOp) : NeverMisses (unary value op) := by
  unfold unary
  repeat' split
  all_goals simp [EvalError.isMiss]

end Operation

namespace Position

/-- The outcome with null in place of a miss, where misses are allowed. -/
def pardon {α : Type} (optional : Bool) (absent : α) : Except EvalError α → Except EvalError α
  | .ok value => .ok value
  | .error error => if optional && error.isMiss then .ok absent else .error error

theorem pardon_of_neverMisses {α : Type} (optional : Bool) (absent : α) {outcome : Except EvalError α}
    (harmless : NeverMisses outcome) : pardon optional absent outcome = outcome := by
  cases outcome with
  | ok value => rfl
  | error error => simp [pardon, harmless error rfl]

theorem pardon_bind {α β : Type} (optional : Bool) {absent : α} {missing : β}
    {next : α → Except EvalError β} (skipped : next absent = .ok missing)
    (harmless : ∀ value, NeverMisses (next value)) (outcome : Except EvalError α) :
    pardon optional missing (outcome >>= next) = pardon optional absent outcome >>= next := by
  cases outcome with
  | ok value => exact pardon_of_neverMisses optional missing (harmless value)
  | error error =>
      cases allowed : optional && error.isMiss with
      | true => simpa [pardon, allowed, bind, Except.bind] using skipped.symm
      | false => simp [pardon, allowed, bind, Except.bind]

/-- Allowing misses changes nothing for an index that names an element. -/
theorem element_eq_pardon {α : Type} (items : List α) (index : Int64) (optional : Bool)
    (toValue : α → Value) :
    element items index optional toValue = pardon optional .null (element items index false toValue) := by
  unfold element
  split
  · rfl
  · cases optional <;> rfl

theorem bound_neverMisses (value : Value) (which : String) (length absent : Nat) :
    NeverMisses (bound value which length absent) := by
  unfold bound
  repeat' split
  all_goals simp [EvalError.isMiss]

theorem sliceBounds_eq_pardon (start stop : Value) (length : Nat) (optional : Bool) :
    sliceBounds start stop length optional =
      pardon optional none (sliceBounds start stop length false) := by
  unfold sliceBounds
  cases first : bound start "start" length 0 with
  | error error =>
      have harmless := bound_neverMisses start "start" length 0 error first
      exact (pardon_of_neverMisses optional none ((neverMisses_error error).mpr harmless)).symm
  | ok lower =>
      cases last : bound stop "end" length length with
      | error error =>
          have harmless := bound_neverMisses stop "end" length length error last
          exact (pardon_of_neverMisses optional none ((neverMisses_error error).mpr harmless)).symm
      | ok upper =>
          simp only [bind, Except.bind]
          by_cases early : lower.toInt < 0
          · cases optional <;> simp only [early, ↓reduceIte, Bool.false_eq_true] <;> rfl
          · by_cases late : upper.toInt < 0
            · cases optional <;> simp only [early, late, ↓reduceIte, Bool.false_eq_true] <;> rfl
            · by_cases crossed : upper.toInt < lower.toInt
              · cases optional <;>
                  simp only [early, late, crossed, ↓reduceIte, Bool.false_eq_true] <;> rfl
              · simp only [early, late, crossed, ↓reduceIte]
                rfl

/-- Allowing misses changes nothing for bounds that name a part. -/
theorem slice_eq_pardon (target start stop : Value) (optional : Bool) :
    slice target start stop optional = pardon optional .null (slice target start stop false) := by
  unfold slice
  split
  · rw [sliceBounds_eq_pardon]
    symm
    apply pardon_bind optional
    · rfl
    · intro bounds
      cases bounds <;> exact neverMisses_ok _
  · rw [sliceBounds_eq_pardon]
    symm
    apply pardon_bind optional
    · rfl
    · intro bounds
      cases bounds <;> exact neverMisses_ok _
  · symm
    apply pardon_of_neverMisses
    rw [neverMisses_error]
    rfl

end Position

end TableScript
