import TableScript.Operation.Binary
import TableScript.Operation.Position
import TableScript.Proofs.Value.Law

set_option autoImplicit false

namespace TableScript

/-- Whatever the outcome gives has the property. A failure gives nothing. -/
def Gives {ε α : Type} (post : α → Prop) (outcome : Except ε α) : Prop :=
  ∀ value, outcome = .ok value → post value

section Outcomes

variable {ε α β : Type} {post : α → Prop}

@[simp] theorem gives_ok {value : α} : Gives post (.ok value : Except ε α) ↔ post value := by
  constructor
  · intro gives
    exact gives value rfl
  · intro given other same
    cases same
    exact given

@[simp] theorem gives_pure {value : α} : Gives post (pure value : Except ε α) ↔ post value := gives_ok

@[simp] theorem gives_error (error : ε) : Gives post (.error error : Except ε α) := by
  intro value same
  cases same

@[simp] theorem gives_throw (error : ε) : Gives post (throw error : Except ε α) := gives_error error

/-- An outcome gives at least what it gives. -/
theorem gives_self (outcome : Except ε α) : Gives (fun value => outcome = .ok value) outcome :=
  fun _ same => same

theorem Gives.bind {outcome : Except ε α} {next : α → Except ε β} {result : β → Prop}
    (first : Gives post outcome) (rest : ∀ value, post value → Gives result (next value)) :
    Gives result (outcome >>= next) := by
  cases outcome with
  | error error => exact gives_error error
  | ok value => exact rest value (first value rfl)

/-- What comes after an outcome matters only for the value that it gives. -/
theorem gives_bind {outcome : Except ε α} {next : α → Except ε β} {result : β → Prop}
    (rest : ∀ value, outcome = .ok value → Gives result (next value)) : Gives result (outcome >>= next) :=
  (gives_self outcome).bind rest

theorem Gives.map {outcome : Except ε α} {f : α → β} {result : β → Prop}
    (first : Gives (fun value => result (f value)) outcome) : Gives result (outcome.map f) := by
  cases outcome with
  | error error => exact gives_error error
  | ok value => exact gives_ok.mpr (first value rfl)

theorem Gives.imp {outcome : Except ε α} {weaker : α → Prop} (gives : Gives post outcome)
    (follows : ∀ value, post value → weaker value) : Gives weaker outcome :=
  fun value same => follows value (gives value same)

theorem Gives.foldlM {f : β → α → Except ε β} {holds : β → Prop} {items : List α} {start : β}
    (first : holds start) (each : ∀ state item, item ∈ items → holds state → Gives holds (f state item)) :
    Gives holds (items.foldlM f start) := by
  induction items generalizing start with
  | nil => exact gives_ok.mpr first
  | cons item rest ih =>
      rw [List.foldlM_cons]
      refine (each start item List.mem_cons_self first).bind fun state held => ?_
      exact ih held fun state later member => each state later (List.mem_cons_of_mem item member)

end Outcomes

namespace Operation

variable {law : Law}

@[simp] theorem checked_lawful (operation : Arithmetic) (result : Option Int64) :
    Gives law.Throughout (checked operation result) := by
  cases result <;> simp [checked]

@[simp] theorem truth_lawful (value : Bool) : Gives law.Throughout (truth value) := by simp [truth]

@[simp] theorem moneyResult_lawful (operation : Arithmetic) (model : Money) (result : Option Int64) :
    Gives law.Throughout (moneyResult operation model result) := by
  cases result <;> simp [moneyResult]

@[simp] theorem quantityResult_lawful (operation : Arithmetic) (model : Quantity) (result : Option Int64) :
    Gives law.Throughout (quantityResult operation model result) := by
  cases result <;> simp [quantityResult]

theorem integers_lawful (a b : Int64) (op : BinaryOp) : Gives law.Throughout (integers a b op) := by
  unfold integers
  repeat' split
  all_goals simp

theorem floats_lawful (a b : Double) (op : BinaryOp) : Gives law.Throughout (floats a b op) := by
  unfold floats
  repeat' split
  all_goals simp

theorem texts_lawful (a b : String) (op : BinaryOp) : Gives law.Throughout (texts a b op) := by
  unfold texts
  split <;> simp

theorem moneys_lawful (a b : Money) (op : BinaryOp) : Gives law.Throughout (moneys a b op) := by
  simp only [moneys]
  repeat' split
  all_goals simp

theorem moneyTimes_lawful (m : Money) (scalar : Value) : Gives law.Throughout (moneyTimes m scalar) := by
  unfold moneyTimes
  split <;> simp

theorem moneyOver_lawful (m : Money) (divisor : Double) : Gives law.Throughout (moneyOver m divisor) := by
  unfold moneyOver
  split <;> simp

theorem moneyScalar_lawful (m : Money) (scalar : Value) (op : BinaryOp) :
    Gives law.Throughout (moneyScalar m scalar op) := by
  unfold moneyScalar
  repeat' split
  all_goals simp [moneyTimes_lawful, moneyOver_lawful]

theorem scalarMoney_lawful (scalar : Value) (m : Money) (op : BinaryOp) :
    Gives law.Throughout (scalarMoney scalar m op) := by
  unfold scalarMoney
  split <;> simp [moneyTimes_lawful]

theorem quantityRatio_lawful (left right : Int64) : Gives law.Throughout (quantityRatio left right) := by
  unfold quantityRatio
  repeat' split
  all_goals simp

theorem quantities_lawful (a b : Quantity) (op : BinaryOp) : Gives law.Throughout (quantities a b op) := by
  unfold quantities
  repeat' split
  all_goals simp [quantityRatio_lawful]

theorem quantityTimes_lawful (q : Quantity) (scalar : Value) :
    Gives law.Throughout (quantityTimes q scalar) := by
  unfold quantityTimes
  split <;> simp

theorem quantityOver_lawful (q : Quantity) (divisor : Double) :
    Gives law.Throughout (quantityOver q divisor) := by
  unfold quantityOver
  split <;> simp

theorem quantityScalar_lawful (q : Quantity) (scalar : Value) (op : BinaryOp) :
    Gives law.Throughout (quantityScalar q scalar op) := by
  unfold quantityScalar
  repeat' split
  all_goals simp [quantityTimes_lawful, quantityOver_lawful]

theorem scalarQuantity_lawful (scalar : Value) (q : Quantity) (op : BinaryOp) :
    Gives law.Throughout (scalarQuantity scalar q op) := by
  unfold scalarQuantity
  split <;> simp [quantityTimes_lawful]

theorem fallback_lawful (left right : Value) (op : BinaryOp) :
    Gives law.Throughout (fallback left right op) := by
  unfold fallback
  repeat' split
  all_goals simp

theorem arithmetic_lawful (left right : Value) (op : BinaryOp) :
    Gives law.Throughout (arithmetic left right op) := by
  unfold arithmetic
  split
  all_goals first
    | exact integers_lawful _ _ op
    | exact floats_lawful _ _ op
    | exact texts_lawful _ _ op
    | exact moneys_lawful _ _ op
    | exact moneyScalar_lawful _ _ op
    | exact scalarMoney_lawful _ _ op
    | exact quantities_lawful _ _ op
    | exact quantityScalar_lawful _ _ op
    | exact scalarQuantity_lawful _ _ op
    | exact fallback_lawful _ _ op

theorem elements_lawful {value : Value} (lawful : law.Throughout value) :
    ∀ item ∈ elements value, law.Throughout item := by
  unfold elements
  split
  · exact Law.throughout_array.mp lawful
  · simpa using lawful

theorem concat_lawful {left right : Value} (first : law.Throughout left) (second : law.Throughout right) :
    law.Throughout (concat left right) := by
  unfold concat
  split
  · rw [Law.throughout_dict] at first second
    exact Law.throughout_ofEntries.mpr (first.merge second)
  · rw [Law.throughout_ofItems]
    intro item member
    rcases List.mem_append.mp member with early | late
    · exact elements_lawful first item early
    · exact elements_lawful second item late

theorem binary_lawful {left right : Value} (first : law.Throughout left) (second : law.Throughout right)
    (op : BinaryOp) : Gives law.Throughout (binary left right op) := by
  unfold binary
  split
  · exact truth_lawful _
  · exact truth_lawful _
  · rw [gives_ok]
    split
    · exact second
    · exact first
  · exact gives_ok.mpr (concat_lawful first second)
  · exact Gives.map fun _ _ => Law.throughout_scalar (.bool _)
  · exact Gives.map fun _ _ => Law.throughout_scalar (.bool _)
  · exact arithmetic_lawful left right _

theorem unary_lawful (value : Value) (op : UnaryOp) : Gives law.Throughout (unary value op) := by
  unfold unary
  repeat' split
  all_goals simp

end Operation

namespace Position

variable {law : Law}

/-- An element, or null where misses are allowed. -/
theorem element_gives {α : Type} {holds : Value → Prop} {items : List α} {toValue : α → Value}
    (index : Int64) (optional : Bool) (absent : holds .null) (each : ∀ item ∈ items, holds (toValue item)) :
    Gives holds (element items index optional toValue) := by
  unfold element
  split
  · rename_i found
    obtain ⟨place, -, taken⟩ := Option.bind_eq_some_iff.mp found
    exact gives_ok.mpr (each _ (List.mem_of_getElem? taken))
  · unfold outOfRange
    split
    · exact gives_ok.mpr absent
    · exact gives_error _

theorem element_lawful {α : Type} {items : List α} {toValue : α → Value} (index : Int64) (optional : Bool)
    (each : ∀ item ∈ items, law.Throughout (toValue item)) :
    Gives law.Throughout (element items index optional toValue) :=
  element_gives index optional (Law.throughout_scalar .null) each

theorem slice_lawful {target : Value} (lawful : law.Throughout target) (start stop : Value)
    (optional : Bool) : Gives law.Throughout (slice target start stop optional) := by
  unfold slice
  split
  · refine gives_bind fun bounds _ => ?_
    split
    · rw [gives_pure, Law.throughout_ofItems]
      intro item member
      exact Law.throughout_array.mp lawful item (List.mem_of_mem_take (List.mem_of_mem_drop member))
    · simp
  · refine gives_bind fun bounds _ => ?_
    split <;> simp
  · exact gives_error _

end Position

end TableScript
