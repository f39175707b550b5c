import TableScript.Operation.Binary
import TableScript.Proofs.Text.Natural
import TableScript.Proofs.Value.Equality

set_option autoImplicit false

namespace TableScript

namespace BinaryOp

/-- The comparison that says of exchanged operands what this one says of the operands. -/
def mirrored : BinaryOp → BinaryOp
  | .lt => .gt
  | .ltEq => .gtEq
  | .gt => .lt
  | .gtEq => .ltEq
  | op => op

/-- Whether the comparison holds of operands in this order. -/
def accepts : BinaryOp → Ordering → Bool
  | .eq, order => order.isEq
  | .notEq, order => order.isNe
  | .lt, order => order.isLT
  | .ltEq, order => order.isLE
  | .gt, order => order.isGT
  | .gtEq, order => order.isGE
  | _, _ => false

theorem mirrored_isComparison (op : BinaryOp) : op.mirrored.isComparison = op.isComparison := by
  cases op <;> rfl

theorem accepts_swap (op : BinaryOp) (order : Ordering) : op.mirrored.accepts order.swap = op.accepts order := by
  cases op <;> cases order <;> rfl

end BinaryOp

namespace Operation

/-- Both outcomes are failures, or both are answers, which agree if the condition holds. -/
inductive Mirrors (condition : Prop) : Outcome → Outcome → Prop
  | failures (e f : EvalError) : Mirrors condition (.error e) (.error f)
  | answers (s t : Bool) (agree : condition → s = t) : Mirrors condition (.ok (.bool s)) (.ok (.bool t))

theorem Mirrors.answer_eq {condition : Prop} {x y : Outcome} (mirrors : Mirrors condition x y)
    (holds : condition) {answer : Bool} (answered : x = .ok (.bool answer)) : y = .ok (.bool answer) := by
  cases mirrors with
  | failures => cases answered
  | answers s t agree =>
    obtain rfl := agree holds
    exact answered

variable {op : BinaryOp}

theorem integers_comparison (n m : Int64) (comparison : op.isComparison) :
    integers n m op = truth (op.accepts (compare n.toInt m.toInt)) := by
  cases op <;> simp only [BinaryOp.isComparison, Bool.false_eq_true] at comparison <;>
    refine congrArg truth (Bool.eq_iff_iff.mpr ?_)
  case eq => simp [BinaryOp.accepts, Int64.toInt_inj]
  case notEq => simp [BinaryOp.accepts, Int64.toInt_inj]
  case lt => simp [BinaryOp.accepts, Int.compare_eq_lt]
  case ltEq => simp [BinaryOp.accepts, Std.isLE_compare]
  case gt => simp [BinaryOp.accepts, Int.compare_eq_gt]
  case gtEq => simp [BinaryOp.accepts, Std.isGE_compare]

theorem integers_mirrors (n m : Int64) (condition : Prop) (comparison : op.isComparison) :
    Mirrors condition (integers n m op) (integers m n op.mirrored) := by
  have turned : compare m.toInt n.toInt = (compare n.toInt m.toInt).swap := Std.OrientedCmp.eq_swap
  rw [integers_comparison n m comparison, integers_comparison m n (op.mirrored_isComparison.trans comparison)]
  exact .answers _ _ fun _ => by rw [turned, BinaryOp.accepts_swap]

theorem floats_mirrors (x y : Double) (condition : Prop) (comparison : op.isComparison) :
    Mirrors condition (floats x y op) (floats y x op.mirrored) := by
  cases op <;> simp only [BinaryOp.isComparison, Bool.false_eq_true] at comparison
  case eq => exact .answers _ _ fun _ => x.equals_comm y
  case notEq => exact .answers _ _ fun _ => congrArg not (x.equals_comm y)
  all_goals exact .answers _ _ fun _ => rfl

theorem texts_mirrors (s t : String) (condition : Prop) (comparison : op.isComparison) :
    Mirrors condition (texts s t op) (texts t s op.mirrored) := by
  have turned : Text.naturalCompare t s = (Text.naturalCompare s t).swap := Std.OrientedCmp.eq_swap
  have ordered (op : BinaryOp) : op.accepts (Text.naturalCompare s t) =
      op.mirrored.accepts (Text.naturalCompare t s) := by rw [turned, BinaryOp.accepts_swap]
  cases op <;> simp only [BinaryOp.isComparison, Bool.false_eq_true] at comparison
  case eq => exact .answers _ _ fun _ => Bool.beq_comm
  case notEq => exact .answers _ _ fun _ => congrArg not Bool.beq_comm
  case lt => exact .answers _ _ fun _ => ordered .lt
  case ltEq => exact .answers _ _ fun _ => ordered .ltEq
  case gt => exact .answers _ _ fun _ => ordered .gt
  case gtEq => exact .answers _ _ fun _ => ordered .gtEq

theorem moneys_mirrors (a b : Money) (condition : Prop) (comparison : op.isComparison) :
    Mirrors condition (moneys a b op) (moneys b a op.mirrored) := by
  by_cases same : a.currency = b.currency
  · simp only [moneys, same, ne_eq, not_true_eq_false, ↓reduceIte, Nat.max_comm b.scale]
    cases a.amountAt? (max a.scale b.scale) with
    | none => cases b.amountAt? (max a.scale b.scale) <;> exact .failures _ _
    | some left =>
      cases b.amountAt? (max a.scale b.scale) with
      | none => exact .failures _ _
      | some right =>
        -- At one scale the amounts are compared as integers.
        have mirrors := integers_mirrors left right condition comparison
        cases op <;> first | exact mirrors | simp [BinaryOp.isComparison] at comparison
  · simp only [moneys, same, Ne.symm same, ne_eq, not_false_eq_true, ↓reduceIte]
    exact .failures _ _

/-- Within a family a comparison asks for the order of the two quantities. -/
theorem quantities_comparison (p q : Quantity) (family : p.family = q.family) (comparison : op.isComparison) :
    quantities p q op = truth (op.accepts (p.order q)) := by
  rw [Quantity.order, ← integers_comparison _ _ comparison]
  cases op <;> simp only [BinaryOp.isComparison, Bool.false_eq_true] at comparison <;>
    simp only [quantities, integers, family, ne_eq, not_true_eq_false, ↓reduceIte]

theorem quantities_mirrors (p q : Quantity) (comparison : op.isComparison) :
    Mirrors (p.Even q) (quantities p q op) (quantities q p op.mirrored) := by
  by_cases family : p.family = q.family
  · rw [quantities_comparison p q family comparison,
      quantities_comparison q p family.symm (op.mirrored_isComparison.trans comparison)]
    exact .answers _ _ fun even => by rw [Quantity.order_mirrored family even, BinaryOp.accepts_swap]
  · cases op <;> simp only [BinaryOp.isComparison, Bool.false_eq_true] at comparison <;>
      simp only [quantities, BinaryOp.mirrored, family, Ne.symm family, ne_eq, not_false_eq_true, ↓reduceIte]
    case eq | notEq => exact .answers _ _ fun _ => rfl
    all_goals exact .failures _ _

/-- Money beside a plain number, on either side. -/
theorem money_scalar_mirrors (m : Money) (scalar : Value) (condition : Prop) (comparison : op.isComparison) :
    Mirrors condition (moneyScalar m scalar op) (scalarMoney scalar m op.mirrored) ∧
      Mirrors condition (scalarMoney scalar m op) (moneyScalar m scalar op.mirrored) := by
  cases op <;> simp only [BinaryOp.isComparison, Bool.false_eq_true] at comparison
  case eq | notEq => exact ⟨.answers _ _ fun _ => rfl, .answers _ _ fun _ => rfl⟩
  all_goals exact ⟨.failures _ _, .failures _ _⟩

/-- A quantity beside a plain number, on either side. -/
theorem quantity_scalar_mirrors (q : Quantity) (scalar : Value) (condition : Prop)
    (comparison : op.isComparison) :
    Mirrors condition (quantityScalar q scalar op) (scalarQuantity scalar q op.mirrored) ∧
      Mirrors condition (scalarQuantity scalar q op) (quantityScalar q scalar op.mirrored) := by
  cases op <;> simp only [BinaryOp.isComparison, Bool.false_eq_true] at comparison
  case eq | notEq => exact ⟨.answers _ _ fun _ => rfl, .answers _ _ fun _ => rfl⟩
  all_goals exact ⟨.failures _ _, .failures _ _⟩

theorem fallback_mirrors (a b : Value) (comparison : op.isComparison) :
    Mirrors (a.Even b) (fallback a b op) (fallback b a op.mirrored) := by
  cases op <;> simp only [BinaryOp.isComparison, Bool.false_eq_true] at comparison
  case eq => exact .answers _ _ fun even => Value.same_comm a b even
  case notEq => exact .answers _ _ fun even => congrArg not (Value.same_comm a b even)
  all_goals exact .failures _ _

/-- The cases are those of the evaluation: the pairs of kinds with a rule of their own, and all others. -/
theorem arithmetic_mirrors (a b : Value) (comparison : op.isComparison) :
    Mirrors (a.Even b) (arithmetic a b op) (arithmetic b a op.mirrored) := by
  cases a with
  | int n =>
    cases b with
    | int m => exact integers_mirrors n m _ comparison
    | float y => exact floats_mirrors (.ofInt64 n) y _ comparison
    | money m => exact (money_scalar_mirrors m _ _ comparison).2
    | quantity q => exact (quantity_scalar_mirrors q _ _ comparison).2
    | _ => exact fallback_mirrors _ _ comparison
  | float x =>
    cases b with
    | int m => exact floats_mirrors x (.ofInt64 m) _ comparison
    | float y => exact floats_mirrors x y _ comparison
    | money m => exact (money_scalar_mirrors m _ _ comparison).2
    | quantity q => exact (quantity_scalar_mirrors q _ _ comparison).2
    | _ => exact fallback_mirrors _ _ comparison
  | text s =>
    cases b with
    | text t => exact texts_mirrors s t _ comparison
    | _ => exact fallback_mirrors _ _ comparison
  | money amount =>
    cases b with
    | int n => exact (money_scalar_mirrors amount _ _ comparison).1
    | float x => exact (money_scalar_mirrors amount _ _ comparison).1
    | money other => exact moneys_mirrors amount other _ comparison
    | _ => exact fallback_mirrors _ _ comparison
  | quantity p =>
    cases b with
    | int n => exact (quantity_scalar_mirrors p _ _ comparison).1
    | float x => exact (quantity_scalar_mirrors p _ _ comparison).1
    | quantity q =>
      rw [Value.even_quantity]
      exact quantities_mirrors p q comparison
    | _ => exact fallback_mirrors _ _ comparison
  | null | bool | array | dict | table | record | schema | function | error =>
    cases b <;> exact fallback_mirrors _ _ comparison

theorem binary_comparison (a b : Value) (comparison : op.isComparison) :
    binary a b op = arithmetic a b op := by
  cases op <;> first | rfl | simp [BinaryOp.isComparison] at comparison

/-- A comparison and its mirrored one with the operands exchanged both fail or both are answered, and the
answers agree unless a conversion between systems makes one of two facing quantities alone pass for the other.
Of two quantities of one family that is also what it takes for their equality to depend on the order. -/
theorem comparisons_mirrored :
    (∀ (a b : Value) (op : BinaryOp), op.isComparison →
      Mirrors (a.Even b) (binary a b op) (binary b a op.mirrored)) ∧
    ∀ p q : Quantity, p.family = q.family →
      (binary (.quantity p) (.quantity q) .eq = binary (.quantity q) (.quantity p) .eq ↔ p.Even q) := by
  refine ⟨fun a b op comparison => ?_, fun p q family => ?_⟩
  · rw [binary_comparison a b comparison,
      binary_comparison b a (op.mirrored_isComparison.trans comparison)]
    exact arithmetic_mirrors a b comparison
  · have answer (p q : Quantity) (family : p.family = q.family) :
        binary (.quantity p) (.quantity q) .eq = .ok (.bool (p.amount == q.amountIn p.system)) := by
      simp [binary, arithmetic, quantities, family, truth]
    rw [Quantity.even_iff family, answer p q family, answer q p family.symm, Except.ok.injEq,
      Value.bool.injEq, Bool.eq_iff_iff, beq_iff_eq, beq_iff_eq]

/-- An inch and 25.4 mm convert to each other, also inside of arrays. The smallest customary length and a
micrometer do not. -/
theorem comparisons_mirrored_across_systems :
    Value.Even (.array none [.quantity ⟨20160, .length, .customary, "in"⟩, .text "wide"])
      (.array none [.quantity ⟨25400, .length, .metric, "mm"⟩, .text "wide"]) ∧
    BinaryOp.eq.isComparison ∧
    binary (.array none [.quantity ⟨20160, .length, .customary, "in"⟩, .text "wide"])
      (.array none [.quantity ⟨25400, .length, .metric, "mm"⟩, .text "wide"]) .eq = .ok (.bool true) ∧
    binary (.array none [.quantity ⟨25400, .length, .metric, "mm"⟩, .text "wide"])
      (.array none [.quantity ⟨20160, .length, .customary, "in"⟩, .text "wide"]) .eq = .ok (.bool true) ∧
    binary (.quantity ⟨1, .length, .customary, "in"⟩) (.quantity ⟨1, .length, .metric, "mm"⟩) .eq ≠
      binary (.quantity ⟨1, .length, .metric, "mm"⟩) (.quantity ⟨1, .length, .customary, "in"⟩) .eq := by
  have even : Value.Even (.array none [.quantity ⟨20160, .length, .customary, "in"⟩, .text "wide"])
      (.array none [.quantity ⟨25400, .length, .metric, "mm"⟩, .text "wide"]) := by
    intro p q faces
    cases faces with
    | item pair deep =>
      simp only [List.zip_cons_cons, List.zip_nil_right, List.mem_cons, List.not_mem_nil, or_false,
        Prod.mk.injEq] at pair
      rcases pair with ⟨rfl, rfl⟩ | ⟨rfl, rfl⟩
      · exact Value.even_quantity.mpr (by decide) p q deep
      · cases deep
  refine ⟨even, rfl, rfl, (comparisons_mirrored.1 _ _ .eq rfl).answer_eq even rfl, fun same => ?_⟩
  have even := (comparisons_mirrored.2 ⟨1, .length, .customary, "in"⟩ ⟨1, .length, .metric, "mm"⟩ rfl).mp same
  exact absurd even (by decide)

/-- The smallest customary length is longer than a micrometer, but a whole micrometer is all that is left of it
when it is converted. -/
theorem comparison_turns_where_cut_off :
    binary (.quantity ⟨1, .length, .customary, "in"⟩) (.quantity ⟨1, .length, .metric, "mm"⟩) .eq =
      .ok (.bool false) ∧
    binary (.quantity ⟨1, .length, .metric, "mm"⟩) (.quantity ⟨1, .length, .customary, "in"⟩) .eq =
      .ok (.bool true) ∧
    binary (.quantity ⟨1, .length, .customary, "in"⟩) (.quantity ⟨1, .length, .metric, "mm"⟩) .gt =
      .ok (.bool true) ∧
    binary (.quantity ⟨1, .length, .metric, "mm"⟩) (.quantity ⟨1, .length, .customary, "in"⟩) .lt =
      .ok (.bool false) :=
  ⟨rfl, rfl, rfl, rfl⟩

end Operation

end TableScript
