import TableScript.Proofs.Operation.Money
import TableScript.Proofs.Operation.Symmetry
import TableScript.Proofs.Text.Linear

set_option autoImplicit false

namespace TableScript

/-- Two values of one of the kinds that have an order of their own among the operators. -/
inductive Value.Peers : Value → Value → Prop
  | ints (n m : Int64) : Peers (.int n) (.int m)
  | texts (s t : String) : Peers (.text s) (.text t)
  | moneys (a b : Money) : Peers (.money a) (.money b)
  | quantities (p q : Quantity) : Peers (.quantity p) (.quantity q)

/-- Integers and texts always can be ordered, money of one currency that has amounts at the larger of the two
scales, and quantities of one family. -/
def Value.Orderable : Value → Value → Prop
  | .int _, .int _ => True
  | .text _, .text _ => True
  | .money a, .money b =>
    a.currency = b.currency ∧
      (a.amountAt? (max a.scale b.scale)).isSome ∧ (b.amountAt? (max a.scale b.scale)).isSome
  | .quantity p, .quantity q => p.family = q.family
  | _, _ => False

namespace Operation

variable {op : BinaryOp}

/-- Texts are equal as characters exactly where the natural order finds no difference. -/
theorem texts_comparison (s t : String) (comparison : op.isComparison) :
    texts s t op = truth (op.accepts (Text.naturalCompare s t)) := by
  have equal : (s == t) = (Text.naturalCompare s t).isEq := by
    rw [Bool.eq_iff_iff, beq_iff_eq, Ordering.isEq_iff_eq_eq]
    constructor
    · rintro rfl
      exact Text.naturalChars_self s.toList
    · intro same
      exact String.toList_injective (Text.eq_of_naturalChars same)
  cases op <;> simp only [BinaryOp.isComparison, Bool.false_eq_true] at comparison
  case eq => exact congrArg truth equal
  case notEq =>
    have different : (s != t) = (Text.naturalCompare s t).isNe := by
      rw [bne, equal]
      cases Text.naturalCompare s t <;> rfl
    exact congrArg truth different
  all_goals rfl

/-- At the larger scale amounts are compared as the integers that they are there. -/
theorem moneys_ordered {a b : Money} (currency : a.currency = b.currency)
    (reachesA : (a.amountAt? (max a.scale b.scale)).isSome)
    (reachesB : (b.amountAt? (max a.scale b.scale)).isSome) (comparison : op.isComparison) :
    moneys a b op = truth (op.accepts (a.order b)) := by
  obtain ⟨left, foundA⟩ := Option.isSome_iff_exists.mp reachesA
  obtain ⟨right, foundB⟩ := Option.isSome_iff_exists.mp reachesB
  have order : a.order b = compare left.toInt right.toInt := by
    simp only [Money.order, currency, ne_eq, not_true_eq_false, ↓reduceIte, foundA, foundB]
  rw [order, ← integers_comparison left right comparison]
  cases op <;> simp only [BinaryOp.isComparison, Bool.false_eq_true] at comparison <;>
    simp only [moneys, integers, currency, ne_eq, not_true_eq_false, ↓reduceIte, foundA, foundB]

/-- A comparison of what can be ordered is answered by the order. -/
theorem binary_ordered {a b : Value} (peers : a.Peers b) (orderable : a.Orderable b)
    (comparison : op.isComparison) : binary a b op = .ok (.bool (op.accepts (a.order b))) := by
  rw [binary_comparison a b comparison]
  cases peers with
  | ints n m => exact integers_comparison n m comparison
  | texts s t => exact texts_comparison s t comparison
  | moneys a b =>
    obtain ⟨currency, reachesA, reachesB⟩ := orderable
    exact moneys_ordered currency reachesA reachesB comparison
  | quantities p q =>
    have family : p.family = q.family := orderable
    rw [Value.order, if_pos family]
    exact quantities_comparison p q family comparison

/-- What cannot be ordered is refused. -/
theorem lt_refused {a b : Value} (peers : a.Peers b) (unordered : ¬ a.Orderable b) :
    ∃ error, binary a b .lt = .error error := by
  cases peers with
  | ints | texts => exact absurd trivial unordered
  | moneys a b =>
    by_cases currency : a.currency = b.currency
    · exact ⟨_, moneys_missed a b .lt currency fun reaches => unordered ⟨currency, reaches⟩⟩
    · exact ⟨_, moneys_of_currencies a b .lt currency⟩
  | quantities p q =>
    have apart : p.family ≠ q.family := unordered
    exact ⟨.families "<" p.family.name q.family.name, if_pos apart⟩

/-- Of two integers, two texts, two amounts of money or two quantities, `<` is answered exactly where they can
be ordered. Then all six comparisons are answered by the order that sorting uses: `<`, `==` and `>` hold where
the left operand comes before the right one, beside it and behind it, and `<=`, `>=` and `!=` where `>`, `<` and
`==` do not. -/
theorem comparisons_ordered {a b : Value} (peers : a.Peers b) :
    ((∃ answer, binary a b .lt = .ok answer) ↔ a.Orderable b) ∧
    ∀ answer, binary a b .lt = .ok answer →
      (binary a b .lt = .ok (.bool (a.order b = .lt)) ∧ binary a b .eq = .ok (.bool (a.order b = .eq)) ∧
        binary a b .gt = .ok (.bool (a.order b = .gt))) ∧
      (binary a b .ltEq = .ok (.bool (a.order b ≠ .gt)) ∧ binary a b .gtEq = .ok (.bool (a.order b ≠ .lt)) ∧
        binary a b .notEq = .ok (.bool (a.order b ≠ .eq))) := by
  have answered (answer : Value) (succeeds : binary a b .lt = .ok answer) : a.Orderable b := by
    by_contra unordered
    obtain ⟨error, refused⟩ := lt_refused peers unordered
    cases refused.symm.trans succeeds
  refine ⟨⟨fun ⟨answer, succeeds⟩ => answered answer succeeds, fun orderable => ?_⟩, fun answer succeeds => ?_⟩
  · exact ⟨_, binary_ordered peers orderable rfl⟩
  · have each (op : BinaryOp) (comparison : op.isComparison) :=
      binary_ordered peers (answered answer succeeds) comparison
    rw [each .lt rfl, each .eq rfl, each .gt rfl, each .ltEq rfl, each .gtEq rfl, each .notEq rfl]
    cases a.order b <;> exact ⟨⟨rfl, rfl, rfl⟩, rfl, rfl, rfl⟩

/-- The same number with zeros in front, one price at two scales, and an inch beside 25 millimetres. -/
theorem comparisons_ordered_of_items :
    (Value.Peers (.text "item7") (.text "item007") ∧
      binary (.text "item7") (.text "item007") .lt = .ok (.bool true) ∧
      binary (.text "item7") (.text "item007") .notEq = .ok (.bool true)) ∧
    (Value.Peers (.money ⟨150, "USD", 2⟩) (.money ⟨15, "USD", 1⟩) ∧
      binary (.money ⟨150, "USD", 2⟩) (.money ⟨15, "USD", 1⟩) .eq = .ok (.bool true)) ∧
    (Value.Peers (.quantity ⟨20160, .length, .customary, "in"⟩) (.quantity ⟨25000, .length, .metric, "mm"⟩) ∧
      binary (.quantity ⟨20160, .length, .customary, "in"⟩) (.quantity ⟨25000, .length, .metric, "mm"⟩) .ltEq =
        .ok (.bool false)) := by
  have before : Value.order (.text "item7") (.text "item007") = .lt := by decide +kernel
  have beside : Value.order (.money ⟨150, "USD", 2⟩) (.money ⟨15, "USD", 1⟩) = .eq := by decide +kernel
  have behind : Value.order (.quantity ⟨20160, .length, .customary, "in"⟩)
      (.quantity ⟨25000, .length, .metric, "mm"⟩) = .gt := by decide +kernel
  refine ⟨⟨.texts _ _, ?_⟩, ⟨.moneys _ _, ?_⟩, ⟨.quantities _ _, ?_⟩⟩
  · obtain ⟨answered, ordered⟩ := comparisons_ordered (.texts "item7" "item007")
    obtain ⟨answer, succeeds⟩ := answered.mpr trivial
    obtain ⟨⟨less, -, -⟩, -, -, different⟩ := ordered answer succeeds
    rw [less, different, before]
    exact ⟨rfl, rfl⟩
  · have moneys := (comparisons_ordered (.moneys ⟨150, "USD", 2⟩ ⟨15, "USD", 1⟩)).2 (.bool false) rfl
    rw [moneys.1.2.1, beside]
    rfl
  · have quantities := (comparisons_ordered
      (.quantities ⟨20160, .length, .customary, "in"⟩ ⟨25000, .length, .metric, "mm"⟩)).2 (.bool false) rfl
    rw [quantities.2.1, behind]
    rfl

end Operation

end TableScript
