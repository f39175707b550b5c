import TableScript.Proofs.Money.Worth
import TableScript.Proofs.Number.Whole
import TableScript.Proofs.Quantity.Measure
import TableScript.Proofs.Text.Natural

set_option autoImplicit false

namespace TableScript.Value

mutual

/-- Whether comparing the two values rounds nowhere. -/
def Exact : Value → Value → Prop
  | .int n, .float _ => Double.Represents n
  | .float _, .int n => Double.Represents n
  | .money a, .money b => a.Commensurable b
  | .quantity a, .quantity b => a.family = b.family ∧ a.Converts b.system ∧ b.Converts a.system
  | .array _ a, .array _ b => ExactAll a b
  | _, _ => True

/-- Item by item, as far as both arrays go. -/
def ExactAll : List Value → List Value → Prop
  | a :: restA, b :: restB => Exact a b ∧ ExactAll restA restB
  | _, _ => True

end

mutual

theorem Exact.symm {a b : Value} (exact : Exact a b) : Exact b a := by
  cases a with
  | int n => cases b <;> exact exact
  | float x => cases b <;> exact exact
  | money amount =>
    cases b with
    | money other => exact Money.Commensurable.symm exact
    | _ => trivial
  | quantity amount =>
    cases b with
    | quantity other => exact ⟨exact.1.symm, exact.2.2, exact.2.1⟩
    | _ => trivial
  | array handle items =>
    cases b with
    | array otherHandle others => exact ExactAll.symm exact
    | _ => trivial
  | null | bool | text | dict | table | record | schema | function | error => cases b <;> trivial

theorem ExactAll.symm {as bs : List Value} (exact : ExactAll as bs) : ExactAll bs as := by
  cases as with
  | nil => cases bs <;> trivial
  | cons a as =>
    cases bs with
    | nil => trivial
    | cons b bs => exact ⟨Exact.symm exact.1, ExactAll.symm exact.2⟩

end

theorem order_of_rank_ne (a b : Value) (different : a.rank ≠ b.rank) : order a b = compare a.rank b.rank := by
  unfold order
  split
  all_goals first | rfl | exact absurd rfl different

/-- Values of a kind that has no order of its own are all equal. -/
theorem order_of_unordered (a b : Value) (level : Nat) (rankA : a.rank = level) (rankB : b.rank = level)
    (unordered : level = 0 ∨ 8 ≤ level) : order a b = .eq := by
  unfold order
  split
  all_goals first | exact Nat.compare_eq_eq.mpr (rankA.trans rankB.symm) | (simp [rank] at rankA; omega)

theorem number_of_rank (value : Value) (number : value.rank = 1) :
    (∃ n, value = .int n) ∨ ∃ x, value = .float x := by
  cases value <;> simp_all [rank]

theorem text_of_rank (value : Value) (text : value.rank = 2) : ∃ content, value = .text content := by
  cases value <;> simp_all [rank]

theorem bool_of_rank (value : Value) (bool : value.rank = 3) : ∃ truth, value = .bool truth := by
  cases value <;> simp_all [rank]

theorem quantity_of_rank (value : Value) (quantity : value.rank = 5) :
    ∃ amount, value = .quantity amount := by
  cases value <;> simp_all [rank]

theorem money_of_rank (value : Value) (money : value.rank = 6) : ∃ amount, value = .money amount := by
  cases value <;> simp_all [rank]

theorem array_of_rank (value : Value) (array : value.rank = 7) :
    ∃ handle items, value = .array handle items := by
  cases value <;> simp_all [rank]

theorem number_swap (a b : Value) (numberA : a.rank = 1) (numberB : b.rank = 1) :
    order b a = (order a b).swap := by
  obtain ⟨n, rfl⟩ | ⟨x, rfl⟩ := number_of_rank a numberA <;>
    obtain ⟨m, rfl⟩ | ⟨y, rfl⟩ := number_of_rank b numberB <;>
    simp only [order, Double.totalCompare] <;>
    exact Std.OrientedCmp.eq_swap

theorem quantity_swap (a b : Quantity) (exact : Exact (.quantity a) (.quantity b)) :
    order (.quantity b) (.quantity a) = (order (.quantity a) (.quantity b)).swap := by
  obtain ⟨family, forth, back⟩ := exact
  simp only [order, if_pos family, if_pos family.symm]
  rw [a.order_eq_measure b family back, b.order_eq_measure a family.symm forth]
  exact Std.OrientedCmp.eq_swap

theorem money_swap (a b : Money) (exact : a.Commensurable b) : b.order a = (a.order b).swap := by
  have scaleA := Nat.le_max_left a.scale b.scale
  have scaleB := Nat.le_max_right a.scale b.scale
  rw [a.order_eq_worth b _ exact scaleA scaleB, b.order_eq_worth a _ exact.symm scaleB scaleA,
    Ordering.swap_then, ← Std.OrientedCmp.eq_swap, ← Std.OrientedCmp.eq_swap]

mutual

theorem order_swap (a b : Value) (exact : Exact a b) : order b a = (order a b).swap := by
  by_cases same : a.rank = b.rank
  · cases a with
    | int n => exact number_swap _ b rfl same.symm
    | float x => exact number_swap _ b rfl same.symm
    | text content =>
      obtain ⟨other, rfl⟩ := text_of_rank b same.symm
      exact @Std.OrientedCmp.eq_swap _ Text.naturalCompare _ _ _
    | bool truth =>
      obtain ⟨other, rfl⟩ := bool_of_rank b same.symm
      exact @Std.OrientedCmp.eq_swap _ (compareOn Bool.toNat) _ _ _
    | quantity amount =>
      obtain ⟨other, rfl⟩ := quantity_of_rank b same.symm
      exact quantity_swap amount other exact
    | money amount =>
      obtain ⟨other, rfl⟩ := money_of_rank b same.symm
      exact money_swap amount other exact
    | array handle items =>
      obtain ⟨otherHandle, others, rfl⟩ := array_of_rank b same.symm
      exact orderAll_swap items others exact
    | null | dict | table | record | schema | function | error =>
      rw [order_of_unordered _ b _ rfl same.symm (by simp [rank]),
        order_of_unordered b _ _ same.symm rfl (by simp [rank])]
      rfl
  · rw [order_of_rank_ne a b same, order_of_rank_ne b a (Ne.symm same)]
    exact Std.OrientedCmp.eq_swap

theorem orderAll_swap (as bs : List Value) (exact : ExactAll as bs) :
    orderAll bs as = (orderAll as bs).swap := by
  cases as with
  | nil =>
    cases bs with
    | nil => rfl
    | cons b bs => rfl
  | cons a as =>
    cases bs with
    | nil => rfl
    | cons b bs =>
      obtain ⟨heads, rests⟩ := exact
      simp only [orderAll, Ordering.swap_then]
      rw [order_swap a b heads, orderAll_swap as bs rests]

end

theorem rank_le_of_isLE (a b : Value) (rises : (order a b).isLE) : a.rank ≤ b.rank := by
  by_cases same : a.rank = b.rank
  · exact Nat.le_of_eq same
  · rw [order_of_rank_ne a b same] at rises
    exact Nat.isLE_compare.mp rises

theorem order_of_rank_lt (a b : Value) (lower : a.rank < b.rank) : order a b = .lt := by
  rw [order_of_rank_ne a b (Nat.ne_of_lt lower)]
  exact Nat.compare_eq_lt.mpr lower

/-- Only values of one rank need an argument of their own. -/
theorem chained_of_ranks (a b c : Value)
    (peers : b.rank = a.rank → c.rank = a.rank → Chained (order a b) (order b c) (order a c)) :
    Chained (order a b) (order b c) (order a c) := by
  intro first second
  have lowerAB := rank_le_of_isLE a b first
  have lowerBC := rank_le_of_isLE b c second
  by_cases sameAB : b.rank = a.rank
  · by_cases sameBC : c.rank = b.rank
    · exact peers sameAB (sameBC.trans sameAB) first second
    · rw [order_of_rank_lt a c (by omega), order_of_rank_lt b c (by omega)]
      cases decided : order a b with
      | gt => simp [decided] at first
      | lt | eq => rfl
  · rw [order_of_rank_lt a b (by omega), order_of_rank_lt a c (by omega)]
    rfl

theorem number_chained (a b c : Value) (numberA : a.rank = 1) (numberB : b.rank = 1) (numberC : c.rank = 1)
    (ab : Exact a b) (bc : Exact b c) (ac : Exact a c) : Chained (order a b) (order b c) (order a c) := by
  -- One float among the three makes every integer among them a number, and all three compare as numbers.
  obtain ⟨n, rfl⟩ | ⟨x, rfl⟩ := number_of_rank a numberA <;>
    obtain ⟨m, rfl⟩ | ⟨y, rfl⟩ := number_of_rank b numberB <;>
    obtain ⟨k, rfl⟩ | ⟨z, rfl⟩ := number_of_rank c numberC <;>
    simp only [order, Exact] at ab bc ac ⊢
  · exact chained_of_transCmp (compareOn Int64.toInt) n m k
  · rw [← Double.totalCompare_ofInt64 n m ac bc]
    exact chained_of_transCmp Double.totalCompare _ _ _
  · rw [← Double.totalCompare_ofInt64 n k ab bc]
    exact chained_of_transCmp Double.totalCompare _ _ _
  · exact chained_of_transCmp Double.totalCompare _ _ _
  · rw [← Double.totalCompare_ofInt64 m k ab ac]
    exact chained_of_transCmp Double.totalCompare _ _ _
  all_goals exact chained_of_transCmp Double.totalCompare _ _ _

theorem quantity_chained (a b c : Quantity) (ab : Exact (.quantity a) (.quantity b))
    (bc : Exact (.quantity b) (.quantity c)) (ac : Exact (.quantity a) (.quantity c)) :
    Chained (order (.quantity a) (.quantity b)) (order (.quantity b) (.quantity c))
      (order (.quantity a) (.quantity c)) := by
  simp only [order, if_pos ab.1, if_pos bc.1, if_pos ac.1]
  rw [a.order_eq_measure b ab.1 ab.2.2, b.order_eq_measure c bc.1 bc.2.2, a.order_eq_measure c ac.1 ac.2.2]
  exact chained_of_transCmp (compareOn Quantity.measure) a b c

theorem money_chained (a b c : Money) (ab : a.Commensurable b) (bc : b.Commensurable c)
    (ac : a.Commensurable c) : Chained (a.order b) (b.order c) (a.order c) := by
  let scale := max a.scale (max b.scale c.scale)
  have scaleA : a.scale ≤ scale := by omega
  have scaleB : b.scale ≤ scale := by omega
  have scaleC : c.scale ≤ scale := by omega
  rw [a.order_eq_worth b scale ab scaleA scaleB, b.order_eq_worth c scale bc scaleB scaleC,
    a.order_eq_worth c scale ac scaleA scaleC]
  exact (chained_of_transCmp (compareOn Money.currency) a b c).then
    (chained_of_transCmp (compareOn (Money.worth · scale)) a b c)

mutual

theorem order_chained (a b c : Value) (ab : Exact a b) (bc : Exact b c) (ac : Exact a c) :
    Chained (order a b) (order b c) (order a c) := by
  apply chained_of_ranks
  intro sameB sameC
  cases a with
  | int n => exact number_chained _ b c rfl sameB sameC ab bc ac
  | float x => exact number_chained _ b c rfl sameB sameC ab bc ac
  | text content =>
    obtain ⟨contentB, rfl⟩ := text_of_rank b sameB
    obtain ⟨contentC, rfl⟩ := text_of_rank c sameC
    exact chained_of_transCmp Text.naturalCompare content contentB contentC
  | bool truth =>
    obtain ⟨truthB, rfl⟩ := bool_of_rank b sameB
    obtain ⟨truthC, rfl⟩ := bool_of_rank c sameC
    exact chained_of_transCmp (compareOn Bool.toNat) truth truthB truthC
  | quantity amount =>
    obtain ⟨amountB, rfl⟩ := quantity_of_rank b sameB
    obtain ⟨amountC, rfl⟩ := quantity_of_rank c sameC
    exact quantity_chained amount amountB amountC ab bc ac
  | money amount =>
    obtain ⟨amountB, rfl⟩ := money_of_rank b sameB
    obtain ⟨amountC, rfl⟩ := money_of_rank c sameC
    exact money_chained amount amountB amountC ab bc ac
  | array handle items =>
    obtain ⟨handleB, itemsB, rfl⟩ := array_of_rank b sameB
    obtain ⟨handleC, itemsC, rfl⟩ := array_of_rank c sameC
    exact orderAll_chained items itemsB itemsC ab bc ac
  | null | dict | table | record | schema | function | error =>
    intro _ _
    rw [order_of_unordered _ b _ rfl sameB (by simp [rank]),
      order_of_unordered b c _ sameB sameC (by simp [rank]),
      order_of_unordered _ c _ rfl sameC (by simp [rank])]
    rfl

theorem orderAll_chained (as bs cs : List Value) (ab : ExactAll as bs) (bc : ExactAll bs cs)
    (ac : ExactAll as cs) : Chained (orderAll as bs) (orderAll bs cs) (orderAll as cs) := by
  cases as with
  | nil => cases bs <;> cases cs <;> simp [Chained, orderAll]
  | cons a as =>
    cases bs with
    | nil => simp [Chained, orderAll]
    | cons b bs =>
      cases cs with
      | nil => simp [Chained, orderAll]
      | cons c cs =>
        exact (order_chained a b c ab.1 bc.1 ac.1).then (orderAll_chained as bs cs ab.2 bc.2 ac.2)

end

/-- On values that are compared exactly the order is a preorder: turning a pair around turns the answer
around, what does not fall in two steps does not fall in one, and equal values compare alike with a third. -/
theorem order_consistent (a b c : Value) (ab : Exact a b) (bc : Exact b c) (ac : Exact a c) :
    order b a = (order a b).swap ∧
      (order a b ≠ .gt → order b c ≠ .gt → order a c ≠ .gt) ∧
      (order a b = .eq → order a c = order b c) := by
  refine ⟨order_swap a b ab, (order_chained a b c ab bc ac).ne_gt, fun equal => ?_⟩
  have turned : order b a = .eq := by rw [order_swap a b ab, equal]; rfl
  have forth := order_chained a b c ab bc ac
  have back := order_chained b a c ab.symm ac bc
  rw [equal] at forth
  rw [turned] at back
  exact forth.eq_of_eq back

/-- An inch is 25.4 millimetres in either system, so the items after them decide, integers and a float. -/
theorem order_consistent_across_systems :
    order (.array none [.quantity ⟨25400, .length, .metric, "mm"⟩, .float ⟨0x3ff8000000000000⟩])
        (.array none [.quantity ⟨20160, .length, .customary, "in"⟩, .int 1]) = .gt ∧
      order (.array none [.quantity ⟨20160, .length, .customary, "in"⟩, .int 1])
        (.array none [.quantity ⟨20160, .length, .customary, "in"⟩, .int 2]) ≠ .gt := by
  let first := Value.array none [.quantity ⟨20160, .length, .customary, "in"⟩, .int 1]
  let second := Value.array none [.quantity ⟨25400, .length, .metric, "mm"⟩, .float ⟨0x3ff8000000000000⟩]
  let third := Value.array none [.quantity ⟨20160, .length, .customary, "in"⟩, .int 2]
  have one : Double.Represents 1 := Binary.whole_of_le _ (by decide)
  have two : Double.Represents 2 := Binary.whole_of_le _ (by decide)
  have forth : Exact first second := ⟨⟨rfl, by decide, by decide⟩, one, trivial⟩
  have back : Exact second third := ⟨⟨rfl, by decide, by decide⟩, two, trivial⟩
  have across : Exact first third := ⟨⟨rfl, Quantity.converts_own _, Quantity.converts_own _⟩, trivial, trivial⟩
  have rising : order first second = .lt ∧ order second third = .lt := by decide +kernel
  obtain ⟨turned, chained, -⟩ := order_consistent first second third forth back across
  rw [rising.1] at turned chained
  rw [rising.2] at chained
  exact ⟨turned, chained Ordering.noConfusion Ordering.noConfusion⟩

/-- Where a comparison rounds, the order is not a preorder. Neighbouring integers beyond 53 bits are equal to
one float and yet differ; a quantity can exceed one of the other system that is equal to it the other way
around; and a mass is equal to two lengths that differ. -/
theorem order_inconsistent_where_rounded :
    (order (.int 9007199254740993) (.float ⟨0x4340000000000000⟩) = .eq ∧
      order (.float ⟨0x4340000000000000⟩) (.int 9007199254740992) = .eq ∧
      order (.int 9007199254740993) (.int 9007199254740992) = .gt) ∧
    (order (.quantity ⟨1, .length, .customary, "in"⟩) (.quantity ⟨1, .length, .metric, "mm"⟩) = .gt ∧
      order (.quantity ⟨1, .length, .metric, "mm"⟩) (.quantity ⟨1, .length, .customary, "in"⟩) = .eq) ∧
    (order (.quantity ⟨2, .length, .metric, "mm"⟩) (.quantity ⟨1, .mass, .metric, "mg"⟩) = .eq ∧
      order (.quantity ⟨1, .mass, .metric, "mg"⟩) (.quantity ⟨1, .length, .metric, "mm"⟩) = .eq ∧
      order (.quantity ⟨2, .length, .metric, "mm"⟩) (.quantity ⟨1, .length, .metric, "mm"⟩) = .gt) := by
  decide +kernel

end TableScript.Value
