set_option autoImplicit false

namespace TableScript

/-- What the comparisons of `a` with `b`, of `b` with `c` and of `a` with `c` have to do with one another
in a preorder: along a chain that does not fall, the first step that rises decides for the whole. -/
def Chained (ab bc ac : Ordering) : Prop := ab.isLE → bc.isLE → ac = ab.then bc

theorem chained_of_transCmp {α : Type} (cmp : α → α → Ordering) [Std.TransCmp cmp] (a b c : α) :
    Chained (cmp a b) (cmp b c) (cmp a c) := by
  intro first second
  cases decided : cmp a b with
  | lt => exact Std.TransCmp.lt_of_lt_of_isLE decided second
  | eq => exact Std.TransCmp.congr_left decided
  | gt => simp [decided] at first

theorem Chained.then {ab bc ac ab' bc' ac' : Ordering} (heads : Chained ab bc ac)
    (rests : Chained ab' bc' ac') : Chained (ab.then ab') (bc.then bc') (ac.then ac') := by
  intro first second
  cases ab with
  | gt => exact absurd first Bool.false_ne_true
  | lt =>
    have rises : bc.isLE := by
      cases bc with
      | gt => exact second
      | lt | eq => rfl
    rw [heads rfl rises]
    rfl
  | eq =>
    cases bc with
    | gt => exact absurd second Bool.false_ne_true
    | lt =>
      rw [heads rfl rfl]
      cases ab' with
      | gt => exact absurd first Bool.false_ne_true
      | lt | eq => rfl
    | eq =>
      rw [heads rfl rfl]
      exact rests first second

theorem Chained.ne_gt {ab bc ac : Ordering} (chained : Chained ab bc ac) (first : ab ≠ .gt)
    (second : bc ≠ .gt) : ac ≠ .gt := by
  rw [chained (Ordering.isLE_iff_ne_gt.mpr first) (Ordering.isLE_iff_ne_gt.mpr second)]
  cases ab with
  | gt => contradiction
  | lt => exact Ordering.noConfusion
  | eq => exact second

/-- Of two steps that do not fall it does not matter which one comes first. -/
theorem Chained.comm {ab bc ac : Ordering} (chained : Chained bc ab ac) : Chained ab bc ac := by
  intro first second
  rw [chained second first]
  cases ab <;> cases bc <;> first | rfl | contradiction

/-- Equals compare alike with a third: whichever of the two does not fall, the other follows it. -/
theorem Chained.eq_of_eq {bc ac : Ordering} (forth : Chained .eq bc ac) (back : Chained .eq ac bc) :
    ac = bc := by
  by_cases risesB : bc.isLE
  · exact forth rfl risesB
  · by_cases risesA : ac.isLE
    · exact (back rfl risesA).symm
    · rw [Ordering.isLE_iff_ne_gt, Decidable.not_not] at risesA risesB
      rw [risesA, risesB]

/-- Comparisons agree where one pair lies as the other does. -/
theorem compare_eq_compare {a b c d : Int} (less : a < b → c < d) (same : a = b → c = d)
    (greater : b < a → d < c) : compare c d = compare a b := by
  obtain first | second | third := Int.lt_trichotomy a b
  · rw [Int.compare_eq_lt.mpr first, Int.compare_eq_lt.mpr (less first)]
  · rw [Int.compare_eq_eq.mpr second, Int.compare_eq_eq.mpr (same second)]
  · rw [Int.compare_eq_gt.mpr third, Int.compare_eq_gt.mpr (greater third)]

end TableScript
