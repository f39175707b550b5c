import TableScript.Sorting.Stable

set_option autoImplicit false

namespace TableScript.Sorting

variable {α : Type} {less : α → α → Bool}

theorem place_perm (item : α) (sorted : List α) : (place less item sorted).Perm (item :: sorted) := by
  induction sorted with
  | nil => exact .refl _
  | cons last rest ih =>
      unfold place
      split
      · exact (ih.cons last).trans (.swap item last rest)
      · exact .refl _

theorem extend_perm (sorted items : List α) : (extend less sorted items).Perm (sorted ++ items) := by
  suffices ∀ placed : List α,
      (items.foldl (fun placed item => place less item placed) placed).Perm (placed ++ items) from
    (List.reverse_perm _).trans ((this _).trans ((List.reverse_perm sorted).append_right items))
  induction items with
  | nil => exact fun placed => .of_eq (List.append_nil placed).symm
  | cons item rest ih =>
      intro placed
      refine (ih _).trans (((place_perm item placed).append_right rest).trans ?_)
      exact List.perm_middle.symm

theorem insertion_perm (items : List α) : (insertion less items).Perm items := extend_perm [] items

theorem mergeUp_perm (less : α → α → Bool) (left right : List α) :
    (mergeUp less left right).Perm (left ++ right) :=
  List.merge_perm_append _

theorem mergeDown_perm (left right : List α) : (mergeDown less left right).Perm (left ++ right) := by
  refine (List.reverse_perm _).trans ((List.merge_perm_append _).trans ?_)
  exact (List.reverse_perm left).append (List.reverse_perm right)

theorem merge_perm (left right : List α) : (merge less left right).Perm (left ++ right) := by
  unfold merge
  split
  · exact mergeUp_perm less left right
  · exact mergeDown_perm left right

/-- The items taken from the front are the first ones of both runs. -/
theorem lowest_perm (less : α → α → Bool) (count : Nat) (left right : List α) (inLeft : count ≤ left.length)
    (inRight : count ≤ right.length) :
    (lowest less count left right).2 ≤ count ∧
      (lowest less count left right).1.Perm
        (left.take (lowest less count left right).2 ++
          right.take (count - (lowest less count left right).2)) := by
  induction count generalizing left right with
  | zero => simp [lowest]
  | succ count ih =>
      match left, right with
      | a :: left, b :: right =>
          simp only [List.length_cons] at inLeft inRight
          unfold lowest
          split
          · obtain ⟨bounded, taken⟩ := ih (a :: left) right (by simp; omega) (by omega)
            refine ⟨by simp; omega, ?_⟩
            have more : count + 1 - (lowest less count (a :: left) right).2 =
                count - (lowest less count (a :: left) right).2 + 1 := by omega
            simp only [more, List.take_succ_cons]
            exact (taken.cons b).trans List.perm_middle.symm
          · obtain ⟨bounded, taken⟩ := ih left (b :: right) (by omega) (by simp; omega)
            refine ⟨by simp; omega, ?_⟩
            simp only [Nat.add_sub_add_right, List.take_succ_cons, List.cons_append]
            exact taken.cons a

/-- Taking from the back is taking from the front under the opposite choice. -/
theorem highest_eq (count : Nat) (left right : List α) :
    highest less count left right = lowest (fun b a => !less b a) count left right := by
  induction count generalizing left right with
  | zero => rfl
  | succ count ih =>
      match left, right with
      | [], _ => rfl
      | _ :: _, [] => rfl
      | a :: left, b :: right =>
          unfold highest lowest
          cases less b a <;> simp [ih]

theorem drop_take_drop (items : List α) (start count stop : Nat) (meets : start + count = stop) :
    items.take start ++ (items.drop start).take count ++ items.drop stop = items := by
  subst stop
  rw [List.append_assoc, ← List.drop_drop, List.take_append_drop, List.take_append_drop]

theorem mergeInward?_perm (left right : List α) (shorter : left.length ≤ right.length) :
    ∀ merged ∈ mergeInward? less left right, merged.Perm (left ++ right) := by
  intro merged given
  dsimp only [mergeInward?] at given
  obtain ⟨lowBounded, low⟩ := lowest_perm less left.length left right (Nat.le_refl _) shorter
  have back := lowest_perm (fun b a => !less b a) left.length left.reverse right.reverse
    (by simp) (by simpa using shorter)
  rw [← highest_eq, List.take_reverse, List.take_reverse] at back
  obtain ⟨highBounded, high⟩ := back
  generalize lowest less left.length left right = first at low lowBounded given
  generalize highest less left.length left.reverse right.reverse = last at high highBounded given
  obtain ⟨lowItems, lowLeft⟩ := first
  obtain ⟨highItems, highLeft⟩ := last
  dsimp only at low high lowBounded highBounded given
  split at given
  · rename_i meets
    obtain ⟨inLeft, inRight⟩ := meets
    obtain rfl := Option.some_inj.mp given
    have leftParts := drop_take_drop left lowLeft (left.length - (lowLeft + highLeft))
      (left.length - highLeft) (by omega)
    have rightParts := drop_take_drop right (left.length - lowLeft)
      (right.length + (lowLeft + highLeft) - 2 * left.length) (right.length - (left.length - highLeft))
      (by omega)
    have turned := (List.reverse_perm highItems).trans (high.trans
      ((List.reverse_perm _).append (List.reverse_perm _)))
    -- Both runs fall into a start that is low, a rest and an end that is high.
    classical
    rw [List.perm_iff_count]
    intro item
    have lows := low.count_eq item
    have highs := turned.count_eq item
    have lefts := congrArg (List.count item) leftParts
    have rights := congrArg (List.count item) rightParts
    simp only [List.count_append] at lows highs lefts rights ⊢
    omega
  · cases given

theorem four_perm (a b c d : α) : (four less a b c d).Perm [a, b, c, d] := by
  classical
  rw [List.perm_iff_count]
  intro item
  unfold four
  cases less b a <;> cases less d c <;> simp only [Bool.false_eq_true, ↓reduceIte] <;>
    (repeat' split) <;> simp only [List.count_cons, List.count_nil] <;> omega

theorem sortHalf_perm (items : List α) : (sortHalf less items).Perm items := by
  unfold sortHalf
  split
  · rename_i a b c d rest
    exact (extend_perm _ rest).trans ((four_perm a b c d).append_right rest)
  · exact insertion_perm items

theorem small?_perm (items : List α) : ∀ sorted ∈ small? less items, sorted.Perm items := by
  unfold small?
  extract_lets middle sort
  have sorted : ∀ half, (sort half).Perm half := by
    intro half
    unfold sort
    split
    · exact sortHalf_perm half
    · exact insertion_perm half
  have shorter : (sort (items.take middle)).length ≤ (sort (items.drop middle)).length := by
    rw [(sorted _).length_eq, (sorted _).length_eq, List.length_take, List.length_drop]
    omega
  intro merged given
  refine (mergeInward?_perm _ _ shorter merged given).trans (((sorted _).append (sorted _)).trans ?_)
  rw [List.take_append_drop]

theorem partition_perm (goesLeft : α → Bool) (items : List α) :
    ((items.partition goesLeft).1 ++ (items.partition goesLeft).2).Perm items := by
  rw [List.partition_eq_filter_filter]
  induction items with
  | nil => exact .refl _
  | cons item rest ih =>
      cases side : goesLeft item with
      | true => simpa [side] using ih
      | false =>
          simp only [List.filter_cons, side, Function.comp_apply, Bool.not_false, Bool.false_eq_true, ↓reduceIte]
          exact List.perm_middle.trans (ih.cons item)

theorem divide_perm (goesLeft : α → Bool) (pivotLeft : Bool) (before : List α) (pivot : α) (after : List α) :
    ((divide goesLeft pivotLeft before pivot after).1 ++
      (divide goesLeft pivotLeft before pivot after).2).Perm (before ++ pivot :: after) := by
  classical
  rw [List.perm_iff_count]
  intro item
  have early := (partition_perm goesLeft before).count_eq item
  have late := (partition_perm goesLeft after).count_eq item
  unfold divide
  cases pivotLeft <;> simp only [Bool.false_eq_true, ↓reduceIte, List.count_append, List.count_cons] at early late ⊢ <;> omega

section Parts

variable {sort? : List α → Option (List α)} (sorts : ∀ items, ∀ sorted ∈ sort? items, sorted.Perm items)
include sorts

theorem quick?_perm (fuel limit : Nat) (floor : Option α) (items : List α) :
    ∀ sorted ∈ quick? less sort? fuel limit floor items, sorted.Perm items := by
  induction fuel generalizing limit floor items with
  | zero => exact sorts items
  | succ fuel ih =>
      unfold quick?
      split
      · exact small?_perm items
      · split
        · exact sorts items
        · rename_i limit
          dsimp only
          split
          · exact sorts items
          · rename_i pivot after split
            have whole : items.take (pivotPlace less items.toArray) ++ pivot :: after = items := by
              rw [← split, List.take_append_drop]
            intro sorted given
            split at given
            · obtain ⟨rest, sortedRest, rfl⟩ := Option.map_eq_some_iff.mp given
              refine ((ih limit none _ rest sortedRest).append_left _).trans ((divide_perm _ _ _ _ _).trans ?_)
              rw [whole]
            · obtain ⟨low, sortedLow, given⟩ := Option.bind_eq_some_iff.mp given
              obtain ⟨high, sortedHigh, given⟩ := Option.bind_eq_some_iff.mp given
              obtain rfl := Option.some_inj.mp given
              refine ((ih limit floor _ low sortedLow).append (ih limit (some pivot) _ high sortedHigh)).trans
                ((divide_perm _ _ _ _ _).trans ?_)
              rw [whole]

theorem quicksort?_perm (items : List α) : ∀ sorted ∈ quicksort? less sort? items, sorted.Perm items :=
  quick?_perm sorts _ _ none items

theorem Run.sort?_perm (run : Run α) : ∀ sorted ∈ run.sort? sort?, sorted.Perm run.items := by
  unfold Run.sort?
  split
  · rintro sorted ⟨⟩
    exact .refl _
  · exact sorts run.items

theorem Run.join?_perm (left right : Run α) :
    ∀ joined ∈ Run.join? less sort? left right, joined.items.Perm (left.items ++ right.items) := by
  intro joined given
  unfold Run.join? at given
  split at given
  · obtain ⟨first, sortedFirst, given⟩ := Option.bind_eq_some_iff.mp given
    obtain ⟨second, sortedSecond, given⟩ := Option.bind_eq_some_iff.mp given
    obtain rfl := Option.some_inj.mp given
    exact (merge_perm _ _).trans
      ((left.sort?_perm sorts first sortedFirst).append (right.sort?_perm sorts second sortedSecond))
  · obtain rfl := Option.some_inj.mp given
    exact .refl _

end Parts

/-- A run that is followed keeps its items in reverse before those that are left. -/
theorem follow_eq (follows : α → α → Bool) (done : List α) (last : α) (items : List α) :
    (follow follows done last items).1.reverse ++ (follow follows done last items).2 = done.reverse ++ items := by
  induction items generalizing done last with
  | nil => rfl
  | cons item rest ih =>
      unfold follow
      split
      · rw [ih]
        simp
      · rfl

theorem sortedStart_perm (items : List α) :
    ((sortedStart less items).1 ++ (sortedStart less items).2).Perm items := by
  unfold sortedStart
  split
  · rename_i first second rest
    split
    · have kept := follow_eq (fun last item => less item last) [second, first] second rest
      exact ((List.reverse_perm _).symm.append_right _).trans (.of_eq kept)
    · exact .of_eq (follow_eq (fun last item => !less item last) [second, first] second rest)
  · simp

theorem firstRun?_perm (least : Nat) (eager : Bool) (items : List α) :
    ∀ first ∈ firstRun? less least eager items, (first.1.items ++ first.2).Perm items := by
  have started : ((if least ≤ items.length then sortedStart less items else ([], items)).1 ++
      (if least ≤ items.length then sortedStart less items else ([], items)).2).Perm items := by
    split
    · exact sortedStart_perm items
    · exact .refl _
  intro first given
  dsimp only [firstRun?] at given
  generalize (if least ≤ items.length then sortedStart less items else ([], items)) = start at started given
  split at given
  · obtain rfl := Option.some_inj.mp given
    exact started
  · split at given
    · obtain ⟨sorted, made, rfl⟩ := Option.map_eq_some_iff.mp given
      refine ((small?_perm _ sorted made).append_right _).trans ?_
      rw [List.take_append_drop]
    · obtain rfl := Option.some_inj.mp given
      rw [List.take_append_drop]

theorem runs?_perm (less : α → α → Bool) (least : Nat) (eager : Bool) (count : Nat) (items : List α) :
    ∀ runs ∈ runs? less least eager count items, (runs.flatMap (·.items)).Perm items := by
  induction count generalizing items with
  | zero =>
      rintro runs ⟨⟩
      simp
  | succ count ih =>
      match items with
      | [] =>
          rintro runs ⟨⟩
          exact .refl _
      | item :: rest =>
          intro runs given
          obtain ⟨first, cut, given⟩ := Option.bind_eq_some_iff.mp given
          obtain ⟨others, later, given⟩ := Option.bind_eq_some_iff.mp given
          obtain rfl := Option.some_inj.mp given
          refine ((ih _ others later).append_left _).trans ?_
          exact firstRun?_perm least eager (item :: rest) first cut

theorem collapse?_zero (join? : Run α → Run α → Option (Run α)) (stack : List (Run α × Nat)) (last : Run α) :
    ∀ joined ∈ collapse? join? 0 stack last, joined.1 = [] := by
  induction stack generalizing last with
  | nil =>
      rintro joined ⟨⟩
      rfl
  | cons top stack ih =>
      intro joined given
      obtain ⟨run, -, given⟩ := Option.bind_eq_some_iff.mp given
      exact ih run joined given

section Join

variable {join? : Run α → Run α → Option (Run α)}
  (joins : ∀ left right, ∀ joined ∈ join? left right, joined.items.Perm (left.items ++ right.items))
include joins

theorem collapse?_perm (depth : Nat) (stack : List (Run α × Nat)) (last : Run α) :
    ∀ joined ∈ collapse? join? depth stack last,
      (joined.1.flatMap (·.1.items) ++ joined.2.items).Perm (stack.flatMap (·.1.items) ++ last.items) := by
  induction stack generalizing last with
  | nil =>
      rintro joined ⟨⟩
      exact .refl _
  | cons top stack ih =>
      intro joined given
      unfold collapse? at given
      split at given
      · obtain ⟨run, made, given⟩ := Option.bind_eq_some_iff.mp given
        refine (ih run joined given).trans (((joins top.1 last run made).append_left _).trans ?_)
        simp only [List.flatMap_cons, List.append_assoc]
        exact List.perm_append_comm_assoc _ _ _
      · obtain rfl := Option.some_inj.mp given
        exact .refl _

theorem collapse?_zero_perm (stack : List (Run α × Nat)) (last : Run α) :
    ∀ joined ∈ collapse? join? 0 stack last,
      joined.2.items.Perm (stack.flatMap (·.1.items) ++ last.items) := by
  intro joined given
  have permuted := collapse?_perm joins 0 stack last joined given
  rwa [collapse?_zero join? stack last joined given, List.flatMap_nil, List.nil_append] at permuted

theorem joinAll?_perm (length : Nat) (stack : List (Run α × Nat)) (last : Run α) (position : Nat)
    (rest : List (Run α)) :
    ∀ joined ∈ joinAll? join? length stack last position rest,
      joined.items.Perm (stack.flatMap (·.1.items) ++ last.items ++ rest.flatMap (·.items)) := by
  induction rest generalizing stack last position with
  | nil =>
      intro joined given
      obtain ⟨whole, made, rfl⟩ := Option.map_eq_some_iff.mp given
      refine (collapse?_zero_perm joins stack last whole made).trans ?_
      simp
  | cons next rest ih =>
      intro joined given
      obtain ⟨part, made, given⟩ := Option.bind_eq_some_iff.mp given
      refine (ih _ _ _ joined given).trans ?_
      simp only [List.flatMap_cons, ← List.append_assoc]
      refine (List.Perm.append_right _ ?_).append_right _
      exact List.perm_append_comm.trans (collapse?_perm joins _ stack last part made)

end Join

theorem byRuns?_perm {sort? : List α → Option (List α)} (sorts : ∀ items, ∀ sorted ∈ sort? items, sorted.Perm items)
    (eager : Bool) (items : List α) : ∀ sorted ∈ byRuns? less sort? eager items, sorted.Perm items := by
  intro sorted given
  obtain ⟨runs, cut, given⟩ := Option.bind_eq_some_iff.mp given
  have cut := runs?_perm less (leastRun items.length) eager items.length items runs cut
  match runs with
  | [] =>
      obtain rfl := Option.some_inj.mp given
      exact cut
  | first :: rest =>
      obtain ⟨joined, made, given⟩ := Option.bind_eq_some_iff.mp given
      refine (joined.sort?_perm sorts sorted given).trans
        ((joinAll?_perm (Run.join?_perm sorts) _ _ _ _ _ joined made).trans ?_)
      exact cut

theorem insertion?_perm (items : List α) : ∀ sorted ∈ insertion? less items, sorted.Perm items := by
  rintro sorted ⟨⟩
  exact insertion_perm items

/-- Where the stable sort does not give up it reorders the items, whatever the order is. -/
theorem stable?_perm (less : α → α → Bool) (items : List α) : ∀ sorted ∈ stable? less items, sorted.Perm items := by
  have runsOfInsertion : ∀ items, ∀ sorted ∈ byRuns? less (insertion? less) true items, sorted.Perm items :=
    byRuns?_perm insertion?_perm true
  unfold stable?
  split
  · exact insertion?_perm items
  · split
    · exact runsOfInsertion items
    · exact byRuns?_perm (quicksort?_perm runsOfInsertion) false items

end TableScript.Sorting
