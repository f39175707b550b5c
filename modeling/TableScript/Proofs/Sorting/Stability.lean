import TableScript.Proofs.Sorting.Merging

set_option autoImplicit false

namespace TableScript.Sorting

variable {α : Type} {less : α → α → Bool} {among : α → Prop}

theorem divide_eq (goesLeft : α → Bool) {pivotLeft : Bool} {pivot : α} (side : goesLeft pivot = pivotLeft)
    (before after : List α) :
    divide goesLeft pivotLeft before pivot after =
      ((before ++ pivot :: after).filter goesLeft,
        (before ++ pivot :: after).filter fun item => !goesLeft item) := by
  subst side
  unfold divide
  simp only [List.partition_eq_filter_filter, List.filter_append, List.filter_cons]
  cases goesLeft pivot <;> rfl

namespace Consistent

variable (consistent : Consistent less among) {a b pivot : α} (amongA : among a) (amongB : among b)
  (amongPivot : among pivot) (together : tied less a b = true)
include consistent amongA amongB amongPivot together

theorem less_congr_left : less a pivot = less b pivot := by
  obtain ⟨ab, ba⟩ := (tied_iff a b).mp together
  rw [Bool.eq_iff_iff]
  exact ⟨consistent.less_of_atMost_of_less amongB amongA amongPivot ba,
    consistent.less_of_atMost_of_less amongA amongB amongPivot ab⟩

theorem less_congr_right : less pivot a = less pivot b := by
  obtain ⟨ab, ba⟩ := (tied_iff a b).mp together
  rw [Bool.eq_iff_iff]
  exact ⟨fun below => consistent.less_of_less_of_atMost amongPivot amongA amongB below ab,
    fun below => consistent.less_of_less_of_atMost amongPivot amongB amongA below ba⟩

end Consistent

section Quick

variable (consistent : Consistent less among) {items : List α} (amongAll : ∀ item ∈ items, among item)
  {pivot : α} (amongPivot : among pivot)
include consistent amongAll amongPivot

/-- Sorting what is less than a pivot and what is not sorts the whole. -/
theorem Sorts.of_divide {low high : List α}
    (lower : Sorts less among (items.filter (less · pivot)) low)
    (higher : Sorts less among (items.filter fun item => !less item pivot) high) :
    Sorts less among items (low ++ high) := by
  have kept : Keeps less among items
      (items.filter (less · pivot) ++ items.filter fun item => !less item pivot) :=
    .divide amongAll fun a b amongA amongB together =>
      consistent.less_congr_left amongA amongB amongPivot together
  refine .of_keeps kept (lower.append higher fun a inLow b inHigh => ?_)
  rw [List.mem_filter] at inLow inHigh
  have below := consistent.asymm (amongAll a inLow.1) amongPivot inLow.2
  have above : AtMost less pivot b := (Bool.not_eq_true' _).mp inHigh.2
  exact consistent.trans (amongAll a inLow.1) amongPivot (amongAll b inHigh.1) below above

/-- A pivot that no item is less than is divided off with its equals, which are all tied. -/
theorem Sorts.of_divide_same {rest : List α} (least : ∀ item ∈ items, AtMost less pivot item)
    (higher : Sorts less among (items.filter fun item => !!less pivot item) rest) :
    Sorts less among items ((items.filter fun item => !less pivot item) ++ rest) := by
  have kept : Keeps less among items ((items.filter fun item => !less pivot item) ++
      items.filter fun item => !!less pivot item) :=
    .divide amongAll fun a b amongA amongB together =>
      congrArg (!·) (consistent.less_congr_right amongA amongB amongPivot together)
  have amongSame : ∀ item ∈ items.filter (fun item => !less pivot item), among item :=
    fun item member => amongAll item (List.mem_filter.mp member).1
  have atPivot : ∀ item ∈ items.filter (fun item => !less pivot item), AtMost less item pivot :=
    fun item member => (Bool.not_eq_true' _).mp (List.mem_filter.mp member).2
  have same : Sorts less among (items.filter fun item => !less pivot item)
      (items.filter fun item => !less pivot item) := by
    refine .of_ordered amongSame (List.pairwise_of_forall_mem_list fun a memberA b memberB => ?_)
    exact consistent.trans (amongSame a memberA) amongPivot (amongSame b memberB) (atPivot a memberA)
      (least b (List.mem_filter.mp memberB).1)
  refine .of_keeps kept (same.append higher fun a memberA b memberB => ?_)
  exact consistent.trans (amongSame a memberA) amongPivot (amongAll b (List.mem_filter.mp memberB).1)
    (atPivot a memberA) (least b (List.mem_filter.mp memberB).1)

end Quick

/-- No item is less than the floor, if there is one. -/
def Above (less : α → α → Bool) (among : α → Prop) (floor : Option α) (items : List α) : Prop :=
  ∀ least ∈ floor, among least ∧ ∀ item ∈ items, AtMost less least item

theorem above_none (items : List α) : Above less among none items :=
  fun least given => absurd given (Option.not_mem_none least)

theorem above_some {pivot : α} (amongPivot : among pivot) (items : List α) :
    Above less among (some pivot) (items.filter fun item => !less item pivot) := by
  intro least given
  obtain rfl := Option.mem_some.mp given
  refine ⟨amongPivot, fun item member => ?_⟩
  exact (Bool.not_eq_true' _).mp (List.mem_filter.mp member).2

theorem Above.filter {floor : Option α} {items : List α} (above : Above less among floor items)
    (goesLeft : α → Bool) : Above less among floor (items.filter goesLeft) := by
  intro least given
  obtain ⟨amongLeast, bound⟩ := above least given
  exact ⟨amongLeast, fun item member => bound item (List.mem_filter.mp member).1⟩

/-- A pivot that is at the floor, or that no item is less than, comes before all items. -/
theorem Above.pivot_least (consistent : Consistent less among) {floor : Option α} {items : List α} {pivot : α}
    (above : Above less among floor items) (amongAll : ∀ item ∈ items, among item) (amongPivot : among pivot)
    (noneBelow : (floor.any (fun least => !less least pivot) || (items.filter (less · pivot)).isEmpty) = true) :
    ∀ item ∈ items, AtMost less pivot item := by
  intro item member
  rcases (Bool.or_eq_true _ _).mp noneBelow with atFloor | noneLess
  · obtain ⟨least, given, notBelow⟩ := (Option.any_eq_true ..).mp atFloor
    obtain ⟨amongLeast, bound⟩ := above least given
    have equal : AtMost less pivot least := (Bool.not_eq_true' _).mp notBelow
    exact consistent.trans amongPivot amongLeast (amongAll item member) equal (bound item member)
  · have none := List.filter_eq_nil_iff.mp (List.isEmpty_iff.mp noneLess) item member
    exact Bool.of_not_eq_true none

theorem quick?_sorts (consistent : Consistent less among) {fallback? : List α → Option (List α)}
    (sorts : SortsAll less among fallback?) (fuel limit : Nat) (floor : Option α) {items : List α}
    (amongAll : ∀ item ∈ items, among item) (above : Above less among floor items) :
    ∃ sorted, quick? less fallback? fuel limit floor items = some sorted ∧ Sorts less among items sorted := by
  induction fuel generalizing limit floor items with
  | zero => exact sorts items amongAll
  | succ fuel ih =>
    unfold quick?
    split
    · exact small?_sorts consistent items amongAll
    · split
      · exact sorts items amongAll
      · rename_i limit
        dsimp only
        split
        · exact sorts items amongAll
        · rename_i pivot after split
          have whole : items.take (pivotPlace less items.toArray) ++ pivot :: after = items := by
            rw [← split, List.take_append_drop]
          have amongPivot := amongAll pivot (List.mem_of_mem_drop (split ▸ List.mem_cons_self))
          have self : less pivot pivot = false := consistent.refl amongPivot
          have equal : (!less pivot pivot) = true := by rw [self, Bool.not_false]
          have amongPart : ∀ (goesLeft : α → Bool), ∀ item ∈ items.filter goesLeft, among item :=
            fun goesLeft item member => amongAll item (List.mem_filter.mp member).1
          rw [divide_eq (less · pivot) self, divide_eq (fun item => !less pivot item) equal, whole]
          split
          · rename_i noneBelow
            have least := above.pivot_least consistent amongAll amongPivot noneBelow
            obtain ⟨rest, made, sorted⟩ := ih limit none (amongPart _) (above_none _)
            refine ⟨_, congrArg (Option.map _) made, ?_⟩
            exact .of_divide_same consistent amongAll amongPivot least sorted
          · obtain ⟨low, madeLow, sortedLow⟩ := ih limit floor (amongPart (less · pivot)) (above.filter _)
            obtain ⟨high, madeHigh, sortedHigh⟩ := ih limit (some pivot) (amongPart _) (above_some amongPivot items)
            refine ⟨low ++ high, ?_, .of_divide consistent amongAll amongPivot sortedLow sortedHigh⟩
            rw [madeLow, madeHigh]
            rfl

theorem quicksort?_sorts (consistent : Consistent less among) {fallback? : List α → Option (List α)}
    (sorts : SortsAll less among fallback?) : SortsAll less among (quicksort? less fallback?) :=
  fun items amongAll => quick?_sorts consistent sorts _ _ none amongAll (above_none items)

/-- Items of which each is less than those before it are all apart, so their order may be turned round. -/
theorem Keeps.turn (consistent : Consistent less among) {items : List α} (amongAll : ∀ item ∈ items, among item)
    (falling : items.Pairwise fun earlier later => less later earlier = true) :
    Keeps less among items items.reverse := by
  induction items with
  | nil => exact .refl amongAll
  | cons first rest ih =>
    obtain ⟨lower, falls⟩ := List.pairwise_cons.mp falling
    obtain ⟨amongFirst, amongRest⟩ := List.forall_mem_cons.mp amongAll
    have passed : Keeps less among ([first] ++ rest) (rest ++ [first]) :=
      .swap consistent amongAll (List.forall_mem_singleton.mpr lower)
    have turned := (ih amongRest falls).append (.refl (List.forall_mem_singleton.mpr amongFirst))
    rw [List.reverse_cons]
    exact passed.trans turned

/-- What holds of neighbours in a run that is followed holds of any two of its items, if it is transitive. -/
theorem follow_pairwise (follows : α → α → Bool) (relation : α → α → Prop)
    (next : ∀ {a b}, among a → among b → follows a b = true → relation b a)
    (trans : ∀ {a b c}, among a → among b → among c → relation a b → relation b c → relation a c)
    {older : List α} {last : α} {items : List α} (amongDone : ∀ item ∈ last :: older, among item)
    (amongItems : ∀ item ∈ items, among item) (related : (last :: older).Pairwise relation) :
    (follow follows (last :: older) last items).1.Pairwise relation := by
  induction items generalizing older last with
  | nil => exact related
  | cons item rest ih =>
    unfold follow
    split
    · rename_i following
      have amongItem := amongItems item List.mem_cons_self
      have amongLast := amongDone last List.mem_cons_self
      have first := next amongLast amongItem following
      refine ih (List.forall_mem_cons.mpr ⟨amongItem, amongDone⟩)
        (fun other member => amongItems other (List.mem_cons_of_mem item member)) ?_
      refine List.pairwise_cons.mpr ⟨List.forall_mem_cons.mpr ⟨first, fun other member => ?_⟩, related⟩
      exact trans amongItem amongLast (amongDone other (List.mem_cons_of_mem last member)) first
        ((List.pairwise_cons.mp related).1 other member)
    · exact related

section SortedStart

variable (consistent : Consistent less among) {first second : α} {rest : List α}
  (amongAll : ∀ item ∈ first :: second :: rest, among item)
include consistent amongAll

/-- A start that falls strictly, turned round. -/
theorem follow_falling (falls : less second first = true) :
    let followed := follow (fun last item => less item last) [second, first] second rest
    Keeps less among (first :: second :: rest) (followed.1 ++ followed.2) ∧
      followed.1.Pairwise (AtMost less) := by
  intro followed
  obtain ⟨amongFirst, amongOthers⟩ := List.forall_mem_cons.mp amongAll
  obtain ⟨amongSecond, amongRest⟩ := List.forall_mem_cons.mp amongOthers
  have falling : followed.1.Pairwise fun later earlier => less later earlier = true := by
    refine follow_pairwise (fun last item => less item last) (fun later earlier => less later earlier = true)
      (fun _ _ below => below) ?_
      (List.forall_mem_cons.mpr ⟨amongSecond, List.forall_mem_singleton.mpr amongFirst⟩) amongRest
      (List.pairwise_pair.mpr falls)
    intro a b c amongA amongB amongC ab bc
    exact consistent.less_of_less_of_atMost amongA amongB amongC ab (consistent.asymm amongB amongC bc)
  have whole : followed.1.reverse ++ followed.2 = first :: second :: rest :=
    follow_eq (fun last item => less item last) [second, first] second rest
  rw [← whole] at amongAll
  obtain ⟨amongStart, amongLeft⟩ := List.forall_mem_append.mp amongAll
  have turned := Keeps.turn consistent amongStart (List.pairwise_reverse.mpr falling)
  have kept := turned.append (.refl amongLeft)
  rw [whole, List.reverse_reverse] at kept
  refine ⟨kept, falling.imp_of_mem fun memberA memberB below => ?_⟩
  exact consistent.asymm (amongStart _ (List.mem_reverse.mpr memberA))
    (amongStart _ (List.mem_reverse.mpr memberB)) below

/-- A start that does not fall. -/
theorem follow_rising (rises : less second first = false) :
    let followed := follow (fun last item => !less item last) [second, first] second rest
    Keeps less among (first :: second :: rest) (followed.1.reverse ++ followed.2) ∧
      followed.1.reverse.Pairwise (AtMost less) := by
  intro followed
  have whole : followed.1.reverse ++ followed.2 = first :: second :: rest :=
    follow_eq (fun last item => !less item last) [second, first] second rest
  refine ⟨?_, List.pairwise_reverse.mpr ?_⟩
  · rw [whole]
    exact .refl amongAll
  · obtain ⟨amongFirst, amongOthers⟩ := List.forall_mem_cons.mp amongAll
    obtain ⟨amongSecond, amongRest⟩ := List.forall_mem_cons.mp amongOthers
    refine follow_pairwise (fun last item => !less item last) (fun later earlier => AtMost less earlier later)
      (fun _ _ next => (Bool.not_eq_true' _).mp next) ?_
      (List.forall_mem_cons.mpr ⟨amongSecond, List.forall_mem_singleton.mpr amongFirst⟩) amongRest
      (List.pairwise_pair.mpr rises)
    exact fun amongA amongB amongC ab bc => consistent.trans amongC amongB amongA bc ab

end SortedStart

theorem sortedStart_keeps (consistent : Consistent less among) {items : List α}
    (amongAll : ∀ item ∈ items, among item) :
    Keeps less among items ((sortedStart less items).1 ++ (sortedStart less items).2) ∧
      (sortedStart less items).1.Pairwise (AtMost less) := by
  match items with
  | [] => exact ⟨.refl amongAll, .nil⟩
  | [only] => exact ⟨.refl amongAll, List.pairwise_singleton _ only⟩
  | first :: second :: rest =>
    unfold sortedStart
    dsimp only
    split
    · rename_i falls
      exact follow_falling consistent amongAll falls
    · rename_i rises
      exact follow_rising consistent amongAll (Bool.of_not_eq_true rises)

namespace Run

/-- The run has the items of `before`, in order if it is marked so. -/
structure Holds (less : α → α → Bool) (among : α → Prop) (before : List α) (run : Run α) : Prop
    extends Keeps less among before run.items where
  ordered : run.sorted = true → run.items.Pairwise (AtMost less)

variable {before before' : List α} {run left right : Run α}

theorem Holds.sort? {sort? : List α → Option (List α)} (sorts : SortsAll less among sort?)
    (holds : Holds less among before run) :
    ∃ sorted, run.sort? sort? = some sorted ∧ Sorts less among before sorted := by
  unfold Run.sort?
  split
  · rename_i marked
    exact ⟨run.items, rfl, holds.toKeeps, holds.ordered marked⟩
  · obtain ⟨sorted, made, sorts⟩ := sorts run.items holds.among_after
    exact ⟨sorted, made, .of_keeps holds.toKeeps sorts⟩

theorem Holds.join? (consistent : Consistent less among) {sort? : List α → Option (List α)}
    (sorts : SortsAll less among sort?)
    (first : Holds less among before left) (second : Holds less among before' right) :
    ∃ joined, Run.join? less sort? left right = some joined ∧ Holds less among (before ++ before') joined := by
  unfold Run.join?
  split
  · obtain ⟨start, madeStart, sortedLeft⟩ := first.sort? sorts
    obtain ⟨rest, madeRest, sortedRight⟩ := second.sort? sorts
    have kept := sortedLeft.toKeeps.append sortedRight.toKeeps
    have merged := merge_sorts consistent kept.among_after sortedLeft.ordered sortedRight.ordered
    refine ⟨⟨merge less start rest, true⟩, ?_, kept.trans merged.toKeeps, fun _ => merged.ordered⟩
    rw [madeStart, madeRest]
    rfl
  · exact ⟨_, rfl, first.toKeeps.append second.toKeeps, fun marked => absurd marked Bool.false_ne_true⟩

end Run

theorem firstRun?_keeps (consistent : Consistent less among) (least : Nat) (eager : Bool) {items : List α}
    (amongAll : ∀ item ∈ items, among item) :
    ∃ run rest, firstRun? less least eager items = some (run, rest) ∧
      Keeps less among items (run.items ++ rest) ∧ (run.sorted = true → run.items.Pairwise (AtMost less)) := by
  have started : Keeps less among items
      ((if least ≤ items.length then sortedStart less items else ([], items)).1 ++
        (if least ≤ items.length then sortedStart less items else ([], items)).2) ∧
      (if least ≤ items.length then sortedStart less items else ([], items)).1.Pairwise (AtMost less) := by
    split
    · exact sortedStart_keeps consistent amongAll
    · exact ⟨.refl amongAll, .nil⟩
  dsimp only [firstRun?]
  generalize (if least ≤ items.length then sortedStart less items else ([], items)) = start at started ⊢
  split
  · exact ⟨_, _, rfl, started.1, fun _ => started.2⟩
  · split
    · have amongTaken : ∀ item ∈ items.take smallThreshold, among item :=
        fun item member => amongAll item (List.mem_of_mem_take member)
      have amongLeft : ∀ item ∈ items.drop smallThreshold, among item :=
        fun item member => amongAll item (List.mem_of_mem_drop member)
      obtain ⟨taken, made, sorted⟩ := small?_sorts consistent _ amongTaken
      have kept := sorted.toKeeps.append (.refl amongLeft)
      rw [List.take_append_drop] at kept
      exact ⟨_, _, congrArg (Option.map _) made, kept, fun _ => sorted.ordered⟩
    · refine ⟨_, _, rfl, ?_, fun marked => absurd marked Bool.false_ne_true⟩
      rw [List.take_append_drop]
      exact .refl amongAll

theorem runs?_keeps (consistent : Consistent less among) (least : Nat) (eager : Bool) (count : Nat)
    {items : List α} (amongAll : ∀ item ∈ items, among item) :
    ∃ runs, runs? less least eager count items = some runs ∧
      Keeps less among items (runs.flatMap (·.items)) ∧ ∀ run ∈ runs, run.Holds less among run.items := by
  induction count generalizing items with
  | zero =>
    refine ⟨_, rfl, ?_, List.forall_mem_singleton.mpr ⟨.refl amongAll, fun marked => absurd marked Bool.false_ne_true⟩⟩
    rw [List.flatMap_singleton]
    exact .refl amongAll
  | succ count ih =>
    cases items with
    | nil => exact ⟨[], rfl, .refl amongAll, fun run member => absurd member List.not_mem_nil⟩
    | cons item rest =>
      obtain ⟨run, left, cut, kept, ordered⟩ := firstRun?_keeps consistent least eager amongAll
      obtain ⟨amongFirst, amongRest⟩ := List.forall_mem_append.mp kept.among_after
      obtain ⟨others, later, keptRest, held⟩ := ih amongRest
      refine ⟨run :: others, ?_, ?_, List.forall_mem_cons.mpr ⟨⟨.refl amongFirst, ordered⟩, held⟩⟩
      · simp only [runs?, cut, later, Option.bind_eq_bind, Option.bind_some, pure]
      · rw [List.flatMap_cons]
        exact kept.trans ((Keeps.refl amongFirst).append keptRest)

/-- The runs on the stack, the last one on top, hold the items of `before`. -/
inductive Stacked (less : α → α → Bool) (among : α → Prop) : List (Run α × Nat) → List α → Prop
  | nil : Stacked less among [] []
  | push {stack : List (Run α × Nat)} {earlier own : List α} {run : Run α} (depth : Nat) :
      Stacked less among stack earlier → run.Holds less among own →
        Stacked less among ((run, depth) :: stack) (earlier ++ own)

section Join

variable {join? : Run α → Run α → Option (Run α)}
  (joins : ∀ {before before' left right}, Run.Holds less among before left → Run.Holds less among before' right →
    ∃ joined, join? left right = some joined ∧ Run.Holds less among (before ++ before') joined)
include joins

/-- Joining moves the parting between the stack and the last run, and nothing else. -/
theorem collapse?_holds (depth : Nat) {stack : List (Run α × Nat)} {before own : List α} {last : Run α}
    (stacked : Stacked less among stack before) (held : last.Holds less among own) :
    ∃ left joined earlier own', collapse? join? depth stack last = some (left, joined) ∧
      earlier ++ own' = before ++ own ∧ Stacked less among left earlier ∧ joined.Holds less among own' := by
  induction stacked generalizing own last with
  | nil => exact ⟨[], last, [], own, rfl, rfl, .nil, held⟩
  | push runDepth stacked heldTop ih =>
    unfold collapse?
    split
    · obtain ⟨joined, made, heldJoined⟩ := joins heldTop held
      obtain ⟨left, final, earlier, own', collapsed, whole, rest⟩ := ih heldJoined
      rw [← List.append_assoc] at whole
      refine ⟨left, final, earlier, own', ?_, whole, rest⟩
      rw [made, Option.bind_some, collapsed]
    · exact ⟨_, last, _, own, rfl, rfl, .push runDepth stacked heldTop, held⟩

theorem joinAll?_holds (length : Nat) {stack : List (Run α × Nat)} {before own : List α} {last : Run α}
    (stacked : Stacked less among stack before) (held : last.Holds less among own) (position : Nat)
    {rest : List (Run α)} (heldRest : ∀ run ∈ rest, run.Holds less among run.items) :
    ∃ joined, joinAll? join? length stack last position rest = some joined ∧
      joined.Holds less among (before ++ own ++ rest.flatMap (·.items)) := by
  induction rest generalizing stack before own last position with
  | nil =>
    obtain ⟨left, joined, earlier, own', collapsed, whole, emptied, heldJoined⟩ :=
      collapse?_holds joins 0 stacked held
    obtain rfl : left = [] := collapse?_zero join? stack last _ collapsed
    cases emptied
    rw [List.nil_append] at whole
    refine ⟨joined, by rw [joinAll?, collapsed]; rfl, ?_⟩
    rwa [List.flatMap_nil, List.append_nil, ← whole]
  | cons next rest ih =>
    obtain ⟨heldNext, heldLater⟩ := List.forall_mem_cons.mp heldRest
    obtain ⟨left, part, earlier, own', collapsed, whole, stacked', held'⟩ := collapse?_holds joins
      (mergeDepth length (position - last.items.length) position (position + next.items.length)) stacked held
    obtain ⟨joined, made, heldJoined⟩ := ih (.push _ stacked' held') heldNext _ heldLater
    refine ⟨joined, ?_, ?_⟩
    · rw [joinAll?, collapsed]
      exact made
    · rw [List.flatMap_cons, ← List.append_assoc, ← whole]
      exact heldJoined

end Join

theorem byRuns?_sorts (consistent : Consistent less among) {sort? : List α → Option (List α)}
    (sorts : SortsAll less among sort?) (eager : Bool) : SortsAll less among (byRuns? less sort? eager) := by
  intro items amongAll
  obtain ⟨runs, cut, kept, held⟩ := runs?_keeps consistent (leastRun items.length) eager items.length amongAll
  simp only [byRuns?, cut, Option.bind_eq_bind, Option.bind_some]
  match runs with
  | [] => exact ⟨[], rfl, kept, .nil⟩
  | first :: rest =>
    obtain ⟨heldFirst, heldRest⟩ := List.forall_mem_cons.mp held
    obtain ⟨joined, made, heldJoined⟩ := joinAll?_holds (Run.Holds.join? consistent sorts) items.length .nil
      heldFirst first.items.length heldRest
    obtain ⟨sorted, finished, sorts⟩ := heldJoined.sort? sorts
    refine ⟨sorted, ?_, .of_keeps kept sorts⟩
    simp only [made, Option.bind_some, finished]

theorem insertion?_sorts (consistent : Consistent less among) : SortsAll less among (insertion? less) :=
  fun items amongAll => ⟨insertion less items, rfl, insertion_sorts consistent amongAll⟩

/-- The stable sort sorts, and does not give up, if the order is consistent among the items. -/
theorem stable?_sorts (consistent : Consistent less among) : SortsAll less among (stable? less) := by
  intro items amongAll
  have byInsertion := insertion?_sorts consistent
  have byEagerRuns := byRuns?_sorts consistent byInsertion true
  unfold stable?
  split
  · exact byInsertion items amongAll
  · split
    · exact byEagerRuns items amongAll
    · exact byRuns?_sorts consistent (quicksort?_sorts consistent byEagerRuns) false items amongAll

end TableScript.Sorting
