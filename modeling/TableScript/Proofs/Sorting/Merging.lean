import TableScript.Proofs.Sorting.Arrangement
import TableScript.Proofs.Sorting.Permutation

set_option autoImplicit false

namespace TableScript.Sorting

variable {α : Type} {less : α → α → Bool} {among : α → Prop}

theorem nil_mergeUp (items : List α) : mergeUp less [] items = items := List.nil_merge items

theorem mergeUp_nil (items : List α) : mergeUp less items [] = items := List.merge_right items

theorem mergeUp_cons (a b : α) (left right : List α) :
    mergeUp less (a :: left) (b :: right) =
      if less b a then b :: mergeUp less (a :: left) right else a :: mergeUp less left (b :: right) := by
  unfold mergeUp
  rw [List.cons_merge_cons]
  cases less b a <;> rfl

theorem Sorts.cons {head : α} {before after : List α} (amongHead : among head)
    (least : ∀ item ∈ before, AtMost less head item) (sorts : Sorts less among before after) :
    Sorts less among (head :: before) (head :: after) := by
  have alone : Sorts less among [head] [head] :=
    .of_ordered (List.forall_mem_singleton.mpr amongHead) (List.pairwise_singleton _ head)
  exact alone.append sorts (List.forall_mem_singleton.mpr least)

section Merge

variable (consistent : Consistent less among) {left right : List α}
  (amongAll : ∀ item ∈ left ++ right, among item)
  (orderedLeft : left.Pairwise (AtMost less)) (orderedRight : right.Pairwise (AtMost less))
include consistent amongAll orderedLeft orderedRight

theorem mergeUp_sorts : Sorts less among (left ++ right) (mergeUp less left right) := by
  induction left generalizing right with
  | nil =>
    rw [nil_mergeUp]
    exact .of_ordered amongAll orderedRight
  | cons a left ihLeft =>
    induction right with
    | nil =>
      rw [mergeUp_nil, List.append_nil] at *
      exact .of_ordered amongAll orderedLeft
    | cons b right ihRight =>
      have amongA : among a := amongAll a List.mem_cons_self
      have amongB : among b := amongAll b (List.mem_append_right _ List.mem_cons_self)
      have amongLeft : ∀ item ∈ a :: left, among item :=
        fun item member => amongAll item (List.mem_append_left _ member)
      have amongRight : ∀ item ∈ b :: right, among item :=
        fun item member => amongAll item (List.mem_append_right _ member)
      have fromA : ∀ item ∈ a :: left, AtMost less a item :=
        fun item member => atMost_head consistent amongA orderedLeft member
      have fromB : ∀ item ∈ b :: right, AtMost less b item :=
        fun item member => atMost_head consistent amongB orderedRight member
      rw [mergeUp_cons]
      cases below : less b a with
      | true =>
        have belowLeft : ∀ item ∈ a :: left, less b item = true := fun item member =>
          consistent.less_of_less_of_atMost amongB amongA (amongLeft item member) below (fromA item member)
        have passed : Keeps less among ((a :: left) ++ b :: right) (b :: ((a :: left) ++ right)) := by
          have front : Keeps less among ((a :: left) ++ [b]) ([b] ++ (a :: left)) := by
            refine .swap consistent ?_ fun item member => List.forall_mem_singleton.mpr (belowLeft item member)
            exact List.forall_mem_append.mpr ⟨amongLeft, List.forall_mem_singleton.mpr amongB⟩
          have whole := front.append (.refl fun item member => amongRight item (List.mem_cons_of_mem b member))
          rwa [List.append_assoc] at whole
        refine .of_keeps passed (.cons amongB ?_ (ihRight ?_ (List.pairwise_cons.mp orderedRight).2))
        · refine List.forall_mem_append.mpr ⟨fun item member => ?_, (List.pairwise_cons.mp orderedRight).1⟩
          exact consistent.asymm amongB (amongLeft item member) (belowLeft item member)
        · exact fun item member => passed.among_after item (List.mem_cons_of_mem b member)
      | false =>
        refine .cons amongA ?_ (ihLeft ?_ (List.pairwise_cons.mp orderedLeft).2 orderedRight)
        · refine List.forall_mem_append.mpr ⟨(List.pairwise_cons.mp orderedLeft).1, fun item member => ?_⟩
          exact consistent.trans amongA amongB (amongRight item member) below (fromB item member)
        · exact fun item member => amongAll item (List.mem_cons_of_mem a member)

end Merge

theorem merge_swapped (choose : α → α → Bool) (left right : List α) :
    left.merge right choose = right.merge left fun b a => !choose a b := by
  induction left generalizing right with
  | nil => rw [List.nil_merge, List.merge_right]
  | cons a left ihLeft =>
    induction right with
    | nil => rw [List.nil_merge, List.merge_right]
    | cons b right ihRight =>
      rw [List.cons_merge_cons, List.cons_merge_cons]
      cases choose a b with
      | true => exact congrArg (a :: ·) (ihLeft (b :: right))
      | false => exact congrArg (b :: ·) ihRight

/-- A merge from the back is one from the front in the mirror. -/
theorem mergeDown_eq (left right : List α) :
    mergeDown less left right = (mergeUp (fun a b => less b a) right.reverse left.reverse).reverse := by
  unfold mergeDown mergeUp
  rw [merge_swapped]

section Merge

variable (consistent : Consistent less among) {left right : List α}
  (amongAll : ∀ item ∈ left ++ right, among item)
  (orderedLeft : left.Pairwise (AtMost less)) (orderedRight : right.Pairwise (AtMost less))
include consistent amongAll orderedLeft orderedRight

theorem mergeDown_sorts : Sorts less among (left ++ right) (mergeDown less left right) := by
  have mirrored : Sorts (fun a b => less b a) among (right.reverse ++ left.reverse)
      (mergeUp (fun a b => less b a) right.reverse left.reverse) := by
    refine mergeUp_sorts consistent.flip ?_ (List.pairwise_reverse.mpr orderedRight)
      (List.pairwise_reverse.mpr orderedLeft)
    rw [← List.reverse_append]
    exact fun item member => amongAll item (List.mem_reverse.mp member)
  have sorts := mirrored.reverse
  rwa [← List.reverse_append, List.reverse_reverse, ← mergeDown_eq] at sorts

theorem merge_sorts : Sorts less among (left ++ right) (merge less left right) := by
  unfold merge
  split
  · exact mergeUp_sorts consistent amongAll orderedLeft orderedRight
  · exact mergeDown_sorts consistent amongAll orderedLeft orderedRight

end Merge

theorem place_eq_mergeUp (item : α) (placed : List α) :
    place less item placed = mergeUp (fun a b => less b a) [item] placed := by
  induction placed with
  | nil => rw [mergeUp_nil, place]
  | cons last rest ih => rw [place, mergeUp_cons, nil_mergeUp, ih]

theorem extend_nil (sorted : List α) : extend less sorted [] = sorted := List.reverse_reverse sorted

theorem extend_cons (sorted : List α) (item : α) (rest : List α) :
    extend less sorted (item :: rest) = extend less (mergeDown less sorted [item]) rest := by
  unfold extend
  rw [List.foldl_cons, mergeDown_eq, List.reverse_reverse, place_eq_mergeUp, List.reverse_singleton]

theorem extend_sorts (consistent : Consistent less among) {sorted items : List α}
    (amongAll : ∀ item ∈ sorted ++ items, among item) (ordered : sorted.Pairwise (AtMost less)) :
    Sorts less among (sorted ++ items) (extend less sorted items) := by
  induction items generalizing sorted with
  | nil =>
    rw [extend_nil, List.append_nil] at *
    exact .of_ordered amongAll ordered
  | cons item rest ih =>
    rw [extend_cons]
    rw [List.append_cons] at amongAll ⊢
    have amongStart := fun other member => amongAll other (List.mem_append_left rest member)
    have placed := mergeDown_sorts consistent amongStart ordered (List.pairwise_singleton _ item)
    have amongRest := fun other member => amongAll other (List.mem_append_right (sorted ++ [item]) member)
    have kept := placed.toKeeps.append (.refl amongRest)
    exact .of_keeps kept (ih kept.among_after placed.ordered)

theorem insertion_sorts (consistent : Consistent less among) {items : List α}
    (amongAll : ∀ item ∈ items, among item) : Sorts less among items (insertion less items) :=
  extend_sorts consistent amongAll .nil

theorem lowest_starts (less : α → α → Bool) (count : Nat) (left right : List α) :
    (lowest less count left right).1 <+: mergeUp less left right := by
  induction count generalizing left right with
  | zero => exact List.nil_prefix
  | succ count ih =>
    match left, right with
    | [], _ => exact List.nil_prefix
    | _ :: _, [] => exact List.nil_prefix
    | a :: left, b :: right =>
      rw [lowest, mergeUp_cons]
      split
      · exact List.prefix_cons_inj b |>.mpr (ih (a :: left) right)
      · exact List.prefix_cons_inj a |>.mpr (ih left (b :: right))

theorem highest_ends (less : α → α → Bool) (count : Nat) (left right : List α) :
    (highest less count left.reverse right.reverse).1.reverse <:+ mergeDown less left right := by
  have start := lowest_starts (fun b a => !less b a) count left.reverse right.reverse
  have turned : mergeDown less left right =
      (mergeUp (fun b a => !less b a) left.reverse right.reverse).reverse := by
    simp only [mergeDown, mergeUp, Bool.not_not]
  rw [highest_eq, turned]
  exact List.reverse_suffix.mpr start

theorem length_lowest (less : α → α → Bool) (count : Nat) (left right : List α) (inLeft : count ≤ left.length)
    (inRight : count ≤ right.length) : (lowest less count left right).1.length = count := by
  obtain ⟨bounded, taken⟩ := lowest_perm less count left right inLeft inRight
  have length := taken.length_eq
  rw [List.length_append, List.length_take, List.length_take] at length
  omega

/-- What comes between the start and the end of a list is in place, if there is room for one item at most. -/
theorem eq_of_ends {low middle high whole : List α} (permuted : (low ++ middle ++ high).Perm whole)
    (front : low <+: whole) (back : high <:+ whole) (close : whole.length ≤ low.length + high.length + 1) :
    low ++ middle ++ high = whole := by
  have total := permuted.length_eq
  obtain ⟨upper, rfl⟩ := front
  simp only [List.length_append] at total close
  obtain ⟨rest, rfl⟩ : high <:+ upper := by
    refine List.suffix_of_suffix_length_le back (List.suffix_append low upper) ?_
    omega
  rw [← List.append_assoc] at permuted ⊢
  have between : middle.Perm rest :=
    (List.perm_append_left_iff low).mp ((List.perm_append_right_iff high).mp permuted)
  simp only [List.length_append] at close
  match rest, close with
  | [], _ => rw [between.eq_nil]
  | [item], _ => rw [List.perm_singleton.mp between]
  | _ :: _ :: _, tooMany =>
    simp only [List.length_cons] at tooMany
    omega

/-- The choices depend on nothing but what the items are compared by. -/
theorem lowest_map (less : α → α → Bool) {β : Type} (part : β → α) (count : Nat) (left right : List β) :
    lowest less count (left.map part) (right.map part) =
      ((lowest (fun a b => less (part a) (part b)) count left right).1.map part,
        (lowest (fun a b => less (part a) (part b)) count left right).2) := by
  induction count generalizing left right with
  | zero => rfl
  | succ count ih =>
    match left, right with
    | [], _ => rfl
    | _ :: _, [] => rfl
    | a :: left, b :: right =>
      have fromRight := ih (a :: left) right
      have fromLeft := ih left (b :: right)
      rw [List.map_cons] at fromRight fromLeft
      rw [List.map_cons, List.map_cons, lowest, lowest, fromRight, fromLeft]
      split <;> rfl

/-- Of a kind that all items of the left run are and none of the right one, as many are taken as the left run
gives. -/
theorem countP_lowest {kind : α → Bool} (less : α → α → Bool) {count : Nat} {left right : List α}
    (inLeft : count ≤ left.length) (inRight : count ≤ right.length) (ofKind : ∀ item ∈ left, kind item = true)
    (notOfKind : ∀ item ∈ right, kind item = false) :
    (lowest less count left right).1.countP kind = (lowest less count left right).2 := by
  obtain ⟨bounded, taken⟩ := lowest_perm less count left right inLeft inRight
  have lefts : (left.take (lowest less count left right).2).countP kind = (lowest less count left right).2 := by
    rw [List.countP_eq_length.mpr fun item member => ofKind item (List.mem_of_mem_take member), List.length_take]
    omega
  have rights : (right.take (count - (lowest less count left right).2)).countP kind = 0 :=
    List.countP_eq_zero.mpr fun item member =>
      Bool.not_eq_true _ ▸ notOfKind item (List.mem_of_mem_take member)
  rw [taken.countP_eq, List.countP_append, lefts, rights, Nat.add_zero]

section Inward

variable (consistent : Consistent less among) {left right : List α}
  (amongAll : ∀ item ∈ left ++ right, among item)
  (orderedLeft : left.Pairwise (AtMost less)) (orderedRight : right.Pairwise (AtMost less))
include consistent amongAll orderedLeft orderedRight

theorem highest_ends_mergeUp (count : Nat) :
    (highest less count left.reverse right.reverse).1.reverse <:+ mergeUp less left right := by
  have upward := mergeUp_sorts consistent amongAll orderedLeft orderedRight
  have downward := mergeDown_sorts consistent amongAll orderedLeft orderedRight
  rw [← downward.unique consistent upward]
  exact highest_ends less count left right

variable (shorter : left.length ≤ right.length)
include shorter

/-- The items from the front and those from the back do not overlap in the merge. -/
theorem ends_apart :
    ∃ middle, mergeUp less left right =
      (lowest less left.length left right).1 ++ middle ++
        (highest less left.length left.reverse right.reverse).1.reverse := by
  obtain ⟨upper, whole⟩ := lowest_starts less left.length left right
  have back := highest_ends_mergeUp consistent amongAll orderedLeft orderedRight left.length
  have lowLength := length_lowest less left.length left right (Nat.le_refl _) shorter
  have highLength := length_lowest (fun b a => !less b a) left.length left.reverse right.reverse
    (by simp) (by simpa using shorter)
  have total := (mergeUp_perm less left right).length_eq
  rw [← highest_eq] at highLength
  rw [← whole] at back total ⊢
  rw [List.length_append, List.length_append] at total
  obtain ⟨middle, rfl⟩ : (highest less left.length left.reverse right.reverse).1.reverse <:+ upper := by
    refine List.suffix_of_suffix_length_le back (List.suffix_append _ upper) ?_
    rw [List.length_reverse]
    omega
  exact ⟨middle, (List.append_assoc ..).symm⟩

/-- From both ends together no run gives more items than it has, if the items of one run are told from those of the
other. -/
theorem ends_meet_of_kind (kind : α → Bool) (ofKind : ∀ item ∈ left, kind item = true)
    (notOfKind : ∀ item ∈ right, kind item = false) :
    (lowest less left.length left right).2 + (highest less left.length left.reverse right.reverse).2 ≤
        left.length ∧
      2 * left.length ≤ right.length +
        ((lowest less left.length left right).2 + (highest less left.length left.reverse right.reverse).2) := by
  obtain ⟨middle, whole⟩ := ends_apart consistent amongAll orderedLeft orderedRight shorter
  have lowKind := countP_lowest less (Nat.le_refl left.length) shorter ofKind notOfKind
  have highKind : (lowest (fun b a => !less b a) left.length left.reverse right.reverse).1.countP kind =
      (lowest (fun b a => !less b a) left.length left.reverse right.reverse).2 :=
    countP_lowest _ (by simp) (by simpa using shorter)
      (fun item member => ofKind item (List.mem_reverse.mp member))
      (fun item member => notOfKind item (List.mem_reverse.mp member))
  have lowLength := length_lowest less left.length left right (Nat.le_refl _) shorter
  have highLength := length_lowest (fun b a => !less b a) left.length left.reverse right.reverse
    (by simp) (by simpa using shorter)
  rw [← highest_eq] at highKind highLength
  have permuted := mergeUp_perm less left right
  have total := permuted.length_eq
  have kinds := permuted.countP_eq kind
  have allLeft : left.countP kind = left.length := List.countP_eq_length.mpr ofKind
  have noneRight : right.countP kind = 0 :=
    List.countP_eq_zero.mpr fun item member => Bool.not_eq_true _ ▸ notOfKind item member
  have few := List.countP_le_length (p := kind) (l := middle)
  simp only [whole, List.countP_append, List.length_append, List.countP_reverse, List.length_reverse] at total kinds
  omega

end Inward

theorem ends_meet (consistent : Consistent less among) {left right : List α}
    (amongAll : ∀ item ∈ left ++ right, among item)
    (orderedLeft : left.Pairwise (AtMost less)) (orderedRight : right.Pairwise (AtMost less))
    (shorter : left.length ≤ right.length) :
    (lowest less left.length left right).2 + (highest less left.length left.reverse right.reverse).2 ≤
        left.length ∧
      2 * left.length ≤ right.length +
        ((lowest less left.length left right).2 + (highest less left.length left.reverse right.reverse).2) := by
  -- Each item carries its run, so that equal items of the two runs are told apart.
  let marked (run : Bool) (items : List α) : List (α × Bool) := items.map (·, run)
  have plain (run : Bool) (items : List α) : (marked run items).map Prod.fst = items := by
    rw [List.map_map]
    exact List.map_id _
  have amongMarked : ∀ item ∈ marked true left ++ marked false right, among item.1 := by
    intro item member
    refine amongAll item.1 ?_
    have unmarked := List.mem_map_of_mem (f := Prod.fst) member
    rwa [List.map_append, plain, plain] at unmarked
  have meet := ends_meet_of_kind (consistent.comap Prod.fst) amongMarked
    (orderedLeft.map _ fun _ _ first => first) (orderedRight.map _ fun _ _ first => first)
    (by simpa [marked] using shorter) Prod.snd (by simp [marked]) (by simp [marked])
  have low := congrArg Prod.snd
    (lowest_map less Prod.fst left.length (marked true left) (marked false right))
  have high := congrArg Prod.snd (lowest_map (fun b a => !less b a) Prod.fst left.length
    (marked true left).reverse (marked false right).reverse)
  rw [plain, plain] at low
  rw [List.map_reverse, List.map_reverse, plain, plain, ← highest_eq] at high
  rw [low, high]
  simpa [marked, highest_eq] using meet

theorem mergeInward?_eq_mergeUp (consistent : Consistent less among) {left right : List α}
    (amongAll : ∀ item ∈ left ++ right, among item)
    (orderedLeft : left.Pairwise (AtMost less)) (orderedRight : right.Pairwise (AtMost less))
    (shorter : left.length ≤ right.length) (close : right.length ≤ left.length + 1) :
    mergeInward? less left right = some (mergeUp less left right) := by
  have upward := mergeUp_sorts consistent amongAll orderedLeft orderedRight
  obtain ⟨inLeft, inRight⟩ := ends_meet consistent amongAll orderedLeft orderedRight shorter
  have front := lowest_starts less left.length left right
  have back := highest_ends_mergeUp consistent amongAll orderedLeft orderedRight left.length
  have lowLength := length_lowest less left.length left right (Nat.le_refl _) shorter
  have highLength := length_lowest (fun b a => !less b a) left.length left.reverse right.reverse
    (by simp) (by simpa using shorter)
  rw [← highest_eq] at highLength
  obtain ⟨middle, made⟩ : ∃ middle, mergeInward? less left right =
      some ((lowest less left.length left right).1 ++ middle ++
        (highest less left.length left.reverse right.reverse).1.reverse) := by
    dsimp only [mergeInward?]
    rw [if_pos ⟨inLeft, inRight⟩]
    exact ⟨_, congrArg some (congrArg (· ++ _) (List.append_assoc ..))⟩
  have permuted := (mergeInward?_perm left right shorter _ made).trans upward.perm.symm
  have total := upward.perm.length_eq
  rw [List.length_append] at total
  rw [made, eq_of_ends permuted front back]
  rw [List.length_reverse]
  omega

/-- Of four items in two ordered pairs, the least is compared with the least and the greatest with the greatest;
a merge makes one of the two comparisons later or not at all. -/
theorem four_of_pairs (consistent : Consistent less among) {a b c d : α} (amongA : among a) (amongB : among b)
    (amongC : among c) (amongD : among d) (firstPair : AtMost less a b) (secondPair : AtMost less c d) :
    four less a b c d = mergeUp less [a, b] [c, d] := by
  have ab : less b a = false := firstPair
  have cd : less d c = false := secondPair
  simp only [four, mergeUp_cons, nil_mergeUp, mergeUp_nil, ab, cd, Bool.false_eq_true, ↓reduceIte]
  cases least : less c a with
  | true =>
    cases greatest : less d b with
    | true => cases middle : less d a <;> simp [middle]
    | false =>
      have apart : less d a = false := consistent.trans amongA amongB amongD firstPair greatest
      simp [apart, ab]
  | false =>
    cases greatest : less d b with
    | true =>
      have crossed : less c b = true :=
        consistent.less_of_atMost_of_less amongC amongD amongB secondPair greatest
      simp [crossed, cd]
    | false => cases middle : less c b <;> simp [middle]

theorem four_eq_mergeUp (consistent : Consistent less among) {a b c d : α} (amongA : among a)
    (amongB : among b) (amongC : among c) (amongD : among d) :
    four less a b c d = mergeUp less (mergeUp less [a] [b]) (mergeUp less [c] [d]) := by
  have pair : ∀ {x y}, among x → among y → ∃ low high, among low ∧ among high ∧ AtMost less low high ∧
      (if less y x then (y, x) else (x, y)) = (low, high) ∧ mergeUp less [x] [y] = [low, high] := by
    intro x y amongX amongY
    rw [mergeUp_cons, nil_mergeUp, mergeUp_nil]
    cases below : less y x with
    | true => exact ⟨y, x, amongY, amongX, consistent.asymm amongY amongX below, rfl, rfl⟩
    | false => exact ⟨x, y, amongX, amongY, below, rfl, rfl⟩
  obtain ⟨a', b', amongA', amongB', ordered, chosen, merged⟩ := pair amongA amongB
  obtain ⟨c', d', amongC', amongD', ordered', chosen', merged'⟩ := pair amongC amongD
  rw [merged, merged', ← four_of_pairs consistent amongA' amongB' amongC' amongD' ordered ordered']
  simp only [four, chosen, chosen', show less b' a' = false from ordered, show less d' c' = false from ordered']
  simp

theorem four_sorts (consistent : Consistent less among) {a b c d : α}
    (amongAll : ∀ item ∈ [a, b, c, d], among item) : Sorts less among [a, b, c, d] (four less a b c d) := by
  have alone := fun item => List.pairwise_singleton (AtMost less) item
  have parts := List.forall_mem_append.mp (show ∀ item ∈ [a, b] ++ [c, d], among item from amongAll)
  have first : Sorts less among ([a] ++ [b]) (mergeUp less [a] [b]) :=
    mergeUp_sorts consistent parts.1 (alone a) (alone b)
  have second : Sorts less among ([c] ++ [d]) (mergeUp less [c] [d]) :=
    mergeUp_sorts consistent parts.2 (alone c) (alone d)
  have pairs := first.toKeeps.append second.toKeeps
  rw [four_eq_mergeUp consistent (amongAll a (by simp)) (amongAll b (by simp)) (amongAll c (by simp))
    (amongAll d (by simp))]
  exact .of_keeps pairs (mergeUp_sorts consistent pairs.among_after first.ordered second.ordered)

theorem sortHalf_sorts (consistent : Consistent less among) {items : List α}
    (amongAll : ∀ item ∈ items, among item) : Sorts less among items (sortHalf less items) := by
  unfold sortHalf
  split
  · rename_i a b c d rest
    have parts := List.forall_mem_append.mp (show ∀ item ∈ [a, b, c, d] ++ rest, among item from amongAll)
    have start := four_sorts consistent parts.1
    have kept := start.toKeeps.append (.refl parts.2)
    exact .of_keeps kept (extend_sorts consistent kept.among_after start.ordered)
  · exact insertion_sorts consistent amongAll

theorem small?_sorts (consistent : Consistent less among) : SortsAll less among (small? less) := by
  intro items amongAll
  unfold small?
  extract_lets middle sort
  have half : ∀ part, (∀ item ∈ part, among item) → Sorts less among part (sort part) := by
    intro part amongPart
    unfold sort
    split
    · exact sortHalf_sorts consistent amongPart
    · exact insertion_sorts consistent amongPart
  have left := half (items.take middle) fun item member => amongAll item (List.mem_of_mem_take member)
  have right := half (items.drop middle) fun item member => amongAll item (List.mem_of_mem_drop member)
  have kept := left.toKeeps.append right.toKeeps
  rw [List.take_append_drop] at kept
  have leftLength := left.perm.length_eq
  have rightLength := right.perm.length_eq
  rw [List.length_take] at leftLength
  rw [List.length_drop] at rightLength
  refine ⟨_, mergeInward?_eq_mergeUp consistent kept.among_after left.ordered right.ordered (by omega) (by omega), ?_⟩
  exact .of_keeps kept (mergeUp_sorts consistent kept.among_after left.ordered right.ordered)

end TableScript.Sorting
