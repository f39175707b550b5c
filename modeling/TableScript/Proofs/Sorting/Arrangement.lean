import Mathlib.Data.List.Basic

set_option autoImplicit false

namespace TableScript.Sorting

variable {α : Type} {less : α → α → Bool} {among : α → Prop}

/-- `a` may stand before `b`. -/
def AtMost (less : α → α → Bool) (a b : α) : Prop := less b a = false

/-- Neither of the two is less. -/
def tied (less : α → α → Bool) (a b : α) : Bool := !less a b && !less b a

/-- The items that are `among` are in a preorder, of which `less` is the strict part. -/
structure Consistent (less : α → α → Bool) (among : α → Prop) : Prop where
  asymm : ∀ {a b}, among a → among b → less a b = true → AtMost less a b
  trans : ∀ {a b c}, among a → among b → among c → AtMost less a b → AtMost less b c → AtMost less a c

theorem tied_iff (a b : α) : tied less a b = true ↔ AtMost less a b ∧ AtMost less b a := by
  simp only [tied, Bool.and_eq_true, Bool.not_eq_true', AtMost]
  exact And.comm

theorem tied_comm (a b : α) : tied less a b = tied less b a := Bool.and_comm _ _

namespace Consistent

variable (consistent : Consistent less among)
include consistent

theorem refl {a : α} (amongA : among a) : AtMost less a a := by
  cases decided : less a a with
  | false => exact decided
  | true => exact consistent.asymm amongA amongA decided

theorem tied_self {a : α} (amongA : among a) : tied less a a = true :=
  (tied_iff a a).mpr ⟨consistent.refl amongA, consistent.refl amongA⟩

theorem less_of_less_of_atMost {a b c : α} (amongA : among a) (amongB : among b) (amongC : among c)
    (below : less a b = true) (next : AtMost less b c) : less a c = true := by
  refine Bool.of_not_eq_false fun back => ?_
  have reversed := consistent.trans amongB amongC amongA next back
  exact Bool.false_ne_true (reversed.symm.trans below)

theorem less_of_atMost_of_less {a b c : α} (amongA : among a) (amongB : among b) (amongC : among c)
    (first : AtMost less a b) (below : less b c = true) : less a c = true := by
  refine Bool.of_not_eq_false fun back => ?_
  have reversed := consistent.trans amongC amongA amongB back first
  exact Bool.false_ne_true (reversed.symm.trans below)

/-- No item is tied with two of which one is less. -/
theorem not_tied_both {a b item : α} (amongA : among a) (amongB : among b) (amongItem : among item)
    (below : less a b = true) (withA : tied less item a = true) : tied less item b = false := by
  refine Bool.of_not_eq_true fun withB => ?_
  have toItem := ((tied_iff item b).mp withB).2
  have fromItem := ((tied_iff item a).mp withA).1
  have back := consistent.trans amongB amongItem amongA toItem fromItem
  exact Bool.false_ne_true (back.symm.trans below)

theorem flip : Consistent (fun a b => less b a) among where
  asymm amongA amongB below := consistent.asymm amongB amongA below
  trans amongA amongB amongC first second := consistent.trans amongC amongB amongA second first

/-- What is compared by a part is ordered as the parts are. -/
theorem comap {β : Type} (part : β → α) :
    Consistent (fun a b => less (part a) (part b)) (fun item => among (part item)) where
  asymm amongA amongB below := consistent.asymm amongA amongB below
  trans amongA amongB amongC first second := consistent.trans amongA amongB amongC first second

end Consistent

/-- `after` is an order of the items of `before` in which items that are tied stand as before. -/
structure Keeps (less : α → α → Bool) (among : α → Prop) (before after : List α) : Prop where
  amongAll : ∀ item ∈ before, among item
  perm : after.Perm before
  classes : ∀ item, among item → after.filter (tied less item) = before.filter (tied less item)

/-- The least item comes first, and items that are tied stand as before. -/
structure Sorts (less : α → α → Bool) (among : α → Prop) (before after : List α) : Prop
    extends Keeps less among before after where
  ordered : after.Pairwise (AtMost less)

/-- What of a class goes to one side, if the class goes there or stays away as a whole. -/
theorem filter_of_side {kind : α → Bool} {items : List α} (goes : α → Bool) (whole : Bool)
    (together : ∀ item ∈ items, kind item = true → goes item = whole) :
    items.filter (fun item => kind item && goes item) = if whole then items.filter kind else [] := by
  have sides : ∀ item ∈ items, (kind item && goes item) = (kind item && whole) := by
    intro item member
    cases held : kind item with
    | false => rfl
    | true => rw [together item member held]
  rw [List.filter_congr sides]
  cases whole with
  | true => simp only [Bool.and_true, if_true]
  | false => simp

/-- A function that sorts whatever items of the order it is given, and never gives up. -/
def SortsAll (less : α → α → Bool) (among : α → Prop) (sort? : List α → Option (List α)) : Prop :=
  ∀ items, (∀ item ∈ items, among item) → ∃ sorted, sort? items = some sorted ∧ Sorts less among items sorted

namespace Keeps

variable {before middle after : List α}

theorem refl {items : List α} (amongAll : ∀ item ∈ items, among item) : Keeps less among items items where
  amongAll := amongAll
  perm := .refl _
  classes _ _ := rfl

theorem among_after (keeps : Keeps less among before after) : ∀ item ∈ after, among item :=
  fun item member => keeps.amongAll item (keeps.perm.subset member)

theorem trans (first : Keeps less among before middle) (second : Keeps less among middle after) :
    Keeps less among before after where
  amongAll := first.amongAll
  perm := second.perm.trans first.perm
  classes item amongItem := (second.classes item amongItem).trans (first.classes item amongItem)

theorem append {before' after' : List α} (left : Keeps less among before after)
    (right : Keeps less among before' after') : Keeps less among (before ++ before') (after ++ after') where
  amongAll item member := (List.mem_append.mp member).elim (left.amongAll item) (right.amongAll item)
  perm := left.perm.append right.perm
  classes item amongItem := by
    rw [List.filter_append, List.filter_append, left.classes item amongItem, right.classes item amongItem]

/-- Items may pass those that they are less than. -/
theorem swap (consistent : Consistent less among) {left right : List α}
    (amongAll : ∀ item ∈ left ++ right, among item) (apart : ∀ a ∈ left, ∀ b ∈ right, less b a = true) :
    Keeps less among (left ++ right) (right ++ left) where
  amongAll := amongAll
  perm := List.perm_append_comm
  classes item amongItem := by
    rw [List.filter_append, List.filter_append]
    by_cases found : ∃ b ∈ right, tied less item b = true
    · obtain ⟨b, inRight, withB⟩ := found
      have amongB := amongAll b (List.mem_append_right left inRight)
      have none : left.filter (tied less item) = [] := by
        simp only [List.filter_eq_nil_iff, Bool.not_eq_true]
        intro a inLeft
        have amongA := amongAll a (List.mem_append_left right inLeft)
        exact consistent.not_tied_both amongB amongA amongItem (apart a inLeft b inRight) withB
      rw [none, List.nil_append, List.append_nil]
    · have none : right.filter (tied less item) = [] :=
        List.filter_eq_nil_iff.mpr fun b inRight withB => found ⟨b, inRight, withB⟩
      rw [none, List.nil_append, List.append_nil]

/-- Items that go left pass those that do not, if one goes left with all that are tied with it. -/
theorem divide {goesLeft : α → Bool} {items : List α} (amongAll : ∀ item ∈ items, among item)
    (sides : ∀ a b, among a → among b → tied less a b = true → goesLeft a = goesLeft b) :
    Keeps less among items (items.filter goesLeft ++ items.filter fun item => !goesLeft item) where
  amongAll := amongAll
  perm := List.filter_append_perm goesLeft items
  classes item amongItem := by
    have side : ∀ other ∈ items, tied less item other = true → goesLeft other = goesLeft item :=
      fun other member together => (sides item other amongItem (amongAll other member) together).symm
    have lefts := filter_of_side goesLeft (goesLeft item) side
    have rights := filter_of_side (fun other => !goesLeft other) (!goesLeft item)
      fun other member together => congrArg (!·) (side other member together)
    rw [List.filter_append, List.filter_filter, List.filter_filter, lefts, rights]
    cases goesLeft item with
    | true => exact List.append_nil _
    | false => rfl

theorem reverse (keeps : Keeps (fun a b => less b a) among before after) :
    Keeps less among before.reverse after.reverse where
  amongAll item member := keeps.amongAll item (List.mem_reverse.mp member)
  perm := (List.reverse_perm after).trans (keeps.perm.trans (List.reverse_perm before).symm)
  classes item amongItem := by
    have turned : tied less item = tied (fun a b => less b a) item := funext fun other => tied_comm item other
    rw [turned, List.filter_reverse, List.filter_reverse, keeps.classes item amongItem]

end Keeps

namespace Sorts

variable {before middle after : List α}

theorem of_ordered {items : List α} (amongAll : ∀ item ∈ items, among item)
    (ordered : items.Pairwise (AtMost less)) : Sorts less among items items :=
  ⟨.refl amongAll, ordered⟩

theorem of_keeps (first : Keeps less among before middle) (second : Sorts less among middle after) :
    Sorts less among before after :=
  ⟨first.trans second.toKeeps, second.ordered⟩

theorem append {before' after' : List α} (left : Sorts less among before after)
    (right : Sorts less among before' after') (apart : ∀ a ∈ before, ∀ b ∈ before', AtMost less a b) :
    Sorts less among (before ++ before') (after ++ after') where
  toKeeps := left.toKeeps.append right.toKeeps
  ordered := by
    refine List.pairwise_append.mpr ⟨left.ordered, right.ordered, fun a inLeft b inRight => ?_⟩
    exact apart a (left.perm.subset inLeft) b (right.perm.subset inRight)

theorem reverse (sorts : Sorts (fun a b => less b a) among before after) :
    Sorts less among before.reverse after.reverse :=
  ⟨sorts.toKeeps.reverse, List.pairwise_reverse.mpr sorts.ordered⟩

end Sorts

/-- The first item of a list in order is tied with every item that it is not less than. -/
theorem atMost_head {head item : α} {rest : List α} (consistent : Consistent less among)
    (amongHead : among head) (ordered : (head :: rest).Pairwise (AtMost less)) (member : item ∈ head :: rest) :
    AtMost less head item := by
  rcases List.mem_cons.mp member with rfl | later
  · exact consistent.refl amongHead
  · exact (List.pairwise_cons.mp ordered).1 item later

/-- Some of the items of a list that is sorted are sorted. -/
theorem Sorts.filter {before after : List α} (sorts : Sorts less among before after) (keep : α → Bool) :
    Sorts less among (before.filter keep) (after.filter keep) where
  amongAll item member := sorts.amongAll item (List.mem_filter.mp member).1
  perm := sorts.perm.filter keep
  ordered := sorts.ordered.sublist List.filter_sublist
  classes item amongItem := by
    rw [List.filter_comm _ keep, List.filter_comm _ keep, sorts.classes item amongItem]

/-- The item that comes first is less than all those that stood before it, and no other one is less than it. -/
theorem Sorts.exists_split {before rest : List α} {head : α} (consistent : Consistent less among)
    (sorts : Sorts less among before (head :: rest)) :
    ∃ front back, before = front ++ head :: back ∧ (∀ item ∈ front, less head item = true) ∧
      ∀ item ∈ before, AtMost less head item := by
  have amongHead : among head := sorts.among_after head List.mem_cons_self
  have lowest : ∀ item ∈ before, AtMost less head item := by
    intro item member
    exact atMost_head consistent amongHead sorts.ordered (sorts.perm.mem_iff.mpr member)
  have together := sorts.classes head amongHead
  rw [List.filter_cons_of_pos (consistent.tied_self amongHead)] at together
  obtain ⟨front, back, split, apart, -, -⟩ := List.filter_eq_cons_iff.mp together.symm
  refine ⟨front, back, split, ?_, lowest⟩
  intro item member
  have below : less item head = false := lowest item (split ▸ List.mem_append_left _ member)
  have untied : ¬ tied less head item = true := apart item member
  simpa [tied, below] using untied

/-- A list in order is determined by the items of each class. The first items of two such lists are tied, as
each occurs in the other list, so both are the first of their class. -/
theorem eq_of_classes (consistent : Consistent less among) {left right : List α}
    (amongLeft : ∀ item ∈ left, among item) (amongRight : ∀ item ∈ right, among item)
    (orderedLeft : left.Pairwise (AtMost less)) (orderedRight : right.Pairwise (AtMost less))
    (classes : ∀ item, among item → left.filter (tied less item) = right.filter (tied less item)) :
    left = right := by
  induction left generalizing right with
  | nil =>
    cases right with
    | nil => rfl
    | cons b right =>
      have amongB := amongRight b List.mem_cons_self
      have none := classes b amongB
      rw [List.filter_nil, List.filter_cons_of_pos (consistent.tied_self amongB)] at none
      cases none
  | cons a left ih =>
    have amongA := amongLeft a List.mem_cons_self
    have selfA := consistent.tied_self amongA
    have inRight : a ∈ right := by
      have here : a ∈ right.filter (tied less a) := by
        rw [← classes a amongA]
        exact List.mem_filter.mpr ⟨List.mem_cons_self, selfA⟩
      exact (List.mem_filter.mp here).1
    cases right with
    | nil => cases inRight
    | cons b right =>
      have amongB := amongRight b List.mem_cons_self
      have selfB := consistent.tied_self amongB
      have inLeft : b ∈ a :: left := by
        have here : b ∈ (a :: left).filter (tied less b) := by
          rw [classes b amongB]
          exact List.mem_filter.mpr ⟨List.mem_cons_self, selfB⟩
        exact (List.mem_filter.mp here).1
      have together : tied less a b = true :=
        (tied_iff a b).mpr ⟨atMost_head consistent amongA orderedLeft inLeft,
          atMost_head consistent amongB orderedRight inRight⟩
      have heads := classes a amongA
      rw [List.filter_cons_of_pos selfA, List.filter_cons_of_pos together] at heads
      obtain ⟨rfl, -⟩ := List.cons.inj heads
      refine congrArg (a :: ·) (ih (fun item member => amongLeft item (List.mem_cons_of_mem a member))
        (fun item member => amongRight item (List.mem_cons_of_mem a member))
        (List.pairwise_cons.mp orderedLeft).2 (List.pairwise_cons.mp orderedRight).2 fun item amongItem => ?_)
      have whole := classes item amongItem
      rw [List.filter_cons, List.filter_cons] at whole
      split at whole
      · exact (List.cons.inj whole).2
      · exact whole

theorem Sorts.unique (consistent : Consistent less among) {before after other : List α}
    (sorts : Sorts less among before after) (otherwise : Sorts less among before other) : after = other :=
  eq_of_classes consistent sorts.among_after otherwise.among_after sorts.ordered otherwise.ordered
    fun item amongItem => (sorts.classes item amongItem).trans (otherwise.classes item amongItem).symm

end TableScript.Sorting
