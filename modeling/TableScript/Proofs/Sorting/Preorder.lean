import TableScript.Proofs.Sorting.Arrangement
import TableScript.Proofs.Sorting.Comparison

set_option autoImplicit false

namespace TableScript.Sorting

variable {α : Type} {among : α → Prop} {cmp cmp' : α → α → Ordering}

/-- The strict part of a comparison. -/
def below (cmp : α → α → Ordering) (a b : α) : Bool := (cmp a b).isLT

/-- The comparison is a preorder among the items that are `among`. -/
structure Preordered (cmp : α → α → Ordering) (among : α → Prop) : Prop where
  swap : ∀ {a b}, among a → among b → cmp b a = (cmp a b).swap
  chained : ∀ {a b c}, among a → among b → among c → Chained (cmp a b) (cmp b c) (cmp a c)

namespace Preordered

theorem reversed (preordered : Preordered cmp among) : Preordered (fun a b => (cmp a b).swap) among where
  swap amongA amongB := congrArg Ordering.swap (preordered.swap amongA amongB)
  chained amongA amongB amongC := by
    rw [← preordered.swap amongA amongB, ← preordered.swap amongB amongC, ← preordered.swap amongA amongC]
    exact (preordered.chained amongC amongB amongA).comm

theorem lex (major : Preordered cmp among) (minor : Preordered cmp' among) :
    Preordered (compareLex cmp cmp') among where
  swap amongA amongB := by
    rw [compareLex, compareLex, Ordering.swap_then, major.swap amongA amongB, minor.swap amongA amongB]
  chained amongA amongB amongC :=
    (major.chained amongA amongB amongC).then (minor.chained amongA amongB amongC)

theorem atMost_below (preordered : Preordered cmp among) {a b : α} (amongA : among a) (amongB : among b) :
    AtMost (below cmp) a b ↔ cmp a b ≠ .gt := by
  rw [AtMost, below, preordered.swap amongA amongB]
  cases cmp a b <;> decide

theorem tied_below (preordered : Preordered cmp among) {a b : α} (amongA : among a) (amongB : among b) :
    tied (below cmp) a b = true ↔ cmp a b = .eq := by
  rw [tied, below, below, preordered.swap amongA amongB]
  cases cmp a b <;> decide

theorem consistent (preordered : Preordered cmp among) : Consistent (below cmp) among where
  asymm amongA amongB first := by
    refine (preordered.atMost_below amongA amongB).mpr fun greater => ?_
    rw [below, greater] at first
    cases first
  trans amongA amongB amongC first second := by
    rw [preordered.atMost_below amongA amongB] at first
    rw [preordered.atMost_below amongB amongC] at second
    have notGreater := (preordered.chained amongA amongB amongC).ne_gt first second
    exact (preordered.atMost_below amongA amongC).mpr notGreater

end Preordered

/-- Of items that are tied, those that come before others came before them. -/
theorem Keeps.pairwise_of_tied {less : α → α → Bool} {before after : List α} {relation : α → α → Prop}
    (consistent : Consistent less among) (keeps : Keeps less among before after)
    (related : before.Pairwise relation) :
    after.Pairwise fun a b => tied less a b = true → relation a b := by
  rw [List.pairwise_iff_forall_sublist]
  intro a b inAfter together
  have amongA := keeps.among_after a (inAfter.subset List.mem_cons_self)
  have inClass : [a, b].Sublist (after.filter (tied less a)) := by
    have filtered := inAfter.filter (tied less a)
    rwa [List.filter_cons_of_pos (consistent.tied_self amongA), List.filter_cons_of_pos together] at filtered
  rw [keeps.classes a amongA] at inClass
  exact List.pairwise_iff_forall_sublist.mp related (inClass.trans List.filter_sublist)

/-- Sorting by the weaker comparison and then by the stronger one sorts by both. -/
theorem Sorts.lex {before middle after : List α} (major : Preordered cmp among) (minor : Preordered cmp' among)
    (first : Sorts (below cmp') among before middle) (second : Sorts (below cmp) among middle after) :
    Sorts (below (compareLex cmp cmp')) among before after where
  amongAll := first.amongAll
  perm := second.perm.trans first.perm
  classes item amongItem := by
    have split : ∀ items : List α, (∀ other ∈ items, among other) →
        items.filter (tied (below (compareLex cmp cmp')) item) =
          (items.filter (tied (below cmp) item)).filter (tied (below cmp') item) := by
      intro items amongItems
      rw [List.filter_filter]
      refine List.filter_congr fun other member => ?_
      have amongOther := amongItems other member
      rw [Bool.eq_iff_iff, Bool.and_eq_true, (major.lex minor).tied_below amongItem amongOther,
        major.tied_below amongItem amongOther, minor.tied_below amongItem amongOther, compareLex,
        Ordering.then_eq_eq]
      exact And.comm
    rw [split after second.among_after, split before first.amongAll, second.classes item amongItem,
      List.filter_comm, first.classes item amongItem, List.filter_comm]
  ordered := by
    have ofTied := second.toKeeps.pairwise_of_tied major.consistent first.ordered
    refine (second.ordered.and ofTied).imp_of_mem fun {a b} memberA memberB both => ?_
    have amongA := second.among_after a memberA
    have amongB := second.among_after b memberB
    rw [major.atMost_below amongA amongB, major.tied_below amongA amongB,
      minor.atMost_below amongA amongB] at both
    rw [(major.lex minor).atMost_below amongA amongB, compareLex]
    obtain ⟨rises, decides⟩ := both
    cases decided : cmp a b with
    | lt => exact Ordering.noConfusion
    | eq => exact decides decided
    | gt => exact absurd decided rises

end TableScript.Sorting
