import TableScript.Proofs.Table.Aggregate
import TableScript.Proofs.Table.OrderBy

set_option autoImplicit false

namespace TableScript.Aggregate

open Sorting (AtMost Consistent below Sorts)

/-- The cells of a column, row by row. -/
def cells (table : Table Value) (column : String) : List Value := table.rows.map fun row => Row.cell row column

/-- The cells that hold a value. -/
def present (cells : List Value) : List Value := cells.filter fun cell => !cell.isNull

/-- How a value compares with one that sorting puts behind it. -/
def ahead (descending : Bool) : Ordering := if descending then .gt else .lt

theorem isNull_iff {value : Value} : value.isNull = true ↔ value = .null := by
  cases value <;> simp [Value.isNull]

theorem mem_present {values : List Value} {value : Value} :
    value ∈ present values ↔ value ∈ values ∧ value ≠ .null := by
  rw [present, List.mem_filter, Bool.not_eq_true', ← Bool.not_eq_true, isNull_iff]

theorem order_null {value : Value} (held : value ≠ .null) : value.order .null = .gt := by
  cases value with
  | null => contradiction
  | _ => rfl

section Extreme

variable {wanted : Ordering} {front back : List Value} {best : Value}

/-- What is kept of the best value so far and a later one. -/
def further (wanted : Ordering) (best value : Value) : Value := if value.order best = wanted then value else best

theorem extreme_cons (first : Value) (rest : List Value) :
    extreme wanted (first :: rest) = rest.foldl (further wanted) first := rfl

theorem foldl_further_mem (wanted : Ordering) (first : Value) (rest : List Value) :
    rest.foldl (further wanted) first ∈ first :: rest := by
  induction rest generalizing first with
  | nil => exact List.mem_cons_self
  | cons second rest ih =>
      have member := ih (further wanted first second)
      rw [List.foldl_cons]
      by_cases beyond : second.order first = wanted
      · rw [further, if_pos beyond] at member ⊢
        exact List.mem_cons_of_mem first member
      · rw [further, if_neg beyond] at member ⊢
        exact List.mem_cons.mpr ((List.mem_cons.mp member).imp_right (List.mem_cons_of_mem second))

/-- No later value takes the place of one that none is beyond. -/
theorem foldl_further_of_unbeaten (unbeaten : ∀ value ∈ back, value.order best ≠ wanted) :
    back.foldl (further wanted) best = best := by
  induction back with
  | nil => rfl
  | cons value rest ih =>
      obtain ⟨here, later⟩ := List.forall_mem_cons.mp unbeaten
      rw [List.foldl_cons, further, if_neg here]
      exact ih later

theorem extreme_present_eq_null_iff {values : List Value} :
    extreme wanted (present values) = .null ↔ ∀ value ∈ values, value = .null := by
  constructor
  · intro absent value member
    by_contra held
    have inside : value ∈ present values := mem_present.mpr ⟨member, held⟩
    cases found : present values with
    | nil => simp [found] at inside
    | cons first rest =>
        have taken := foldl_further_mem wanted first rest
        rw [← extreme_cons, ← found] at taken
        exact (mem_present.mp taken).2 absent
  · intro nulls
    have none : present values = [] := by
      apply List.eq_nil_iff_forall_not_mem.mpr
      intro value member
      obtain ⟨inside, held⟩ := mem_present.mp member
      exact held (nulls value inside)
    rw [none]
    rfl

/-- A value is the extreme if it is beyond all those before it and none is beyond it. -/
theorem extreme_append (beyond : ∀ value ∈ front, best.order value = wanted)
    (unbeaten : ∀ value ∈ back, value.order best ≠ wanted) : extreme wanted (front ++ best :: back) = best := by
  cases front with
  | nil => exact foldl_further_of_unbeaten unbeaten
  | cons first rest =>
      have passed := beyond _ (foldl_further_mem wanted first rest)
      rw [List.cons_append, extreme_cons, List.foldl_append, List.foldl_cons, further, if_pos passed]
      exact foldl_further_of_unbeaten unbeaten

end Extreme

section Column

variable {table : Table Value} {column : String} {kind : CellKind}

theorem contributions_eq_present (unread : ∀ text, .text text ∈ cells table column → readNumber? text = none) :
    contributions table column = present (cells table column) := by
  have same : ∀ cell ∈ present (cells table column), numeral cell = id cell := by
    intro cell member
    cases cell with
    | text text => simp [numeral, unread text (mem_present.mp member).1]
    | _ => rfl
  exact (List.map_congr_left same).trans (List.map_id _)

theorem unmixed_of_admits {values : List Value} (admitted : ∀ value ∈ values, kind.admits value) :
    ¬ Mixed values := by
  rintro (⟨a, b, heldA, heldB, apart⟩ | ⟨a, number, heldA, held, numbered⟩)
  · have admitsA := admitted _ heldA
    have admitsB := admitted _ heldB
    cases kind with
    | money currency scale =>
        obtain ⟨sameA, -⟩ := decide_eq_true_iff.mp admitsA
        obtain ⟨sameB, -⟩ := decide_eq_true_iff.mp admitsB
        exact apart (sameA.trans sameB.symm)
    | _ => cases admitsA
  · have admitsA := admitted _ heldA
    have admitsB := admitted _ held
    cases kind with
    | money currency scale =>
        cases number with
        | int n => cases admitsB
        | float x => cases admitsB
        | _ => cases numbered
    | _ => cases admitsA

/-- A column of one kind, in which no text writes a number, has the extremes of the values it holds. -/
theorem extremes_of_admits (admitted : ∀ cell ∈ cells table column, kind.admits cell)
    (unread : ∀ text, .text text ∈ cells table column → readNumber? text = none) :
    least table column = .ok (extreme .lt (present (cells table column))) ∧
      greatest table column = .ok (extreme .gt (present (cells table column))) := by
  have seen := contributions_eq_present unread
  have unmixed : ¬ Mixed (contributions table column) := by
    rw [seen]
    exact unmixed_of_admits fun value member => admitted value (mem_present.mp member).1
  have all : kept true (contributions table column) = present (cells table column) := by
    simp [kept, seen]
  rw [least, greatest, gather_of_unmixed _ _ unmixed, gather_of_unmixed _ _ unmixed, all]
  exact ⟨rfl, rfl⟩

/-- What sorting by a column alone compares. -/
theorem below_single_iff (column : String) (descending : Bool) (a b : Row) :
    below (SortKey.compareAll [⟨column, descending⟩]) a b ↔
      (Row.cell a column).order (Row.cell b column) = ahead descending := by
  rw [below, SortKey.compareAll, SortKey.compareAll, SortKey.compare, ahead]
  cases (Row.cell a column).order (Row.cell b column) <;> cases descending <;> simp

theorem present_map_cell (rows : List Row) (column : String) :
    present (rows.map fun row => Row.cell row column) =
      (rows.filter fun row => !(Row.cell row column).isNull).map fun row => Row.cell row column := List.filter_map

theorem atMost_single_iff (column : String) (descending : Bool) (a b : Row) :
    AtMost (below (SortKey.compareAll [⟨column, descending⟩])) a b ↔
      (Row.cell b column).order (Row.cell a column) ≠ ahead descending := by
  rw [AtMost, ← Bool.not_eq_true, below_single_iff]

theorem orderBy?_sorts (descending : Bool) (admitted : ∀ cell ∈ cells table column, kind.admits cell) :
    Consistent (below (SortKey.compareAll [⟨column, descending⟩])) (· ∈ table.rows) ∧
      ∃ sorted, table.orderBy? [⟨column, descending⟩] = some sorted ∧
        Sorts (below (SortKey.compareAll [⟨column, descending⟩])) (· ∈ table.rows) table.rows sorted.rows := by
  have uniform : SortKey.Uniform [⟨column, descending⟩] table.rows := by
    intro key member
    obtain rfl := List.mem_singleton.mp member
    exact ⟨kind, fun row held => admitted _ (List.mem_map_of_mem held)⟩
  obtain ⟨rows, made, sorts⟩ := SortKey.stable?_compareAll_sorts uniform fun row member => member
  exact ⟨(SortKey.compareAll_preordered uniform).consistent, table.withRows rows,
    congrArg (Option.map table.withRows) made, sorts⟩

section Sorted

variable {sorted : Table Value} {descending : Bool}
  (consistent : Consistent (below (SortKey.compareAll [⟨column, descending⟩])) (· ∈ table.rows))
  (sorts : Sorts (below (SortKey.compareAll [⟨column, descending⟩])) (· ∈ table.rows) table.rows sorted.rows)
include consistent sorts

/-- The first cell with a value, once the rows are sorted by the column, is ahead of all those that stood before
it, and none is ahead of it. -/
theorem exists_first_of_sorts :
    (present (cells table column) = [] ∧ present (cells sorted column) = []) ∨
      ∃ first rest front back, present (cells sorted column) = first :: rest ∧
        present (cells table column) = front ++ first :: back ∧
        (∀ cell ∈ front, first.order cell = ahead descending) ∧
        ∀ cell ∈ present (cells table column), cell.order first ≠ ahead descending := by
  have sorts := sorts.filter fun row => !(Row.cell row column).isNull
  have before : present (cells table column) = _ := present_map_cell table.rows column
  have after : present (cells sorted column) = _ := present_map_cell sorted.rows column
  rw [before, after]
  simp only [List.forall_mem_map]
  cases held : sorted.rows.filter fun row => !(Row.cell row column).isNull with
  | nil =>
      rw [held] at sorts
      rw [← sorts.perm.nil_eq]
      exact .inl ⟨rfl, rfl⟩
  | cons head rest =>
      rw [held] at sorts
      obtain ⟨front, back, split, beyond, unbeaten⟩ := sorts.exists_split consistent
      refine .inr ⟨_, _, front.map fun row => Row.cell row column, back.map fun row => Row.cell row column, rfl,
        ?_, ?_, ?_⟩
      · rw [split, List.map_append, List.map_cons]
      · rw [List.forall_mem_map]
        intro row member
        exact (below_single_iff column descending head row).mp (beyond row member)
      · intro row member
        exact (atMost_single_iff column descending head row).mp (unbeaten row member)

/-- That cell is the extreme of the values. -/
theorem extreme_of_sorts :
    let best := extreme (ahead descending) (present (cells table column))
    best = (present (cells sorted column)).head?.getD .null ∧
      ∀ cell ∈ present (cells table column), cell.order best ≠ ahead descending := by
  intro best
  rcases exists_first_of_sorts consistent sorts with
    ⟨none, same⟩ | ⟨first, rest, front, back, listed, split, beyond, unbeaten⟩
  · have absent : best = .null := congrArg (extreme (ahead descending)) none
    simp [absent, none, same]
  · have later : ∀ cell ∈ back, cell.order first ≠ ahead descending := by
      intro cell member
      apply unbeaten cell
      simp [split, member]
    have found : best = first := (congrArg (extreme (ahead descending)) split).trans (extreme_append beyond later)
    rw [found, listed]
    exact ⟨rfl, unbeaten⟩

end Sorted

/-- Falling values come before null, which is the first cell only if there are none. -/
theorem head?_descending {sorted : Table Value}
    (consistent : Consistent (below (SortKey.compareAll [⟨column, true⟩])) (· ∈ table.rows))
    (sorts : Sorts (below (SortKey.compareAll [⟨column, true⟩])) (· ∈ table.rows) table.rows sorted.rows) :
    (cells sorted column).head?.getD .null = (present (cells sorted column)).head?.getD .null := by
  rw [cells]
  cases held : sorted.rows with
  | nil => rfl
  | cons head rest =>
      rw [held] at sorts
      by_cases absent : Row.cell head column = .null
      · have none : present ((head :: rest).map fun row => Row.cell row column) = [] := by
          apply List.eq_nil_iff_forall_not_mem.mpr
          intro cell member
          obtain ⟨held, value⟩ := mem_present.mp member
          obtain ⟨row, inside, rfl⟩ := List.mem_map.mp held
          have first := Sorting.atMost_head consistent (sorts.among_after head List.mem_cons_self) sorts.ordered inside
          apply (atMost_single_iff column true head row).mp first
          rw [absent]
          exact order_null value
        rw [none]
        exact absent
      · have first : present ((head :: rest).map fun row => Row.cell row column) =
            Row.cell head column :: present (rest.map fun row => Row.cell row column) := by
          apply List.filter_cons_of_pos
          rwa [Bool.not_eq_true', ← Bool.not_eq_true, isNull_iff]
        rw [first]
        rfl

end Column

/-- The extremes of a column agree with sorting by it, where its values are of one kind and no text writes a
number. The least value is the first cell with a value among the rows in rising order and the greatest one is
the first cell of all in falling order, each being null exactly where the column holds no value, and no value is
less than the one or greater than the other. -/
theorem extremes_of_orderBy (table : Table Value) (column : String) (kind : CellKind)
    (admitted : ∀ cell ∈ cells table column, kind.admits cell)
    (unread : ∀ text, .text text ∈ cells table column → readNumber? text = none) :
    ∃ rising falling, table.orderBy? [⟨column, false⟩] = some rising ∧ table.orderBy? [⟨column, true⟩] = some falling ∧
      ∃ low high, least table column = .ok low ∧ greatest table column = .ok high ∧
        low = (present (cells rising column)).head?.getD .null ∧ high = (cells falling column).head?.getD .null ∧
        (low = .null ↔ ∀ cell ∈ cells table column, cell = .null) ∧
        (high = .null ↔ ∀ cell ∈ cells table column, cell = .null) ∧
        ∀ cell ∈ cells table column, cell ≠ .null → cell.order low ≠ .lt ∧ cell.order high ≠ .gt := by
  obtain ⟨consistentUp, rising, madeRising, sortsUp⟩ := orderBy?_sorts false admitted
  obtain ⟨consistentDown, falling, madeFalling, sortsDown⟩ := orderBy?_sorts true admitted
  obtain ⟨lowest, unbeatenBelow⟩ := extreme_of_sorts consistentUp sortsUp
  obtain ⟨highest, unbeatenAbove⟩ := extreme_of_sorts consistentDown sortsDown
  obtain ⟨low, high⟩ := extremes_of_admits admitted unread
  refine ⟨rising, falling, madeRising, madeFalling, _, _, low, high, lowest, ?_, extreme_present_eq_null_iff,
    extreme_present_eq_null_iff, ?_⟩
  · exact highest.trans (head?_descending consistentDown sortsDown).symm
  · intro cell member held
    have inside := mem_present.mpr ⟨member, held⟩
    exact ⟨unbeatenBelow cell inside, unbeatenAbove cell inside⟩

/-- Of lengths that are the same, written in two units, both ways take the one that stands first. -/
theorem extremes_of_orderBy_of_lengths :
    let length (amount : Int64) (hint : String) : Value := .quantity ⟨amount, .length, .metric, hint⟩
    let lengths := single [.null, length 100000 "mm", length 2000000 "m", length 100000 "cm", length 2000000 "cm"]
    (∀ cell ∈ cells lengths "p", (CellKind.quantity .length .metric).admits cell) ∧
      (∀ text, .text text ∈ cells lengths "p" → readNumber? text = none) ∧
      least lengths "p" = .ok (length 100000 "mm") ∧ greatest lengths "p" = .ok (length 2000000 "m") ∧
      ∃ rising falling, lengths.orderBy? [⟨"p", false⟩] = some rising ∧ lengths.orderBy? [⟨"p", true⟩] = some falling ∧
        (present (cells rising "p")).head?.getD .null = length 100000 "mm" ∧
        (cells falling "p").head?.getD .null = length 2000000 "m" := by
  intro length lengths
  have seen : cells lengths "p" =
      [.null, length 100000 "mm", length 2000000 "m", length 100000 "cm", length 2000000 "cm"] := by rfl
  have admitted : ∀ cell ∈ cells lengths "p", (CellKind.quantity .length .metric).admits cell := by
    rw [seen]
    simp [length, CellKind.admits]
  have unread : ∀ text, .text text ∈ cells lengths "p" → readNumber? text = none := by
    rw [seen]
    simp [length]
  obtain ⟨rising, falling, madeRising, madeFalling, low, high, lowest, highest, first, last, -⟩ :=
    extremes_of_orderBy lengths "p" (.quantity .length .metric) admitted unread
  have small : least lengths "p" = .ok (length 100000 "mm") := by rfl
  have large : greatest lengths "p" = .ok (length 2000000 "m") := by rfl
  obtain rfl := Except.ok.inj (lowest.symm.trans small)
  obtain rfl := Except.ok.inj (highest.symm.trans large)
  exact ⟨admitted, unread, small, large, rising, falling, madeRising, madeFalling, first.symm, last.symm⟩

end TableScript.Aggregate
