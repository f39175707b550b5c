import TableScript.Proofs.Sorting.Preorder
import TableScript.Proofs.Sorting.Stability
import TableScript.Proofs.Value.Order
import TableScript.Table.Transform

set_option autoImplicit false

namespace TableScript

/-- What the cells of a column have in common. -/
inductive CellKind where
  | int
  | text
  | bool
  | money (currency : String) (scale : Nat)
  | quantity (family : Family) (system : System)
deriving DecidableEq, Repr

namespace CellKind

/-- Whether a cell is of the kind. A cell of any kind may be null. -/
def admits : CellKind → Value → Bool
  | _, .null => true
  | .int, .int _ => true
  | .text, .text _ => true
  | .bool, .bool _ => true
  | .money currency scale, .money amount => amount.currency = currency ∧ amount.scale = scale
  | .quantity family system, .quantity amount => amount.family = family ∧ amount.system = system
  | _, _ => false

/-- Cells of one kind are compared exactly: neither a scale nor a system is converted, and no integer meets a
float. -/
theorem exact_of_admits {kind : CellKind} {a b : Value} (admitsA : kind.admits a) (admitsB : kind.admits b) :
    a.Exact b := by
  cases a with
  | money amount =>
    cases b with
    | money other =>
      cases kind with
      | money currency scale =>
        obtain ⟨-, sameScale⟩ := decide_eq_true_iff.mp admitsA
        obtain ⟨-, otherScale⟩ := decide_eq_true_iff.mp admitsB
        intro _
        simp [Money.amountAt?, sameScale, otherScale]
      | int | text | bool | quantity => cases admitsA
    | _ => trivial
  | quantity amount =>
    cases b with
    | quantity other =>
      cases kind with
      | quantity family system =>
        obtain ⟨sameFamily, sameSystem⟩ := decide_eq_true_iff.mp admitsA
        obtain ⟨otherFamily, otherSystem⟩ := decide_eq_true_iff.mp admitsB
        refine ⟨sameFamily.trans otherFamily.symm, ?_, ?_⟩
        · rw [otherSystem, ← sameSystem]
          exact amount.converts_own
        · rw [sameSystem, ← otherSystem]
          exact other.converts_own
      | int | text | bool | money => cases admitsA
    | _ => trivial
  | int n =>
    cases b with
    | float x => cases kind <;> cases admitsB
    | _ => trivial
  | float x => cases kind <;> cases admitsA
  | array handle items => cases kind <;> cases admitsA
  | null | bool | text | dict | table | record | schema | function | error => cases b <;> trivial

end CellKind

namespace SortKey

/-- The key does not tell the rows apart. -/
def Ties (key : SortKey) (a b : Row) : Prop :=
  (Row.cell a key.column).order (Row.cell b key.column) = .eq

instance (key : SortKey) (a b : Row) : Decidable (key.Ties a b) := inferInstanceAs (Decidable (_ = _))

/-- The key alone lets `a` stand before `b`: the cell of `a` is not the greater one, or not the smaller one if
the key is descending. -/
def Allows (key : SortKey) (a b : Row) : Prop :=
  (Row.cell a key.column).order (Row.cell b key.column) ≠ if key.descending then .lt else .gt

/-- A key that no stronger key decides before lets `a` stand before `b`. -/
def Precedes (keys : List SortKey) (a b : Row) : Prop :=
  ∀ stronger key weaker, keys = stronger ++ key :: weaker →
    (∀ other ∈ stronger, other.Ties a b) → key.Allows a b

theorem compare_eq_iff (key : SortKey) (a b : Row) : key.compare a b = .eq ↔ key.Ties a b := by
  unfold compare Ties
  cases (Row.cell a key.column).order (Row.cell b key.column) <;> cases key.descending <;> decide

theorem compare_ne_gt_iff (key : SortKey) (a b : Row) : key.compare a b ≠ .gt ↔ key.Allows a b := by
  unfold compare Allows
  cases (Row.cell a key.column).order (Row.cell b key.column) <;> cases key.descending <;> decide

theorem compareAll_eq_iff (keys : List SortKey) (a b : Row) :
    compareAll keys a b = .eq ↔ ∀ key ∈ keys, key.Ties a b := by
  induction keys with
  | nil => simp [compareAll]
  | cons key rest ih => rw [compareAll, Ordering.then_eq_eq, compare_eq_iff, ih, List.forall_mem_cons]

theorem precedes_cons (key : SortKey) (rest : List SortKey) (a b : Row) :
    Precedes (key :: rest) a b ↔ key.Allows a b ∧ (key.Ties a b → Precedes rest a b) := by
  constructor
  · intro precedes
    refine ⟨precedes [] key rest rfl (List.forall_mem_nil _), ?_⟩
    intro ties stronger next weaker split tied
    exact precedes (key :: stronger) next weaker (congrArg (key :: ·) split)
      (List.forall_mem_cons.mpr ⟨ties, tied⟩)
  · rintro ⟨allows, later⟩ stronger next weaker split tied
    cases stronger with
    | nil =>
      obtain ⟨rfl, -⟩ := List.cons.inj split
      exact allows
    | cons first stronger =>
      obtain ⟨rfl, parts⟩ := List.cons.inj split
      obtain ⟨ties, tied⟩ := List.forall_mem_cons.mp tied
      exact later ties stronger next weaker parts tied

theorem compareAll_ne_gt_iff (keys : List SortKey) (a b : Row) :
    compareAll keys a b ≠ .gt ↔ Precedes keys a b := by
  induction keys with
  | nil => simp [compareAll, Precedes]
  | cons key rest ih =>
    rw [precedes_cons, ← compare_ne_gt_iff, ← compare_eq_iff, ← ih, compareAll]
    cases key.compare a b <;> simp [Ordering.then]

theorem compareAll_append (stronger weaker : List SortKey) :
    compareAll (stronger ++ weaker) = compareLex (compareAll stronger) (compareAll weaker) := by
  funext a b
  induction stronger with
  | nil => rfl
  | cons key rest ih =>
    rw [List.cons_append, compareAll, ih, compareLex, compareLex, compareAll, Ordering.then_assoc]

/-- In each key's column all cells are of one kind. -/
def Uniform (keys : List SortKey) (rows : List Row) : Prop :=
  ∀ key ∈ keys, ∃ kind : CellKind, ∀ row ∈ rows, kind.admits (Row.cell row key.column)

open Sorting (Consistent Preordered Sorts below)

variable {rows : List Row} {keys stronger weaker : List SortKey}

/-- No key compares two cells of the rows with a rounding in between. -/
def ComparesExactly (keys : List SortKey) (rows : List Row) : Prop :=
  ∀ key ∈ keys, ∀ a ∈ rows, ∀ b ∈ rows, (Row.cell a key.column).Exact (Row.cell b key.column)

theorem Uniform.comparesExactly (uniform : Uniform keys rows) : ComparesExactly keys rows := by
  intro key member a inA b inB
  obtain ⟨kind, admits⟩ := uniform key member
  exact CellKind.exact_of_admits (admits a inA) (admits b inB)

theorem compare_preordered {key : SortKey} (exact : ComparesExactly [key] rows) :
    Preordered key.compare (· ∈ rows) := by
  have exact : ∀ {a b}, a ∈ rows → b ∈ rows → (Row.cell a key.column).Exact (Row.cell b key.column) :=
    fun {a b} inA inB => exact key List.mem_cons_self a inA b inB
  have cells : Preordered (fun a b => (Row.cell a key.column).order (Row.cell b key.column)) (· ∈ rows) := {
    swap := fun inA inB => Value.order_swap _ _ (exact inA inB)
    chained := fun inA inB inC => Value.order_chained _ _ _ (exact inA inB) (exact inB inC) (exact inA inC) }
  cases direction : key.descending with
  | true =>
    have reversed : key.compare = fun a b => ((Row.cell a key.column).order (Row.cell b key.column)).swap := by
      funext a b
      simp [compare, direction]
    rw [reversed]
    exact cells.reversed
  | false =>
    have same : key.compare = fun a b => (Row.cell a key.column).order (Row.cell b key.column) := by
      funext a b
      simp [compare, direction]
    rw [same]
    exact cells

theorem ComparesExactly.preordered (exact : ComparesExactly keys rows) :
    Preordered (compareAll keys) (· ∈ rows) := by
  induction keys with
  | nil => exact ⟨fun _ _ => rfl, fun _ _ _ _ _ => rfl⟩
  | cons key rest ih =>
    obtain ⟨first, later⟩ := List.forall_mem_cons.mp exact
    exact (compare_preordered (List.forall_mem_singleton.mpr first)).lex (ih later)

theorem compareAll_preordered (uniform : Uniform keys rows) : Preordered (compareAll keys) (· ∈ rows) :=
  uniform.comparesExactly.preordered

/-- Among the rows the keys give no order in which every row has its place. -/
def Contradictory (keys : List SortKey) (rows : List Row) : Prop :=
  ¬ Consistent (below (compareAll keys)) (· ∈ rows)

theorem ComparesExactly.not_contradictory (exact : ComparesExactly keys rows) : ¬ Contradictory keys rows :=
  not_not_intro exact.preordered.consistent

theorem stable?_compareAll_sorts (uniform : Uniform keys rows) {items : List Row}
    (among : ∀ row ∈ items, row ∈ rows) :
    ∃ sorted, Sorting.stable? (below (compareAll keys)) items = some sorted ∧
      Sorts (below (compareAll keys)) (· ∈ rows) items sorted :=
  Sorting.stable?_sorts (compareAll_preordered uniform).consistent items among

/-- Stronger keys may be sorted by in a second pass. -/
theorem stable?_compareAll_append (uniformStronger : Uniform stronger rows)
    (uniformWeaker : Uniform weaker rows) :
    Sorting.stable? (below (compareAll (stronger ++ weaker))) rows =
      (Sorting.stable? (below (compareAll weaker)) rows).bind (Sorting.stable? (below (compareAll stronger))) := by
  have major := compareAll_preordered uniformStronger
  have minor := compareAll_preordered uniformWeaker
  obtain ⟨between, madeFirst, first⟩ := stable?_compareAll_sorts uniformWeaker fun row member => member
  obtain ⟨sorted, madeSecond, second⟩ := stable?_compareAll_sorts uniformStronger first.among_after
  obtain ⟨whole, made, once⟩ := Sorting.stable?_sorts (major.lex minor).consistent rows first.amongAll
  rw [compareAll_append, made, madeFirst, Option.bind_some, madeSecond]
  exact congrArg some (once.unique (major.lex minor).consistent (first.lex major minor second))

end SortKey

namespace Table

/-- Only contradictory keys make the sort give up. -/
theorem contradictory_of_orderBy? {table : Table Value} {keys : List SortKey}
    (givesUp : table.orderBy? keys = none) : SortKey.Contradictory keys table.rows := by
  intro consistent
  obtain ⟨rows, sorted, -⟩ := Sorting.stable?_sorts consistent table.rows fun _ member => member
  have ordered : table.orderBy? keys = some (table.withRows rows) := congrArg (Option.map table.withRows) sorted
  rw [givesUp] at ordered
  cases ordered

/-- `result` has the rows of `table` in the order of the keys, and all else as `table` has it. -/
structure OrderedBy (keys : List SortKey) (table result : Table Value) : Prop where
  rows_perm : result.rows.Perm table.rows
  rows_ordered : result.rows.Pairwise (SortKey.Precedes keys)
  rows_stable : ∀ row ∈ table.rows,
    (result.rows.filter fun other => ∀ key ∈ keys, key.Ties row other) =
      table.rows.filter fun other => ∀ key ∈ keys, key.Ties row other
  columns : result.columns = table.columns
  schema : result.schema = table.schema
  fromDatabase : result.fromDatabase = table.fromDatabase

/-- A table whose key columns are of one kind each is sorted by the keys, the first one being the strongest,
and the first key may as well be sorted by in a second pass. -/
theorem orderBy_orders (table : Table Value) (keys : List SortKey) (uniform : SortKey.Uniform keys table.rows) :
    ∃ sorted, table.orderBy? keys = some sorted ∧ OrderedBy keys table sorted ∧
      ∀ key rest, keys = key :: rest → (table.orderBy? rest).bind (·.orderBy? [key]) = some sorted := by
  have preordered := SortKey.compareAll_preordered uniform
  obtain ⟨rows, made, sorts⟩ := SortKey.stable?_compareAll_sorts uniform fun row member => member
  refine ⟨table.withRows rows, congrArg (Option.map table.withRows) made, ?_, ?_⟩
  · refine ⟨sorts.perm, ?_, ?_, rfl, rfl, rfl⟩
    · refine sorts.ordered.imp_of_mem fun {a b} memberA memberB atMost => ?_
      rw [preordered.atMost_below (sorts.among_after a memberA) (sorts.among_after b memberB)] at atMost
      exact (SortKey.compareAll_ne_gt_iff keys a b).mp atMost
    · intro row member
      have equals : ∀ items : List Row, (∀ other ∈ items, other ∈ table.rows) →
          (items.filter fun other => ∀ key ∈ keys, key.Ties row other) =
            items.filter (Sorting.tied (Sorting.below (SortKey.compareAll keys)) row) := by
        intro items amongItems
        refine List.filter_congr fun other inItems => ?_
        rw [Bool.eq_iff_iff, decide_eq_true_iff, ← SortKey.compareAll_eq_iff,
          preordered.tied_below member (amongItems other inItems)]
      rw [equals table.rows fun _ inTable => inTable]
      exact (equals _ sorts.among_after).trans (sorts.classes row member)
  · rintro key rest rfl
    obtain ⟨uniformKey, uniformRest⟩ := List.forall_mem_cons.mp uniform
    have twice := SortKey.stable?_compareAll_append (List.forall_mem_singleton.mpr uniformKey) uniformRest
    obtain ⟨between, first, -⟩ := SortKey.stable?_compareAll_sorts uniformRest fun row member => member
    rw [List.singleton_append, made, first, Option.bind_some] at twice
    have passes : (table.withRows between).orderBy? [key] = some (table.withRows rows) :=
      congrArg (Option.map table.withRows) twice.symm
    rw [← passes]
    exact congrArg (Option.bind · (·.orderBy? [key])) (congrArg (Option.map table.withRows) first)

/-- Numbers fall while names rise, the second text before the tenth; a row without a name comes before the
others with its number, one without a number last, and two rows of one number and name stay as they were. -/
theorem orderBy_orders_mixed_directions :
    let table : Table Value := .plain ["id", "name", "count"]
      [⟨[("id", .int 1), ("name", .text "a10"), ("count", .int 5)]⟩,
       ⟨[("id", .int 2), ("name", .text "a2"), ("count", .int 5)]⟩,
       ⟨[("id", .int 3), ("count", .int 5)]⟩,
       ⟨[("id", .int 4), ("name", .text "b"), ("count", .null)]⟩,
       ⟨[("id", .int 5), ("name", .text "a2"), ("count", .int 5)]⟩,
       ⟨[("id", .int 6), ("name", .text "c"), ("count", .int 12)]⟩]
    let keys : List SortKey := [⟨"count", true⟩, ⟨"name", false⟩]
    ∃ sorted, table.orderBy? keys = some sorted ∧ OrderedBy keys table sorted ∧
      (table.orderBy? [⟨"name", false⟩]).bind (·.orderBy? [⟨"count", true⟩]) = some sorted ∧
      sorted.rows.map (fun row => (Row.cell row "id").template) = ["6", "3", "2", "5", "1", "4"] := by
  intro table keys
  have uniform : SortKey.Uniform keys table.rows := by
    intro key member
    rcases List.mem_cons.mp member with rfl | member
    · exact ⟨.int, by decide⟩
    · obtain rfl := List.mem_singleton.mp member
      exact ⟨.text, by decide⟩
  obtain ⟨sorted, made, ordered, passes⟩ := orderBy_orders table keys uniform
  have listed : (table.orderBy? keys).map (fun sorted =>
      sorted.rows.map fun row => (Row.cell row "id").template) = some ["6", "3", "2", "5", "1", "4"] := by
    decide +kernel
  rw [made] at listed
  exact ⟨sorted, made, ordered, passes _ _ rfl, Option.some_inj.mp listed⟩

end Table

end TableScript
