import Mathlib.Data.List.Induction
import Mathlib.Data.List.Perm.Basic
import TableScript.Proofs.Dictionary.Distinct
import TableScript.Proofs.Table.Basic

set_option autoImplicit false

namespace TableScript

section Lists

variable {α : Type} [BEq α] [LawfulBEq α]

/-- The first ones of a longer list. -/
theorem eraseDups_concat (items : List α) (last : α) :
    (items ++ [last]).eraseDups = if last ∈ items then items.eraseDups else items.eraseDups ++ [last] := by
  rw [List.eraseDups_append]
  split <;> simp [List.removeAll, List.eraseDups_cons, *]

theorem nodup_eraseDups (items : List α) : items.eraseDups.Nodup := by
  induction items using List.reverseRecOn with
  | nil => exact List.nodup_nil
  | append_singleton items last ih =>
      rw [eraseDups_concat]
      by_cases seen : last ∈ items
      · rwa [if_pos seen]
      · rw [if_neg seen]
        refine (List.perm_append_singleton last _).nodup_iff.mpr (List.nodup_cons.mpr ⟨?_, ih⟩)
        exact mt List.mem_eraseDups.mp seen

end Lists

namespace Table

variable {column : String}

/-- The rows with a key, in their order. -/
def rowsUnder (column key : String) (rows : List Row) : List Row :=
  rows.filter fun row => groupKey column row = key

/-- The keys of rows in the order in which they are seen first, each with its rows. -/
def groupsOf (column : String) (rows : List Row) : List (String × List Row) :=
  (rows.map (groupKey column)).eraseDups.map fun key => (key, rowsUnder column key rows)

theorem rowsUnder_concat_self (rows : List Row) (row : Row) :
    rowsUnder column (groupKey column row) (rows ++ [row]) =
      rowsUnder column (groupKey column row) rows ++ [row] := by
  simp [rowsUnder, List.filter_append]

theorem rowsUnder_concat_of_ne {key : String} {row : Row} (rows : List Row)
    (apart : key ≠ groupKey column row) :
    rowsUnder column key (rows ++ [row]) = rowsUnder column key rows := by
  simp [rowsUnder, List.filter_append, apart.symm]

theorem rowsUnder_eq_nil_iff {key : String} {rows : List Row} :
    rowsUnder column key rows = [] ↔ key ∉ rows.map (groupKey column) := by
  simp [rowsUnder, List.filter_eq_nil_iff]

/-- A row whose key was seen goes to the end of the group of its key. -/
theorem groupsOf_concat_of_mem {rows : List Row} {row : Row}
    (seen : groupKey column row ∈ rows.map (groupKey column)) :
    groupsOf column (rows ++ [row]) = (groupsOf column rows).map fun group =>
      if group.1 == groupKey column row then (groupKey column row, group.2 ++ [row]) else group := by
  rw [groupsOf, List.map_append, List.map_singleton, eraseDups_concat, if_pos seen, groupsOf, List.map_map]
  refine List.map_congr_left fun key _ => ?_
  by_cases same : key = groupKey column row
  · simp [same, rowsUnder_concat_self]
  · simp [same, rowsUnder_concat_of_ne rows same]

/-- A row with a new key makes a group of its own behind the others. -/
theorem groupsOf_concat_of_not_mem {rows : List Row} {row : Row}
    (new : groupKey column row ∉ rows.map (groupKey column)) :
    groupsOf column (rows ++ [row]) = groupsOf column rows ++ [(groupKey column row, [row])] := by
  have alone : rowsUnder column (groupKey column row) (rows ++ [row]) = [row] := by
    rw [rowsUnder_concat_self, rowsUnder_eq_nil_iff.mpr new, List.nil_append]
  rw [groupsOf, List.map_append, List.map_singleton, eraseDups_concat, if_neg new, List.map_append,
    List.map_singleton, alone, groupsOf]
  refine congrArg (· ++ _) (List.map_congr_left fun key member => ?_)
  have apart : key ≠ groupKey column row := fun same => new (same ▸ List.mem_eraseDups.mp member)
  rw [rowsUnder_concat_of_ne rows apart]

/-- The groups as they are kept while rows are added: the groups, and the rows of each, stand in reverse. -/
def reversed (groups : List (String × List Row)) : List (String × List Row) :=
  (groups.map fun group => (group.1, group.2.reverse)).reverse

theorem any_key_reversed {key : String} {rows : List Row} :
    (reversed (groupsOf column rows)).any (·.1 == key) = true ↔ key ∈ rows.map (groupKey column) := by
  simp [reversed, groupsOf]

/-- To add a row to the groups of the rows so far makes them the groups of one row more. -/
theorem addToGroup_groupsOf (rows : List Row) (row : Row) :
    addToGroup column (reversed (groupsOf column rows)) row = reversed (groupsOf column (rows ++ [row])) := by
  by_cases seen : groupKey column row ∈ rows.map (groupKey column)
  · rw [addToGroup, if_pos (any_key_reversed.mpr seen), groupsOf_concat_of_mem seen, reversed, reversed,
      List.map_reverse, List.map_map, List.map_map]
    refine congrArg List.reverse (List.map_congr_left fun group _ => ?_)
    by_cases here : group.1 = groupKey column row
    · simp [here]
    · simp [here]
  · rw [addToGroup, if_neg (mt any_key_reversed.mp seen), groupsOf_concat_of_not_mem seen]
    simp [reversed]

theorem foldl_addToGroup (seen rows : List Row) :
    rows.foldl (addToGroup column) (reversed (groupsOf column seen)) =
      reversed (groupsOf column (seen ++ rows)) := by
  -- The rows that were seen are the invariant: each step moves one row to them.
  induction rows generalizing seen with
  | nil => rw [List.append_nil, List.foldl_nil]
  | cons row rest ih =>
      rw [List.foldl_cons, addToGroup_groupsOf, ih, List.append_assoc, List.singleton_append]

/-- The rows under different keys are all those with one of the keys. -/
theorem flatMap_rowsUnder_perm (column : String) (rows : List Row) {keys : List String} (distinct : keys.Nodup) :
    (keys.flatMap fun key => rowsUnder column key rows).Perm
      (rows.filter fun row => groupKey column row ∈ keys) := by
  induction keys with
  | nil => simp
  | cons key rest ih =>
      obtain ⟨new, others⟩ := List.nodup_cons.mp distinct
      let among := rows.filter fun row => groupKey column row ∈ key :: rest
      have first : among.filter (fun row => groupKey column row = key) = rowsUnder column key rows := by
        rw [List.filter_filter]
        refine List.filter_congr fun row _ => ?_
        simp +contextual
      have later : among.filter (fun row => !decide (groupKey column row = key)) =
          rows.filter fun row => groupKey column row ∈ rest := by
        rw [List.filter_filter]
        refine List.filter_congr fun row _ => ?_
        by_cases same : groupKey column row = key
        · simp [same, new]
        · simp [same]
      -- The rows under the first key and those under the others share out the rows that have one of the keys.
      rw [List.flatMap_cons]
      refine ((ih others).append_left _).trans ?_
      rw [← first, ← later]
      exact List.filter_append_perm _ among

/-- Every row is under its key. -/
theorem flatMap_groups_perm (rows : List Row) :
    ((rows.map (groupKey column)).eraseDups.flatMap fun key => rowsUnder column key rows).Perm rows := by
  have all : (rows.filter fun row => groupKey column row ∈ (rows.map (groupKey column)).eraseDups) = rows := by
    rw [List.filter_eq_self]
    intro row member
    simpa using ⟨row, member, rfl⟩
  have shared := flatMap_rowsUnder_perm column rows (nodup_eraseDups (rows.map (groupKey column)))
  rwa [all] at shared

theorem groupBy_of_mem {table : Table Value} (declared : column ∈ table.columns) :
    table.groupBy column =
      .ok ⟨(groupsOf column table.rows).map fun group => (group.1, table.withRows group.2)⟩ := by
  have collected : table.rows.foldl (addToGroup column) [] = reversed (groupsOf column table.rows) :=
    foldl_addToGroup [] table.rows
  rw [groupBy, if_pos ((hasColumn_iff column).mpr declared), collected]
  simp [reversed, Function.comp_def]

/-- The table under a key: it is made as the receiver is, and has the rows whose cell shows the key, at least
one, in their order. -/
structure IsGroup (table : Table Value) (column key : String) (group : Table Value) : Prop where
  columns : group.columns = table.columns
  schema : group.schema = table.schema
  fromDatabase : group.fromDatabase = table.fromDatabase
  rows : group.rows = table.rows.filter fun row => (Row.cell row column).template = key
  inhabited : group.rows ≠ []

/-- The keys of a grouped table are the texts of the column, each once, as they were seen first; under each key
stands its group, and the groups share out the rows of the table. The groups are a dictionary as it is made by
inserting them one after the other, so none of them takes the place of another one. -/
theorem groupBy_partitions {table : Table Value} {column : String} (declared : column ∈ table.columns) :
    ∃ cells groups, table.column column = .ok cells ∧ table.groupBy column = .ok groups ∧
      groups.keys = (cells.map Value.template).eraseDups ∧ groups.keys.Nodup ∧
      (∀ key ∈ groups.keys, ∃ group, groups.get? key = some group ∧ table.IsGroup column key group) ∧
      (groups.values.flatMap Table.rows).Perm table.rows ∧
      groups = .ofList groups.entries := by
  let groups : Dictionary (Table Value) :=
    ⟨(groupsOf column table.rows).map fun group => (group.1, table.withRows group.2)⟩
  have keys : groups.keys = (table.rows.map (groupKey column)).eraseDups := by
    simp [groups, Dictionary.keys, groupsOf, Function.comp_def]
  have distinct : groups.keys.Nodup := keys ▸ nodup_eraseDups _
  refine ⟨_, groups, column_of_mem declared, groupBy_of_mem declared, ?_, distinct, fun key seen => ?_, ?_, ?_⟩
  · rw [keys, List.map_map]
    rfl
  · rw [keys] at seen
    refine ⟨table.withRows (rowsUnder column key table.rows), ?_, rfl, rfl, rfl, rfl, ?_⟩
    · refine Dictionary.get?_of_mem distinct (List.mem_map.mpr ⟨(key, _), ?_, rfl⟩)
      exact List.mem_map.mpr ⟨key, seen, rfl⟩
    · intro empty
      exact rowsUnder_eq_nil_iff.mp empty (List.mem_eraseDups.mp seen)
  · have shared : groups.values.flatMap Table.rows =
        (table.rows.map (groupKey column)).eraseDups.flatMap fun key => rowsUnder column key table.rows := by
      simp [groups, Dictionary.values, groupsOf, List.flatMap_map, withRows]
    rw [shared]
    exact flatMap_groups_perm table.rows
  · exact congrArg Dictionary.mk (Dictionary.entries_ofList distinct).symm

/-- A number and a text that show the same, and a row without the column. -/
theorem groupBy_partitions_of_mixed_cells :
    let table : Table Value := .plain ["k", "n"]
      [⟨[("k", .int 1), ("n", .int 10)]⟩, ⟨[("k", .text "b")]⟩, ⟨[("n", .int 30)]⟩, ⟨[("k", .text "1")]⟩]
    "k" ∈ table.columns ∧ ∃ groups, table.groupBy "k" = .ok groups ∧ groups.keys = ["1", "b", ""] ∧
      ∃ group, groups.get? "1" = some group ∧ group.columns = table.columns ∧
        group.rows = [⟨[("k", .int 1), ("n", .int 10)]⟩, ⟨[("k", .text "1")]⟩] := by
  intro table
  have declared : "k" ∈ table.columns := by decide
  obtain ⟨cells, groups, read, grouped, keys, -, each, -⟩ := groupBy_partitions declared
  cases read
  have shown : groups.keys = ["1", "b", ""] := keys.trans (by decide +kernel)
  obtain ⟨group, found, isGroup⟩ := each "1" (shown ▸ List.mem_cons_self)
  refine ⟨declared, groups, grouped, shown, group, found, isGroup.columns, isGroup.rows.trans ?_⟩
  rfl

end Table

end TableScript
