import TableScript.Proofs.Dictionary.Distinct
import TableScript.Proofs.Table.Basic

set_option autoImplicit false

namespace TableScript

namespace Table

/-- The row holds the new name and lacks the old one. -/
def Stray (old new : String) (row : Row) : Prop := row.contains new ∧ ¬ row.contains old

instance (old new : String) (row : Row) : Decidable (Stray old new row) := inferInstanceAs (Decidable (_ ∧ _))

theorem cell_rename (old new : String) (row : Row) :
    Row.cell (row.rename old new) new =
      if Stray old new row then Row.cell row new else Row.cell row old := by
  unfold Row.cell
  by_cases present : row.contains old = true
  · rw [if_neg fun stray => stray.2 present, Dictionary.get?_rename_of_contains present]
  · have unread (name : String) (absent : ¬ row.contains name = true) : row.get? name = none :=
      Dictionary.get?_eq_none_iff.mpr fun member => absent ((row.contains_iff name).mpr member)
    rw [Dictionary.rename_of_absent (by simpa using present)]
    split
    next => rfl
    next kept => rw [unread old present, unread new fun held => kept ⟨held, present⟩]

theorem cell_rename_of_ne {old new other : String} (row : Row) (apartOld : other ≠ old)
    (apartNew : other ≠ new) : Row.cell (row.rename old new) other = Row.cell row other := by
  rw [Row.cell, Dictionary.get?_rename_of_ne apartOld apartNew, Row.cell]

/-- A declared column gets any name that no other column has, in its place. Under the new name each row reads
what it read under the old one, a stray row apart, and the other columns read as before. -/
theorem renameColumn_reads (table : Table Value) (old new : String) (declared : table.hasColumn old)
    (free : new = old ∨ ¬ table.hasColumn new) :
    ∃ renamed, table.renameColumn old new = .ok renamed ∧
      renamed.columns = table.columns.map (fun column => if column = old then new else column) ∧
      renamed.column new = .ok (table.rows.map fun row =>
        if Stray old new row then Row.cell row new else Row.cell row old) ∧
      ((∀ row ∈ table.rows, ¬ Stray old new row) → renamed.column new = table.column old) ∧
      ∀ other ∈ table.columns, other ≠ old → renamed.column other = table.column other := by
  have memberOld : old ∈ table.columns := List.contains_iff_mem.mp declared
  have untaken : ¬ (old ≠ new ∧ table.hasColumn new) := by
    rintro ⟨apart, taken⟩
    rcases free with same | absent
    · exact apart same.symm
    · exact absent taken
  have named : new ∈ table.columns.map fun column => if column = old then new else column :=
    List.mem_map.mpr ⟨old, memberOld, if_pos rfl⟩
  have reads : (table.rows.map fun row => Row.cell (row.rename old new) new) =
      table.rows.map fun row => if Stray old new row then Row.cell row new else Row.cell row old :=
    List.map_congr_left fun row _ => cell_rename old new row
  refine ⟨_, by rw [renameColumn, declared, Bool.not_true, if_neg Bool.false_ne_true, if_neg untaken], rfl,
    ?_, ?_, ?_⟩
  · rw [column_of_mem named, plain, List.map_map]
    exact congrArg Except.ok reads
  · intro settled
    rw [column_of_mem named, column_of_mem memberOld, plain, List.map_map]
    refine congrArg Except.ok (reads.trans (List.map_congr_left fun row member => ?_))
    exact if_neg (settled row member)
  · intro other member apart
    have kept : other ∈ table.columns.map fun column => if column = old then new else column :=
      List.mem_map.mpr ⟨other, member, if_neg apart⟩
    have apartNew : other ≠ new := by
      rintro rfl
      rcases free with same | absent
      · exact apart same
      · exact absent (List.contains_iff_mem.mpr member)
    rw [column_of_mem kept, column_of_mem member, plain, List.map_map]
    exact congrArg Except.ok (List.map_congr_left fun row _ => cell_rename_of_ne row apart apartNew)

/-- A row with both names, one with the old name only, and one with neither. -/
theorem renameColumn_reads_of_mixed_rows :
    let table : Table Value := .plain ["a", "c"]
      [⟨[("b", .int 1), ("a", .int 2), ("c", .int 3)]⟩, ⟨[("a", .int 4)]⟩, ⟨[("c", .int 5)]⟩]
    (table.hasColumn "a" ∧ ¬ table.hasColumn "b" ∧ ∀ row ∈ table.rows, ¬ Stray "a" "b" row) ∧
      ∃ renamed, table.renameColumn "a" "b" = .ok renamed ∧ renamed.columns = ["b", "c"] ∧
        renamed.column "b" = .ok [.int 2, .int 4, .null] ∧ renamed.column "b" = table.column "a" ∧
        renamed.column "c" = table.column "c" := by
  intro table
  have given : table.hasColumn "a" ∧ ¬ table.hasColumn "b" ∧ ∀ row ∈ table.rows, ¬ Stray "a" "b" row := by
    decide +kernel
  obtain ⟨renamed, succeeds, columns, -, reads, others⟩ :=
    renameColumn_reads table "a" "b" given.1 (.inr given.2.1)
  exact ⟨given, renamed, succeeds, columns, reads given.2.2, reads given.2.2,
    others "c" (by simp [table, plain]) (by decide)⟩

/-- The second row has no `a`, so that the column `a` is null in it; renamed to `b`, which is no column, it
shows what the row holds under that name. -/
theorem renamed_column_shows_stray :
    let table : Table Value := .ofRows [⟨[("a", .int 1)]⟩, ⟨[("b", .int 2)]⟩]
    table.column "a" = .ok [.int 1, .null] ∧
      ∃ renamed, table.renameColumn "a" "b" = .ok renamed ∧ renamed.column "b" = .ok [.int 1, .int 2] :=
  ⟨rfl, _, rfl, rfl⟩

end Table

end TableScript
