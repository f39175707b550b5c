import TableScript.Table.Transform

set_option autoImplicit false

namespace TableScript.Table

variable {table : Table Value} {name : String}

theorem hasColumn_iff (name : String) : table.hasColumn name = true ↔ name ∈ table.columns := by
  simp [hasColumn]

theorem column_of_mem (declared : name ∈ table.columns) :
    table.column name = .ok (table.rows.map fun row => Row.cell row name) :=
  if_pos ((hasColumn_iff name).mpr declared)

end TableScript.Table
