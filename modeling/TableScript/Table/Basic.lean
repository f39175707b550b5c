import TableScript.Schema.Basic

set_option autoImplicit false

namespace TableScript

structure Table (ν : Type) where
  columns : List String
  rows : List (Dictionary ν)
  schema : Option (Schema ν)
  fromDatabase : Bool

namespace Table

variable {ν : Type}

def plain (columns : List String) (rows : List (Dictionary ν)) : Table ν :=
  ⟨columns, rows, none, false⟩

/-- Keys with two leading underscores are internal and are no columns. -/
def isInternal (key : String) : Bool := key.startsWith "__"

/-- The columns are the keys of the first row. -/
def ofRows (rows : List (Dictionary ν)) : Table ν :=
  match rows with
  | [] => plain [] []
  | first :: _ => plain (first.keys.filter fun key => !isInternal key) rows

def withSchema (table : Table ν) (schema : Schema ν) : Table ν :=
  { table with schema := some schema }

/-- Other columns and rows with the same schema and provenance. -/
def derive (table : Table ν) (columns : List String) (rows : List (Dictionary ν)) : Table ν :=
  { table with columns := columns, rows := rows }

def withRows (table : Table ν) (rows : List (Dictionary ν)) : Table ν :=
  { table with rows := rows }

def size (table : Table ν) : Nat := table.rows.length

def hasColumn (table : Table ν) (name : String) : Bool := table.columns.contains name

end Table

end TableScript
