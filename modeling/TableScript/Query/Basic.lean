import TableScript.Record.Validate
import TableScript.Text.Utf8

set_option autoImplicit false

namespace TableScript

/-- A cell as a database gives it. -/
inductive Scalar where
  | null
  | bool (value : Bool)
  | int (value : Int64)
  | float (value : Double)
  | text (value : String)
  | bytes (value : List UInt8)

/-- Bytes are read as text. -/
def Scalar.toValue : Scalar → Value
  | .null => .null
  | .bool value => .bool value
  | .int value => .int value
  | .float value => .float value
  | .text value => .text value
  | .bytes value => .text (Text.decodeLossy value)

namespace Query

/-- Pairs columns with cells. Cells without a column are dropped, and missing ones are null. -/
def cells : List String → List Scalar → List (String × Value)
  | [], _ => []
  | column :: columns, [] => (column, .null) :: cells columns []
  | column :: columns, cell :: rest => (column, cell.toValue) :: cells columns rest

def row (columns : List String) (cellsOfRow : List Scalar) : Row := .ofList (cells columns cellsOfRow)

/-- The table of a query, bound to a schema if one is given. -/
def table (columns : List String) (rows : List (List Scalar)) (binding : Option (Schema Value)) :
    Table Value :=
  let rows := rows.map (row columns)
  let table :=
    match binding with
    | some schema =>
      (Table.plain schema.fieldNames (rows.map (Record.bindData schema))).withSchema schema
    | none => Table.plain columns rows
  { table with fromDatabase := true }

/-- One row bound to a schema and validated. -/
def record (schema : Schema Value) (columns : List String) (cellsOfRow : List Scalar) : Record Value :=
  (Record.create schema (row columns cellsOfRow)).validate

end Query

end TableScript
