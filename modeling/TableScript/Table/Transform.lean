import TableScript.Operation.Binary
import TableScript.Record.Validate
import TableScript.Sorting.Stable
import TableScript.Table.Sort

set_option autoImplicit false

namespace TableScript.Table

/-- A row as a program sees it: a record if the table has a schema, otherwise a dictionary. Records of a
database are validated. -/
def rowValue (table : Table Value) (row : Row) : Value :=
  match table.schema with
  | none => .ofRow row
  | some binding =>
    let record := Record.fresh binding row
    .ofRecord (if table.fromDatabase then record.validate else record)

def rowValues (table : Table Value) : List Value := table.rows.map table.rowValue

/-- The rows in the order of the keys, the first key being the strongest. Rows that no key tells apart keep
their order. The sort may find that the keys contradict each other on the rows, and give up. -/
def orderBy? (table : Table Value) (keys : List SortKey) : Option (Table Value) :=
  (Sorting.stable? (fun a b => (SortKey.compareAll keys a b).isLT) table.rows).map table.withRows

/-- The given columns of a row, null where the row has none. -/
def project (columns : List String) (row : Row) : Row :=
  .ofList (columns.map fun column => (column, Row.cell row column))

def select (table : Table Value) (columns : List String) : Table Value :=
  plain columns (table.rows.map (project columns))

/-- At most `count` rows from the one at `offset` on. -/
def limit (table : Table Value) (count offset : Int64) : Except EvalError (Table Value) :=
  if count.toInt < 0 then .error (.negativeLimit "count" count)
  else if offset.toInt < 0 then .error (.negativeLimit "offset" offset)
  else .ok (table.withRows ((table.rows.drop offset.toInt.toNat).take count.toInt.toNat))

/-- The columns and the row itself once a row has been added. A table with a schema binds the row to it; an
empty table without columns takes those of the row; any other table takes only rows that have exactly its
columns. -/
def fitRow (table : Table Value) (row : Row) : Except EvalError (List String × Row) :=
  match table.schema with
  | some binding => .ok (table.columns, Record.bindData binding row)
  | none =>
    if table.rows.isEmpty && table.columns.isEmpty then .ok (row.keys, row)
    else if row.size = table.columns.length ∧ table.columns.all row.contains then
      .ok (table.columns, project table.columns row)
    else .error (.rowShape table.columns row.keys)

def appendRow (table : Table Value) (row : Row) : Except EvalError (Table Value) := do
  let (columns, row) ← table.fitRow row
  return table.derive columns (table.rows ++ [row])

/-- The place of a new row. The number of rows itself is the place after the last one. -/
def rowSlot (table : Table Value) (index : Int64) : Except EvalError Nat :=
  let place := if index.toInt < 0 then index.toInt + table.size else index.toInt
  if 0 ≤ place ∧ place ≤ table.size then .ok place.toNat else .error (.indexRange index table.size)

def insertRow (table : Table Value) (slot : Nat) (row : Row) : Except EvalError (Table Value) := do
  let (columns, row) ← table.fitRow row
  return table.derive columns (table.rows.insertIdx slot row)

inductive Place where
  | last
  | after (anchor : String)
  | before (anchor : String)
deriving DecidableEq, Repr

def columnIndex (table : Table Value) (column : String) : Except EvalError Nat :=
  match table.columns.idxOf? column with
  | some index => .ok index
  | none => .error (.unknownColumn column)

def columnSlot (table : Table Value) (name : String) (place : Place) : Except EvalError Nat :=
  if table.hasColumn name then .error (.duplicateColumn name)
  else
    match place with
    | .last => .ok table.columns.length
    | .after anchor => (table.columnIndex anchor).map (· + 1)
    | .before anchor => table.columnIndex anchor

/-- The index of a new cell in a row, last if the row lacks the anchor. -/
def cellSlot (row : Row) : Place → Nat
  | .last => row.size
  | .after anchor => ((row.position? anchor).map (· + 1)).getD row.size
  | .before anchor => (row.position? anchor).getD row.size

def withColumn (table : Table Value) (name : String) (place : Place) (slot : Nat) (values : List Value) :
    Table Value :=
  plain (table.columns.insertIdx slot name)
    (List.zipWith (fun row value => row.insertAt (cellSlot row place) name value) table.rows values)

def renameColumn (table : Table Value) (old new : String) : Except EvalError (Table Value) :=
  if !table.hasColumn old then .error (.unknownColumn old)
  else if old ≠ new ∧ table.hasColumn new then .error (.duplicateColumn new)
  else
    .ok (plain (table.columns.map fun column => if column = old then new else column)
      (table.rows.map fun row => row.rename old new))

def dropColumns (table : Table Value) (names : List String) : Except EvalError (Table Value) :=
  match names.find? fun name => !table.hasColumn name with
  | some missing => .error (.unknownColumn missing)
  | none =>
    .ok (plain (table.columns.filter fun column => !names.contains column)
      (table.rows.map fun row => names.foldl Dictionary.erase row))

def column (table : Table Value) (name : String) : Except EvalError (List Value) :=
  if table.hasColumn name then .ok (table.rows.map fun row => Row.cell row name)
  else .error (.unknownColumn name)

/-- Keeps an item to which none of the kept items, the last first, is the same. -/
def keepIfNew {α : Type} (same : α → α → Bool) (kept : List α) (item : α) : List α :=
  if kept.any (same · item) then kept else item :: kept

/-- The items to which no earlier kept item is the same. -/
def distinctBy {α : Type} (same : α → α → Bool) (items : List α) : List α :=
  (items.foldl (keepIfNew same) []).reverse

/-- The different values of a column, as the operator tells them apart. -/
def uniqueValues (table : Table Value) (name : String) : Except EvalError (List Value) :=
  (table.column name).map (distinctBy Operation.equal)

def uniqueRows (table : Table Value) : Table Value := table.withRows (distinctBy Row.same table.rows)

/-- The key of a row when rows are grouped by a column. -/
def groupKey (column : String) (row : Row) : String := (Row.cell row column).template

/-- Adds a row to the group of its key. The groups, and the rows of each, stand in reverse. -/
def addToGroup (column : String) (groups : List (String × List Row)) (row : Row) :
    List (String × List Row) :=
  let key := groupKey column row
  if groups.any (·.1 == key) then
    groups.map fun group => if group.1 == key then (key, row :: group.2) else group
  else (key, [row]) :: groups

/-- The rows with the same text in a column, under that text. -/
def groupBy (table : Table Value) (column : String) : Except EvalError (Dictionary (Table Value)) :=
  if table.hasColumn column then
    let groups := (table.rows.foldl (addToGroup column) []).reverse
    .ok ⟨groups.map fun (key, rows) => (key, table.withRows rows.reverse)⟩
  else .error (.unknownColumn column)

end TableScript.Table
