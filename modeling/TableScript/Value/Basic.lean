import TableScript.Error
import TableScript.Expr.Basic
import TableScript.Quantity.Basic
import TableScript.Record.Basic
import TableScript.Table.Basic

set_option autoImplicit false

namespace TableScript

abbrev ScopeId := Nat

/-- Which entry of which dictionary literal. -/
structure Origin where
  site : Site
  position : Nat
deriving DecidableEq, Repr

structure Function where
  site : Site
  params : List String
  body : Expr
  scope : ScopeId

inductive Entry (ν : Type) where
  | ready (value : ν)
  /-- Evaluated in `scope` each time it is read. -/
  | deferred (origin : Origin) (expr : Expr) (scope : ScopeId)

/-- Which collection a value is. Evaluation numbers every array, dictionary, table and record that it makes,
and whoever gets hold of one later holds the one with that number. A collection that is still being made has
no number. -/
abbrev Handle := Option Nat

/-- Whether both are one and the same collection. -/
def Handle.shared : Handle → Handle → Bool
  | some a, some b => a == b
  | _, _ => false

inductive Value where
  | null
  | bool (value : Bool)
  | int (value : Int64)
  | float (value : Double)
  | quantity (value : Quantity)
  | text (value : String)
  | money (value : Money)
  | array (handle : Handle) (items : List Value)
  | dict (handle : Handle) (entries : Dictionary (Entry Value))
  | table (handle : Handle) (value : Table Value)
  | record (handle : Handle) (value : Record Value)
  | schema (value : Schema Value)
  | function (value : Function)
  | error (value : EvalError)

/-- A row of a table, or the data of a record. -/
abbrev Row := Dictionary Value

namespace Value

instance : Inhabited Value := ⟨.null⟩

def kind : Value → String
  | .null => "null"
  | .bool _ => "boolean"
  | .int _ => "integer"
  | .float _ => "float"
  | .quantity _ => "unit"
  | .text _ => "string"
  | .money _ => "money"
  | .array .. => "array"
  | .dict .. => "dictionary"
  | .table .. => "table"
  | .record .. => "record"
  | .schema _ => "schema"
  | .function _ => "function"
  | .error _ => "error"

def isNull : Value → Bool
  | .null => true
  | _ => false

/-- Null, false, zero and everything empty fail a condition. -/
def truthy : Value → Bool
  | .null => false
  | .bool value => value
  | .int value => value != 0
  | .float value => !value.isZero
  | .text value => !value.isEmpty
  | .array _ items => !items.isEmpty
  | .dict _ entries => !entries.isEmpty
  | _ => true

/-- Integers and floats as floats. -/
def toDouble? : Value → Option Double
  | .int value => some (.ofInt64 value)
  | .float value => some value
  | _ => none

def ofItems (items : List Value) : Value := .array none items

def ofEntries (entries : Dictionary (Entry Value)) : Value := .dict none entries

def ofRow (row : Row) : Value := ofEntries (row.map .ready)

def ofTable (table : Table Value) : Value := .table none table

def ofRecord (record : Record Value) : Value := .record none record

def texts (items : List String) : Value := ofItems (items.map .text)

end Value

/-- The value of a column in a row, null if there is none. -/
def Row.cell (row : Row) (column : String) : Value := (row.get? column).getD .null

end TableScript
