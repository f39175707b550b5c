import TableScript.Number.Reader
import TableScript.Text.Blank
import TableScript.Value.Basic

set_option autoImplicit false

namespace TableScript

namespace Record

/-- The truth value that a text writes, in any case. -/
def readBool? (text : String) : Option Bool :=
  match Text.lowerAscii (Text.trim text) with
  | "true" => some true
  | "1" => some true
  | "yes" => some true
  | "false" => some false
  | "0" => some false
  | "no" => some false
  | "" => some false
  | _ => none

def castTo (family : TypeFamily) (value : Value) : Value :=
  match family, value with
  | .integer, .float x => .int (Rounding.saturateTowardZero x)
  | .integer, .text text =>
    match NumberReader.integer? (Text.trim text) with
    | some n => .int n
    | none => value
  | .integer, .bool b => .int (if b then 1 else 0)
  | .float, .int n => .float (.ofInt64 n)
  | .float, .text text =>
    match NumberReader.float? (Text.trim text) with
    | some x => .float x
    | none => value
  | .boolean, .text text =>
    match readBool? text with
    | some b => .bool b
    | none => value
  | .boolean, .int n => .bool (n != 0)
  | .text _, .int n => .text (toString n.toInt)
  | .text _, .float x => .text (Layout.reading.render x)
  | .text _, .bool b => .text (if b then "true" else "false")
  | _, value => value

/-- The value cast toward a declared type. -/
def cast (value : Value) (typeName : String) : Value := castTo (TypeFamily.ofName typeName) value

/-- What a record holds for a field: the given value cast, else the fallback, else null. -/
def fieldValue (field : Field Value) (data : Row) : Value :=
  match data.get? field.name with
  | some value => cast value field.typeName
  | none => field.fallback.getD .null

/-- The data of a record: the declared fields in order, and nothing else. -/
def bindData (schema : Schema Value) (data : Row) : Row :=
  .ofList (schema.fields.map fun field => (field.name, fieldValue field data))

/-- Binds data to a schema. The result is not validated. -/
def create (schema : Schema Value) (data : Row) : Record Value := fresh schema (bindData schema data)

/-- A copy with one field set. -/
def setField (record : Record Value) (field : String) (value : Value) :
    Except EvalError (Record Value) :=
  if record.schema.hasField field then .ok (record.withData (record.data.insert field value))
  else .error (.unknownField field record.schema.name)

/-- The declared fields among the changes, cast and set one after the other. -/
def update (record : Record Value) (changes : Row) : Record Value :=
  record.withData <| changes.entries.foldl
    (fun data (key, value) =>
      match record.schema.field? key with
      | some field => data.insert key (cast value field.typeName)
      | none => data)
    record.data

end Record

end TableScript
