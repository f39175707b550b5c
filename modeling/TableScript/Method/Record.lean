import TableScript.Eval.Evaluator
import TableScript.Method.Argument
import TableScript.Record.Validate

set_option autoImplicit false

namespace TableScript.Method

/-- Questions about one field, which schemas and records both answer. -/
def fieldView (schema : Schema Value) (name : String) (args : List Value) : Except EvalError Value :=
  match name with
  | "title" => do return .text (schema.title (← Argument.oneText name args))
  | "placeholder" => do return schema.metadata (← Argument.oneText name args) "placeholder"
  | "meta" => do
    Argument.count name 2 args
    let field ← Argument.text name (Argument.nth args 0)
    let key ← Argument.text name (Argument.nth args 1)
    return schema.metadata field key
  | "enumValues" => do return .texts (schema.enumValues (← Argument.oneText name args))
  | _ => .error (.noMethod name "schema")

def schema (schema : Schema Value) (name : String) (args : List Value) : Except EvalError Value :=
  match name with
  | "fields" => Argument.none name args (.texts schema.fieldNames)
  | "visibleFields" => Argument.none name args (.texts schema.visibleFields)
  | "primaryKey" => Argument.none name args ((schema.primaryKey?.map .text).getD .null)
  | "name" => Argument.none name args (.text schema.name)
  | _ => fieldView schema name args

def dictOf (pairs : List (String × Value)) : Value := .ofRow (.ofList pairs)

def errorsValue (errors : FieldErrors) : Value :=
  dictOf (errors.entries.map fun (field, error) =>
    (field, dictOf [("code", .text error.code), ("message", .text error.message)]))

def errorList (errors : FieldErrors) : Value :=
  .ofItems (errors.entries.map fun (field, error) =>
    dictOf [("field", .text field), ("code", .text error.code), ("message", .text error.message)])

/-- The data, with the errors beside the fields if there are any. -/
def dataWithErrors (record : Record Value) : Row :=
  if record.validated && !record.errors.isEmpty then
    record.data.insert "__errors__" (errorsValue record.errors)
  else record.data

def recordView (record : Record Value) (name : String) (args : List Value) : Except EvalError Value :=
  match name with
  | "get" => do
    let field ← Argument.oneText name args
    if record.schema.hasField field then return Row.cell record.data field
    else throw (.unknownField field record.schema.name)
  | "validate" => Argument.none name args (.ofRecord record.validate)
  | "isValid" => Argument.none name args (.bool record.isValid)
  | "errors" => Argument.none name args (errorsValue record.errors)
  | "error" => do
    let field ← Argument.oneText name args
    return ((record.errors.get? field).map fun error => Value.text error.message).getD .null
  | "errorCode" => do
    let field ← Argument.oneText name args
    return ((record.errors.get? field).map fun error => Value.text error.code).getD .null
  | "hasError" => do
    let field ← Argument.oneText name args
    return .bool (record.errors.get? field).isSome
  | "errorList" => Argument.none name args (errorList record.errors)
  | "withError" => do
    Argument.countIn name 2 3 args
    let field ← Argument.text name (Argument.nth args 0)
    let first ← Argument.text name (Argument.nth args 1)
    if args.length = 2 then
      return .ofRecord (record.withError field ⟨ValidationCode.custom.name, first⟩)
    else
      let message ← Argument.text name (Argument.nth args 2)
      return .ofRecord (record.withError field ⟨first, message⟩)
  | "schema" => Argument.none name args (.schema record.schema)
  | "data" => Argument.none name args (.ofRow record.data)
  | "toDictionary" => Argument.none name args (.ofRow record.data)
  | "toDictionaryWithErrors" => Argument.none name args (.ofRow (dataWithErrors record))
  | "keys" => Argument.none name args (.texts record.schema.fieldNames)
  | "title" => fieldView record.schema name args
  | "placeholder" => fieldView record.schema name args
  | "meta" => fieldView record.schema name args
  | "enumValues" => fieldView record.schema name args
  | _ => .error (.noMethod name "record")

def record (run : Evaluator) (record : Record Value) (name : String) (args : List Value) : Eval Value :=
  match name with
  | "set" => do
    Argument.count name 2 args
    let field ← Argument.text name (Argument.nth args 0)
    match record.schema.field? field with
    | none => Eval.fail (.unknownField field record.schema.name)
    | some declared =>
      let value ← run.resolve (Argument.nth args 1)
      return .ofRecord (← record.setField field (Record.cast value declared.typeName))
  | "update" => do
    Argument.count name 1 args
    let (handle, changes) ← Argument.dictionary name (Argument.nth args 0)
    return .ofRecord (record.update (← run.forceRow handle changes))
  | _ => Eval.lift (recordView record name args)

end TableScript.Method
