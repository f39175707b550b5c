import TableScript.Value.Inspect

set_option autoImplicit false

namespace TableScript

def FieldError.debug (error : FieldError) : String :=
  "FieldError \x7b code: " ++ Text.quote error.code ++ ", message: " ++ Text.quote error.message
    ++ " \x7d"

def FieldErrors.debug (errors : FieldErrors) : String :=
  Value.braced (errors.entries.map fun (field, error) => Text.quote field ++ ": " ++ error.debug)

def quotedList (items : List String) : String := "[" ++ commaList (items.map Text.quote) ++ "]"

def Function.debug (f : Function) : String :=
  "FunctionValue \x7b params: " ++ quotedList f.params ++ ", body: " ++ f.body.print ++ ", .. \x7d"

namespace Value

mutual

def debug : Value → String
  | .null => "Null"
  | .bool value => "Bool(" ++ boolText value ++ ")"
  | .int value => "Int(" ++ toString value.toInt ++ ")"
  | .float value => "Float(" ++ Layout.source.render value ++ ")"
  | .quantity value => "Unit(" ++ value.inspect ++ ")"
  | .text value => "Str(" ++ Text.quote value ++ ")"
  | .money value => "Money(" ++ value.inspect ++ ")"
  | .array _ items => "[" ++ commaList (debugAll items) ++ "]"
  | .dict _ ⟨entries⟩ => "Dict(" ++ braced (debugEntries entries) ++ ")"
  | .table _ ⟨columns, rows, binding, fromDatabase⟩ =>
    let bindingText :=
      match binding with
      | some found => "Some(" ++ Text.quote found.name ++ ")"
      | none => "None"
    "Table \x7b columns: " ++ quotedList columns ++ ", rows: [" ++ commaList (debugRows rows)
      ++ "], schema: " ++ bindingText ++ ", from_db: " ++ boolText fromDatabase ++ " \x7d"
  | .record _ ⟨binding, ⟨data⟩, errors, validated⟩ =>
    "Record \x7b schema: " ++ Text.quote binding.name ++ ", data: " ++ braced (debugRow data)
      ++ ", errors: " ++ errors.debug ++ ", validated: " ++ boolText validated ++ " \x7d"
  | .schema value => "Schema(" ++ value.name ++ ")"
  | .function value => value.debug
  | .error value => "Error(" ++ value.describe ++ ")"

def debugAll : List Value → List String
  | [] => []
  | item :: rest => debug item :: debugAll rest

def debugEntries : List (String × Entry Value) → List String
  | [] => []
  | (key, .ready value) :: rest =>
    (Text.quote key ++ ": Ready(" ++ debug value ++ ")") :: debugEntries rest
  | (key, .deferred _ expr _) :: rest =>
    (Text.quote key ++ ": Deferred(" ++ expr.print ++ ")") :: debugEntries rest

def debugRow : List (String × Value) → List String
  | [] => []
  | (key, value) :: rest => (Text.quote key ++ ": Ready(" ++ debug value ++ ")") :: debugRow rest

def debugRows : List (Dictionary Value) → List String
  | [] => []
  | ⟨row⟩ :: rest => braced (debugRow row) :: debugRows rest

end

end Value

end TableScript
