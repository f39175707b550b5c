import TableScript.Pattern.Engine
import TableScript.Value.Basic

set_option autoImplicit false

namespace TableScript

inductive SchemaError where
  | autoRequired (field : String)
  | invalidPattern (field : String)
  | patternKind (field got : String)
  | unknownOption (field option : String)
  | duplicateField (field : String)
deriving DecidableEq, Repr

namespace SchemaError

def code : SchemaError → String
  | .autoRequired _ => "SCHEMA-0001"
  | .invalidPattern _ => "SCHEMA-0002"
  | .patternKind .. => "SCHEMA-0002"
  | .unknownOption .. => "SCHEMA-0003"
  | .duplicateField _ => "SCHEMA-0004"

def message : SchemaError → String
  | .autoRequired field => s!"field '{field}': auto and required cannot be combined"
  | .invalidPattern field => s!"field '{field}': invalid regex pattern"
  | .patternKind field got => s!"field '{field}': pattern must be a string, got {got}"
  | .unknownOption field option => s!"field '{field}': unknown option '{option}'"
  | .duplicateField field => s!"field '{field}' is declared more than once"

end SchemaError

/-- One field as a declaration writes it. -/
structure FieldDecl where
  name : String
  typeName : String
  nullable : Bool
  fallback : Option Value
  options : List (String × Value)
  enumValues : List String
  metadata : List (String × Value)

namespace FieldDecl

/-- One question mark after the type makes the field nullable. -/
def new (name typeName : String) : FieldDecl :=
  let chars := typeName.toList
  let marked := chars.getLast? == some '?'
  { name := name
    typeName := if marked then String.ofList chars.dropLast else typeName
    nullable := marked
    fallback := none
    options := []
    enumValues := []
    metadata := [] }

/-- The types whose `min` and `max` bound a length. -/
def boundsLength (typeName : String) : Bool :=
  ["string", "text", "email", "url", "phone", "slug"].contains (Text.lowerAscii typeName)

/-- A field under construction, and what its options say about being required. -/
structure Draft where
  field : Field Value
  required : Option Bool

/-- The draft before any option. The type `id` is another name of `ulid`. -/
def draft (decl : FieldDecl) : Draft where
  field :=
    { name := decl.name
      typeName := if Text.lowerAscii decl.typeName = "id" then "ulid" else decl.typeName
      nullable := decl.nullable
      required := false
      auto := false
      readOnly := false
      unique := false
      primary := decl.name == "id"
      fallback := decl.fallback
      pattern := none
      minLength := none
      maxLength := none
      minValue := none
      maxValue := none
      enumValues := decl.enumValues
      metadata := .ofList decl.metadata }
  required := none

/-- The names of the options that ignore a value of the wrong kind. -/
def lenientOptions : List String := ["min", "max", "unique", "auto", "required", "readOnly"]

variable [RegexEngine]

def applyOption (decl : FieldDecl) (draft : Draft) (key : String) (value : Value) :
    Except SchemaError Draft :=
  let field := draft.field
  match key, value with
  | "min", .int n =>
    if boundsLength decl.typeName then
      .ok { draft with field := { field with minLength := some n.toInt.toNat } }
    else .ok { draft with field := { field with minValue := some n } }
  | "max", .int n =>
    if boundsLength decl.typeName then
      .ok { draft with field := { field with maxLength := some n.toInt.toNat } }
    else .ok { draft with field := { field with maxValue := some n } }
  | "unique", .bool b => .ok { draft with field := { field with unique := b } }
  | "auto", .bool b => .ok { draft with field := { field with auto := b } }
  | "required", .bool b => .ok { draft with required := some b }
  | "readOnly", .bool b => .ok { draft with field := { field with readOnly := b } }
  | "pattern", .text source =>
    if RegexEngine.compiles source then .ok { draft with field := { field with pattern := some source } }
    else .error (.invalidPattern decl.name)
  | "pattern", other => .error (.patternKind decl.name other.kind)
  | "default", value => .ok { draft with field := { field with fallback := some value } }
  | key, _ =>
    if lenientOptions.contains key then .ok draft else .error (.unknownOption decl.name key)

/-- The field of a declaration. Unless an option says otherwise, a field is required if it is neither
generated nor nullable. -/
def build (decl : FieldDecl) : Except SchemaError (Field Value) := do
  let draft ← decl.options.foldlM (fun draft option => applyOption decl draft option.1 option.2) decl.draft
  let required := draft.required.getD (!draft.field.auto && !draft.field.nullable)
  if draft.field.auto && required then throw (.autoRequired decl.name)
  return { draft.field with required := required }

end FieldDecl

namespace Schema

variable [RegexEngine]

/-- Adds the field of one more declaration. -/
def declareField (fields : List (Field Value)) (decl : FieldDecl) :
    Except SchemaError (List (Field Value)) := do
  let field ← decl.build
  if fields.any (·.name == field.name) then throw (.duplicateField field.name)
  return fields ++ [field]

def declare (id : Nat) (name : String) (decls : List FieldDecl) : Except SchemaError (Schema Value) := do
  let fields ← decls.foldlM declareField []
  return ⟨id, name, fields⟩

end Schema

end TableScript
