import TableScript.Dictionary.Basic
import TableScript.Schema.FieldType

set_option autoImplicit false

namespace TableScript

structure Field (ν : Type) where
  name : String
  typeName : String
  nullable : Bool
  required : Bool
  /-- Generated outside; never required on input. -/
  auto : Bool
  readOnly : Bool
  unique : Bool
  primary : Bool
  /-- What a record holds when no value is given. -/
  fallback : Option ν
  /-- As it was written. -/
  pattern : Option String
  minLength : Option Nat
  maxLength : Option Nat
  minValue : Option Int64
  maxValue : Option Int64
  enumValues : List String
  metadata : Dictionary ν

def Field.family {ν : Type} (field : Field ν) : TypeFamily := TypeFamily.ofName field.typeName

structure Schema (ν : Type) where
  /-- Which declaration made the schema. Two declarations are never the same schema. -/
  id : Nat
  name : String
  fields : List (Field ν)

namespace Schema

variable {ν : Type}

def fieldNames (schema : Schema ν) : List String := schema.fields.map (·.name)

def field? (schema : Schema ν) (name : String) : Option (Field ν) :=
  schema.fields.find? (·.name == name)

def hasField (schema : Schema ν) (name : String) : Bool := schema.fields.any (·.name == name)

def primaryKey? (schema : Schema ν) : Option String :=
  (schema.fields.find? (·.primary)).map (·.name)

/-- The allowed values of a field; empty if it has none or is not declared. -/
def enumValues (schema : Schema ν) (name : String) : List String :=
  ((schema.field? name).map (·.enumValues)).getD []

def metadata? (schema : Schema ν) (name key : String) : Option ν :=
  (schema.field? name).bind fun field => field.metadata.get? key

/-- The declaration as text. -/
def print (schema : Schema ν) : String :=
  let fields := schema.fields.map fun field =>
    field.name ++ ": " ++ field.typeName ++ (if field.nullable then "?" else "")
  "@schema " ++ schema.name ++ " \x7b " ++ ", ".intercalate fields ++ " \x7d"

end Schema

end TableScript
