import TableScript.Record.Cast
import TableScript.Record.Format
import TableScript.Schema.Title

set_option autoImplicit false

namespace TableScript

namespace Validation

def failure (code : ValidationCode) (message : String) : Option FieldError :=
  some ⟨code.name, message⟩

def requiredRule (field : Field Value) : Option FieldError :=
  if field.required then failure .required (field.title ++ " is required") else none

/-- Whether the value is of a kind that the family takes. -/
def acceptsKind : TypeFamily → Value → Bool
  | .integer, .int _ => true
  | .float, .int _ => true
  | .float, .float _ => true
  | .boolean, .bool _ => true
  | .text _, .text _ => true
  | .other, _ => true
  | _, _ => false

def typeRule (field : Field Value) (value : Value) : Option FieldError :=
  if acceptsKind field.family value then none
  else failure .type (field.title ++ " must be a " ++ field.family.description)

/-- The built-in format of the type; the empty text passes. -/
def formatRule [RegexEngine] (field : Field Value) (value : Value) : Option FieldError :=
  match field.family, value with
  | .text kind, .text text =>
    if text.isEmpty || Format.accepts kind text then none
    else failure .format (field.title ++ " is not a valid " ++ kind.description)
  | _, _ => none

/-- The declared pattern; the empty text passes. -/
def patternRule [RegexEngine] (field : Field Value) (value : Value) : Option FieldError :=
  match field.pattern, value with
  | some source, .text text =>
    if text.isEmpty || RegexEngine.isMatch source text then none
    else failure .format (field.title ++ " has an invalid format")
  | _, _ => none

/-- The least length of a text or the least value of a number. -/
def lowerRule (field : Field Value) (value : Value) : Option FieldError :=
  match value with
  | .text text =>
    field.minLength.bind fun least =>
      if text.length < least then
        failure .minLength (field.title ++ " must be at least " ++ toString least ++ " characters")
      else none
  | value =>
    value.toDouble?.bind fun number => field.minValue.bind fun least =>
      if number.less (.ofInt64 least) then
        failure .minValue (field.title ++ " must be at least " ++ toString least.toInt)
      else none

/-- The greatest length of a text or the greatest value of a number. -/
def upperRule (field : Field Value) (value : Value) : Option FieldError :=
  match value with
  | .text text =>
    field.maxLength.bind fun most =>
      if most < text.length then
        failure .maxLength (field.title ++ " must be at most " ++ toString most ++ " characters")
      else none
  | value =>
    value.toDouble?.bind fun number => field.maxValue.bind fun most =>
      if (Double.ofInt64 most).less number then
        failure .maxValue (field.title ++ " must be at most " ++ toString most.toInt)
      else none

/-- A text must be one of the listed values, if there are any. -/
def enumRule (field : Field Value) (value : Value) : Option FieldError :=
  match value with
  | .text text =>
    if field.enumValues.isEmpty || field.enumValues.contains text then none
    else failure .enum (field.title ++ " must be one of: " ++ ", ".intercalate field.enumValues)
  | _ => none

/-- The rules for a value that is present, in order. -/
def valueRules [RegexEngine] : List (Field Value → Value → Option FieldError) :=
  [typeRule, formatRule, patternRule, lowerRule, upperRule, enumRule]

/-- The first broken rule. A missing value can only break the first. -/
def check [RegexEngine] (field : Field Value) (value : Value) : Option FieldError :=
  if value.isNull then requiredRule field
  else valueRules.findSome? fun rule => rule field value

/-- The errors of all fields. -/
def errors [RegexEngine] (schema : Schema Value) (data : Row) : FieldErrors :=
  schema.fields.foldl
    (fun errors field =>
      match check field (Row.cell data field.name) with
      | some error => errors.set field.name error
      | none => errors)
    .empty

end Validation

/-- A validated copy of the record. -/
def Record.validate [RegexEngine] (record : Record Value) : Record Value :=
  record.withValidation (Validation.errors record.schema record.data)

end TableScript
