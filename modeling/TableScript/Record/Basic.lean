import TableScript.Schema.Basic

set_option autoImplicit false

namespace TableScript

/-- The rules of validation, and errors that a program attaches itself. -/
inductive ValidationCode where
  | required
  | type
  | format
  | enum
  | minLength
  | maxLength
  | minValue
  | maxValue
  | custom
deriving DecidableEq, Repr

def ValidationCode.name : ValidationCode → String
  | .required => "REQUIRED"
  | .type => "TYPE"
  | .format => "FORMAT"
  | .enum => "ENUM"
  | .minLength => "MIN_LENGTH"
  | .maxLength => "MAX_LENGTH"
  | .minValue => "MIN_VALUE"
  | .maxValue => "MAX_VALUE"
  | .custom => "CUSTOM"

structure FieldError where
  code : String
  message : String
deriving DecidableEq, Repr

/-- At most one error for a field, sorted by field. -/
abbrev FieldErrors := Dictionary FieldError

namespace FieldErrors

def insertSorted (field : String) (error : FieldError) :
    List (String × FieldError) → List (String × FieldError)
  | [] => [(field, error)]
  | pair :: rest =>
    if field < pair.1 then (field, error) :: pair :: rest
    else if field = pair.1 then (field, error) :: rest
    else pair :: insertSorted field error rest

/-- Sets the error of a field. -/
def set (errors : FieldErrors) (field : String) (error : FieldError) : FieldErrors :=
  ⟨insertSorted field error errors.entries⟩

/-- What the errors say about a record that has or has not been validated. -/
def status (errors : FieldErrors) (validated : Bool) : String :=
  if !validated then "unvalidated"
  else if errors.isEmpty then "valid"
  else toString errors.size ++ " errors"

end FieldErrors

structure Record (ν : Type) where
  schema : Schema ν
  data : Dictionary ν
  errors : FieldErrors
  validated : Bool

namespace Record

variable {ν : Type}

/-- A record that is not validated. -/
def fresh (schema : Schema ν) (data : Dictionary ν) : Record ν := ⟨schema, data, .empty, false⟩

def isValid (record : Record ν) : Bool := record.validated && record.errors.isEmpty

def withData (record : Record ν) (data : Dictionary ν) : Record ν := fresh record.schema data

def withValidation (record : Record ν) (errors : FieldErrors) : Record ν :=
  { record with errors := errors, validated := true }

/-- One more error. The result counts as validated. -/
def withError (record : Record ν) (field : String) (error : FieldError) : Record ν :=
  record.withValidation (record.errors.set field error)

def status (record : Record ν) : String := record.errors.status record.validated

end Record

end TableScript
