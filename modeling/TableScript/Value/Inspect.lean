import TableScript.Expr.Printer
import TableScript.Value.Basic

set_option autoImplicit false

namespace TableScript

namespace Table

def inspect {ν : Type} (table : Table ν) : String :=
  let binding :=
    match table.schema with
    | some schema => "<" ++ schema.name ++ ">"
    | none => ""
  "Table" ++ binding ++ "(" ++ toString table.size ++ " rows)"

end Table

def Function.inspect (f : Function) : String := "fn(" ++ commaList f.params ++ ")"

namespace Value

def braced (parts : List String) : String := "\x7b" ++ commaList parts ++ "\x7d"

mutual

def nested : Value → String
  | .text value => Text.quote value
  | .null => "null"
  | .bool value => boolText value
  | .int value => toString value.toInt
  | .float value => Layout.reading.render value
  | .quantity value => value.inspect
  | .money value => value.inspect
  | .array _ items => "[" ++ commaList (nestedAll items) ++ "]"
  | .dict _ ⟨entries⟩ => braced (nestedEntries entries)
  | .table _ value => value.inspect
  | .record _ ⟨binding, ⟨data⟩, errors, validated⟩ =>
    binding.name ++ "(" ++ braced (nestedRow data) ++ ") [" ++ errors.status validated ++ "]"
  | .schema value => "Schema(" ++ value.name ++ ")"
  | .function value => value.inspect
  | .error value => "error: " ++ value.describe

def nestedAll : List Value → List String
  | [] => []
  | item :: rest => nested item :: nestedAll rest

def nestedEntries : List (String × Entry Value) → List String
  | [] => []
  | (key, .ready value) :: rest => (key ++ ": " ++ nested value) :: nestedEntries rest
  | (key, .deferred _ expr _) :: rest => (key ++ ": " ++ expr.print) :: nestedEntries rest

def nestedRow : List (String × Value) → List String
  | [] => []
  | (key, value) :: rest => (key ++ ": " ++ nested value) :: nestedRow rest

end

def inspect : Value → String
  | .text value => value
  | value => nested value

end Value

end TableScript
