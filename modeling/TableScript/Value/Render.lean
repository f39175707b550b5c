import TableScript.Json.Basic
import TableScript.Value.Inspect

set_option autoImplicit false

namespace TableScript.Value

mutual

/-- The JSON form. An entry that is still unevaluated reads as null, and values that JSON does not know
become the text a reader sees. -/
def toJson : Value → Json
  | .null => .null
  | .bool value => .bool value
  | .int value => .int value.toInt
  | .float value => if value.isFinite then .float value else .null
  | .text value => .text value
  | .array _ items => .array (toJsonAll items)
  | .dict _ ⟨entries⟩ => .object (toJsonEntries entries)
  | .record _ ⟨_, ⟨data⟩, _, _⟩ => .object (toJsonRow data)
  | .table _ ⟨columns, rows, _, _⟩ => .array (toJsonRows columns rows)
  | value => .text value.nested

def toJsonAll : List Value → List Json
  | [] => []
  | item :: rest => toJson item :: toJsonAll rest

def toJsonEntries : List (String × Entry Value) → List (String × Json)
  | [] => []
  | (key, .ready value) :: rest => (key, toJson value) :: toJsonEntries rest
  | (key, .deferred ..) :: rest => (key, .null) :: toJsonEntries rest

def toJsonRow : List (String × Value) → List (String × Json)
  | [] => []
  | (key, value) :: rest => (key, toJson value) :: toJsonRow rest

/-- Each row shows the columns, a repeated one only once. -/
def toJsonRows (columns : List String) : List (Dictionary Value) → List Json
  | [] => []
  | ⟨row⟩ :: rest =>
    let members := toJsonRow row
    .object (columns.eraseDups.map fun column => (column, (members.lookup column).getD .null))
      :: toJsonRows columns rest

end

mutual

/-- The text a value shows in output: null shows nothing, arrays show their elements one after the other,
and records show their JSON form. -/
def template : Value → String
  | .null => ""
  | .text value => value
  | .float value => Layout.reading.render value
  | .array _ items => templateAll items
  | .record handle value => (toJson (.record handle value)).render
  | value => value.inspect

def templateAll : List Value → String
  | [] => ""
  | item :: rest => template item ++ templateAll rest

end

end TableScript.Value
