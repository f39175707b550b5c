import TableScript.Number.Layout

set_option autoImplicit false

namespace TableScript

inductive Json where
  | null
  | bool (value : Bool)
  | int (value : Int)
  | float (value : Double)
  | text (value : String)
  | array (items : List Json)
  /-- Members in order, each key once. -/
  | object (members : List (String × Json))

namespace Json

def hexDigits4 (code : Nat) : String :=
  Layout.padLeft 4 (String.ofList (Nat.toDigits 16 code))

def escapeChar (c : Char) : String :=
  if c = '"' then "\\\""
  else if c = '\\' then "\\\\"
  else if c = '\x08' then "\\b"
  else if c = '\x0c' then "\\f"
  else if c = '\n' then "\\n"
  else if c = '\r' then "\\r"
  else if c = '\t' then "\\t"
  else if c.toNat < 0x20 then "\\u" ++ hexDigits4 c.toNat
  else c.toString

def quote (text : String) : String := "\"" ++ String.join (text.toList.map escapeChar) ++ "\""

mutual

def render : Json → String
  | .null => "null"
  | .bool value => if value then "true" else "false"
  | .int value => toString value
  | .float value => Layout.json.render value
  | .text value => quote value
  | .array items => "[" ++ ",".intercalate (renderAll items) ++ "]"
  | .object members => "\x7b" ++ ",".intercalate (renderMembers members) ++ "\x7d"

def renderAll : List Json → List String
  | [] => []
  | item :: rest => render item :: renderAll rest

def renderMembers : List (String × Json) → List String
  | [] => []
  | (key, value) :: rest => (quote key ++ ":" ++ render value) :: renderMembers rest

end

end Json

end TableScript
