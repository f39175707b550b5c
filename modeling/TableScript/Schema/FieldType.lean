import TableScript.Text.Ascii

set_option autoImplicit false

namespace TableScript

/-- Text with a format of its own. -/
inductive TextKind where
  | plain
  | email
  | url
  | phone
  | slug
  | uuid
  | ulid
deriving DecidableEq, Repr

def TextKind.description : TextKind → String
  | .plain => "string"
  | .email => "email address"
  | .url => "URL"
  | .phone => "phone number"
  | .slug => "slug"
  | .uuid => "UUID"
  | .ulid => "ULID"

inductive TypeFamily where
  | integer
  | float
  | boolean
  | text (kind : TextKind)
  | other
deriving DecidableEq, Repr

namespace TypeFamily

/-- The text without the question marks at its end. -/
def dropQuestionMarks (text : String) : String :=
  String.ofList (text.toList.reverse.dropWhile (· == '?')).reverse

def ofBase : String → TypeFamily
  | "int" => .integer
  | "integer" => .integer
  | "bigint" => .integer
  | "float" => .float
  | "number" => .float
  | "bool" => .boolean
  | "boolean" => .boolean
  | "string" => .text .plain
  | "text" => .text .plain
  | "email" => .text .email
  | "url" => .text .url
  | "phone" => .text .phone
  | "slug" => .text .slug
  | "uuid" => .text .uuid
  | "ulid" => .text .ulid
  | _ => .other

/-- The family of a declared type name. -/
def ofName (name : String) : TypeFamily := ofBase (dropQuestionMarks (Text.lowerAscii name))

def description : TypeFamily → String
  | .integer => "integer"
  | .float => "number"
  | .boolean => "boolean"
  | .text _ => "string"
  | .other => "string"

end TypeFamily

end TableScript
