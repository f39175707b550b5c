import TableScript.Pattern.Engine
import TableScript.Schema.FieldType

set_option autoImplicit false

namespace TableScript.Format

def emailPattern : String := "^[a-zA-Z0-9._%+\\-]+@[a-zA-Z0-9.\\-]+\\.[a-zA-Z]\x7b2,\x7d$"

def urlPattern : String := "^https?://[^\\s/$.?#].[^\\s]*$"

def phonePattern : String := "^[\\d\\s\\+\\-\\(\\)\\.]+$"

def slugPattern : String := "^[a-z0-9]+(?:-[a-z0-9]+)*$"

def isHexDigit (c : Char) : Bool :=
  ('0' ≤ c && c ≤ '9') || ('a' ≤ c && c ≤ 'f') || ('A' ≤ c && c ≤ 'F')

/-- Checks each character by its byte offset: hyphens after the groups, hexadecimal digits elsewhere. -/
def uuidFrom (offset : Nat) : List Char → Bool
  | [] => true
  | c :: rest =>
    (if offset = 8 ∨ offset = 13 ∨ offset = 18 ∨ offset = 23 then c == '-' else isHexDigit c)
      && uuidFrom (offset + c.utf8Size) rest

def isUuid (text : String) : Bool := text.utf8ByteSize == 36 && uuidFrom 0 text.toList

/-- The letters that could be taken for digits or for one another. -/
def confusable : List Char := ['I', 'L', 'O', 'U']

/-- A digit, or a letter that is not confusable, in either case. -/
def isUlidChar (c : Char) : Bool :=
  let upper := c.toUpper
  ('0' ≤ upper && upper ≤ '9') || ('A' ≤ upper && upper ≤ 'Z' && !confusable.contains upper)

def isUlid (text : String) : Bool := text.utf8ByteSize == 26 && text.toList.all isUlidChar

/-- Whether the text has the format of its kind. -/
def accepts [RegexEngine] (kind : TextKind) (text : String) : Bool :=
  match kind with
  | .plain => true
  | .email => RegexEngine.isMatch emailPattern text
  | .url => RegexEngine.isMatch urlPattern text
  | .phone => RegexEngine.isMatch phonePattern text
  | .slug => RegexEngine.isMatch slugPattern text
  | .uuid => isUuid text
  | .ulid => isUlid text

end TableScript.Format
