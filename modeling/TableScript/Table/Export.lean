import TableScript.Value.Render

set_option autoImplicit false

namespace TableScript.Export

def cellText (row : Row) (column : String) : String := (Row.cell row column).template

def cells (table : Table Value) (row : Row) : List String := table.columns.map (cellText row)

def htmlChar : Char → List Char
  | '&' => "&amp;".toList
  | '<' => "&lt;".toList
  | '>' => "&gt;".toList
  | '"' => "&#34;".toList
  | '\'' => "&#39;".toList
  | c => [c]

/-- Text content in which no character opens or closes markup. -/
def escapeHtml (text : String) : String := String.ofList (text.toList.flatMap htmlChar)

def htmlCell (tag text : String) : String := "<" ++ tag ++ ">" ++ escapeHtml text ++ "</" ++ tag ++ ">"

def htmlCells (tag : String) (texts : List String) : String :=
  "<tr>" ++ String.join (texts.map (htmlCell tag)) ++ "</tr>\n"

/-- A head, if there are columns, and a body with one line for each row. -/
def html (table : Table Value) : String :=
  let head :=
    if table.columns.isEmpty then ""
    else "  <thead>\n    " ++ htmlCells "th" table.columns ++ "  </thead>\n"
  let body := table.rows.map fun row => "    " ++ htmlCells "td" (cells table row)
  "<table>\n" ++ head ++ "  <tbody>\n" ++ String.join body ++ "  </tbody>\n</table>"

def csvQuotes (c : Char) : Bool := c == ',' || c == '"' || c == '\r' || c == '\n'

/-- A field with a comma, a quote or a line break stands in quotes, its own quotes doubled. -/
def csvField (text : String) : String :=
  if text.toList.any csvQuotes then
    "\"" ++ String.ofList (text.toList.flatMap fun c => if c = '"' then ['"', '"'] else [c]) ++ "\""
  else text

def csvLine (fields : List String) : String := ",".intercalate (fields.map csvField) ++ "\r\n"

def csv (table : Table Value) : String :=
  csvLine table.columns ++ String.join (table.rows.map fun row => csvLine (cells table row))

def unbroken : List Char → List Char
  | [] => []
  | '\r' :: '\n' :: rest => ' ' :: unbroken rest
  | c :: rest => (if c = '\r' ∨ c = '\n' then ' ' else c) :: unbroken rest

/-- Text without line breaks, a backslash before each pipe. -/
def escapeMarkdown (text : String) : String :=
  String.ofList ((unbroken text.toList).flatMap fun c => if c = '|' then ['\\', '|'] else [c])

def markdownLine (texts : List String) : String := "| " ++ " | ".intercalate texts ++ " |"

def markdown (table : Table Value) : String :=
  "\n".intercalate
    (markdownLine (table.columns.map escapeMarkdown)
      :: markdownLine (table.columns.map fun _ => "---")
      :: table.rows.map fun row => markdownLine ((cells table row).map escapeMarkdown))

def json (table : Table Value) : String := (Value.toJson (.ofTable table)).render

end TableScript.Export
