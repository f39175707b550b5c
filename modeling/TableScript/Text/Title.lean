import TableScript.Text.CaseMap
import TableScript.Number.Reader

set_option autoImplicit false

namespace TableScript.Text

/-- What the characters read so far say about the next one. -/
structure TitleState where
  wordStart : Bool
  /-- The last character was a small letter or a digit. -/
  afterLower : Bool

def titleFrom (state : TitleState) : List Char → List Char
  | [] => []
  | c :: rest =>
    if c = '_' ∨ c = '-' then ' ' :: titleFrom ⟨true, false⟩ rest
    else
      let breaks := isUpper c && state.afterLower
      let separator := if breaks then [' '] else []
      let letter := if state.wordStart || breaks then upperCase c else lowerCase c
      separator ++ letter ++ titleFrom ⟨false, isLower c || NumberReader.isDigit c⟩ rest

def titleCase (name : String) : String := String.ofList (titleFrom ⟨true, false⟩ name.toList)

end TableScript.Text
