import TableScript.Pattern.Compile

set_option autoImplicit false

namespace TableScript

/-- What the program asks of regular expressions: whether a text is a pattern, and which texts a pattern matches. -/
class RegexEngine where
  compile? : String → Option (String → Bool)

namespace RegexEngine

/-- The engine that runs. -/
instance standard : RegexEngine where
  compile? source := (Program.ofText? source).map Program.isMatch

variable [RegexEngine]

def compiles (source : String) : Bool := (compile? source).isSome

/-- A text that is no pattern matches nothing. -/
def isMatch (source text : String) : Bool := (compile? source).any fun accepts => accepts text

end RegexEngine

end TableScript
