import TableScript.Pattern.Footprint.Backward
import TableScript.Pattern.Footprint.Forward
import TableScript.Pattern.Program
import TableScript.Pattern.Reader

set_option autoImplicit false

namespace TableScript

namespace Pattern

/-- Whether the pattern keeps to the limit on memory, read backward and forward. -/
def fits (pattern : Pattern) : Bool :=
  pattern.backwardBytes ≤ Footprint.limit && pattern.forwardBytes ≤ Footprint.limit

end Pattern

/-- The program of a written pattern, if the text writes one that is not too large. -/
def Program.ofText? (text : String) : Option Program :=
  (Pattern.read? text).bind fun pattern => if pattern.fits then some pattern.program else none

end TableScript
