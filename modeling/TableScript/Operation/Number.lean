import TableScript.Operator
import TableScript.Text.Natural
import TableScript.Value.Basic

set_option autoImplicit false

namespace TableScript.Operation

abbrev Outcome := Except EvalError Value

/-- The integer, or the failure of the arithmetic that had to give it. -/
def checked (operation : Arithmetic) : Option Int64 → Outcome
  | some value => .ok (.int value)
  | none => .error (.overflow operation)

def truth (value : Bool) : Outcome := .ok (.bool value)

/-- Division rounds toward zero and the remainder has the sign of the dividend. -/
def integers (a b : Int64) : BinaryOp → Outcome
  | .add => checked .addition (Word.add? a b)
  | .sub => checked .subtraction (Word.sub? a b)
  | .mul => checked .multiplication (Word.mul? a b)
  | .div => if b = 0 then .error .divisionByZero else checked .division (Word.div? a b)
  | .mod => if b = 0 then .error .moduloByZero else checked .remainder (Word.rem? a b)
  | .eq => truth (a == b)
  | .notEq => truth (a != b)
  | .lt => truth (a.toInt < b.toInt)
  | .ltEq => truth (a.toInt ≤ b.toInt)
  | .gt => truth (b.toInt < a.toInt)
  | .gtEq => truth (b.toInt ≤ a.toInt)
  | op => .error (.operands "integer" op.symbol "integer")

def floats (a b : Double) : BinaryOp → Outcome
  | .add => .ok (.float (a + b))
  | .sub => .ok (.float (a - b))
  | .mul => .ok (.float (a * b))
  | .div => if b.isZero then .error .divisionByZero else .ok (.float (a / b))
  | .mod => if b.isZero then .error .moduloByZero else .ok (.float (Binary.remainder a b))
  | .eq => truth (a.equals b)
  | .notEq => truth (!a.equals b)
  | .lt => truth (a.less b)
  | .ltEq => truth (a.atMost b)
  | .gt => truth (b.less a)
  | .gtEq => truth (b.atMost a)
  | op => .error (.operands "float" op.symbol "float")

/-- Texts are joined by `+` and ordered naturally. -/
def texts (a b : String) : BinaryOp → Outcome
  | .add => .ok (.text (a ++ b))
  | .eq => truth (a == b)
  | .notEq => truth (a != b)
  | .lt => truth (Text.naturalCompare a b).isLT
  | .ltEq => truth (Text.naturalCompare a b).isLE
  | .gt => truth (Text.naturalCompare a b).isGT
  | .gtEq => truth (Text.naturalCompare a b).isGE
  | op => .error (.operands "string" op.symbol "string")

end TableScript.Operation
