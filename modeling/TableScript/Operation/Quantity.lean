import TableScript.Operation.Number

set_option autoImplicit false

namespace TableScript.Operation

def quantityResult (operation : Arithmetic) (model : Quantity) : Option Int64 → Outcome
  | some amount => .ok (.quantity (model.withAmount amount))
  | none => .error (.overflow operation)

/-- The ratio of two amounts: an integer if it is whole, a float otherwise. -/
def quantityRatio (left right : Int64) : Outcome :=
  if right = 0 then .error .divisionByZero
  else
    match Word.rem? left right with
    | none => .error (.overflow .division)
    | some rest =>
      if rest = 0 then checked .division (Word.div? left right)
      else .ok (.float (.ofInt64 left / .ofInt64 right))

def quantities (a b : Quantity) (op : BinaryOp) : Outcome :=
  if a.family ≠ b.family then
    match op with
    | .eq => truth false
    | .notEq => truth true
    | op => .error (.families op.symbol a.family.name b.family.name)
  else
    let left := a.amount
    let right := b.amountIn a.system
    match op with
    | .add => quantityResult .addition a (Word.add? left right)
    | .sub => quantityResult .subtraction a (Word.sub? left right)
    | .div => quantityRatio left right
    | .eq => truth (left == right)
    | .notEq => truth (left != right)
    | .lt => truth (left.toInt < right.toInt)
    | .ltEq => truth (left.toInt ≤ right.toInt)
    | .gt => truth (right.toInt < left.toInt)
    | .gtEq => truth (right.toInt ≤ left.toInt)
    | op => .error (.quantityOperator op.symbol "unit" "unit")

/-- Whole multiples are exact, others go to the nearest sub-unit. -/
def quantityTimes (q : Quantity) (scalar : Value) : Outcome :=
  match scalar with
  | .int n => quantityResult .multiplication q (Word.mul? q.amount n)
  | .float x => quantityResult .multiplication q (Rounding.halfAway? (.ofInt64 q.amount * x))
  | other => .error (.quantityOperator BinaryOp.mul.symbol "unit" other.kind)

def quantityOver (q : Quantity) (divisor : Double) : Outcome :=
  if divisor.isZero then .error .divisionByZero
  else quantityResult .division q (Rounding.halfAway? (.ofInt64 q.amount / divisor))

def quantityScalar (q : Quantity) (scalar : Value) : BinaryOp → Outcome
  | .mul => quantityTimes q scalar
  | .div =>
    match scalar.toDouble? with
    | some divisor => quantityOver q divisor
    | none => .error (.quantityOperator BinaryOp.div.symbol "unit" scalar.kind)
  | .eq => truth false
  | .notEq => truth true
  | op => .error (.quantityOperator op.symbol "unit" scalar.kind)

def scalarQuantity (scalar : Value) (q : Quantity) : BinaryOp → Outcome
  | .mul => quantityTimes q scalar
  | .eq => truth false
  | .notEq => truth true
  | op => .error (.quantityOperator op.symbol scalar.kind "unit")

end TableScript.Operation
