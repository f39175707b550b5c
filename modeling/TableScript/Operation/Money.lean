import TableScript.Operation.Number

set_option autoImplicit false

namespace TableScript.Operation

def moneyResult (operation : Arithmetic) (model : Money) : Option Int64 → Outcome
  | some amount => .ok (.money (model.withAmount amount))
  | none => .error (.overflow operation)

def moneys (a b : Money) (op : BinaryOp) : Outcome :=
  if a.currency ≠ b.currency then .error (.currencies a.currency b.currency)
  else
    let scale := max a.scale b.scale
    match a.amountAt? scale, b.amountAt? scale with
    | some left, some right =>
      let model : Money := ⟨0, a.currency, scale⟩
      match op with
      | .add => moneyResult .addition model (Word.add? left right)
      | .sub => moneyResult .subtraction model (Word.sub? left right)
      | .eq => truth (left == right)
      | .notEq => truth (left != right)
      | .lt => truth (left.toInt < right.toInt)
      | .ltEq => truth (left.toInt ≤ right.toInt)
      | .gt => truth (right.toInt < left.toInt)
      | .gtEq => truth (right.toInt ≤ left.toInt)
      | op => .error (.moneyOperator op.symbol)
    | _, _ => .error (.overflow .currencyScaling)

/-- Whole multiples are exact. -/
def moneyTimes (m : Money) : Value → Outcome
  | .int n => moneyResult .multiplication m (Word.mul? m.amount n)
  | .float x => moneyResult .multiplication m (Rounding.halfEven? (.ofInt64 m.amount * x))
  | _ => .error (.moneyOperator BinaryOp.mul.symbol)

def moneyOver (m : Money) (divisor : Double) : Outcome :=
  if divisor.isZero then .error .divisionByZero
  else moneyResult .division m (Rounding.halfEven? (.ofInt64 m.amount / divisor))

def moneyScalar (m : Money) (scalar : Value) : BinaryOp → Outcome
  | .mul => moneyTimes m scalar
  | .div =>
    match scalar.toDouble? with
    | some divisor => moneyOver m divisor
    | none => .error (.moneyOperator BinaryOp.div.symbol)
  | .eq => truth false
  | .notEq => truth true
  | op => .error (.moneyOperator op.symbol)

def scalarMoney (scalar : Value) (m : Money) : BinaryOp → Outcome
  | .mul => moneyTimes m scalar
  | .eq => truth false
  | .notEq => truth true
  | op => .error (.moneyOperator op.symbol)

end TableScript.Operation
