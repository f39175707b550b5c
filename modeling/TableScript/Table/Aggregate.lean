import TableScript.Number.Reader
import TableScript.Text.Blank
import TableScript.Value.Order

set_option autoImplicit false

namespace TableScript.Aggregate

def readNumber? (text : String) : Option Value :=
  let trimmed := Text.trim text
  match NumberReader.integer? trimmed with
  | some n => some (.int n)
  | none => ((NumberReader.float? trimmed).filter Double.isFinite).map .float

/-- What a cell contributes. Values that are no numbers count only where `keepOther` says so, and null
never counts. -/
def contribution? (keepOther : Bool) : Value → Option Value
  | .null => none
  | .int n => some (.int n)
  | .float x => some (.float x)
  | .money m => some (.money m)
  | .text text => (readNumber? text).or (if keepOther then some (.text text) else none)
  | other => if keepOther then some other else none

/-- What has been seen of a column. -/
structure Seen where
  currency : Option String
  number : Bool
deriving DecidableEq, Repr

/-- Adds one contribution, or says why it does not go with the others. -/
def accept (method column : String) (seen : Seen) (value : Value) : Except EvalError Seen := do
  let seen ←
    match value, seen.currency with
    | .money m, none => pure { seen with currency := some m.currency }
    | .money m, some currency =>
      if currency = m.currency then pure seen else throw (.currencies currency m.currency)
    | .int _, _ => pure { seen with number := true }
    | .float _, _ => pure { seen with number := true }
    | _, _ => pure seen
  if seen.number && seen.currency.isSome then throw (.mixedAggregate method column)
  return seen

/-- The contributions of a column, which go with one another. -/
def gather (table : Table Value) (column method : String) (keepOther : Bool) :
    Except EvalError (List Value) := do
  let values := table.rows.filterMap fun row => contribution? keepOther (Row.cell row column)
  let _ ← values.foldlM (accept method column) ⟨none, false⟩
  return values

def moneyOf? : Value → Option Money
  | .money m => some m
  | _ => none

def integerOf? : Value → Option Int64
  | .int n => some n
  | _ => none

def isFloat : Value → Bool
  | .float _ => true
  | _ => false

/-- The sum, or the failure of a sum that leaves the range. -/
def addAll (amounts : List (Option Int64)) : Except EvalError Int64 :=
  amounts.foldlM
    (fun total amount =>
      match amount.bind (Word.add? total) with
      | some next => .ok next
      | none => .error (.overflow .sum))
    0

/-- The sum of amounts in one currency, at the largest scale among them; nothing if there are none. -/
def moneyTotal? (values : List Value) : Except EvalError (Option Money) :=
  match values.filterMap moneyOf? with
  | [] => .ok none
  | first :: rest => do
    let scale := rest.foldl (fun scale m => max scale m.scale) first.scale
    let total ← addAll ((first :: rest).map fun m => m.amountAt? scale)
    return some ⟨total, first.currency, scale⟩

/-- The floating-point sum from left to right. Its start is the negative zero, which changes no number. -/
def floatTotal (values : List Value) : Double :=
  (values.filterMap Value.toDouble?).foldl (· + ·) (.ofMagnitude true 0)

def numberTotal (values : List Value) : Except EvalError Value :=
  if values.any isFloat then .ok (.float (floatTotal values))
  else (addAll ((values.filterMap integerOf?).map some)).map .int

/-- An integer, a float if one of the numbers is a float, or money. -/
def sum (table : Table Value) (column : String) : Except EvalError Value := do
  let values ← gather table column "sum" false
  match ← moneyTotal? values with
  | some total => return .money total
  | none => numberTotal values

/-- A float, or money rounded to the nearest amount with a half going to the even one. Null if nothing
contributes. -/
def average (table : Table Value) (column : String) : Except EvalError Value := do
  let values ← gather table column "avg" false
  if values.isEmpty then return .null
  let count := Double.ofNat values.length
  match ← moneyTotal? values with
  | some total =>
    match Rounding.halfEven? (.ofInt64 total.amount / count) with
    | some amount => return .money (total.withAmount amount)
    | none => throw (.overflow .average)
  | none => return .float (floatTotal values / count)

/-- The value that a later one replaces only if it lies beyond it in the wanted direction; null if there
are no values. -/
def extreme (wanted : Ordering) (values : List Value) : Value :=
  match values with
  | [] => .null
  | first :: rest =>
    rest.foldl (fun best value => if value.order best = wanted then value else best) first

def least (table : Table Value) (column : String) : Except EvalError Value :=
  (gather table column "min" true).map (extreme .lt)

def greatest (table : Table Value) (column : String) : Except EvalError Value :=
  (gather table column "max" true).map (extreme .gt)

end TableScript.Aggregate
