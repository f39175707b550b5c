import TableScript.Text.Natural
import TableScript.Value.Basic

set_option autoImplicit false

namespace TableScript

/-- By currency, then by amount at the larger of the two scales. Where that scale is out of reach, the
approximate values decide. -/
def Money.order (a b : Money) : Ordering :=
  if a.currency ≠ b.currency then compare a.currency b.currency
  else
    let scale := max a.scale b.scale
    match a.amountAt? scale, b.amountAt? scale with
    | some left, some right => compare left.toInt right.toInt
    | _, _ => a.toDouble.totalCompare b.toDouble

/-- By amount, the right one converted to the system of the left one. -/
def Quantity.order (a b : Quantity) : Ordering :=
  compare a.amount.toInt (b.amountIn a.system).toInt

namespace Value

def rank : Value → Nat
  | .null => 0
  | .int _ => 1
  | .float _ => 1
  | .text _ => 2
  | .bool _ => 3
  | .quantity _ => 5
  | .money _ => 6
  | .array .. => 7
  | .dict .. => 8
  | _ => 9

mutual

def order : Value → Value → Ordering
  | .int a, .int b => compare a.toInt b.toInt
  | .float a, .float b => a.totalCompare b
  | .int a, .float b => (Double.ofInt64 a).totalCompare b
  | .float a, .int b => a.totalCompare (.ofInt64 b)
  | .text a, .text b => Text.naturalCompare a b
  | .bool a, .bool b => compare a.toNat b.toNat
  | .money a, .money b => a.order b
  | .quantity a, .quantity b => if a.family = b.family then a.order b else .eq
  | .array _ a, .array _ b => orderAll a b
  | a, b => compare a.rank b.rank

/-- The first difference decides; if there is none, the shorter array comes first. -/
def orderAll : List Value → List Value → Ordering
  | [], [] => .eq
  | [], _ :: _ => .lt
  | _ :: _, [] => .gt
  | a :: restA, b :: restB => (order a b).then (orderAll restA restB)

end

end Value

end TableScript
