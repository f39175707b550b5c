import TableScript.Value.Basic

set_option autoImplicit false

namespace TableScript.Position

/-- The place that an index names in a sequence of `length` elements. -/
def resolve? (index : Int64) (length : Nat) : Option Nat :=
  let place := if index.toInt < 0 then index.toInt + length else index.toInt
  if 0 ≤ place ∧ place < length then some place.toNat else none

/-- Null where misses are allowed, an error elsewhere. -/
def outOfRange (index : Int64) (length : Nat) (optional : Bool) : Except EvalError Value :=
  if optional then .ok .null else .error (.indexRange index length)

/-- The element that an index names, shown as a value. -/
def element {α : Type} (items : List α) (index : Int64) (optional : Bool) (toValue : α → Value) :
    Except EvalError Value :=
  match (resolve? index items.length).bind (items[·]?) with
  | some item => .ok (toValue item)
  | none => outOfRange index items.length optional

/-- A bound of a slice, counted from the front. -/
def bound (value : Value) (which : String) (length absent : Nat) : Except EvalError Int64 :=
  match value with
  | .null => .ok (Word.clamp absent)
  | .int n => if n.toInt < 0 then .ok (Word.clamp (n.toInt + length)) else .ok n
  | other => .error (.sliceBound which other.kind)

/-- The integer that a bound was written with. -/
def written (value : Value) (resolved : Int64) : Int64 :=
  match value with
  | .int n => n
  | _ => resolved

/-- Where a slice starts and stops, both cut off at the length; nothing for an allowed miss. -/
def sliceBounds (start stop : Value) (length : Nat) (optional : Bool) :
    Except EvalError (Option (Nat × Nat)) := do
  let first ← bound start "start" length 0
  let last ← bound stop "end" length length
  if first.toInt < 0 then
    if optional then return none else throw (.indexRange (written start first) length)
  if last.toInt < 0 then
    if optional then return none else throw (.indexRange (written stop last) length)
  if last.toInt < first.toInt then
    if optional then return none else throw (.sliceOrder first last)
  return some (min first.toInt.toNat length, min last.toInt.toNat length)

def cut {α : Type} (items : List α) (bounds : Nat × Nat) : List α :=
  (items.take bounds.2).drop bounds.1

def slice (target start stop : Value) (optional : Bool) : Except EvalError Value :=
  match target with
  | .array _ items => do
    match ← sliceBounds start stop items.length optional with
    | some bounds => return .ofItems (cut items bounds)
    | none => return .null
  | .text text => do
    match ← sliceBounds start stop text.length optional with
    | some bounds => return .text (String.ofList (cut text.toList bounds))
    | none => return .null
  | other => .error (.sliceTarget other.kind)

end TableScript.Position
