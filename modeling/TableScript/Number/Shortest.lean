import TableScript.Number.Binary

set_option autoImplicit false

namespace TableScript

/-- Significant digits of a decimal; the first one stands at `10 ^ exponent`. -/
structure Decimal where
  digits : String
  exponent : Int
deriving DecidableEq, Repr

namespace Shortest

/-- Which of two decimals is taken when the number lies half way between them. -/
inductive Tie where
  | up
  | even
deriving DecidableEq, Repr

/-- Compares `count * 10 ^ tens` with `quarter * 2 ^ twos`. -/
def compareScaled (count : Nat) (tens : Int) (quarter : Nat) (twos : Int) : Ordering :=
  compare (count * Nat.pow 10 tens.toNat * Nat.pow 2 (-twos).toNat)
    (quarter * Nat.pow 2 twos.toNat * Nat.pow 10 (-tens).toNat)

/-- The number `quarters * 2 ^ twos` and the ends of the interval of reals that round to it. -/
structure Interval where
  low : Nat
  value : Nat
  high : Nat
  twos : Int
  closed : Bool

/-- The interval of a positive number. The gap below a power of two is half the gap above it. -/
def Interval.of (b : Binary) : Interval :=
  let below := if b.significand = Nat.pow 2 52 ∧ -1074 < b.exponent then 1 else 2
  { low := 4 * b.significand - below
    value := 4 * b.significand
    high := 4 * b.significand + 2
    twos := b.exponent - 2
    closed := b.significand % 2 = 0 }

def Interval.contains (interval : Interval) (count : Nat) (tens : Int) : Bool :=
  match compareScaled count tens interval.low interval.twos,
      compareScaled count tens interval.high interval.twos with
  | .gt, .lt => true
  | .eq, _ => interval.closed
  | _, .eq => interval.closed
  | _, _ => false

/-- The exponent of the greatest power of ten that is at most the number. -/
def Interval.floorLog10 (interval : Interval) : Int :=
  let binary : Int := (interval.value.log2 : Int) + interval.twos
  let guess := Int.fdiv (binary * 30103) 100000
  if compareScaled 1 (guess + 1) interval.value interval.twos ≠ .gt then guess + 1
  else if compareScaled 1 guess interval.value interval.twos ≠ .gt then guess
  else guess - 1

/-- The number divided by `10 ^ tens`, rounded down. -/
def Interval.quotient (interval : Interval) (tens : Int) : Nat :=
  (interval.value * Nat.pow 2 interval.twos.toNat * Nat.pow 10 (-tens).toNat)
    / (Nat.pow 10 tens.toNat * Nat.pow 2 (-interval.twos).toNat)

/-- The better of the two neighbours on the grid of multiples of `10 ^ tens`, if one reads back. -/
def Interval.neighbour? (interval : Interval) (tie : Tie) (tens : Int) : Option Nat :=
  let below := interval.quotient tens
  match interval.contains below tens, interval.contains (below + 1) tens with
  | true, false => some below
  | false, true => some (below + 1)
  | false, false => none
  | true, true =>
    match compareScaled (2 * below + 1) tens (2 * interval.value) interval.twos with
    | .gt => some below
    | .lt => some (below + 1)
    | .eq =>
      match tie with
      | .up => some (below + 1)
      | .even => if below % 2 = 0 then some below else some (below + 1)

/-- Tries `remaining` more grids, the first one with `count` digits. -/
def Interval.search (interval : Interval) (tie : Tie) (top : Int) (count : Nat) : Nat → Decimal
  | 0 => ⟨toString (interval.quotient (top + 1 - count)), top⟩
  | remaining + 1 =>
    match interval.neighbour? tie (top + 1 - count) with
    | some found =>
      if found = Nat.pow 10 count then ⟨"1", top + 1⟩ else ⟨toString found, top⟩
    | none => interval.search tie top (count + 1) remaining

def decimal (tie : Tie) (b : Binary) : Decimal :=
  let interval := Interval.of b
  interval.search tie interval.floorLog10 1 17

end Shortest

end TableScript
