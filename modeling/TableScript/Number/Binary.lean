import TableScript.Number.Double

set_option autoImplicit false

namespace TableScript

structure Binary where
  negative : Bool
  significand : Nat
  exponent : Int
deriving DecidableEq, Repr

namespace Binary

def decode? (x : Double) : Option Binary :=
  if x.isFinite then
    let biased : Nat := x.magnitude / Nat.pow 2 52
    let fraction : Nat := x.magnitude % Nat.pow 2 52
    if biased = 0 then some ⟨x.isNegative, fraction, -1074⟩
    else some ⟨x.isNegative, Nat.pow 2 52 + fraction, (biased : Int) - 1075⟩
  else none

/-- `num / den` rounded to an integer, a half going to the even neighbour. -/
def roundHalfEven (num den : Nat) : Nat :=
  let quotient := num / den
  let twice := 2 * (num % den)
  if twice < den then quotient
  else if den < twice then quotient + 1
  else if quotient % 2 = 0 then quotient else quotient + 1

/-- `num / den` rounded to an integer, a half going up. -/
def roundHalfUp (num den : Nat) : Nat :=
  if 2 * (num % den) < den then num / den else num / den + 1

/-- The exponent of the greatest power of two that is at most `num / den`. -/
def floorLog2 (num den : Nat) : Int :=
  let difference : Int := (num.log2 : Int) - (den.log2 : Int)
  let reached :=
    if 0 ≤ difference then den * Nat.pow 2 difference.toNat ≤ num
    else den ≤ num * Nat.pow 2 (-difference).toNat
  if reached then difference else difference - 1

/-- The magnitude bits of the number nearest to `num / den`, a tie going to the even significand.
What lies beyond the largest finite number becomes infinity. -/
def nearestBits (num den : Nat) : Nat :=
  if num = 0 then 0
  else
    let exponent := max (floorLog2 num den - 52) (-1074)
    let significand :=
      if 0 ≤ exponent then roundHalfEven num (den * Nat.pow 2 exponent.toNat)
      else roundHalfEven (num * Nat.pow 2 (-exponent).toNat) den
    min ((exponent + 1074).toNat * Nat.pow 2 52 + significand) Double.infinityBits

def nearest (negative : Bool) (num den : Nat) : Double :=
  Double.ofMagnitude negative (nearestBits num den)

/-- The remainder of the division rounded toward zero: exact, with the sign of the dividend. -/
def remainder (x y : Double) : Double :=
  match decode? x, decode? y with
  | some a, some b =>
    if b.significand = 0 then Double.indefinite
    else
      let unit := min a.exponent b.exponent
      let dividend := a.significand * Nat.pow 2 (a.exponent - unit).toNat
      let divisor := b.significand * Nat.pow 2 (b.exponent - unit).toNat
      let rest := dividend % divisor
      if 0 ≤ unit then nearest a.negative (rest * Nat.pow 2 unit.toNat) 1
      else nearest a.negative rest (Nat.pow 2 (-unit).toNat)
  | some _, none => if y.isNaN then y else x
  | none, _ => if x.isNaN then x else if y.isNaN then y else Double.indefinite

/-- The integer part of a finite number, rounded by `round` on magnitudes. -/
def toIntBy (round : Nat → Nat → Nat) (b : Binary) : Int :=
  let magnitude :=
    if 0 ≤ b.exponent then b.significand * Nat.pow 2 b.exponent.toNat
    else round b.significand (Nat.pow 2 (-b.exponent).toNat)
  if b.negative then -(magnitude : Int) else magnitude

end Binary

/-- The number nearest to an integer. -/
def Double.ofInt64 (n : Int64) : Double := Binary.nearest (n.toInt < 0) n.toInt.natAbs 1

end TableScript
