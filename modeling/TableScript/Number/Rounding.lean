import TableScript.Number.Binary
import TableScript.Number.Word

set_option autoImplicit false

namespace TableScript.Rounding

/-- The nearest integer, a half going to the even neighbour; none if the number is not finite or the
integer does not fit. -/
def halfEven? (x : Double) : Option Int64 :=
  (Binary.decode? x).bind fun b => Word.narrow? (b.toIntBy Binary.roundHalfEven)

/-- The nearest integer, a half going away from zero; none if the number is not finite or the integer
does not fit. -/
def halfAway? (x : Double) : Option Int64 :=
  (Binary.decode? x).bind fun b => Word.narrow? (b.toIntBy Binary.roundHalfUp)

/-- The word nearest to `x` once `round` has made it an integer. Infinities go to the ends of the range
and what is not a number goes to zero. -/
def saturateBy (round : Nat → Nat → Nat) (x : Double) : Int64 :=
  match Binary.decode? x with
  | some b => Word.clamp (b.toIntBy round)
  | none =>
    if x.isNaN then 0
    else if x.isNegative then Word.clamp Word.least
    else Word.clamp Word.greatest

def saturateHalfAway (x : Double) : Int64 := saturateBy Binary.roundHalfUp x

def saturateTowardZero (x : Double) : Int64 := saturateBy (· / ·) x

end TableScript.Rounding
