set_option autoImplicit false

namespace TableScript.Word

def least : Int := -9223372036854775808

def greatest : Int := 9223372036854775807

/-- An exact integer that has a 64-bit representation. -/
def Fits (i : Int) : Prop := least ≤ i ∧ i ≤ greatest

instance (i : Int) : Decidable (Fits i) := inferInstanceAs (Decidable (_ ∧ _))

def narrow? (i : Int) : Option Int64 :=
  if Fits i then some (Int64.ofInt i) else none

def clamp (i : Int) : Int64 :=
  if i < least then Int64.ofInt least
  else if greatest < i then Int64.ofInt greatest
  else Int64.ofInt i

def add? (a b : Int64) : Option Int64 := narrow? (a.toInt + b.toInt)

def sub? (a b : Int64) : Option Int64 := narrow? (a.toInt - b.toInt)

def mul? (a b : Int64) : Option Int64 := narrow? (a.toInt * b.toInt)

def neg? (a : Int64) : Option Int64 := narrow? (-a.toInt)

/-- The quotient rounded toward zero; there is none for a zero divisor. -/
def div? (a b : Int64) : Option Int64 :=
  if b.toInt = 0 then none else narrow? (a.toInt.tdiv b.toInt)

/-- The remainder with the sign of the dividend. It is refused wherever the quotient is. -/
def rem? (a b : Int64) : Option Int64 :=
  (div? a b).bind fun _ => narrow? (a.toInt.tmod b.toInt)

theorem narrow?_eq_some_iff (i : Int) (w : Int64) :
    narrow? i = some w ↔ Fits i ∧ w = Int64.ofInt i := by
  unfold narrow?
  split <;> simp_all [eq_comm]

theorem narrow?_eq_none_iff (i : Int) : narrow? i = none ↔ ¬ Fits i := by
  unfold narrow?
  split <;> simp_all

end TableScript.Word
