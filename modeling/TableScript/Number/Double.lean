set_option autoImplicit false

namespace TableScript

/-- A sign bit, eleven bits of exponent and 52 bits of fraction. -/
structure Double where
  bits : UInt64
deriving DecidableEq, Repr

namespace Double

def signBit : Nat := 9223372036854775808

def magnitude (x : Double) : Nat := x.bits.toNat % signBit

def isNegative (x : Double) : Bool := signBit ≤ x.bits.toNat

/-- The magnitude of infinity; larger magnitudes are not numbers. -/
def infinityBits : Nat := 0x7ff0000000000000

def isNaN (x : Double) : Bool := infinityBits < x.magnitude

def isFinite (x : Double) : Bool := x.magnitude < infinityBits

def isZero (x : Double) : Bool := x.magnitude == 0

def ofMagnitude (negative : Bool) (magnitude : Nat) : Double :=
  ⟨UInt64.ofNat (if negative then magnitude + signBit else magnitude)⟩

def infinity (negative : Bool) : Double := ofMagnitude negative infinityBits

def notANumber (negative : Bool) : Double := ofMagnitude negative 0x7ff8000000000000

/-- What an operation gives that has no result on its operands. -/
def indefinite : Double := notANumber true

def toFloat (x : Double) : Float := Float.ofBits x.bits

def ofFloat (x : Float) : Double := if x.isNaN then indefinite else ⟨x.toBits⟩

def ofNat (n : Nat) : Double := ofFloat (Float.ofNat n)

/-- An operation on two operands. The first one that is not a number is the result. -/
def combine (operation : Float → Float → Float) (x y : Double) : Double :=
  if x.isNaN then x else if y.isNaN then y else ofFloat (operation x.toFloat y.toFloat)

instance : Add Double := ⟨combine (· + ·)⟩

instance : Sub Double := ⟨combine (· - ·)⟩

instance : Mul Double := ⟨combine (· * ·)⟩

instance : Div Double := ⟨combine (· / ·)⟩

instance : Neg Double := ⟨fun x => ofMagnitude (!x.isNegative) x.magnitude⟩

/-- Equality of numbers: the two zeros are equal, and what is not a number equals nothing. -/
def equals (x y : Double) : Bool := x.toFloat == y.toFloat

def less (x y : Double) : Bool := x.toFloat < y.toFloat

def atMost (x y : Double) : Bool := x.toFloat ≤ y.toFloat

/-- A key whose order is the total order: negative zero stands below zero, and what is not a number stands
beyond the infinity of its sign. -/
def orderKey (x : Double) : Int :=
  if x.isNegative then -(x.magnitude : Int) - 1 else x.magnitude

def totalCompare (x y : Double) : Ordering := compare x.orderKey y.orderKey

/-- `accumulated * base ^ count` by repeated squaring, rounding after each product. -/
def powerFrom (base : Double) (count : Nat) (accumulated : Double) : Double :=
  let accumulated := if count % 2 = 1 then accumulated * base else accumulated
  if count / 2 = 0 then accumulated
  else powerFrom (base * base) (count / 2) accumulated
termination_by count

def powerOfTen (count : Nat) : Double := powerFrom (ofNat 10) count (ofNat 1)

end Double

end TableScript
