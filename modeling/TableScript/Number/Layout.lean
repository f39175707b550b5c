import TableScript.Number.Shortest

set_option autoImplicit false

namespace TableScript

structure Layout where
  tie : Shortest.Tie
  /-- Whether a number whose first digit stands at this power of ten is written in positions. -/
  positional : Int → Bool
  /-- What follows a number without a fraction. -/
  wholeEnd : String
  exponentWidth : Nat
  notANumber : String
  infinity : String
  negativeInfinity : String

namespace Layout

def zeros (count : Nat) : String := String.ofList (List.replicate count '0')

def padLeft (width : Nat) (text : String) : String := zeros (width - text.length) ++ text

def positions (layout : Layout) (d : Decimal) : String :=
  if d.exponent < 0 then "0." ++ zeros (-d.exponent - 1).toNat ++ d.digits
  else
    let whole := d.exponent.toNat + 1
    let digits := d.digits.toList
    if digits.length ≤ whole then d.digits ++ zeros (whole - digits.length) ++ layout.wholeEnd
    else String.ofList (digits.take whole) ++ "." ++ String.ofList (digits.drop whole)

def scientific (layout : Layout) (d : Decimal) : String :=
  let mantissa :=
    match d.digits.toList with
    | [] => "0"
    | [digit] => digit.toString
    | digit :: rest => digit.toString ++ "." ++ String.ofList rest
  let sign := if d.exponent < 0 then "-" else "+"
  mantissa ++ "e" ++ sign ++ padLeft layout.exponentWidth (toString d.exponent.natAbs)

def render (layout : Layout) (x : Double) : String :=
  match Binary.decode? x with
  | none =>
    if x.isNaN then layout.notANumber
    else if x.isNegative then layout.negativeInfinity
    else layout.infinity
  | some b =>
    let sign := if b.negative then "-" else ""
    if b.significand = 0 then sign ++ "0" ++ layout.wholeEnd
    else
      let d := Shortest.decimal layout.tie b
      sign ++ (if layout.positional d.exponent then layout.positions d else layout.scientific d)

/-- Numbers in source text and in structural dumps are always written in positions. -/
def source : Layout where
  tie := .up
  positional := fun _ => true
  wholeEnd := ""
  exponentWidth := 1
  notANumber := "NaN"
  infinity := "inf"
  negativeInfinity := "-inf"

/-- Numbers shown to a reader change to an exponent below `1e-4` and from `1e6` on. -/
def reading : Layout where
  tie := .up
  positional := fun exponent => -4 ≤ exponent ∧ exponent < 6
  wholeEnd := ""
  exponentWidth := 2
  notANumber := "NaN"
  infinity := "+Inf"
  negativeInfinity := "-Inf"

/-- Numbers in JSON keep a fraction and change to an exponent below `1e-5` and from `1e16` on. What is
not finite has no JSON number. -/
def json : Layout where
  tie := .even
  positional := fun exponent => -5 ≤ exponent ∧ exponent < 16
  wholeEnd := ".0"
  exponentWidth := 1
  notANumber := "null"
  infinity := "null"
  negativeInfinity := "null"

end Layout

end TableScript
