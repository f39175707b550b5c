import TableScript.Number.Binary
import TableScript.Number.Word

set_option autoImplicit false

namespace TableScript.NumberReader

def isDigit (c : Char) : Bool := '0' ≤ c ∧ c ≤ '9'

def digitValue (c : Char) : Nat := c.toNat - '0'.toNat

def natural (digits : List Char) : Nat :=
  digits.foldl (fun total c => 10 * total + digitValue c) 0

/-- The value of a run of decimal digits, of which those that follow after the value has reached `limit`
are not read. -/
def naturalWithin (limit : Nat) (digits : List Char) : Nat :=
  digits.foldl (fun total c => if total < limit then 10 * total + digitValue c else total) 0

/-- Splits an optional sign from the text; `true` is a minus. -/
def takeSign : List Char → Bool × List Char
  | '-' :: rest => (true, rest)
  | '+' :: rest => (false, rest)
  | text => (false, text)

/-- A nonempty run of digits, and nothing else, read within a limit. -/
def natural? (limit : Nat) (text : List Char) : Option Nat :=
  if !text.isEmpty && text.all isDigit then some (naturalWithin limit text) else none

/-- No integer of 64 bits has this size, so the digits after it decide nothing. -/
def integerLimit : Nat := Nat.pow 2 64

def integer? (text : String) : Option Int64 :=
  let (negative, rest) := takeSign text.toList
  (natural? integerLimit rest).bind fun n => Word.narrow? (if negative then -(n : Int) else n)

def lower (c : Char) : Char := c.toLower

/-- The words that stand for numbers without digits, in any case. -/
def word? (negative : Bool) (text : List Char) : Option Double :=
  match String.ofList (text.map lower) with
  | "inf" => some (.infinity negative)
  | "infinity" => some (.infinity negative)
  | "nan" => some (.notANumber negative)
  | _ => none

/-- The size at which reading an exponent stops. -/
def exponentLimit : Nat := 65536

/-- The exponent after the digits: nothing, or a mark, an optional sign and digits. -/
def exponent? : List Char → Option Int
  | [] => some 0
  | mark :: rest =>
    if mark = 'e' ∨ mark = 'E' then
      let (negative, digits) := takeSign rest
      (natural? exponentLimit digits).map fun n => if negative then -(n : Int) else n
    else none

/-- The middle between two neighbouring floating-point numbers has fewer digits than this. -/
def decisiveDigits : Nat := 800

/-- The value of a run of digits and how many places it was cut by. All digits behind the decisive ones
count as one digit, which tells whether any of them is not zero. -/
def coefficient (digits : List Char) : Nat × Nat :=
  match digits.drop decisiveDigits with
  | [] => (natural digits, 0)
  | rest =>
    let lead := natural (digits.take decisiveDigits)
    (10 * lead + (if rest.all (· = '0') then 0 else 1), rest.length - 1)

/-- The number nearest to `digits * 10 ^ exponent`. Exponents far outside the range of floating-point
numbers are cut off first, which changes no result. -/
def scaled (negative : Bool) (digits : List Char) (exponent : Int) : Double :=
  let significant := digits.dropWhile (· = '0')
  let top := exponent + significant.length
  if significant.isEmpty then .ofMagnitude negative 0
  else if 400 < top then .infinity negative
  else if top < -400 then .ofMagnitude negative 0
  else
    let (value, places) := coefficient significant
    let exponent := exponent + places
    if 0 ≤ exponent then Binary.nearest negative (value * Nat.pow 10 exponent.toNat) 1
    else Binary.nearest negative value (Nat.pow 10 (-exponent).toNat)

/-- Digits with an optional point among them and an optional exponent. -/
def decimal? (negative : Bool) (text : List Char) : Option Double :=
  let whole := text.takeWhile isDigit
  let (fraction, rest) :=
    match text.dropWhile isDigit with
    | '.' :: after => (after.takeWhile isDigit, after.dropWhile isDigit)
    | after => ([], after)
  if whole.isEmpty && fraction.isEmpty then none
  else
    (exponent? rest).map fun exponent =>
      scaled negative (whole ++ fraction) (exponent - fraction.length)

def float? (text : String) : Option Double :=
  let (negative, rest) := takeSign text.toList
  (word? negative rest).orElse fun _ => decimal? negative rest

end TableScript.NumberReader
