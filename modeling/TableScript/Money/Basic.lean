import TableScript.Number.Binary
import TableScript.Number.Layout
import TableScript.Number.Word

set_option autoImplicit false

namespace TableScript

structure Money where
  amount : Int64
  currency : String
  scale : Nat
deriving DecidableEq, Repr

namespace Money

/-- The amount at a larger scale, if the factor and the product both fit. A smaller scale leaves the
amount as it is. -/
def amountAt? (m : Money) (scale : Nat) : Option Int64 :=
  if scale ≤ m.scale then some m.amount
  else (Word.narrow? (Nat.pow 10 (scale - m.scale) : Nat)).bind (Word.mul? m.amount)

/-- The nearest floating-point value, up to the rounding of the power of ten. -/
def toDouble (m : Money) : Double := .ofInt64 m.amount / Double.powerOfTen m.scale

def withAmount (m : Money) (amount : Int64) : Money := { m with amount := amount }

/-- The short mark of a common currency. -/
def symbol? (m : Money) : Option String :=
  match m.currency with
  | "USD" => some "$"
  | "GBP" => some "£"
  | "EUR" => some "€"
  | "JPY" => some "¥"
  | "CAD" => some "CA$"
  | "AUD" => some "AU$"
  | "HKD" => some "HK$"
  | "SGD" => some "S$"
  | "CNY" => some "CN¥"
  | _ => none

/-- The largest scale at which an amount is divided into whole and fraction. -/
def maxDividedScale : Nat := 19

/-- The amount with its decimals and no currency. Scales beyond the divided ones show the minor units. -/
def formatAmount (m : Money) : String :=
  if m.scale = 0 ∨ maxDividedScale < m.scale then toString m.amount.toInt
  else
    let magnitude := m.amount.toInt.natAbs
    let sign := if m.amount.toInt < 0 then "-" else ""
    sign ++ toString (magnitude / Nat.pow 10 m.scale) ++ "."
      ++ Layout.padLeft m.scale (toString (magnitude % Nat.pow 10 m.scale))

def inspect (m : Money) : String :=
  match m.symbol? with
  | some symbol => symbol ++ m.formatAmount
  | none => m.currency ++ "#" ++ m.formatAmount

end Money

end TableScript
