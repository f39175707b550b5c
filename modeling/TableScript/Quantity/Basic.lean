import TableScript.Number.Layout
import TableScript.Number.Rounding

set_option autoImplicit false

namespace TableScript

inductive Family where
  | length
  | mass
  | data
deriving DecidableEq, Repr

def Family.name : Family → String
  | .length => "length"
  | .mass => "mass"
  | .data => "data"

inductive System where
  | metric
  | customary
deriving DecidableEq, Repr

def System.name : System → String
  | .metric => "SI"
  | .customary => "US"

/-- A written unit and what it is worth in sub-units. -/
structure MeasureUnit where
  suffix : String
  family : Family
  system : System
  subUnits : Int64
deriving DecidableEq, Repr

namespace MeasureUnit

/-- Sub-units of the yard and of the ounce. -/
def yardParts : Int64 := 725760

def all : List MeasureUnit :=
  [⟨"mm", .length, .metric, 1000⟩,
   ⟨"cm", .length, .metric, 10000⟩,
   ⟨"m", .length, .metric, 1000000⟩,
   ⟨"km", .length, .metric, 1000000000⟩,
   ⟨"in", .length, .customary, 20160⟩,
   ⟨"ft", .length, .customary, 241920⟩,
   ⟨"yd", .length, .customary, yardParts⟩,
   ⟨"mi", .length, .customary, 1277337600⟩,
   ⟨"mg", .mass, .metric, 1⟩,
   ⟨"g", .mass, .metric, 1000⟩,
   ⟨"kg", .mass, .metric, 1000000⟩,
   ⟨"oz", .mass, .customary, yardParts⟩,
   ⟨"lb", .mass, .customary, 11612160⟩,
   ⟨"B", .data, .metric, 1⟩,
   ⟨"kB", .data, .metric, 1000⟩,
   ⟨"MB", .data, .metric, 1000000⟩,
   ⟨"GB", .data, .metric, 1000000000⟩,
   ⟨"TB", .data, .metric, 1000000000000⟩,
   ⟨"KiB", .data, .metric, 1024⟩,
   ⟨"MiB", .data, .metric, 1048576⟩,
   ⟨"GiB", .data, .metric, 1073741824⟩,
   ⟨"TiB", .data, .metric, 1099511627776⟩]

def find? (suffix : String) : Option MeasureUnit := all.find? (·.suffix == suffix)

end MeasureUnit

structure Quantity where
  amount : Int64
  family : Family
  system : System
  hint : String
deriving DecidableEq, Repr

namespace Quantity

/-- The quantity a literal denotes, rounded to the nearest sub-unit. -/
def ofLiteral? (value : Double) (suffix : String) : Option Quantity :=
  (MeasureUnit.find? suffix).map fun unit =>
    { amount := Rounding.saturateHalfAway (value * .ofInt64 unit.subUnits)
      family := unit.family
      system := unit.system
      hint := unit.suffix }

def withAmount (q : Quantity) (amount : Int64) : Quantity := { q with amount := amount }

/-- Metric sub-units per customary sub-unit, as a fraction. Data has one system only. -/
def metricRatio? : Family → Option (Nat × Nat)
  | .length => some (635, 504)
  | .mass => some (45359237, 1161216000)
  | .data => none

/-- The amount in sub-units of `system`, rounded toward zero and kept in range. -/
def amountIn (q : Quantity) (system : System) : Int64 :=
  if system = q.system then q.amount
  else
    match metricRatio? q.family, q.system with
    | none, _ => q.amount
    | some (num, den), .customary => Word.clamp ((q.amount.toInt * num).tdiv den)
    | some (num, den), .metric => Word.clamp ((q.amount.toInt * den).tdiv num)

def hintValue (q : Quantity) : Double :=
  .ofInt64 q.amount / .ofInt64 (((MeasureUnit.find? q.hint).map MeasureUnit.subUnits).getD 1)

def inspect (q : Quantity) : String := Layout.reading.render q.hintValue ++ q.hint

end Quantity

end TableScript
