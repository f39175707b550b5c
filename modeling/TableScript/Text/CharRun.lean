set_option autoImplicit false

namespace TableScript

/-- Every `step`-th code point from `first` to `last`. -/
structure CharRun where
  first : Nat
  last : Nat
  step : Nat
deriving DecidableEq, Repr

namespace CharRun

def contains (run : CharRun) (code : Nat) : Bool :=
  run.first ≤ code && code ≤ run.last && (code - run.first) % run.step == 0

/-- Whether one of the runs of a sorted table holds the code point. -/
def anyContains : List CharRun → Nat → Bool
  | [], _ => false
  | run :: rest, code =>
    if code < run.first then false else run.contains code || anyContains rest code

end CharRun

end TableScript
