import TableScript.Proofs.Sorting.Comparison
import TableScript.Value.Order

set_option autoImplicit false

namespace TableScript.Quantity

/-- Sub-units of a system, in a fraction of the metric sub-unit that divides the sub-units of both. -/
def inCommon (family : Family) (system : System) (amount : Int) : Int :=
  match metricRatio? family, system with
  | none, _ => amount
  | some (_, den), .metric => amount * den
  | some (num, _), .customary => amount * num

def measure (q : Quantity) : Int := inCommon q.family q.system q.amount.toInt

/-- Whether the amount in sub-units of `system` measures what the quantity does. -/
def Converts (q : Quantity) (system : System) : Prop :=
  inCommon q.family system (q.amountIn system).toInt = q.measure

instance (q : Quantity) (system : System) : Decidable (q.Converts system) :=
  inferInstanceAs (Decidable (_ = _))

theorem converts_own (q : Quantity) : q.Converts q.system := by
  simp [Converts, measure, amountIn]

theorem inCommon_lt (family : Family) (system : System) (a b : Int) (less : a < b) :
    inCommon family system a < inCommon family system b := by
  cases family <;> cases system <;> simp only [inCommon, metricRatio?] <;> omega

theorem order_eq_measure (a b : Quantity) (family : a.family = b.family) (exact : b.Converts a.system) :
    a.order b = compare a.measure b.measure := by
  rw [order, ← exact, measure, family]
  exact (compare_eq_compare (inCommon_lt _ _ _ _) (congrArg _) (inCommon_lt _ _ _ _)).symm

end TableScript.Quantity
