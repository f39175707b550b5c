import TableScript.Text.Ascii
import TableScript.Value.Order

set_option autoImplicit false

namespace TableScript

structure SortKey where
  column : String
  descending : Bool
deriving DecidableEq, Repr

namespace SortKey

def ascending (column : String) : SortKey := ⟨column, false⟩

/-- A key with a written direction, in any case. -/
def withDirection (column direction : String) : Except EvalError SortKey :=
  match Text.lowerAscii direction with
  | "asc" => .ok ⟨column, false⟩
  | "desc" => .ok ⟨column, true⟩
  | _ => .error (.sortDirection direction)

def compare (key : SortKey) (a b : Row) : Ordering :=
  let order := (Row.cell a key.column).order (Row.cell b key.column)
  if key.descending then order.swap else order

/-- The first key that tells the rows apart decides. -/
def compareAll (keys : List SortKey) (a b : Row) : Ordering :=
  match keys with
  | [] => .eq
  | key :: rest => (key.compare a b).then (compareAll rest a b)

end SortKey

end TableScript
