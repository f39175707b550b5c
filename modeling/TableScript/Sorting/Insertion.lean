set_option autoImplicit false

namespace TableScript.Sorting

variable {α : Type}

/-- Puts an item into a list whose greatest item comes first, before those that are not greater. -/
def place (less : α → α → Bool) (item : α) : List α → List α
  | [] => [item]
  | last :: rest => if less item last then last :: place less item rest else item :: last :: rest

/-- Inserts items, one after the other, behind a sorted start. -/
def extend (less : α → α → Bool) (sorted items : List α) : List α :=
  (items.foldl (fun placed item => place less item placed) sorted.reverse).reverse

/-- Insertion sort. -/
def insertion (less : α → α → Bool) (items : List α) : List α := extend less [] items

end TableScript.Sorting
