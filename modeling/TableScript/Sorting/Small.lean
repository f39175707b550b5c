import TableScript.Sorting.Insertion
import TableScript.Sorting.Merge

set_option autoImplicit false

namespace TableScript.Sorting

variable {α : Type}

/-- Sorts four items: the pairs, then the least and the greatest, then the two between them. -/
def four (less : α → α → Bool) (first second third fourth : α) : List α :=
  let (a, b) := if less second first then (second, first) else (first, second)
  let (c, d) := if less fourth third then (fourth, third) else (third, fourth)
  let newLeast := less c a
  let newGreatest := !less d b
  let least := if newLeast then c else a
  let greatest := if newGreatest then d else b
  let left := if newLeast then a else if newGreatest then b else c
  let right := if newGreatest then (if newLeast then b else c) else d
  if less right left then [least, right, left, greatest] else [least, left, right, greatest]

def sortHalf (less : α → α → Bool) (items : List α) : List α :=
  match items with
  | a :: b :: c :: d :: rest => extend less (four less a b c d) rest
  | items => insertion less items

/-- From this many items on, each half starts with four sorted ones. -/
def fourThreshold : Nat := 8

/-- Sorts a few items, unless the order turns out not to be consistent. -/
def small? (less : α → α → Bool) (items : List α) : Option (List α) :=
  let middle := items.length / 2
  let sort := if fourThreshold ≤ items.length then sortHalf less else insertion less
  mergeInward? less (sort (items.take middle)) (sort (items.drop middle))

end TableScript.Sorting
