set_option autoImplicit false

namespace TableScript.Sorting

variable {α : Type}

/-- Merges from the front. -/
def mergeUp (less : α → α → Bool) (left right : List α) : List α :=
  left.merge right fun a b => !less b a

/-- Merges from the back. -/
def mergeDown (less : α → α → Bool) (left right : List α) : List α :=
  (left.reverse.merge right.reverse fun a b => less b a).reverse

/-- Merges from the front if the left run is not the longer one, otherwise from the back. -/
def merge (less : α → α → Bool) (left right : List α) : List α :=
  if left.length ≤ right.length then mergeUp less left right else mergeDown less left right

/-- The first `count` items of a merge from the front, and how many of them come from the left run. -/
def lowest (less : α → α → Bool) : Nat → List α → List α → List α × Nat
  | count + 1, a :: left, b :: right =>
    if less b a then
      let (taken, fromLeft) := lowest less count (a :: left) right
      (b :: taken, fromLeft)
    else
      let (taken, fromLeft) := lowest less count left (b :: right)
      (a :: taken, fromLeft + 1)
  | _, _, _ => ([], 0)

/-- The last `count` items of a merge from the back, the last one first, and how many of them come from the
left run. Both runs are given with their last item first. -/
def highest (less : α → α → Bool) : Nat → List α → List α → List α × Nat
  | count + 1, a :: left, b :: right =>
    if less b a then
      let (taken, fromLeft) := highest less count left (b :: right)
      (a :: taken, fromLeft + 1)
    else
      let (taken, fromLeft) := highest less count (a :: left) right
      (b :: taken, fromLeft)
  | _, _, _ => ([], 0)

/-- Merges two runs, of which the right one is the longer one by at most one item, from both ends to the
middle. Ends that do not meet betray an order that is not consistent, and there is no merge. -/
def mergeInward? (less : α → α → Bool) (left right : List α) : Option (List α) :=
  let count := left.length
  let (low, lowLeft) := lowest less count left right
  let (high, highLeft) := highest less count left.reverse right.reverse
  let taken := lowLeft + highLeft
  if taken ≤ count ∧ 2 * count ≤ right.length + taken then
    let restLeft := (left.drop lowLeft).take (count - taken)
    let restRight := (right.drop (count - lowLeft)).take (right.length + taken - 2 * count)
    some (low ++ restLeft ++ restRight ++ high.reverse)
  else none

end TableScript.Sorting
