import TableScript.Sorting.Small

set_option autoImplicit false

namespace TableScript.Sorting

variable {α : Type}

def lessAt (less : α → α → Bool) (items : Array α) (i j : Nat) : Bool :=
  match items[i]?, items[j]? with
  | some a, some b => less a b
  | _, _ => false

/-- The place that holds the median of three. -/
def median (less : α → α → Bool) (items : Array α) (a b c : Nat) : Nat :=
  let below := lessAt less items a b
  if below == lessAt less items a c then
    if lessAt less items b c == below then b else c
  else a

/-- From this many items on, the medians of medians are compared. -/
def medianThreshold : Nat := 64

/-- The median of three places, each replaced first, if `count` is large, by the median of three among the
`count` places that start there. -/
def medianOfMedians (less : α → α → Bool) (items : Array α) (a b c count : Nat) : Nat :=
  if medianThreshold ≤ count * 8 ∧ 0 < count then
    let part := count / 8
    let within (start : Nat) : Nat :=
      medianOfMedians less items start (start + part * 4) (start + part * 7) part
    median less items (within a) (within b) (within c)
  else median less items a b c
termination_by count

/-- The place of the item at which the items are divided. -/
def pivotPlace (less : α → α → Bool) (items : Array α) : Nat :=
  let part := items.size / 8
  if items.size < medianThreshold then median less items 0 (part * 4) (part * 7)
  else medianOfMedians less items 0 (part * 4) (part * 7) part

/-- Divides the items before and behind the pivot, which goes to the side that is said. -/
def divide (goesLeft : α → Bool) (pivotLeft : Bool) (before : List α) (pivot : α) (after : List α) :
    List α × List α :=
  let (lowBefore, highBefore) := before.partition goesLeft
  let (lowAfter, highAfter) := after.partition goesLeft
  if pivotLeft then (lowBefore ++ pivot :: lowAfter, highBefore ++ highAfter)
  else (lowBefore ++ lowAfter, highBefore ++ pivot :: highAfter)

def smallThreshold : Nat := 32

/-- Sorts `items`, dividing at most `limit` times in a row; after that `fallback?` sorts them. The items are
not less than `floor`, if there is one: a pivot that is not greater than it is divided off together with its
equals. The recursion is at most `fuel` deep. -/
def quick? (less : α → α → Bool) (fallback? : List α → Option (List α)) :
    Nat → Nat → Option α → List α → Option (List α)
  | 0, _, _, items => fallback? items
  | fuel + 1, limit, floor, items =>
    if items.length ≤ smallThreshold then small? less items
    else
      match limit with
      | 0 => fallback? items
      | limit + 1 =>
        let place := pivotPlace less items.toArray
        match items.drop place with
        | [] => fallback? items
        | pivot :: after =>
          let before := items.take place
          let (low, high) := divide (less · pivot) false before pivot after
          if floor.any (fun least => !less least pivot) || low.isEmpty then
            let (same, rest) := divide (fun item => !less pivot item) true before pivot after
            (quick? less fallback? fuel limit none rest).map (same ++ ·)
          else do
            let below ← quick? less fallback? fuel limit floor low
            let above ← quick? less fallback? fuel limit (some pivot) high
            return below ++ above

/-- Quicksort with room for as many divisions as twice the number of halvings. -/
def quicksort? (less : α → α → Bool) (fallback? : List α → Option (List α)) (items : List α) :
    Option (List α) :=
  quick? less fallback? items.length (2 * items.length.log2) none items

end TableScript.Sorting
