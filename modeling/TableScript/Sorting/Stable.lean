import TableScript.Sorting.Quick

set_option autoImplicit false

namespace TableScript.Sorting

variable {α : Type}

/-- Neighbouring items, which may be sorted already. -/
structure Run (α : Type) where
  items : List α
  sorted : Bool

namespace Run

def sort? (sortItems? : List α → Option (List α)) (run : Run α) : Option (List α) :=
  if run.sorted then some run.items else sortItems? run.items

/-- Joins neighbours: two runs that are still to be sorted become one such run, others are merged. -/
def join? (less : α → α → Bool) (sortItems? : List α → Option (List α)) (left right : Run α) :
    Option (Run α) :=
  if left.sorted || right.sorted then do
    let first ← left.sort? sortItems?
    let second ← right.sort? sortItems?
    return ⟨merge less first second, true⟩
  else some ⟨left.items ++ right.items, false⟩

end Run

/-- Goes on with a run as long as each item follows the one before it; `done` holds the run, its last item
first. -/
def follow (follows : α → α → Bool) (done : List α) (last : α) : List α → List α × List α
  | [] => (done, [])
  | item :: rest =>
    if follows last item then follow follows (item :: done) item rest else (done, item :: rest)

/-- The longest sorted start and what comes after it. A start that falls strictly is turned round. -/
def sortedStart (less : α → α → Bool) : List α → List α × List α
  | first :: second :: rest =>
    if less second first then follow (fun last item => less item last) [second, first] second rest
    else
      let (done, rest) := follow (fun last item => !less item last) [second, first] second rest
      (done.reverse, rest)
  | items => (items, [])

/-- The first run. A sorted start counts if it is long enough; otherwise a few items are sorted at once or,
if that is not wanted, left for later. -/
def firstRun? (less : α → α → Bool) (least : Nat) (eager : Bool) (items : List α) :
    Option (Run α × List α) :=
  let (start, rest) := if least ≤ items.length then sortedStart less items else ([], items)
  if !start.isEmpty && least ≤ start.length then some (⟨start, true⟩, rest)
  else if eager then
    (small? less (items.take smallThreshold)).map fun sorted => (⟨sorted, true⟩, items.drop smallThreshold)
  else some (⟨items.take least, false⟩, items.drop least)

/-- The items cut into at most `count` runs. -/
def runs? (less : α → α → Bool) (least : Nat) (eager : Bool) : Nat → List α → Option (List (Run α))
  | 0, items => some [⟨items, false⟩]
  | _ + 1, [] => some []
  | count + 1, items => do
    let (run, rest) ← firstRun? less least eager items
    return run :: (← runs? less least eager count rest)

def nearRoot (n : Nat) : Nat :=
  let half := (1 + n.log2) / 2
  (Nat.pow 2 half + n / Nat.pow 2 half) / 2

/-- How long a sorted run has to be among `length` items. -/
def leastRun (length : Nat) : Nat :=
  if length ≤ 4096 then min (length - length / 2) 64 else nearRoot length

/-- How deep in the tree of merges the node stands that joins the runs on both sides of `middle`: the first
bit in which the centres of the two runs differ, as fractions of `length`. -/
def mergeDepth (length start middle stop : Nat) : Nat :=
  let scale := (Nat.pow 2 62 + length - 1) / length
  let difference := Nat.xor (scale * (start + middle)) (scale * (middle + stop))
  if difference = 0 then 64 else 63 - difference.log2

/-- Joins the last run with those on the stack that stand at `depth` or deeper. -/
def collapse? (joinRuns? : Run α → Run α → Option (Run α)) (depth : Nat) :
    List (Run α × Nat) → Run α → Option (List (Run α × Nat) × Run α)
  | [], last => some ([], last)
  | (run, runDepth) :: stack, last =>
    if depth ≤ runDepth then (joinRuns? run last).bind (collapse? joinRuns? depth stack)
    else some ((run, runDepth) :: stack, last)

/-- Joins all runs. `last` is the run that ends at `position`, and the stack holds those before it. -/
def joinAll? (joinRuns? : Run α → Run α → Option (Run α)) (length : Nat) :
    List (Run α × Nat) → Run α → Nat → List (Run α) → Option (Run α)
  | stack, last, _, [] => (collapse? joinRuns? 0 stack last).map (·.2)
  | stack, last, position, next :: rest => do
    let stop := position + next.items.length
    let depth := mergeDepth length (position - last.items.length) position stop
    let (stack, last) ← collapse? joinRuns? depth stack last
    joinAll? joinRuns? length ((last, depth) :: stack) next stop rest

/-- Sorts by runs; `sortItems?` sorts what has been left for later. -/
def byRuns? (less : α → α → Bool) (sortItems? : List α → Option (List α)) (eager : Bool) (items : List α) :
    Option (List α) := do
  let length := items.length
  match ← runs? less (leastRun length) eager length items with
  | [] => return []
  | first :: rest =>
    let joined ← joinAll? (Run.join? less sortItems?) length [] first first.items.length rest
    joined.sort? sortItems?

/-- Up to this many items are sorted by insertion alone. -/
def insertionThreshold : Nat := 20

/-- Insertion sort in the place of a sort that may give up. -/
def insertion? (less : α → α → Bool) (items : List α) : Option (List α) := some (insertion less items)

/-- The stable sort. It gives up where it finds that the order is not consistent. -/
def stable? (less : α → α → Bool) (items : List α) : Option (List α) :=
  if items.length ≤ insertionThreshold then insertion? less items
  else if items.length ≤ 2 * smallThreshold then byRuns? less (insertion? less) true items
  else byRuns? less (quicksort? less (byRuns? less (insertion? less) true)) false items

end TableScript.Sorting
