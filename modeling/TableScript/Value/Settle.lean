import TableScript.Value.Basic

set_option autoImplicit false

namespace TableScript.Value

mutual

/-- The value with its new collections numbered from `next` on, outer ones first, and the next free
number. -/
def settle (next : Nat) : Value → Value × Nat
  | .array none items =>
    let (items, free) := settleAll (next + 1) [] items
    (.array (some next) items, free)
  | .dict none ⟨entries⟩ =>
    let (entries, free) := settleEntries (next + 1) [] entries
    (.dict (some next) ⟨entries⟩, free)
  | .table none ⟨columns, rows, binding, fromDatabase⟩ =>
    let (rows, free) := settleRows (next + 1) [] rows
    (.table (some next) ⟨columns, rows, binding, fromDatabase⟩, free)
  | .record none ⟨binding, ⟨data⟩, errors, validated⟩ =>
    let (data, free) := settleRow (next + 1) [] data
    (.record (some next) ⟨binding, ⟨data⟩, errors, validated⟩, free)
  | value => (value, next)
termination_by structural x => x

/-- Settles one value after the other; `done` holds the settled ones, the last one first. -/
def settleAll (next : Nat) (done : List Value) : List Value → List Value × Nat
  | [] => (done.reverse, next)
  | item :: rest =>
    let (item, free) := settle next item
    settleAll free (item :: done) rest
termination_by structural x => x

def settleEntries (next : Nat) (done : List (String × Entry Value)) :
    List (String × Entry Value) → List (String × Entry Value) × Nat
  | [] => (done.reverse, next)
  | (key, .ready value) :: rest =>
    let (value, free) := settle next value
    settleEntries free ((key, .ready value) :: done) rest
  | (key, .deferred origin expr scope) :: rest =>
    settleEntries next ((key, .deferred origin expr scope) :: done) rest
termination_by structural x => x

def settleRow (next : Nat) (done : List (String × Value)) :
    List (String × Value) → List (String × Value) × Nat
  | [] => (done.reverse, next)
  | (key, value) :: rest =>
    let (value, free) := settle next value
    settleRow free ((key, value) :: done) rest
termination_by structural x => x

def settleRows (next : Nat) (done : List (Dictionary Value)) :
    List (Dictionary Value) → List (Dictionary Value) × Nat
  | [] => (done.reverse, next)
  | ⟨row⟩ :: rest =>
    let (row, free) := settleRow next [] row
    settleRows free (⟨row⟩ :: done) rest
termination_by structural x => x

end

end TableScript.Value
