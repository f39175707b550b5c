import Std.Data.HashMap
import TableScript.Dictionary.Basic

set_option autoImplicit false

namespace TableScript

/-- Entries by their keys, and beside them the order of the keys. -/
structure OrderedMap (α : Type) where
  entries : Std.HashMap String α
  order : List String

namespace OrderedMap

variable {α : Type}

def empty : OrderedMap α := ⟨∅, []⟩

def keys (map : OrderedMap α) : List String := map.order

def size (map : OrderedMap α) : Nat := map.order.length

def isEmpty (map : OrderedMap α) : Bool := map.order.isEmpty

def get? (map : OrderedMap α) (key : String) : Option α := map.entries[key]?

def contains (map : OrderedMap α) (key : String) : Bool := map.entries.contains key

def position? (map : OrderedMap α) (key : String) : Option Nat := map.order.findIdx? (· == key)

/-- The entries in the order of their keys. A key without an entry would be passed over. -/
def toList (map : OrderedMap α) : List (String × α) :=
  map.order.filterMap fun key => (map.get? key).map (key, ·)

/-- What the program works with: the entries in their order and nothing else. -/
def toDictionary (map : OrderedMap α) : Dictionary α := ⟨map.toList⟩

/-- Only a new key is added to the order. -/
def insert (map : OrderedMap α) (key : String) (value : α) : OrderedMap α :=
  ⟨map.entries.insert key value, if map.contains key then map.order else map.order ++ [key]⟩

/-- A present key is taken out of the order first. -/
def insertAt (map : OrderedMap α) (index : Nat) (key : String) (value : α) : OrderedMap α :=
  let others := if map.contains key then map.order.filter (· != key) else map.order
  ⟨map.entries.insert key value, others.insertIdx (min index others.length) key⟩

/-- The entry that was under the key, and what remains. -/
def remove (map : OrderedMap α) (key : String) : Option α × OrderedMap α :=
  match map.get? key with
  | none => (none, map)
  | some value => (some value, ⟨map.entries.erase key, map.order.filter (· != key)⟩)

/-- Whether there was an entry under `old`, and the map in which it is under `new`. -/
def rename (map : OrderedMap α) (old new : String) : Bool × OrderedMap α :=
  match map.get? old with
  | none => (false, map)
  | some value =>
    let rest := map.entries.erase old
    let others := if old = new then rest else rest.erase new
    let order := if old ≠ new ∧ rest.contains new then map.order.filter (· != new) else map.order
    (true, ⟨others.insert new value, order.map fun key => if key == old then new else key⟩)

def merged (left right : OrderedMap α) : OrderedMap α :=
  right.toList.foldl (fun map pair => map.insert pair.1 pair.2) left

def ofList (pairs : List (String × α)) : OrderedMap α :=
  pairs.foldl (fun map pair => map.insert pair.1 pair.2) empty

end OrderedMap

end TableScript
