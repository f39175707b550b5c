set_option autoImplicit false

namespace TableScript

/-- Pairs of a key and a value in the order in which the keys were first inserted. The keys of a dictionary that
the operations make differ. Values nest dictionaries, so that the type itself cannot say so. -/
structure Dictionary (α : Type) where
  entries : List (String × α)
deriving Repr

namespace Dictionary

variable {α β : Type}

def empty : Dictionary α := ⟨[]⟩

def toList (d : Dictionary α) : List (String × α) := d.entries

def keys (d : Dictionary α) : List String := d.entries.map (·.1)

def values (d : Dictionary α) : List α := d.entries.map (·.2)

def size (d : Dictionary α) : Nat := d.entries.length

def isEmpty (d : Dictionary α) : Bool := d.entries.isEmpty

def get? (d : Dictionary α) (key : String) : Option α := d.entries.lookup key

def contains (d : Dictionary α) (key : String) : Bool := d.entries.any (·.1 == key)

def position? (d : Dictionary α) (key : String) : Option Nat := d.entries.findIdx? (·.1 == key)

/-- Replaces the value of a present key in its place, and puts a new key last. -/
def insert (d : Dictionary α) (key : String) (value : α) : Dictionary α :=
  if d.contains key then ⟨d.entries.map fun pair => if pair.1 == key then (key, value) else pair⟩
  else ⟨d.entries ++ [(key, value)]⟩

def erase (d : Dictionary α) (key : String) : Dictionary α :=
  ⟨d.entries.filter (·.1 != key)⟩

/-- Puts the key at `index` of the order, or last if there are fewer keys. A present key moves there. -/
def insertAt (d : Dictionary α) (index : Nat) (key : String) (value : α) : Dictionary α :=
  let others := (d.erase key).entries
  ⟨others.take index ++ (key, value) :: others.drop index⟩

/-- Gives the entry of `old` the key `new`, in its place, and drops another entry of `new`. There is no result
if `old` is absent. -/
def rename? (d : Dictionary α) (old new : String) : Option (Dictionary α) :=
  if d.contains old then
    let others := if old = new then d.entries else (d.erase new).entries
    some ⟨others.map fun pair => if pair.1 == old then (new, pair.2) else pair⟩
  else none

/-- As `rename?`; where `old` is absent nothing changes. -/
def rename (d : Dictionary α) (old new : String) : Dictionary α := (d.rename? old new).getD d

def merge (left right : Dictionary α) : Dictionary α :=
  right.entries.foldl (fun d pair => d.insert pair.1 pair.2) left

def ofList (pairs : List (String × α)) : Dictionary α :=
  pairs.foldl (fun d pair => d.insert pair.1 pair.2) empty

def map (f : α → β) (d : Dictionary α) : Dictionary β :=
  ⟨d.entries.map fun pair => (pair.1, f pair.2)⟩

end Dictionary

end TableScript
