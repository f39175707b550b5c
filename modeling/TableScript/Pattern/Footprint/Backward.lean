import TableScript.Pattern.Footprint.WordTree

set_option autoImplicit false

namespace TableScript

/-- A state that reads a range and goes on to the state `next`. -/
structure Beginning where
  next : Nat
  range : ByteRange
deriving DecidableEq, Repr

namespace Beginning

def slots : Nat := 1000

def slot (beginning : Beginning) : Nat :=
  let mix (hash : UInt64) (part : Nat) : UInt64 := (hash ^^^ part.toUInt64) * 1099511628211
  let start : UInt64 := 14695981039346656037
  (mix (mix (mix start beginning.next) beginning.range.first) beginning.range.last).toNat % slots

end Beginning

/-- An automaton that is being laid out, with the beginnings that the table remembers and the states that
read them. -/
structure SharedFootprint where
  size : Footprint
  table : Array (Option (Beginning × Nat))

namespace SharedFootprint

def reader? (table : Array (Option (Beginning × Nat))) (beginning : Beginning) : Option Nat :=
  match table.getD beginning.slot none with
  | some (known, reader) => if known = beginning then some reader else none
  | none => none

/-- Reads a sequence of ranges, the last one first, and goes on to the state `next`. -/
def read (next : Nat) : SharedFootprint → List ByteRange → SharedFootprint
  | whole, [] => whole
  | ⟨size, table⟩, range :: rest =>
    let beginning : Beginning := ⟨next, range⟩
    match reader? table beginning with
    | some reader => read reader ⟨size, table⟩ rest
    | none =>
      read size.states
        ⟨size.add Footprint.state, table.setIfInBounds beginning.slot (some (beginning, size.states))⟩ rest

end SharedFootprint

def CharSet.layoutBackward (set : CharSet) (soFar : Footprint) : Footprint :=
  if set.isAscii then (soFar.add Footprint.state).add (Footprint.reader set.spans.length)
  else if soFar.fits then
    let sequences := set.byteRanges
    let last := soFar.states + 1
    let start := (soFar.add (Footprint.fork sequences.length)).add Footprint.state
    let shared : SharedFootprint := ⟨start, Array.replicate Beginning.slots none⟩
    (sequences.foldl (SharedFootprint.read last) shared).size
  else soFar

namespace Pattern

/-- Lays out a repetition, given how its body is laid out. -/
def layoutRepetition (body : Footprint → Footprint) (mayBeEmpty : Bool) (least : Nat) (most : Option Nat)
    (soFar : Footprint) : Footprint :=
  let fork := Footprint.add (Footprint.fork 2)
  let state := Footprint.add Footprint.state
  match most with
  | none =>
    if least = 0 then
      if mayBeEmpty then state (fork (fork (body soFar))) else body (fork soFar)
    else fork (Footprint.repeatWhileFits body least soFar)
  | some most =>
    if least = 0 ∧ most = 1 then state (body (fork soFar))
    else
      let required :=
        if least = 0 then state soFar else Footprint.repeatWhileFits body least soFar
      if least < most then
        Footprint.repeatWhileFits (fun laidOut => body (fork laidOut)) (most - least) (state required)
      else required

mutual

def layoutBackward : Pattern → Footprint → Footprint
  | .empty, soFar => soFar.add Footprint.state
  | .literal chars, soFar => soFar.addStates (bytes chars).length
  | .set members, soFar => members.layoutBackward soFar
  | .look _, soFar => soFar.add Footprint.state
  | .times body least most _, soFar =>
    layoutRepetition (layoutBackward body) (!(minLength? body).any (0 < ·)) least most soFar
  | .group body, soFar => layoutBackward body soFar
  | .concat parts, soFar => (layoutAll [] parts).foldl (fun l part => part l) soFar
  | .alternate branches, soFar =>
    match branches.mapM chars? with
    | some words => soFar.append (WordTree.layout (words.map fun word => (bytes word).reverse))
    | none =>
      match (layoutAll [] branches).reverse with
      | first :: second :: rest =>
        let two := second (first soFar)
        rest.foldl (fun l branch => branch l)
          ((two.add (Footprint.fork branches.length)).add Footprint.state)
      | few => few.foldl (fun l branch => branch l) soFar

/-- How the patterns are laid out, the last first, before what is `done`. -/
def layoutAll (done : List (Footprint → Footprint)) : List Pattern → List (Footprint → Footprint)
  | [] => done
  | pattern :: rest => layoutAll (layoutBackward pattern :: done) rest

end

/-- The memory of the whole automaton, or some memory above the limit if it does not fit. -/
def backwardBytes (pattern : Pattern) : Nat :=
  let anchored := pattern.closesText
  let lead : Footprint := ⟨if anchored then 1 else 3, Footprint.lead anchored⟩
  (pattern.layoutBackward lead).bytes + Footprint.state

end Pattern

end TableScript
