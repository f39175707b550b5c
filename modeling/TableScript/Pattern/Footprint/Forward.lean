import TableScript.Pattern.Footprint.WordTree

set_option autoImplicit false

namespace TableScript

namespace ByteRange

/-- Sequences that begin with the same range, as that range and what follows it. -/
def groupByFirst : List (List ByteRange) → List (ByteRange × List (List ByteRange))
  | [] => []
  | [] :: rest => groupByFirst rest
  | (range :: tail) :: rest =>
    match groupByFirst rest with
    | [] => [(range, [tail])]
    | (next, tails) :: more =>
      if range = next then (range, tail :: tails) :: more else (range, [tail]) :: (next, tails) :: more

/-- The states that read the sequences, each given by what can be read from it. A sequence has at most
`depth` ranges. -/
def readers : Nat → List (List ByteRange) → List (List (List ByteRange))
  | 0, _ => []
  | depth + 1, ranges =>
    ranges :: (groupByFirst ranges).flatMap fun (_, tails) =>
      if tails = [[]] then [] else readers depth tails

end ByteRange

def CharSet.forwardBytes (set : CharSet) : Nat :=
  if set.isAscii then Footprint.state + Footprint.reader set.spans.length
  else
    (ByteRange.readers 4 set.byteRanges).eraseDups.foldl
      (fun total ranges => total + Footprint.reader (ByteRange.groupByFirst ranges).length)
      Footprint.state

namespace Pattern

/-- The memory of a repetition whose body takes `body` bytes. -/
def repetitionBytes (body : Nat) (mayBeEmpty : Bool) (least : Nat) : Option Nat → Nat
  | none =>
    if least = 0 then
      if mayBeEmpty then body + 2 * Footprint.fork 2 + Footprint.state else Footprint.fork 2 + body
    else least * body + Footprint.fork 2
  | some most =>
    let required := if least = 0 then Footprint.state else least * body
    if least = 0 ∧ most = 1 then Footprint.fork 2 + body + Footprint.state
    else if least < most then
      required + Footprint.state + (most - least) * (Footprint.fork 2 + body)
    else required

mutual

def bodyBytes : Pattern → Nat
  | .empty => Footprint.state
  | .literal chars => (bytes chars).length * Footprint.state
  | .set members => members.forwardBytes
  | .look _ => Footprint.state
  | .times body least most _ =>
    repetitionBytes (bodyBytes body) (!(minLength? body).any (0 < ·)) least most
  | .group body => Footprint.record + bodyBytes body
  | .concat parts => totalBytes 0 parts
  | .alternate branches =>
    match branches.mapM chars? with
    | some words => (WordTree.layout (words.map bytes)).bytes
    | none => totalBytes (Footprint.fork branches.length + Footprint.state) branches

def totalBytes (total : Nat) : List Pattern → Nat
  | [] => total
  | pattern :: rest => totalBytes (total + bodyBytes pattern) rest

end

/-- The memory of the whole automaton. The match is recorded as a group is, and a state ends it. -/
def forwardBytes (pattern : Pattern) : Nat :=
  Footprint.lead pattern.opensText + Footprint.record + pattern.bodyBytes + Footprint.state

end Pattern

end TableScript
