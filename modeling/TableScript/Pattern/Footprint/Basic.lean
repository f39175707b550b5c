import TableScript.Pattern.ByteRange
import TableScript.Pattern.Extent

set_option autoImplicit false

namespace TableScript

/-- How much of an automaton is laid out: the number of states and their memory. -/
structure Footprint where
  states : Nat
  bytes : Nat
deriving DecidableEq, Repr

namespace Footprint

def limit : Nat := 10485760

def state : Nat := 32

def fork (ways : Nat) : Nat := state + 4 * ways

def reader (ranges : Nat) : Nat := state + 8 * ranges

/-- What stands before a pattern: a loop over any byte or, if the pattern is matched only where the text
begins, a state that does nothing. -/
def lead (anchored : Bool) : Nat := if anchored then state else fork 2 + state + reader 1

/-- What is recorded has a state before and a state after it. -/
def record : Nat := 2 * state

def nothing : Footprint := ⟨0, 0⟩

def fits (soFar : Footprint) : Bool := soFar.bytes ≤ Footprint.limit

def add (bytes : Nat) (soFar : Footprint) : Footprint := ⟨soFar.states + 1, soFar.bytes + bytes⟩

/-- `count` more states that read one byte each, or nothing. -/
def addStates (count : Nat) (soFar : Footprint) : Footprint :=
  ⟨soFar.states + count, soFar.bytes + count * Footprint.state⟩

def append (soFar more : Footprint) : Footprint :=
  ⟨soFar.states + more.states, soFar.bytes + more.bytes⟩

/-- The same part `count` times, or until the limit is passed. -/
def repeatWhileFits (part : Footprint → Footprint) : Nat → Footprint → Footprint
  | 0, soFar => soFar
  | count + 1, soFar => if soFar.fits then repeatWhileFits part count (part soFar) else soFar

end Footprint

namespace Pattern

def chars? : Pattern → Option (List Char)
  | .literal chars => some chars
  | _ => none

def bytes (chars : List Char) : List Nat := chars.flatMap fun c => ByteRange.encode c.toNat

end Pattern

end TableScript
