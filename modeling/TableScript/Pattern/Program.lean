import TableScript.Pattern.Basic

set_option autoImplicit false

namespace TableScript

inductive Step where
  | read (members : CharSet)
  | check (condition : Look)
  /-- Goes on both with the next step and after leaving out `skip` steps. -/
  | fork (skip : Nat)
  | jump (skip : Nat)
  /-- Goes on both with the next step and `back` steps before this one. -/
  | again (back : Nat)
deriving DecidableEq, Repr

abbrev Program := Array Step

namespace Pattern

def copies (part : Program) : Nat → Program → Program
  | 0, program => program
  | count + 1, program => copies part count (program ++ part)

/-- Up to `count` copies of a part: before each, the rest can be left out. -/
def optionalCopies (part : Program) : Nat → Program → Program
  | 0, program => program
  | count + 1, program =>
    optionalCopies part count (program.push (.fork ((count + 1) * (part.size + 1) - 1)) ++ part)

def repetition (part : Program) (least : Nat) (most : Option Nat) : Program :=
  match most with
  | some most => optionalCopies part (most - least) (copies part least #[])
  | none =>
    let repeating := part.push (.again part.size)
    if least = 0 then #[.fork repeating.size] ++ repeating
    else copies part (least - 1) #[] ++ repeating

/-- Tries all branches; `size` is the length of the program for those that are left. -/
def alternatives (size : Nat) (program : Program) : List Program → Program
  | [] => program
  | [branch] => program ++ branch
  | branch :: rest =>
    let left := size - (branch.size + 2)
    alternatives left (program.push (.fork (branch.size + 1)) ++ branch |>.push (.jump left)) rest

mutual

def program : Pattern → Program
  | .empty => #[]
  | .literal chars => (chars.map fun c => Step.read (.single c)).toArray
  | .set members => #[.read members]
  | .look condition => #[.check condition]
  | .times body least most _ => repetition (program body) least most
  | .group body => program body
  | .concat parts => (programs [] parts).foldr (fun part whole => whole ++ part) #[]
  | .alternate branches =>
    let all := (programs [] branches).reverse
    alternatives (all.foldl (fun size branch => size + branch.size + 2) 0 - 2) #[] all

/-- The programs of the patterns, the last first, before what is `done`. -/
def programs (done : List Program) : List Pattern → List Program
  | [] => done
  | pattern :: rest => programs (program pattern :: done) rest

end

end Pattern

namespace Program

/-- What can be reached at one place in the text: for each step the last place where it was reached, the
steps that read a character here, and whether a match was found. -/
structure Reached where
  seen : Array Nat
  reading : List Nat
  found : Bool

/-- Follows the steps that read nothing from those that are waiting. Each step leads to at most two others
and is followed once, so three times the length of the program is enough fuel. -/
def follow (program : Program) (before after : Option Char) (place : Nat) :
    Nat → List Nat → Array Nat → List Nat → Reached
  | 0, _, seen, reading => ⟨seen, reading, false⟩
  | _, [], seen, reading => ⟨seen, reading, false⟩
  | fuel + 1, index :: waiting, seen, reading =>
    if seen.getD index 0 = place then follow program before after place fuel waiting seen reading
    else
      let seen := seen.setIfInBounds index place
      match program[index]? with
      | none => ⟨seen, reading, true⟩
      | some (.read _) => follow program before after place fuel waiting seen (index :: reading)
      | some (.check condition) =>
        if condition.holds before after then
          follow program before after place fuel ((index + 1) :: waiting) seen reading
        else follow program before after place fuel waiting seen reading
      | some (.fork skip) =>
        follow program before after place fuel ((index + 1) :: (index + 1 + skip) :: waiting) seen reading
      | some (.jump skip) =>
        follow program before after place fuel ((index + 1 + skip) :: waiting) seen reading
      | some (.again back) =>
        follow program before after place fuel ((index + 1) :: (index - back) :: waiting) seen reading

/-- Puts the steps that come after reading the character before those that are `ready`. -/
def advance (program : Program) (c : Char) (ready : List Nat) : List Nat → List Nat
  | [] => ready
  | index :: rest =>
    match program[index]? with
    | some (.read members) =>
      if members.contains c then advance program c ((index + 1) :: ready) rest
      else advance program c ready rest
    | _ => advance program c ready rest

/-- Looks for a match that is under way in the given steps, or starts at this place or later. -/
def search (program : Program) (place : Nat) (before : Option Char) (steps : List Nat)
    (seen : Array Nat) : List Char → Bool
  | [] => (follow program before none place (3 * (program.size + 1)) (0 :: steps) seen []).found
  | c :: rest =>
    match follow program before (some c) place (3 * (program.size + 1)) (0 :: steps) seen [] with
    | ⟨seen, reading, found⟩ =>
      found || search program (place + 1) (some c) (advance program c [] reading) seen rest

def isMatch (program : Program) (text : String) : Bool :=
  search program 1 none [] (Array.replicate (program.size + 1) 0) text.toList

end Program

end TableScript
