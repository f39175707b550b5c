import TableScript.Pattern.CharSet

set_option autoImplicit false

namespace TableScript

/-- Conditions on a place between two characters. -/
inductive Look where
  | textStart
  | textEnd
  | lineStart
  | lineEnd
  | wordBoundary
  | notWordBoundary
  | wordStart
  | wordEnd
  | wordStartHalf
  | wordEndHalf
deriving DecidableEq, Repr

/-- Whether the condition holds between the character before and the character after. -/
def Look.holds (before after : Option Char) : Look → Bool
  | .textStart => before.isNone
  | .textEnd => after.isNone
  | .lineStart => before.isNone || before == some '\n'
  | .lineEnd => after.isNone || after == some '\n'
  | .wordBoundary => before.any Text.isWord != after.any Text.isWord
  | .notWordBoundary => before.any Text.isWord == after.any Text.isWord
  | .wordStart => !before.any Text.isWord && after.any Text.isWord
  | .wordEnd => before.any Text.isWord && !after.any Text.isWord
  | .wordStartHalf => !before.any Text.isWord
  | .wordEndHalf => !after.any Text.isWord

inductive Pattern where
  | empty
  | literal (chars : List Char)
  | set (members : CharSet)
  | look (condition : Look)
  /-- At least `least` times, and at most `most` times if that is given. A greedy repetition prefers many
  rounds, which changes what is matched first but not whether. -/
  | times (body : Pattern) (least : Nat) (most : Option Nat) (greedy : Bool)
  /-- A part that is recorded when it is matched. -/
  | group (body : Pattern)
  | concat (parts : List Pattern)
  | alternate (branches : List Pattern)

namespace Pattern

mutual

/-- Whether nothing but the empty text can be matched. -/
def onlyEmpty : Pattern → Bool
  | .empty => true
  | .literal _ => false
  | .set _ => false
  | .look _ => true
  | .times body _ _ _ => onlyEmpty body
  | .group body => onlyEmpty body
  | .concat parts => allOnlyEmpty parts
  | .alternate branches => allOnlyEmpty branches

def allOnlyEmpty : List Pattern → Bool
  | [] => true
  | pattern :: rest => onlyEmpty pattern && allOnlyEmpty rest

end

mutual

/-- Whether two patterns are written alike. A group is like no other, since it is recorded on its own. -/
def alike : Pattern → Pattern → Bool
  | .empty, .empty => true
  | .literal chars, .literal others => chars == others
  | .set members, .set others => members == others
  | .look condition, .look other => condition == other
  | .times body least most greedy, .times body' least' most' greedy' =>
    least == least' && most == most' && greedy == greedy' && alike body body'
  | .concat parts, .concat others => allAlike parts others
  | .alternate branches, .alternate others => allAlike branches others
  | _, _ => false

def allAlike : List Pattern → List Pattern → Bool
  | [], [] => true
  | pattern :: rest, other :: others => alike pattern other && allAlike rest others
  | _, _ => false

end

/-- A set with a single member is that character. -/
def ofSet (members : CharSet) : Pattern :=
  match members.single? with
  | some c => .literal [c]
  | none => .set members

def parts : Pattern → List Pattern
  | .empty => []
  | .concat items => items
  | pattern => [pattern]

def branches : Pattern → List Pattern
  | .alternate options => options
  | pattern => [pattern]

/-- Adds a literal, given in reverse, to the parts before it. -/
def endLiteral (pending : List Char) (done : List Pattern) : List Pattern :=
  if pending.isEmpty then done else .literal pending.reverse :: done

/-- Joins neighbouring literals. What is done, and the literal that is pending, are kept in reverse. -/
def joinLiterals (pending : List Char) (done : List Pattern) : List Pattern → List Pattern
  | [] => (endLiteral pending done).reverse
  | .literal chars :: rest => joinLiterals (chars.reverseAux pending) done rest
  | part :: rest => joinLiterals [] (part :: endLiteral pending done) rest

def seq (patterns : List Pattern) : Pattern :=
  match joinLiterals [] [] (patterns.flatMap parts) with
  | [] => .empty
  | [part] => part
  | several => .concat several

def singleChar? : Pattern → Option Char
  | .literal [c] => some c
  | _ => none

def members? : Pattern → Option CharSet
  | .set members => some members
  | _ => none

/-- A choice of branches. If all are characters, or all are sets, it is a set. -/
def oneOf (options : List Pattern) : Pattern :=
  match options with
  | [option] => option
  | _ =>
    match options.mapM singleChar? with
    | some chars => ofSet (.ofChars chars)
    | none =>
      match options.mapM members? with
      | some sets => ofSet (.join sets)
      | none => .alternate options

/-- The parts of a sequence; other patterns have none. -/
def sequence? : Pattern → Option (List Pattern)
  | .concat items => some items
  | _ => none

/-- The parts with which both lists begin. -/
def commonStart : List Pattern → List Pattern → List Pattern
  | part :: rest, other :: others => if alike part other then part :: commonStart rest others else []
  | _, _ => []

/-- A choice of branches, with what all begin with put before it. -/
def choice (options : List Pattern) : Pattern :=
  match oneOf (options.flatMap branches) with
  | .alternate flat =>
    match flat.mapM sequence? with
    | some (first :: others) =>
      let start := others.foldl commonStart first
      if start.isEmpty then .alternate flat
      else
        let ends := (first :: others).map fun items => seq (items.drop start.length)
        seq (start ++ [oneOf (ends.flatMap branches)])
    | _ => .alternate flat
  | pattern => pattern

/-- A repetition. What matches only the empty text is not repeated more than once. -/
def repeated (body : Pattern) (least : Nat) (most : Option Nat) (greedy : Bool) : Pattern :=
  let (least, most) :=
    if onlyEmpty body then (min least 1, some (min (most.getD 1) 1)) else (least, most)
  if least = 0 ∧ most = some 0 then .empty
  else if least = 1 ∧ most = some 1 then body
  else .times body least most greedy

end Pattern

end TableScript
