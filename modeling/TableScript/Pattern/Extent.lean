import TableScript.Pattern.Basic

set_option autoImplicit false

namespace TableScript.Pattern

mutual

/-- The least number of characters of a match, unless a part of the pattern cannot be matched at all. -/
def minLength? : Pattern → Option Nat
  | .empty => some 0
  | .literal chars => some chars.length
  | .set members => if members.spans.isEmpty then none else some 1
  | .look _ => some 0
  | .times body least _ _ => (minLength? body).map (· * least)
  | .group body => minLength? body
  | .concat parts => totalLength? 0 parts
  | .alternate branches => leastLength? none branches

/-- The sum of the least lengths, added to `total`. -/
def totalLength? (total : Nat) : List Pattern → Option Nat
  | [] => some total
  | pattern :: rest =>
    match minLength? pattern with
    | none => none
    | some length => totalLength? (total + length) rest

/-- The smallest of the least lengths and of `best`. -/
def leastLength? (best : Option Nat) : List Pattern → Option Nat
  | [] => best
  | pattern :: rest =>
    match minLength? pattern with
    | none => none
    | some length => leastLength? (some (best.elim length (min length))) rest

end

mutual

def opensText : Pattern → Bool
  | .look condition => condition == .textStart
  | .times body least _ _ => 0 < least && opensText body
  | .group body => opensText body
  | .concat parts => someOpensText parts
  | .alternate branches => allOpenText branches
  | _ => false

/-- Whether a part opens the text before anything can be read. -/
def someOpensText : List Pattern → Bool
  | [] => false
  | part :: rest => opensText part || (onlyEmpty part && someOpensText rest)

def allOpenText : List Pattern → Bool
  | [] => true
  | branch :: rest => opensText branch && allOpenText rest

end

mutual

def closesText : Pattern → Bool
  | .look condition => condition == .textEnd
  | .times body least _ _ => 0 < least && closesText body
  | .group body => closesText body
  | .concat parts => someClosesText parts
  | .alternate branches => allCloseText branches
  | _ => false

/-- Whether a part closes the text and nothing can be read after it. -/
def someClosesText : List Pattern → Bool
  | [] => false
  | part :: rest => (closesText part && allOnlyEmpty rest) || someClosesText rest

def allCloseText : List Pattern → Bool
  | [] => true
  | branch :: rest => closesText branch && allCloseText rest

end

end TableScript.Pattern
