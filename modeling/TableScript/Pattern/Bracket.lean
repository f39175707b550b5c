import TableScript.Pattern.Escape

set_option autoImplicit false

namespace TableScript.Pattern

structure Bracket where
  members : CharSet
  height : Nat
deriving DecidableEq, Repr

namespace Bracket

/-- How a part of a set joins the parts before it. -/
inductive Join where
  | inter
  | difference
  | symmetric
deriving DecidableEq, Repr

def Join.apply (left right : CharSet) : Join → CharSet
  | .inter => left.inter right
  | .difference => left.difference right
  | .symmetric => left.symmetric right

/-- An open bracket: what an operator has set aside, and the items since, the last first. -/
structure Open where
  negated : Bool
  earlier : Option (Bracket × Join)
  items : List Bracket
deriving Repr

def Open.current (frame : Open) : Bracket :=
  match frame.items with
  | [item] => item
  | [] => ⟨.nothing, 0⟩
  | items => ⟨.join (items.map (·.members)), items.foldl (fun most item => max most item.height) 0 + 1⟩

def Open.all (ignoreCase : Bool) (frame : Open) : Bracket :=
  match frame.earlier with
  | none => frame.current
  | some (left, joined) =>
    let right := frame.current
    ⟨joined.apply (left.members.spelled ignoreCase) (right.members.spelled ignoreCase),
      max left.height right.height + 1⟩

def Open.push (frame : Open) (members : CharSet) : Open :=
  { frame with items := ⟨members, 0⟩ :: frame.items }

/-- An operator stands after what is read so far. -/
def Open.join (ignoreCase : Bool) (frame : Open) (joined : Join) : Open :=
  ⟨frame.negated, some (frame.all ignoreCase, joined), []⟩

def complementIf (negated : Bool) (members : CharSet) : CharSet :=
  if negated then members.complement else members

def Open.close (ignoreCase : Bool) (frame : Open) : Bracket :=
  let inside := frame.all ignoreCase
  ⟨complementIf frame.negated (inside.members.spelled ignoreCase), inside.height + 1⟩

/-- Hyphens at the start of a set stand for themselves, each an item. -/
def hyphens (frame : Open) : List Char → Open × List Char
  | '-' :: rest => hyphens (frame.push (.single '-')) rest
  | text => (frame, text)

/-- Reads the start of a set after its first bracket. A closing bracket that comes first stands for itself. -/
def openAt (text : List Char) : Open × List Char :=
  let (negated, text) :=
    match text with
    | '^' :: rest => (true, rest)
    | _ => (false, text)
  match hyphens ⟨negated, none, []⟩ text with
  | (⟨negated, earlier, []⟩, ']' :: rest) => (⟨negated, earlier, [⟨.single ']', 0⟩]⟩, rest)
  | found => found

/-- The named sets of ASCII characters, as spans. -/
def namedSpans? : String → Option (List (Char × Char))
  | "alnum" => some [('0', '9'), ('A', 'Z'), ('a', 'z')]
  | "alpha" => some [('A', 'Z'), ('a', 'z')]
  | "ascii" => some [('\x00', '\x7f')]
  | "blank" => some [('\t', '\t'), (' ', ' ')]
  | "cntrl" => some [('\x00', '\x1f'), ('\x7f', '\x7f')]
  | "digit" => some [('0', '9')]
  | "graph" => some [('!', '~')]
  | "lower" => some [('a', 'z')]
  | "print" => some [(' ', '~')]
  | "punct" => some [('!', '/'), (':', '@'), ('[', '\x60'), ('\x7b', '~')]
  | "space" => some [('\t', '\r'), (' ', ' ')]
  | "upper" => some [('A', 'Z')]
  | "word" => some [('0', '9'), ('A', 'Z'), ('_', '_'), ('a', 'z')]
  | "xdigit" => some [('0', '9'), ('A', 'F'), ('a', 'f')]
  | _ => none

/-- A named set such as `[:digit:]` or `[:^digit:]`, after its first bracket. -/
def named? (ignoreCase : Bool) (text : List Char) : Option (CharSet × List Char) :=
  match text with
  | ':' :: rest =>
    let (negated, rest) :=
      match rest with
      | '^' :: after => (true, after)
      | _ => (false, rest)
    match rest.span (· != ':') with
    | (name, ':' :: ']' :: after) =>
      (namedSpans? (String.ofList name)).map fun spans =>
        let members := CharSet.join (spans.map fun (first, last) => .ofRange first last)
        (complementIf negated (members.spelled ignoreCase), after)
    | _ => none
  | _ => none

/-- One member of a set: a character or the set of an escape. -/
def member? : List Char → Option (Escape × List Char)
  | [] => none
  | '\\' :: rest =>
    match Escape.read? rest with
    | some (.look _, _) => none
    | found => found
  | c :: rest => some (.char c, rest)

def setOf : Escape → CharSet
  | .char c => .single c
  | .set members => members
  | .look _ => .nothing

/-- A member or a range of characters. A hyphen before a closing bracket or another hyphen makes no range. -/
def range? (text : List Char) : Option (CharSet × List Char) :=
  match member? text with
  | none => none
  | some (first, rest) =>
    match rest with
    | [] => none
    | '-' :: after =>
      match after with
      | [] => none
      | ']' :: _ => some (setOf first, rest)
      | '-' :: _ => some (setOf first, rest)
      | _ =>
        match first, member? after with
        | .char low, some (.char high, remaining) =>
          if low.toNat ≤ high.toNat then some (.ofRange low high, remaining) else none
        | _, _ => none
    | _ => some (setOf first, rest)

/-- Reads the rest of a set: `frame` is the innermost open bracket, `enclosing` are those around it. Every
round reads a character, so `fuel` need not exceed the length of the text. -/
def readRest? (ignoreCase : Bool) :
    Nat → Open → List Open → List Char → Option (Bracket × List Char)
  | 0, _, _, _ => none
  | _, _, _, [] => none
  | fuel + 1, frame, enclosing, ']' :: rest =>
    let closed := frame.close ignoreCase
    match enclosing with
    | [] => some (closed, rest)
    | outer :: others =>
      readRest? ignoreCase fuel { outer with items := closed :: outer.items } others rest
  | fuel + 1, frame, enclosing, '&' :: '&' :: rest =>
    readRest? ignoreCase fuel (frame.join ignoreCase .inter) enclosing rest
  | fuel + 1, frame, enclosing, '-' :: '-' :: rest =>
    readRest? ignoreCase fuel (frame.join ignoreCase .difference) enclosing rest
  | fuel + 1, frame, enclosing, '~' :: '~' :: rest =>
    readRest? ignoreCase fuel (frame.join ignoreCase .symmetric) enclosing rest
  | fuel + 1, frame, enclosing, '[' :: rest =>
    match named? ignoreCase rest with
    | some (members, after) => readRest? ignoreCase fuel (frame.push members) enclosing after
    | none =>
      let (inner, after) := openAt rest
      readRest? ignoreCase fuel inner (frame :: enclosing) after
  | fuel + 1, frame, enclosing, text =>
    match range? text with
    | some (members, after) => readRest? ignoreCase fuel (frame.push members) enclosing after
    | none => none

/-- Reads a set after its first bracket. The text is not longer than `fuel`. -/
def read? (ignoreCase : Bool) (fuel : Nat) (text : List Char) : Option (Bracket × List Char) :=
  let (frame, rest) := openAt text
  readRest? ignoreCase (fuel + 1) frame [] rest

end Bracket

end TableScript.Pattern
