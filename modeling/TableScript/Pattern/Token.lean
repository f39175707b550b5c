import TableScript.Pattern.Bracket
import TableScript.Text.Letter

set_option autoImplicit false

namespace TableScript.Pattern

inductive Flag where
  | ignoreCase
  | multiLine
  | dotAll
  | swapGreed
  | unicode
  | verbose
  | crlf
deriving DecidableEq, Repr

def Flag.ofChar? : Char → Option Flag
  | 'i' => some .ignoreCase
  | 'm' => some .multiLine
  | 's' => some .dotAll
  | 'U' => some .swapGreed
  | 'u' => some .unicode
  | 'x' => some .verbose
  | 'R' => some .crlf
  | _ => none

structure FlagChange where
  on : List Flag
  off : List Flag
deriving DecidableEq, Repr

inductive GroupKind where
  | recorded (name : Option String)
  | flagged (change : FlagChange)
deriving DecidableEq, Repr

inductive Token where
  | char (c : Char)
  | set (members : CharSet)
  | bracket (written : Bracket)
  | dot
  | caret
  | dollar
  | look (condition : Look)
  | times (least : Nat) (most : Option Nat) (greedy : Bool)
  | bar
  | openGroup (kind : GroupKind)
  | switch (change : FlagChange)
  | close
deriving DecidableEq, Repr

namespace Token

/-- Counts of a repetition are below this bound. -/
def countBound : Nat := 4294967296

/-- A decimal count and what follows it, blanks around it ignored. -/
def count? (text : List Char) : Option (Nat × List Char) :=
  let (digits, rest) := (text.dropWhile Text.isBlank).span Char.isDigit
  if digits.isEmpty then none
  else
    let value := digits.foldl (fun total c => 10 * total + (c.toNat - '0'.toNat)) 0
    if value < countBound then some (value, rest.dropWhile Text.isBlank) else none

/-- The bounds of a repetition, after the opening brace. A comma that directly precedes the closing brace
leaves the number of rounds open. -/
def bounds? (text : List Char) : Option (Nat × Option Nat × List Char) :=
  match count? text with
  | none => none
  | some (least, '\x7d' :: after) => some (least, some least, after)
  | some (least, ',' :: '\x7d' :: after) => some (least, none, after)
  | some (least, ',' :: rest) =>
    match count? rest with
    | some (most, '\x7d' :: after) => if least ≤ most then some (least, some most, after) else none
    | _ => none
  | some _ => none

/-- A repetition, which is lazy if a question mark follows. -/
def repetition (least : Nat) (most : Option Nat) : List Char → Token × List Char
  | '?' :: rest => (.times least most false, rest)
  | text => (.times least most true, text)

def isNameStart (c : Char) : Bool := c == '_' || Text.isLetter c

def isNameRest (c : Char) : Bool :=
  c == '_' || c == '.' || c == '[' || c == ']' || Text.isLetter c || Text.isNumeral c

/-- The name of a group, up to its closing angle bracket. -/
def groupName? (text : List Char) : Option (String × List Char) :=
  match text.span (· != '>') with
  | (c :: name, '>' :: after) =>
    if isNameStart c && name.all isNameRest then some (String.ofList (c :: name), after) else none
  | _ => none

/-- Flag letters, with at most one minus before those that are switched off. Each letter occurs once and
the minus is not the last. Returns the character that ended them. -/
def flags? : FlagChange → Bool → Bool → List Char → Option (FlagChange × Char × List Char)
  | _, _, _, [] => none
  | change, negative, dangling, c :: rest =>
    if c = ':' ∨ c = ')' then if dangling then none else some (change, c, rest)
    else if c = '-' then if negative then none else flags? change true true rest
    else
      match Flag.ofChar? c with
      | none => none
      | some flag =>
        if flag ∈ change.on ∨ flag ∈ change.off then none
        else if negative then flags? { change with off := flag :: change.off } true false rest
        else flags? { change with on := flag :: change.on } false false rest

def namedGroup? (text : List Char) : Option (Token × List Char) :=
  (groupName? text).map fun (name, after) => (.openGroup (.recorded (some name)), after)

def group? : List Char → Option (Token × List Char)
  | '?' :: 'P' :: '<' :: rest => namedGroup? rest
  | '?' :: '<' :: '=' :: _ => none
  | '?' :: '<' :: '!' :: _ => none
  | '?' :: '<' :: rest => namedGroup? rest
  | '?' :: ')' :: _ => none
  | '?' :: rest =>
    (flags? ⟨[], []⟩ false false rest).map fun (change, stop, after) =>
      if stop = ':' then (.openGroup (.flagged change), after) else (.switch change, after)
  | rest => some (.openGroup (.recorded none), rest)

/-- The token at the start of a nonempty text that is not longer than `fuel`. -/
def next? (ignoreCase : Bool) (fuel : Nat) : List Char → Option (Token × List Char)
  | [] => none
  | c :: rest =>
    match c with
    | '.' => some (.dot, rest)
    | '^' => some (.caret, rest)
    | '$' => some (.dollar, rest)
    | '|' => some (.bar, rest)
    | ')' => some (.close, rest)
    | '(' => group? rest
    | '[' => (Bracket.read? ignoreCase fuel rest).map fun (written, after) => (.bracket written, after)
    | '*' => some (repetition 0 none rest)
    | '+' => some (repetition 1 none rest)
    | '?' => some (repetition 0 (some 1) rest)
    | '\x7b' => (bounds? rest).map fun (least, most, after) => repetition least most after
    | '\\' =>
      (Escape.read? rest).map fun (found, after) =>
        match found with
        | .char e => (.char e, after)
        | .set members => (.set members, after)
        | .look condition => (.look condition, after)
    | _ => some (.char c, rest)

end Token

end TableScript.Pattern
