import TableScript.Pattern.Basic

set_option autoImplicit false

namespace TableScript.Pattern

inductive Escape where
  | char (c : Char)
  | set (members : CharSet)
  | look (condition : Look)
deriving DecidableEq, Repr

namespace Escape

def hexValue? (c : Char) : Option Nat :=
  if '0' ≤ c ∧ c ≤ '9' then some (c.toNat - '0'.toNat)
  else if 'a' ≤ c ∧ c ≤ 'f' then some (c.toNat - 'a'.toNat + 10)
  else if 'A' ≤ c ∧ c ≤ 'F' then some (c.toNat - 'A'.toNat + 10)
  else none

/-- The character with the code point written in hexadecimal, if it is one. -/
def hexChar? (digits : List Char) : Option Char :=
  if digits = [] then none
  else
    (digits.mapM hexValue?).bind fun values =>
      let code := values.foldl (fun total value => 16 * total + value) 0
      if code ≤ Span.lastCode ∧ ¬ Span.surrogates.contains code then some (Char.ofNat code) else none

/-- A code point in braces, or in exactly `width` digits. -/
def hex? (width : Nat) : List Char → Option (Escape × List Char)
  | '\x7b' :: rest =>
    match rest.span (· != '\x7d') with
    | (digits, '\x7d' :: after) => (hexChar? digits).map (.char ·, after)
    | _ => none
  | text =>
    let digits := text.take width
    if digits.length = width then (hexChar? digits).map (.char ·, text.drop width) else none

/-- The conditions that are named in braces after `\b`. -/
def namedBoundary? : String → Option Look
  | "start" => some .wordStart
  | "end" => some .wordEnd
  | "start-half" => some .wordStartHalf
  | "end-half" => some .wordEndHalf
  | _ => none

/-- What follows `\b`: the name of a condition in braces, if there is one. -/
def boundary? (text : List Char) : Option (Escape × List Char) :=
  match text with
  | '\x7b' :: rest =>
    match rest.span fun c => c.isAlpha || c == '-' with
    | (name, '\x7d' :: after) =>
      (namedBoundary? (String.ofList name)).map fun condition => (.look condition, after)
    | _ => some (.look .wordBoundary, text)
  | _ => some (.look .wordBoundary, text)

/-- ASCII characters other than letters and digits may be escaped. -/
def isEscapable (c : Char) : Bool := c.toNat < 0x80 && !c.isAlphanum

def read? : List Char → Option (Escape × List Char)
  | [] => none
  | c :: rest =>
    match c with
    | 'd' => some (.set .digits, rest)
    | 'D' => some (.set CharSet.digits.complement, rest)
    | 'w' => some (.set .wordChars, rest)
    | 'W' => some (.set CharSet.wordChars.complement, rest)
    | 's' => some (.set .blanks, rest)
    | 'S' => some (.set CharSet.blanks.complement, rest)
    | 'a' => some (.char '\x07', rest)
    | 'f' => some (.char '\x0c', rest)
    | 't' => some (.char '\t', rest)
    | 'n' => some (.char '\n', rest)
    | 'r' => some (.char '\r', rest)
    | 'v' => some (.char '\x0b', rest)
    | 'A' => some (.look .textStart, rest)
    | 'z' => some (.look .textEnd, rest)
    | 'b' => boundary? rest
    | 'B' => some (.look .notWordBoundary, rest)
    | '<' => some (.look .wordStart, rest)
    | '>' => some (.look .wordEnd, rest)
    | 'x' => hex? 2 rest
    | 'u' => hex? 4 rest
    | 'U' => hex? 8 rest
    | _ => if isEscapable c then some (.char c, rest) else none

end Escape

end TableScript.Pattern
