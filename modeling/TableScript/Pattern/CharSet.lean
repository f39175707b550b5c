import TableScript.Text.Blank
import TableScript.Text.CaseMap
import TableScript.Text.WordChar

set_option autoImplicit false

namespace TableScript

structure Span where
  first : Nat
  last : Nat
deriving DecidableEq, Repr

namespace Span

def contains (span : Span) (code : Nat) : Bool := span.first ≤ code && code ≤ span.last

/-- Whether one of the spans of a sorted list holds the code point. -/
def anyContains : List Span → Nat → Bool
  | [], _ => false
  | span :: rest, code =>
    if code < span.first then false else span.contains code || anyContains rest code

/-- Joins the spans that overlap or touch, in a list that is sorted and starts with `current`. -/
def joinFrom (current : Span) : List Span → List Span
  | [] => [current]
  | next :: rest =>
    if next.first ≤ current.last + 1 then joinFrom ⟨current.first, max current.last next.last⟩ rest
    else current :: joinFrom next rest

def lastCode : Nat := 0x10ffff

/-- What lies between the spans of a sorted list, from the code point `start` on. -/
def gapsFrom (start : Nat) : List Span → List Span
  | [] => if start ≤ lastCode then [⟨start, lastCode⟩] else []
  | span :: rest =>
    if start < span.first then ⟨start, span.first - 1⟩ :: gapsFrom (span.last + 1) rest
    else gapsFrom (span.last + 1) rest

/-- The code points that are no characters. -/
def surrogates : Span := ⟨0xd800, 0xdfff⟩

end Span

structure CharSet where
  spans : List Span
deriving DecidableEq, Repr

namespace CharSet

def nothing : CharSet := ⟨[]⟩

def ofSpans (spans : List Span) : CharSet :=
  match spans.mergeSort (fun a b => a.first ≤ b.first) with
  | [] => .nothing
  | span :: rest => ⟨Span.joinFrom span rest⟩

def ofChars (chars : List Char) : CharSet := ofSpans (chars.map fun c => ⟨c.toNat, c.toNat⟩)

def single (c : Char) : CharSet := ⟨[⟨c.toNat, c.toNat⟩]⟩

def containsCode (set : CharSet) (code : Nat) : Bool := Span.anyContains set.spans code

def contains (set : CharSet) (c : Char) : Bool := set.containsCode c.toNat

def join (sets : List CharSet) : CharSet := ofSpans (sets.flatMap (·.spans))

def union (left right : CharSet) : CharSet := join [left, right]

def complement (set : CharSet) : CharSet :=
  ⟨Span.gapsFrom 0 (ofSpans (Span.surrogates :: set.spans)).spans⟩

def inter (left right : CharSet) : CharSet := (left.complement.union right.complement).complement

def difference (left right : CharSet) : CharSet := (left.complement.union right).complement

/-- What is in exactly one of the two sets. -/
def symmetric (left right : CharSet) : CharSet := (left.union right).difference (left.inter right)

def ofRange (first last : Char) : CharSet :=
  difference ⟨[⟨first.toNat, last.toNat⟩]⟩ .nothing

/-- The only member of a set, if it has only one. -/
def single? (set : CharSet) : Option Char :=
  match set.spans with
  | [span] => if span.first = span.last then some (Char.ofNat span.first) else none
  | _ => none

def isAscii (set : CharSet) : Bool := set.spans.all (·.last < 0x80)

def codesOf (run : CharRun) : List Nat :=
  (List.range ((run.last - run.first) / run.step + 1)).map (run.first + run.step * ·)

def ofRuns (runs : List CharRun) : CharSet :=
  ofSpans <| runs.flatMap fun run =>
    if run.step = 1 then [⟨run.first, run.last⟩] else (codesOf run).map fun code => ⟨code, code⟩

def digits : CharSet := ofRuns Text.digitRuns

def wordChars : CharSet := ofRuns Text.wordRuns

def blanks : CharSet := ofRuns Text.blankRuns

def lineBreak : CharSet := .single '\n'

/-- Whether a code point from `first` to `last` is in the set. -/
def meets (set : CharSet) (first last : Nat) : Bool :=
  set.spans.any fun span => span.first ≤ last && first ≤ span.last

def shift (offset : Int) (code : Nat) : Nat := ((code : Int) + offset).toNat

/-- The common forms of the letters of a run that are in the set. -/
def formsOf (set : CharSet) (entry : CaseRun) : List Nat :=
  if set.meets entry.run.first entry.run.last then
    ((codesOf entry.run).filter set.containsCode).map (shift entry.offset)
  else []

/-- The letters of a run whose common form is in the set. -/
def lettersOf (set : CharSet) (entry : CaseRun) : List Nat :=
  if set.meets (shift entry.offset entry.run.first) (shift entry.offset entry.run.last) then
    (codesOf entry.run).filter fun code => set.containsCode (shift entry.offset code)
  else []

def addCodes (set : CharSet) (codes : List Nat) : CharSet :=
  ofSpans (codes.map (fun code => ⟨code, code⟩) ++ set.spans)

/-- The set with all spellings of its letters. The common forms are added first, then what shares them. -/
def addSpellings (set : CharSet) : CharSet :=
  let withForms := set.addCodes (Text.foldRuns.flatMap (formsOf set))
  withForms.addCodes (Text.foldRuns.flatMap (lettersOf withForms))

/-- The set itself or, if case is ignored, with all spellings. -/
def spelled (ignoreCase : Bool) (set : CharSet) : CharSet :=
  if ignoreCase then set.addSpellings else set

end CharSet

end TableScript
