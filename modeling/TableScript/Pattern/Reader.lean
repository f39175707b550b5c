import TableScript.Pattern.Token

set_option autoImplicit false

namespace TableScript.Pattern

structure Flags where
  ignoreCase : Bool
  multiLine : Bool
  dotAll : Bool
  swapGreed : Bool
  verbose : Bool
deriving DecidableEq, Repr

def Flags.initial : Flags := ⟨false, false, false, false, false⟩

def Flags.set (flags : Flags) (value : Bool) : Flag → Flags
  | .ignoreCase => { flags with ignoreCase := value }
  | .multiLine => { flags with multiLine := value }
  | .dotAll => { flags with dotAll := value }
  | .swapGreed => { flags with swapGreed := value }
  | .verbose => { flags with verbose := value }
  | .unicode => flags
  | .crlf => flags

def Flags.apply (flags : Flags) (change : FlagChange) : Flags :=
  change.off.foldl (fun f flag => f.set false flag) (change.on.foldl (fun f flag => f.set true flag) flags)

structure Piece where
  pattern : Pattern
  height : Nat
  /-- A flag switch cannot be repeated. -/
  repeatable : Bool

def Piece.of (pattern : Pattern) : Piece := ⟨pattern, 0, true⟩

def Piece.maxHeight (pieces : List Piece) : Nat := pieces.foldl (fun most piece => max most piece.height) 0

def Piece.sequence (pieces : List Piece) : Piece :=
  match pieces with
  | [] => .of .empty
  | [piece] => piece
  | _ => ⟨seq (pieces.reverse.map (·.pattern)), maxHeight pieces + 1, true⟩

/-- An open group: its finished alternatives and the pieces of the current one, the last of each first. -/
structure Frame where
  outer : Flags
  recorded : Bool
  alternatives : List Piece
  pieces : List Piece

/-- What the group holds, once its last alternative is complete. -/
def Frame.content (frame : Frame) : Piece :=
  let last := Piece.sequence frame.pieces
  match frame.alternatives with
  | [] => last
  | earlier =>
    let all := last :: earlier
    ⟨choice (all.reverse.map (·.pattern)), Piece.maxHeight all + 1, true⟩

def Frame.close (frame : Frame) : Piece :=
  let content := frame.content
  let pattern := if frame.recorded then .group content.pattern else content.pattern
  ⟨pattern, content.height + 1, true⟩

/-- The open groups, the flags in force and the group names used so far. -/
structure ReadState where
  flags : Flags
  current : Frame
  enclosing : List Frame
  names : List String

def ReadState.initial : ReadState := ⟨.initial, ⟨.initial, false, [], []⟩, [], []⟩

def maxHeight : Nat := 250

def ReadState.pushPiece? (state : ReadState) (piece : Piece) : Option ReadState :=
  if piece.height ≤ maxHeight then
    some { state with current := { state.current with pieces := piece :: state.current.pieces } }
  else none

def ReadState.push? (state : ReadState) (pattern : Pattern) : Option ReadState :=
  state.pushPiece? (.of pattern)

def ReadState.repeat? (state : ReadState) (least : Nat) (most : Option Nat) (greedy : Bool) :
    Option ReadState :=
  match state.current.pieces with
  | [] => none
  | piece :: rest =>
    if piece.repeatable then
      { state with current := { state.current with pieces := rest } }.pushPiece?
        ⟨repeated piece.pattern least most (greedy != state.flags.swapGreed), piece.height + 1, true⟩
    else none

def ReadState.open? (state : ReadState) : GroupKind → Option ReadState
  | .flagged change =>
    some
      { state with
        flags := state.flags.apply change
        current := ⟨state.flags, false, [], []⟩
        enclosing := state.current :: state.enclosing }
  | .recorded name =>
    if name.any state.names.contains then none
    else
      some
        { state with
          current := ⟨state.flags, true, [], []⟩
          enclosing := state.current :: state.enclosing
          names := name.toList ++ state.names }

def ReadState.close? (state : ReadState) : Option ReadState :=
  match state.enclosing with
  | [] => none
  | frame :: rest =>
    { state with flags := state.current.outer, current := frame, enclosing := rest }.pushPiece?
      state.current.close

def ReadState.step? (state : ReadState) : Token → Option ReadState
  | .char c =>
    if state.flags.verbose && Text.isBlank c then some state
    else state.push? (ofSet ((CharSet.single c).spelled state.flags.ignoreCase))
  | .set members => state.push? (ofSet members)
  | .bracket written => state.pushPiece? ⟨ofSet written.members, written.height, true⟩
  | .dot => state.push? (ofSet (if state.flags.dotAll then .complement .nothing else .complement .lineBreak))
  | .caret => state.push? (.look (if state.flags.multiLine then .lineStart else .textStart))
  | .dollar => state.push? (.look (if state.flags.multiLine then .lineEnd else .textEnd))
  | .look condition => state.push? (.look condition)
  | .times least most greedy => state.repeat? least most greedy
  | .bar =>
    let branch := Piece.sequence state.current.pieces
    some { state with
      current :=
        { state.current with alternatives := branch :: state.current.alternatives, pieces := [] } }
  | .switch change =>
    { state with flags := state.flags.apply change }.pushPiece? ⟨.empty, 0, false⟩
  | .openGroup kind => state.open? kind
  | .close => state.close?

/-- Reads a text to its end. Every token has a character of its own, so the length of the text is enough
fuel. -/
def readFrom? : Nat → ReadState → List Char → Option ReadState
  | _, state, [] => some state
  | 0, _, _ :: _ => none
  | fuel + 1, state, text =>
    match Token.next? state.flags.ignoreCase (fuel + 1) text with
    | none => none
    | some (token, rest) =>
      match state.step? token with
      | none => none
      | some state => readFrom? fuel state rest

def read? (text : String) : Option Pattern :=
  (readFrom? text.length .initial text.toList).bind fun state =>
    let whole := state.current.content
    if state.enclosing.isEmpty && whole.height ≤ maxHeight then some whole.pattern else none

end TableScript.Pattern
