set_option autoImplicit false

namespace TableScript.Text

def replacement : Char := Char.ofNat 0xfffd

/-- How many bytes follow a first byte, and the range in which the second one must lie. -/
def leadRange? (byte : Nat) : Option (Nat × Nat × Nat) :=
  if 0xc2 ≤ byte ∧ byte ≤ 0xdf then some (1, 0x80, 0xbf)
  else if byte = 0xe0 then some (2, 0xa0, 0xbf)
  else if byte = 0xed then some (2, 0x80, 0x9f)
  else if 0xe1 ≤ byte ∧ byte ≤ 0xef then some (2, 0x80, 0xbf)
  else if byte = 0xf0 then some (3, 0x90, 0xbf)
  else if 0xf1 ≤ byte ∧ byte ≤ 0xf3 then some (3, 0x80, 0xbf)
  else if byte = 0xf4 then some (3, 0x80, 0x8f)
  else none

/-- The payload of a first byte with `following` bytes after it. -/
def leadBits (byte following : Nat) : Nat :=
  if following = 1 then byte % 0x20 else if following = 2 then byte % 0x10 else byte % 0x08

/-- What decoding has seen of an unfinished character: the bits so far, how many bytes are missing, and
the range of the next one. -/
structure Pending where
  bits : Nat
  missing : Nat
  low : Nat
  high : Nat

def startChar (byte : Nat) : List Char × Option Pending :=
  if byte < 0x80 then ([Char.ofNat byte], none)
  else
    match leadRange? byte with
    | some (following, low, high) => ([], some ⟨leadBits byte following, following, low, high⟩)
    | none => ([replacement], none)

def continueChar (pending : Pending) (byte : Nat) : List Char × Option Pending :=
  if pending.low ≤ byte ∧ byte ≤ pending.high then
    let bits := pending.bits * 0x40 + byte % 0x40
    if pending.missing ≤ 1 then ([Char.ofNat bits], none)
    else ([], some ⟨bits, pending.missing - 1, 0x80, 0xbf⟩)
  else
    let (output, next) := startChar byte
    (replacement :: output, next)

def decodeFrom : Option Pending → List UInt8 → List Char
  | none, [] => []
  | some _, [] => [replacement]
  | none, byte :: rest =>
    let (output, next) := startChar byte.toNat
    output ++ decodeFrom next rest
  | some pending, byte :: rest =>
    let (output, next) := continueChar pending byte.toNat
    output ++ decodeFrom next rest

def decodeLossy (bytes : List UInt8) : String := String.ofList (decodeFrom none bytes)

end TableScript.Text
