import TableScript.Pattern.CharSet

set_option autoImplicit false

namespace TableScript

structure ByteRange where
  first : Nat
  last : Nat
deriving DecidableEq, Repr

namespace ByteRange

def encode (code : Nat) : List Nat :=
  if code < 0x80 then [code]
  else if code < 0x800 then [0xc0 + code / 0x40, 0x80 + code % 0x40]
  else if code < 0x10000 then [0xe0 + code / 0x1000, 0x80 + code / 0x40 % 0x40, 0x80 + code % 0x40]
  else
    [0xf0 + code / 0x40000, 0x80 + code / 0x1000 % 0x40, 0x80 + code / 0x40 % 0x40, 0x80 + code % 0x40]

/-- The last code points with one, two and three bytes. -/
def lengthBounds : List Nat := [0x7f, 0x7ff, 0xffff]

/-- How many code points share all but their last one, two and three bytes. -/
def blockSizes : List Nat := [0x40, 0x1000, 0x40000]

/-- Where a span has to be divided next: where the number of bytes changes, then where a block ends that
the span covers only in part. -/
def cutAfter? (first last : Nat) : Option Nat :=
  match lengthBounds.find? fun bound => first ≤ bound && bound < last with
  | some bound => some bound
  | none =>
    if last < 0x80 then none
    else
      blockSizes.findSome? fun size =>
        if first / size = last / size then none
        else if first % size ≠ 0 then some (first - first % size + (size - 1))
        else if last % size ≠ size - 1 then some (last - last % size - 1)
        else none

/-- The sequences of byte ranges for the code points from `first` to `last`. -/
def sequences (first last : Nat) : List (List ByteRange) :=
  match cutAfter? first last with
  | none => [List.zipWith ByteRange.mk (encode first) (encode last)]
  | some cut =>
    if first ≤ cut ∧ cut < last then sequences first cut ++ sequences (cut + 1) last else []
termination_by last - first

end ByteRange

def CharSet.byteRanges (set : CharSet) : List (List ByteRange) :=
  set.spans.flatMap fun span => ByteRange.sequences span.first span.last

end TableScript
