import TableScript.Number.Reader

set_option autoImplicit false

namespace TableScript.Text

open TableScript.NumberReader (isDigit)

/-- Digit runs by value; of two runs with one value the longer comes last. -/
def compareRuns (left right : List Char) : Ordering :=
  let strippedLeft := left.dropWhile (· = '0')
  let strippedRight := right.dropWhile (· = '0')
  (compare strippedLeft.length strippedRight.length).then
    ((compare (String.ofList strippedLeft) (String.ofList strippedRight)).then
      (compare left.length right.length))

def naturalChars : List Char → List Char → Ordering
  | [], [] => .eq
  | [], _ :: _ => .lt
  | _ :: _, [] => .gt
  | a :: left, b :: right =>
    if isDigit a && isDigit b then
      (compareRuns (a :: left.takeWhile isDigit) (b :: right.takeWhile isDigit)).then
        (naturalChars (left.dropWhile isDigit) (right.dropWhile isDigit))
    else if a = b then naturalChars left right
    else compare a.toNat b.toNat
termination_by left _ => left.length
decreasing_by
  · have shorter := (List.dropWhile_suffix (l := left) isDigit).length_le
    simp_wf
    omega
  · simp_wf

def naturalCompare (left right : String) : Ordering := naturalChars left.toList right.toList

end TableScript.Text
