import TableScript.Operation.Money
import TableScript.Operation.Quantity
import TableScript.Value.Equality
import TableScript.Value.Render

set_option autoImplicit false

namespace TableScript.Operation

/-- The elements of an array; any other value counts as one element. -/
def elements : Value → List Value
  | .array _ items => items
  | value => [value]

/-- Two dictionaries merge; any other pair is joined element by element. -/
def concat : Value → Value → Value
  | .dict _ a, .dict _ b => .ofEntries (a.merge b)
  | a, b => .ofItems (elements a ++ elements b)

/-- Pairs without a rule of their own: equality looks at the structure, and `+` shows the other operand
beside a text. -/
def fallback (left right : Value) (op : BinaryOp) : Outcome :=
  match op with
  | .eq => truth (left.same right)
  | .notEq => truth (!left.same right)
  | .add =>
    match left, right with
    | .text a, other => .ok (.text (a ++ other.template))
    | other, .text b => .ok (.text (other.template ++ b))
    | _, _ => .error (.operands left.kind op.symbol right.kind)
  | op => .error (.operands left.kind op.symbol right.kind)

def arithmetic (left right : Value) (op : BinaryOp) : Outcome :=
  match left, right with
  | .int a, .int b => integers a b op
  | .float a, .float b => floats a b op
  | .int a, .float b => floats (.ofInt64 a) b op
  | .float a, .int b => floats a (.ofInt64 b) op
  | .text a, .text b => texts a b op
  | .money a, .money b => moneys a b op
  | .money m, .int n => moneyScalar m (.int n) op
  | .money m, .float x => moneyScalar m (.float x) op
  | .int n, .money m => scalarMoney (.int n) m op
  | .float x, .money m => scalarMoney (.float x) m op
  | .quantity a, .quantity b => quantities a b op
  | .quantity q, .int n => quantityScalar q (.int n) op
  | .quantity q, .float x => quantityScalar q (.float x) op
  | .int n, .quantity q => scalarQuantity (.int n) q op
  | .float x, .quantity q => scalarQuantity (.float x) q op
  | left, right => fallback left right op

/-- Equality as the operator sees it: a comparison that fails is no equality. -/
def equal (a b : Value) : Bool :=
  match arithmetic a b .eq with
  | .ok (.bool value) => value
  | _ => false

def isPart (part : List Char) : List Char → Bool
  | [] => part.isEmpty
  | c :: rest => part.isPrefixOf (c :: rest) || isPart part rest

/-- An array holds its elements, a dictionary its keys, a text its parts, and null nothing. -/
def holds (needle haystack : Value) : Except EvalError Bool :=
  match haystack with
  | .null => .ok false
  | .array _ items => .ok (items.any (equal needle))
  | .dict _ entries =>
    match needle with
    | .text key => .ok (entries.contains key)
    | other => .error (.dictionaryKey other.kind)
  | .text whole =>
    match needle with
    | .text part => .ok (isPart part.toList whole.toList)
    | other => .error (.textPart other.kind)
  | other => .error (.notContainer other.kind)

def binary (left right : Value) : BinaryOp → Outcome
  | .and => truth (left.truthy && right.truthy)
  | .or => truth (left.truthy || right.truthy)
  | .coalesce => .ok (if left.isNull then right else left)
  | .concat => .ok (concat left right)
  | .member => (holds left right).map .bool
  | .notMember => (holds left right).map fun found => .bool (!found)
  | op => arithmetic left right op

/-- Not applies to every value; minus to numbers, money and quantities. -/
def unary (value : Value) : UnaryOp → Outcome
  | .not => truth (!value.truthy)
  | .neg =>
    match value with
    | .int n => checked .negation (Word.neg? n)
    | .float x => .ok (.float (-x))
    | .money m => moneyResult .negation m (Word.neg? m.amount)
    | .quantity q => quantityResult .negation q (Word.neg? q.amount)
    | other => .error (.operand UnaryOp.neg.symbol other.kind)

end TableScript.Operation
