set_option autoImplicit false

namespace TableScript

inductive BinaryOp where
  | add
  | sub
  | mul
  | div
  | mod
  | eq
  | notEq
  | lt
  | ltEq
  | gt
  | gtEq
  | and
  | or
  | concat
  | member
  | notMember
  | coalesce
deriving DecidableEq, Repr

namespace BinaryOp

def symbol : BinaryOp → String
  | .add => "+"
  | .sub => "-"
  | .mul => "*"
  | .div => "/"
  | .mod => "%"
  | .eq => "=="
  | .notEq => "!="
  | .lt => "<"
  | .ltEq => "<="
  | .gt => ">"
  | .gtEq => ">="
  | .and => "&&"
  | .or => "||"
  | .concat => "++"
  | .member => "in"
  | .notMember => "not in"
  | .coalesce => "??"

def all : List BinaryOp :=
  [.add, .sub, .mul, .div, .mod, .eq, .notEq, .lt, .ltEq, .gt, .gtEq, .and, .or, .concat, .member,
    .notMember, .coalesce]

def ofSymbol? (text : String) : Option BinaryOp := all.find? (·.symbol == text)

def isComparison : BinaryOp → Bool
  | .eq | .notEq | .lt | .ltEq | .gt | .gtEq => true
  | _ => false

theorem ofSymbol?_symbol (op : BinaryOp) : ofSymbol? op.symbol = some op := by
  cases op <;> decide

end BinaryOp

inductive UnaryOp where
  | neg
  | not
deriving DecidableEq, Repr

namespace UnaryOp

def symbol : UnaryOp → String
  | .neg => "-"
  | .not => "!"

def all : List UnaryOp := [.neg, .not]

def ofSymbol? (text : String) : Option UnaryOp := all.find? (·.symbol == text)

end UnaryOp

end TableScript
