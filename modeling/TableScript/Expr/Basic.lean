import TableScript.Money.Basic
import TableScript.Operator

set_option autoImplicit false

namespace TableScript

/-- The place of a literal in a program. -/
abbrev Site := Nat

inductive Expr where
  | null
  | bool (value : Bool)
  | int (value : Int64)
  | float (value : Double)
  | text (value : String)
  | money (value : Money)
  | measure (value : Double) (suffix : String)
  | ident (name : String)
  | this
  | array (items : List Expr)
  | dict (site : Site) (entries : List (String × Expr))
  | unary (op : UnaryOp) (operand : Expr)
  | binary (op : BinaryOp) (left right : Expr)
  /-- `target[subscript]`, or `target[?subscript]` when optional. -/
  | index (target subscript : Expr) (optional : Bool)
  | slice (target : Expr) (start stop : Option Expr)
  | field (target : Expr) (name : String)
  | call (callee : Expr) (args : List Expr)
  | method (receiver : Expr) (name : String) (args : List Expr)
  | lambda (site : Site) (params : List String) (body : Expr)
  | declare (name : String) (value : Expr) (exported immutable : Bool)
  | assign (name : String) (value : Expr)
  | block (items : List Expr)
  | cond (test thenBranch : Expr) (elseBranch : Option Expr)

end TableScript
