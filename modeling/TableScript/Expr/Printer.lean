import TableScript.Expr.Basic
import TableScript.Number.Layout
import TableScript.Text.Quoted

set_option autoImplicit false

namespace TableScript

/-- Whether a truth value is written `true` or `false`. -/
def boolText (value : Bool) : String := if value then "true" else "false"

def commaList (parts : List String) : String := ", ".intercalate parts

namespace Expr

mutual

def print : Expr → String
  | .null => "null"
  | .bool value => boolText value
  | .int value => toString value.toInt
  | .float value => Layout.source.render value
  | .text value => Text.quote value
  | .money m => m.currency ++ "#" ++ toString m.amount.toInt ++ "e-" ++ toString m.scale
  | .measure value suffix => Layout.source.render value ++ suffix
  | .ident name => name
  | .this => "this"
  | .array items => "[" ++ commaList (printAll items) ++ "]"
  | .dict _ entries => "\x7b" ++ commaList (printEntries entries) ++ "\x7d"
  | .unary op operand => op.symbol ++ print operand
  | .binary op left right => "(" ++ print left ++ " " ++ op.symbol ++ " " ++ print right ++ ")"
  | .index target subscript optional =>
    print target ++ (if optional then "[?" else "[") ++ print subscript ++ "]"
  | .slice target start stop =>
    print target ++ "[" ++ printBound start ++ ":" ++ printBound stop ++ "]"
  | .field target name => print target ++ "." ++ name
  | .call callee args => print callee ++ "(" ++ commaList (printAll args) ++ ")"
  | .method receiver name args =>
    print receiver ++ "." ++ name ++ "(" ++ commaList (printAll args) ++ ")"
  | .lambda _ params body => "fn(" ++ commaList params ++ ") \x7b " ++ print body ++ " \x7d"
  | .declare name value exported _ =>
    (if exported then "export " else "let ") ++ name ++ " = " ++ print value
  | .assign name value => name ++ " = " ++ print value
  | .block items => "\x7b " ++ "; ".intercalate (printAll items) ++ " \x7d"
  | .cond test thenBranch elseBranch =>
    "if (" ++ print test ++ ") " ++ print thenBranch ++ printElse elseBranch

def printAll : List Expr → List String
  | [] => []
  | item :: rest => print item :: printAll rest

def printEntries : List (String × Expr) → List String
  | [] => []
  | (key, value) :: rest => (key ++ ": " ++ print value) :: printEntries rest

/-- An omitted bound is not written. -/
def printBound : Option Expr → String
  | none => ""
  | some bound => print bound

def printElse : Option Expr → String
  | none => ""
  | some branch => " else " ++ print branch

end

end Expr

end TableScript
