import TableScript.Value.Basic

set_option autoImplicit false

namespace TableScript.Argument

def count (method : String) (expected : Nat) (args : List Value) : Except EvalError Unit :=
  if args.length = expected then .ok () else .error (.arity method expected args.length)

def countIn (method : String) (least most : Nat) (args : List Value) : Except EvalError Unit :=
  if least ≤ args.length ∧ args.length ≤ most then .ok ()
  else .error (.arityRange method least most args.length)

def text (method : String) : Value → Except EvalError String
  | .text value => .ok value
  | _ => .error (.argument method "string")

def integer (method : String) : Value → Except EvalError Int64
  | .int value => .ok value
  | _ => .error (.argument method "integer")

def dictionary (method : String) : Value → Except EvalError (Handle × Dictionary (Entry Value))
  | .dict handle entries => .ok (handle, entries)
  | _ => .error (.argument method "a dictionary")

def function (method : String) : Value → Except EvalError Value
  | .function f => .ok (.function f)
  | _ => .error (.argument method "a function")

def texts (method : String) (args : List Value) : Except EvalError (List String) :=
  args.mapM (text method)

def nth (args : List Value) (place : Nat) : Value := args[place]?.getD .null

def none (method : String) (args : List Value) (result : Value) : Except EvalError Value := do
  count method 0 args
  return result

def oneText (method : String) (args : List Value) : Except EvalError String := do
  count method 1 args
  text method (nth args 0)

def oneFunction (method : String) (args : List Value) : Except EvalError Value := do
  count method 1 args
  function method (nth args 0)

def size (length : Nat) : Value := .int (Word.clamp length)

end TableScript.Argument
