import TableScript.Method.Record
import TableScript.Method.Table

set_option autoImplicit false

namespace TableScript.Method

def invoke (run : Evaluator) (receiver : Value) (name : String) (args : List Value) : Eval Value :=
  match receiver with
  | .dict handle entries => dictionary run handle entries name args
  | .array _ items => array run items name args
  | .text value => Eval.lift (text value name args)
  | .record _ value => record run value name args
  | .schema value => Eval.lift (schema value name args)
  | .table _ value => table run value name args
  | other => Eval.fail (.noMethod name other.kind)

end TableScript.Method
