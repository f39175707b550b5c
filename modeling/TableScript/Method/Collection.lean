import TableScript.Eval.Evaluator
import TableScript.Method.Argument
import TableScript.Text.Blank
import TableScript.Text.CaseMap

set_option autoImplicit false

namespace TableScript.Method

/-- The methods of a dictionary that evaluate nothing. What changes the dictionary gives a new one. -/
def dictionaryView (entries : Dictionary (Entry Value)) (name : String) (args : List Value) :
    Except EvalError Value :=
  match name with
  | "keys" => Argument.none name args (.texts entries.keys)
  | "has" => do return .bool (entries.contains (← Argument.oneText name args))
  | "len" => Argument.none name args (Argument.size entries.size)
  | "delete" => do return .ofEntries (entries.erase (← Argument.oneText name args))
  | "set" => do
    Argument.count name 2 args
    let key ← Argument.text name (Argument.nth args 0)
    return .ofEntries (entries.insert key (.ready (Argument.nth args 1)))
  | _ => .error (.noMethod name "dictionary")

def dictionary (run : Evaluator) (handle : Handle) (entries : Dictionary (Entry Value)) (name : String)
    (args : List Value) : Eval Value :=
  match name with
  | "values" => do
    Argument.count name 0 args
    return .ofItems (← entries.values.mapM (run.force (.dict handle entries)))
  | _ => Eval.lift (dictionaryView entries name args)

def keepItems {α : Type} (run : Evaluator) (f : Value) (toArg : α → Value) : List α → Eval (List α)
  | [] => pure []
  | item :: rest => do
    let kept ← run.call f [toArg item]
    let others ← keepItems run f toArg rest
    return if kept.truthy then item :: others else others

def array (run : Evaluator) (items : List Value) (name : String) (args : List Value) : Eval Value :=
  match name with
  | "len" => Eval.lift (Argument.none name args (Argument.size items.length))
  | "reverse" => Eval.lift (Argument.none name args (.ofItems items.reverse))
  | "map" => do
    let f ← Argument.oneFunction name args
    return .ofItems (← items.mapM fun item => run.call f [item])
  | "filter" => do
    let f ← Argument.oneFunction name args
    return .ofItems (← keepItems run f id items)
  | _ => Eval.fail (.noMethod name "array")

/-- Lengths of texts count characters. -/
def text (value : String) (name : String) (args : List Value) : Except EvalError Value :=
  match name with
  | "len" => Argument.none name args (Argument.size value.length)
  | "upper" => Argument.none name args (.text (Text.toUpper value))
  | "lower" => Argument.none name args (.text (Text.toLower value))
  | "trim" => Argument.none name args (.text (Text.trim value))
  | _ => .error (.noMethod name "string")

end TableScript.Method
