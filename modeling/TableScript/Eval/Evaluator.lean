import TableScript.Eval.Monad
import TableScript.Record.Cast

set_option autoImplicit false

namespace TableScript

/-- How expressions are evaluated, and how values are freed of unevaluated entries. -/
structure Evaluator where
  eval : Expr → ScopeId → Eval Value
  /-- The value with every entry of its dictionaries evaluated, at any depth. -/
  resolve : Value → Eval Value

namespace Evaluator

/-- The value of an entry. An unevaluated one is evaluated inside the scope it was written in, with `this`
bound to the dictionary that holds it. -/
def force (run : Evaluator) (owner : Value) : Entry Value → Eval Value
  | .ready value => pure value
  | .deferred _ expr scope => do
    let inner ← Eval.enclose scope
    Eval.define inner "this" owner
    run.eval expr inner

/-- The value under a key of a dictionary, null if there is none. -/
def read (run : Evaluator) (handle : Handle) (entries : Dictionary (Entry Value)) (key : String) :
    Eval Value :=
  match entries.get? key with
  | some entry => run.force (.dict handle entries) entry
  | none => pure .null

/-- The values of a dictionary, evaluated throughout, as a row. -/
def forceRow (run : Evaluator) (handle : Handle) (entries : Dictionary (Entry Value)) : Eval Row := do
  let pairs ← entries.entries.mapM fun (key, entry) => do
    let value ← run.force (.dict handle entries) entry
    return (key, ← run.resolve value)
  return ⟨pairs⟩

def resolveStep (run : Evaluator) : Value → Eval Value
  | .dict handle entries => do Eval.settle (.ofRow (← run.forceRow handle entries))
  | .array _ items => do Eval.settle (.ofItems (← items.mapM run.resolve))
  | value => pure value

def maxCallDepth : Nat := 10000

/-- Runs a function in a new scope inside the one it was defined in. -/
def callFunction (run : Evaluator) (f : Function) (args : List Value) : Eval Value := do
  if args.length ≠ f.params.length then
    Eval.fail (.arity "function" f.params.length args.length)
  let depth := (← get).depth
  if maxCallDepth ≤ depth then Eval.fail (.callDepth maxCallDepth)
  let scope ← Eval.enclose f.scope
  (f.params.zip args).forM fun (param, arg) => do Eval.define scope param (← Eval.settle arg)
  Eval.atDepth (depth + 1) (run.eval f.body scope)

def boundRow (run : Evaluator) (binding : Schema Value) : Value → Eval Row
  | .dict handle entries => do return Record.bindData binding (← run.forceRow handle entries)
  | _ => Eval.fail (.argument binding.name "array of dictionaries")

/-- Binds data to a schema: a dictionary or a record gives a record, an array of dictionaries or a table
gives a table. -/
def bindTo (run : Evaluator) (binding : Schema Value) : Value → Eval Value
  | .dict handle entries => do
    return .ofRecord (Record.create binding (← run.forceRow handle entries))
  | .array _ items => do
    let rows ← items.mapM (run.boundRow binding)
    return .ofTable ((Table.plain binding.fieldNames rows).withSchema binding)
  | .record _ record => pure (.ofRecord (Record.create binding record.data))
  | .table _ table =>
    let rows := table.rows.map (Record.bindData binding)
    pure (.ofTable ((table.derive binding.fieldNames rows).withSchema binding))
  | _ => Eval.fail (.argument binding.name "dictionary, array, record, or table")

def call (run : Evaluator) (callee : Value) (args : List Value) : Eval Value :=
  match callee with
  | .function f => run.callFunction f args
  | .schema binding =>
    match args with
    | [arg] => run.bindTo binding arg
    | args => Eval.fail (.arity binding.name 1 args.length)
  | other => Eval.fail (.notCallable other.kind)

end Evaluator

end TableScript
