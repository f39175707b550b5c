import TableScript.Method.Basic
import TableScript.Operation.Binary
import TableScript.Operation.Position

set_option autoImplicit false

namespace TableScript

structure Options where
  /-- Indexes and slices out of range give null instead of failing. -/
  nullOnBounds : Bool
deriving DecidableEq, Repr

def Options.default : Options := ⟨false⟩

namespace Evaluator

def literalEntries (site : Site) (scope : ScopeId) (entries : List (String × Expr)) :
    Dictionary (Entry Value) :=
  .ofList (entries.mapIdx fun position (key, expr) => (key, .deferred ⟨site, position⟩ expr scope))

def index (run : Evaluator) (target subscript : Value) (optional : Bool) : Eval Value :=
  match target, subscript with
  | .array _ items, .int i => Eval.lift (Position.element items i optional id)
  | .text text, .int i =>
    Eval.lift (Position.element text.toList i optional fun c => .text (String.singleton c))
  | .table _ table, .int i => Eval.lift (Position.element table.rows i optional table.rowValue)
  | .dict handle entries, .text key => run.read handle entries key
  | .record _ record, .text field => pure (Row.cell record.data field)
  | .null, other => if optional then pure .null else Eval.fail (.indexKind "null" other.kind)
  | target, subscript => Eval.fail (.indexKind target.kind subscript.kind)

/-- `target.name`: an entry or a field, null on null, otherwise a method without arguments. -/
def member (run : Evaluator) (target : Value) (name : String) : Eval Value :=
  match target with
  | .dict handle entries => run.read handle entries name
  | .record handle record =>
    if record.schema.hasField name then pure (Row.cell record.data name)
    else Method.invoke run (.record handle record) name []
  | .null => pure .null
  | target => Method.invoke run target name []

def isText : Value → Bool
  | .text _ => true
  | _ => false

/-- Logical operators evaluate the right operand only if they need it. Equality and membership see
evaluated dictionaries, and so does `+` beside a text. -/
def binary (run : Evaluator) (op : BinaryOp) (left right : Expr) (scope : ScopeId) : Eval Value :=
  match op with
  | .and => do
    if (← run.eval left scope).truthy then return .bool (← run.eval right scope).truthy
    else return .bool false
  | .or => do
    if (← run.eval left scope).truthy then return .bool true
    else return .bool (← run.eval right scope).truthy
  | .coalesce => do
    let value ← run.eval left scope
    if value.isNull then run.eval right scope else return value
  | .add => do
    let a ← run.eval left scope
    let b ← run.eval right scope
    if isText a || isText b then
      let a ← run.resolve a
      let b ← run.resolve b
      Operation.binary a b .add
    else Operation.binary a b .add
  | op => do
    if op = .eq ∨ op = .notEq ∨ op = .member ∨ op = .notMember then
      let a ← run.resolve (← run.eval left scope)
      let b ← run.resolve (← run.eval right scope)
      Operation.binary a b op
    else
      let a ← run.eval left scope
      let b ← run.eval right scope
      Operation.binary a b op

/-- The value of the last expression, null if there is none. -/
def block (run : Evaluator) (scope : ScopeId) (items : List Expr) : Eval Value :=
  items.foldlM (fun _ item => run.eval item scope) .null

/-- An absent bound of a slice is null. -/
def bound (run : Evaluator) (scope : ScopeId) : Option Expr → Eval Value
  | some expr => run.eval expr scope
  | none => pure .null

/-- The value of one expression. A collection that it makes is not numbered yet. -/
def evalNode (run : Evaluator) (options : Options) (expr : Expr) (scope : ScopeId) : Eval Value :=
  match expr with
  | .null => pure .null
  | .bool value => pure (.bool value)
  | .int value => pure (.int value)
  | .float value => pure (.float value)
  | .text value => pure (.text value)
  | .money value => pure (.money value)
  | .measure value suffix =>
    match Quantity.ofLiteral? value suffix with
    | some quantity => pure (.quantity quantity)
    | none => Eval.fail (.unknownSuffix suffix)
  | .ident name => Eval.resolve scope name
  | .this => Eval.resolve scope "this"
  | .array items => do return .ofItems (← items.mapM fun item => run.eval item scope)
  | .dict site entries => pure (.ofEntries (literalEntries site scope entries))
  | .unary op operand => do Operation.unary (← run.eval operand scope) op
  | .binary op left right => run.binary op left right scope
  | .index target subscript optional => do
    let target ← run.eval target scope
    let subscript ← run.eval subscript scope
    run.index target subscript (optional || options.nullOnBounds)
  | .slice target start stop => do
    let target ← run.eval target scope
    let start ← run.bound scope start
    let stop ← run.bound scope stop
    Position.slice target start stop options.nullOnBounds
  | .field target name => do run.member (← run.eval target scope) name
  | .call callee args => do
    let callee ← run.eval callee scope
    let args ← args.mapM fun arg => run.eval arg scope
    run.call callee args
  | .method receiver name args => do
    let receiver ← run.eval receiver scope
    let args ← args.mapM fun arg => run.eval arg scope
    Method.invoke run receiver name args
  | .lambda site params body => pure (.function ⟨site, params, body, scope⟩)
  | .declare name value exported immutable => do
    let value ← run.eval value scope
    Eval.declare scope name ⟨value, !immutable, exported⟩
    return .null
  | .assign name value => do
    let value ← run.eval value scope
    Eval.assign scope name value
    return .null
  | .block items => do run.block (← Eval.enclose scope) items
  | .cond test thenBranch elseBranch => do
    if (← run.eval test scope).truthy then run.eval thenBranch scope
    else
      match elseBranch with
      | some expr => run.eval expr scope
      | none => return .null

def evalStep (options : Options) (run : Evaluator) (expr : Expr) (scope : ScopeId) : Eval Value := do
  Eval.settle (← run.evalNode options expr scope)

/-- How many steps nest before evaluation goes on with a stack of its own. -/
def stepsPerStack : Nat := 4096

/-- Every so many steps, on a stack of its own. -/
def onSomeStack {α : Type} (fuel : Nat) (action : Unit → Eval α) : Eval α :=
  if fuel % stepsPerStack = 0 then Eval.onFreshStack fun machine => action () machine
  else fun machine => action () machine

theorem onSomeStack_eq {α : Type} (fuel : Nat) (action : Unit → Eval α) :
    onSomeStack fuel action = action () := by
  by_cases h : fuel % stepsPerStack = 0
  · exact (if_pos h).trans (Eval.onFreshStack_eq _)
  · exact if_neg h

mutual

def evalWith (options : Options) : Nat → Expr → ScopeId → Eval Value
  | 0, _, _ => throw .outOfFuel
  | fuel + 1, expr, scope =>
    onSomeStack fuel fun _ =>
      evalStep options ⟨evalWith options fuel, resolveWith options fuel⟩ expr scope

def resolveWith (options : Options) : Nat → Value → Eval Value
  | 0, _ => throw .outOfFuel
  | fuel + 1, value =>
    onSomeStack fuel fun _ =>
      resolveStep ⟨evalWith options fuel, resolveWith options fuel⟩ value

end

def withFuel (options : Options) (fuel : Nat) : Evaluator :=
  ⟨evalWith options fuel, resolveWith options fuel⟩

/-- One more unit of fuel is one more step. -/
theorem evalWith_succ (options : Options) (fuel : Nat) (expr : Expr) (scope : ScopeId) :
    evalWith options (fuel + 1) expr scope = evalStep options (withFuel options fuel) expr scope := by
  rw [evalWith, onSomeStack_eq]
  rfl

theorem resolveWith_succ (options : Options) (fuel : Nat) (value : Value) :
    resolveWith options (fuel + 1) value = resolveStep (withFuel options fuel) value := by
  rw [resolveWith, onSomeStack_eq]
  rfl

/-- More steps than any machine can nest. -/
def ampleFuel : Nat := Nat.pow 2 62

/-- Evaluation as programs meet it. -/
def standard (options : Options) : Evaluator := withFuel options ampleFuel

end Evaluator

end TableScript
