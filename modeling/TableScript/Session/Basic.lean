import TableScript.Eval.Basic
import TableScript.Query.Basic
import TableScript.Schema.Declare
import TableScript.Value.Debug

set_option autoImplicit false

namespace TableScript

/-- One field of a schema as a program writes it, its values still to be evaluated. -/
structure FieldSource where
  name : String
  typeName : String
  nullable : Bool
  fallback : Option Expr
  options : List (String × Expr)
  enumValues : List String
  metadata : List (String × Expr)

inductive Command where
  | eval (expr : Expr)
  /-- With default options, an error becoming a value. -/
  | evaluate (expr : Expr)
  | inspect (expr : Expr)
  | debug (expr : Expr)
  | truthy (expr : Expr)
  | template (expr : Expr)
  | json (expr : Expr)
  | resolve (expr : Expr)
  /-- Defines a name, an error becoming a value. -/
  | bind (name : String) (expr : Expr)
  | schema (name schemaName : String) (fields : List FieldSource)
  /-- Defines a table from an array of dictionaries. -/
  | table (name : String) (expr : Expr)
  | queryTable (name : String) (columns : List String) (rows : List (List Scalar))
      (schemaName : Option String)
  | queryRecord (name : String) (columns : List String) (cells : List Scalar) (schemaName : String)
  | binary (op : BinaryOp) (left right : Expr)
  | unary (op : UnaryOp) (expr : Expr)
  | compare (left right : Expr)
  | cast (typeName : String) (expr : Expr)
  /-- Enters a new scope inside the current one. -/
  | push
  /-- Returns to the scope around the current one. -/
  | pop
  | lookup (name : String)
  | declare (name : String) (expr : Expr) (exported immutable : Bool)
  | assign (name : String) (expr : Expr)
  | protect (name : String) (expr : Expr)
  | flags (name : String)
  | scope
  | options

inductive Reply where
  | value (value : Value)
  | inspected (text : String)
  | debugged (text : String)
  | truth (kind : String) (truthy : Bool)
  | text (text : String)
  | schema (schema : Schema Value)
  | order (order : Ordering)
  | done (changed : Bool)
  | missing
  | flags (isProtected exported immutable : Bool)
  | scope (exports : List (String × Value)) (identifiers : List String) (debug : String)
  | options (options : Options)

inductive CommandError where
  | eval (error : EvalError)
  | schema (error : SchemaError)
  | scope (error : ScopeError)
  | disorder
  | outOfFuel
deriving DecidableEq, Repr

structure Session where
  machine : Machine
  /-- The current scope. -/
  scope : ScopeId
  options : Options
  /-- The identity of the next schema. -/
  schemas : Nat

/-- What a command does: it reads and changes the session and may fail. -/
abbrev Interaction := EStateM CommandError Session

namespace Session

/-- A session with one scope and nothing in it. -/
def start (options : Options) : Session :=
  let (scope, store) := Store.empty.create none
  ⟨⟨store, 0, 0⟩, scope, options, 0⟩

def failure : Failure → CommandError
  | .error error => .eval error
  | .disorder .. => .disorder
  | .outOfFuel => .outOfFuel

/-- Runs an evaluation. -/
def run {α : Type} (action : Eval α) : Interaction α := fun ⟨machine, scope, options, schemas⟩ =>
  match action machine with
  | .ok value machine => .ok value ⟨machine, scope, options, schemas⟩
  | .error error machine => .error (failure error) ⟨machine, scope, options, schemas⟩

def evaluator : Interaction Evaluator := do return Evaluator.standard (← get).options

def eval (expr : Expr) : Interaction Value := do
  run ((← evaluator).eval expr (← get).scope)

def resolveDeep (value : Value) : Interaction Value := do
  run ((← evaluator).resolve value)

/-- An error of the program becomes a value. -/
def folded (action : Eval Value) : Interaction Value := do
  try run action
  catch
    | .eval error => return .error error
    | other => throw other

def scopeChange (change : Store → ScopeId → Except ScopeError Store) : Interaction Unit := do
  let session ← get
  match change session.machine.store session.scope with
  | .ok store => set { session with machine := { session.machine with store := store } }
  | .error error => throw (.scope error)

def define (name : String) (value : Value) : Interaction Unit :=
  scopeChange fun store scope => store.define scope name value

/-- Defines a value, new ones included, and shows it. -/
def defineShown (name : String) (value : Value) : Interaction Reply := do
  let value ← run (Eval.settle value)
  define name value
  return .value value

def lift {α : Type} : Except EvalError α → Interaction α
  | .ok value => pure value
  | .error error => throw (.eval error)

def evalPairs (pairs : List (String × Expr)) : Interaction (List (String × Value)) :=
  pairs.mapM fun (key, expr) => do return (key, ← eval expr)

def evalField (field : FieldSource) : Interaction FieldDecl := do
  let decl := FieldDecl.new field.name field.typeName
  let fallback ← field.fallback.mapM eval
  let options ← evalPairs field.options
  let metadata ← evalPairs field.metadata
  return { decl with
    nullable := decl.nullable || field.nullable
    fallback := fallback
    options := options
    enumValues := field.enumValues
    metadata := metadata }

def declareSchema (name schemaName : String) (fields : List FieldSource) : Interaction Reply := do
  let decls ← fields.mapM evalField
  let session ← get
  match Schema.declare session.schemas schemaName decls with
  | .error error => throw (.schema error)
  | .ok schema =>
    set { session with schemas := session.schemas + 1 }
    define name (.schema schema)
    return .schema schema

def rowOf : Value → Interaction Row
  | .dict handle entries => do run ((← evaluator).forceRow handle entries)
  | _ => throw (.eval (.argument "table" "an array of dictionaries"))

def tableOf : Value → Interaction (Table Value)
  | .array _ items => do return .ofRows (← items.mapM rowOf)
  | _ => throw (.eval (.argument "table" "an array of dictionaries"))

/-- The schema that a name is bound to. -/
def schemaNamed (name : String) : Interaction (Schema Value) := do
  let session ← get
  match session.machine.store.resolve? session.scope name with
  | some (.schema schema) => return schema
  | _ => throw (.eval (.undefined name))

def perform (command : Command) : Interaction Reply :=
  match command with
  | .eval expr => do return .value (← eval expr)
  | .evaluate expr => do
    return .value (← folded ((Evaluator.standard .default).eval expr (← get).scope))
  | .inspect expr => do return .inspected (← eval expr).inspect
  | .debug expr => do return .debugged (← eval expr).debug
  | .truthy expr => do
    let value ← eval expr
    return .truth value.kind value.truthy
  | .template expr => do return .text (← resolveDeep (← eval expr)).template
  | .json expr => do return .text (← resolveDeep (← eval expr)).toJson.render
  | .resolve expr => do return .value (← resolveDeep (← eval expr))
  | .bind name expr => do
    let value ← folded ((← evaluator).eval expr (← get).scope)
    defineShown name value
  | .schema name schemaName fields => declareSchema name schemaName fields
  | .table name expr => do
    let table ← tableOf (← eval expr)
    defineShown name (.ofTable table)
  | .queryTable name columns rows schemaName => do
    let schema ← schemaName.mapM schemaNamed
    defineShown name (.ofTable (Query.table columns rows schema))
  | .queryRecord name columns cells schemaName => do
    let schema ← schemaNamed schemaName
    defineShown name (.ofRecord (Query.record schema columns cells))
  | .binary op left right => do
    let a ← eval left
    let b ← eval right
    return .value (← lift (Operation.binary a b op))
  | .unary op expr => do return .value (← lift (Operation.unary (← eval expr) op))
  | .compare left right => do
    let a ← eval left
    let b ← eval right
    return .order (a.order b)
  | .cast typeName expr => do return .value (Record.cast (← eval expr) typeName)
  | .push => do
    let scope ← run (Eval.enclose (← get).scope)
    modify fun session => { session with scope := scope }
    return .done true
  | .pop => do
    let session ← get
    match session.machine.store.parent? session.scope with
    | some parent =>
      set { session with scope := parent }
      return .done true
    | none => return .done false
  | .lookup name => do
    let session ← get
    match session.machine.store.resolve? session.scope name with
    | some value => return .value value
    | none => return .missing
  | .declare name expr exported immutable => do
    let value ← eval expr
    scopeChange fun store scope => store.declare scope name ⟨value, !immutable, exported⟩
    return .done true
  | .assign name expr => do
    let value ← eval expr
    scopeChange fun store scope => store.assign scope name value
    return .done true
  | .protect name expr => do
    let value ← eval expr
    scopeChange fun store scope => .ok (store.protect scope name value)
    return .done true
  | .flags name => do
    let session ← get
    let store := session.machine.store
    return .flags (store.isProtected session.scope name) (store.isExported session.scope name)
      (store.isImmutable session.scope name)
  | .scope => do
    let session ← get
    let store := session.machine.store
    return .scope (store.exports session.scope) (store.identifiers session.scope)
      (store.debug session.scope)
  | .options => do return .options (← get).options

/-- One command: its reply or its failure, and the session afterwards. -/
def step (session : Session) (command : Command) : Except CommandError Reply × Session :=
  match perform command session with
  | .ok reply session => (.ok reply, session)
  | .error error session => (.error error, session)

end Session

end TableScript
