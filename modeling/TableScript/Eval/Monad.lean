import TableScript.Scope.Basic
import TableScript.Table.Sort
import TableScript.Value.Settle

set_option autoImplicit false

namespace TableScript

/-- What evaluation works on: the scopes, how many function calls are open, and how many collections have
been made. -/
structure Machine where
  store : Store
  depth : Nat
  collections : Nat

inductive Failure where
  | error (error : EvalError)
  /-- The sort gave up on these rows. No program can handle this. -/
  | disorder (keys : List SortKey) (rows : List Row)
  | outOfFuel

abbrev Eval := EStateM Failure Machine

namespace Eval

def fail {α : Type} (error : EvalError) : Eval α := throw (.error error)

/-- An outcome that needs no machine. -/
def lift {α : Type} : Except EvalError α → Eval α
  | .ok value => pure value
  | .error error => fail error

instance : MonadLift (Except EvalError) Eval := ⟨lift⟩

def enclose (parent : ScopeId) : Eval ScopeId :=
  modifyGet fun ⟨store, depth, collections⟩ =>
    let (id, store) := store.create (some parent)
    (id, ⟨store, depth, collections⟩)

/-- Numbers the collections in a value that are new. -/
def settle (value : Value) : Eval Value :=
  modifyGet fun ⟨store, depth, collections⟩ =>
    let (value, collections) := value.settle collections
    (value, ⟨store, depth, collections⟩)

/-- How a refused binding shows in a program. -/
def scopeError (name : String) : ScopeError → EvalError
  | .immutable => .immutable name
  | .undefined => .undefined name
  | .protectedName => .protectedName name

def change (name : String) (refusal? : Store → Option ScopeError) (update : Store → Store) : Eval Unit :=
  fun ⟨store, depth, collections⟩ =>
    match refusal? store with
    | some error => .error (.error (scopeError name error)) ⟨store, depth, collections⟩
    | none => .ok () ⟨update store, depth, collections⟩

def declare (scope : ScopeId) (name : String) (binding : Binding) : Eval Unit :=
  change name (·.declareRefusal? scope name) (·.bind scope name binding)

def define (scope : ScopeId) (name : String) (value : Value) : Eval Unit :=
  declare scope name ⟨value, true, false⟩

def assign (scope : ScopeId) (name : String) (value : Value) : Eval Unit :=
  change name (·.assignRefusal? scope name) (·.overwrite scope name value)

def resolve (scope : ScopeId) (name : String) : Eval Value := do
  match (← get).store.resolve? scope name with
  | some value => return value
  | none => fail (.undefined name)

/-- Runs the evaluation with `depth` open calls and returns to the present number afterwards, also when it
fails. -/
def atDepth {α : Type} (depth : Nat) (action : Eval α) : Eval α := fun ⟨store, present, collections⟩ =>
  match action ⟨store, depth, collections⟩ with
  | .ok value final => .ok value ⟨final.store, present, final.collections⟩
  | .error failure final => .error failure ⟨final.store, present, final.collections⟩

def onFreshStack {α : Type} (action : Eval α) : Eval α := fun machine =>
  (Task.spawn (fun _ => action machine) Task.Priority.dedicated).get

theorem onFreshStack_eq {α : Type} (action : Eval α) : onFreshStack action = action := rfl

end Eval

end TableScript
