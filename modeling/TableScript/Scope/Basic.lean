import TableScript.Value.Debug

set_option autoImplicit false

namespace TableScript

structure Binding where
  value : Value
  isMutable : Bool
  exported : Bool

structure Scope where
  bindings : Dictionary Binding
  /-- Names that can be neither declared again nor assigned here. -/
  protectedNames : List String
  parent : Option ScopeId

/-- Why a declaration or an assignment was refused. -/
inductive ScopeError where
  | immutable
  | undefined
  | protectedName
deriving DecidableEq, Repr

namespace Scope

def binds (scope : Scope) (name : String) : Bool := scope.bindings.contains name

def protects (scope : Scope) (name : String) : Bool := scope.protectedNames.contains name

def bind (scope : Scope) (name : String) (binding : Binding) : Scope :=
  { scope with bindings := scope.bindings.insert name binding }

end Scope

structure Store where
  scopes : Array Scope

namespace Store

def empty : Store := ⟨#[]⟩

def scope? (store : Store) (id : ScopeId) : Option Scope := store.scopes[id]?

/-- Adds a scope without bindings. Its handle is the next free one. -/
def create (store : Store) (parent : Option ScopeId) : ScopeId × Store :=
  (store.scopes.size, ⟨store.scopes.push ⟨.empty, [], parent⟩⟩)

def update (store : Store) (id : ScopeId) (change : Scope → Scope) : Store :=
  ⟨store.scopes.modify id change⟩

def parent? (store : Store) (id : ScopeId) : Option ScopeId := (store.scope? id).bind (·.parent)

/-- The scope and those around it, from the inside out. A parent is older than its children. -/
def chain (store : Store) (id : ScopeId) : List ScopeId :=
  match store.parent? id with
  | none => [id]
  | some parent => if parent < id then id :: store.chain parent else [id]
termination_by id

def binding? (store : Store) (id : ScopeId) (name : String) : Option Binding :=
  (store.scope? id).bind fun scope => scope.bindings.get? name

def isProtected (store : Store) (id : ScopeId) (name : String) : Bool :=
  (store.scope? id).any (·.protects name)

/-- Why the name cannot be declared in this scope. -/
def declareRefusal? (store : Store) (id : ScopeId) (name : String) : Option ScopeError :=
  if store.isProtected id name then some .protectedName else none

/-- Binds the name in this scope only. -/
def bind (store : Store) (id : ScopeId) (name : String) (binding : Binding) : Store :=
  store.update id fun scope => scope.bind name binding

def declare (store : Store) (id : ScopeId) (name : String) (binding : Binding) :
    Except ScopeError Store :=
  match store.declareRefusal? id name with
  | some error => .error error
  | none => .ok (store.bind id name binding)

def define (store : Store) (id : ScopeId) (name : String) (value : Value) : Except ScopeError Store :=
  store.declare id name ⟨value, true, false⟩

/-- The innermost binding of the name, and the scope that holds it. -/
def holder? (store : Store) (id : ScopeId) (name : String) : Option (ScopeId × Binding) :=
  (store.chain id).findSome? fun candidate =>
    (store.binding? candidate name).map fun binding => (candidate, binding)

def resolve? (store : Store) (id : ScopeId) (name : String) : Option Value :=
  (store.holder? id name).map (·.2.value)

/-- Why the innermost binding of the name cannot be assigned. -/
def assignRefusal? (store : Store) (id : ScopeId) (name : String) : Option ScopeError :=
  match store.holder? id name with
  | none => some .undefined
  | some (owner, binding) =>
    if store.isProtected owner name then some .protectedName
    else if binding.isMutable then none
    else some .immutable

/-- Gives the innermost binding of the name another value. -/
def overwrite (store : Store) (id : ScopeId) (name : String) (value : Value) : Store :=
  match store.holder? id name with
  | none => store
  | some (owner, binding) => store.bind owner name { binding with value := value }

def assign (store : Store) (id : ScopeId) (name : String) (value : Value) : Except ScopeError Store :=
  match store.assignRefusal? id name with
  | some error => .error error
  | none => .ok (store.overwrite id name value)

/-- Binds the name and reserves it in this scope. -/
def protect (store : Store) (id : ScopeId) (name : String) (value : Value) : Store :=
  store.update id fun scope =>
    { scope.bind name ⟨value, false, false⟩ with
      protectedNames := if scope.protects name then scope.protectedNames
        else name :: scope.protectedNames }

/-- Whether this scope itself exports the name. -/
def isExported (store : Store) (id : ScopeId) (name : String) : Bool :=
  (store.binding? id name).any (·.exported)

/-- Whether the innermost binding of the name cannot be assigned. -/
def isImmutable (store : Store) (id : ScopeId) (name : String) : Bool :=
  (store.holder? id name).any (!·.2.isMutable)

def sortNames (names : List String) : List String := names.mergeSort fun a b => !decide (b < a)

def names (store : Store) (id : ScopeId) : List String :=
  ((store.scope? id).map fun scope => scope.bindings.keys).getD []

/-- The exported bindings of this scope, sorted by name. -/
def exports (store : Store) (id : ScopeId) : List (String × Value) :=
  let bindings := ((store.scope? id).map fun scope => scope.bindings.entries).getD []
  ((bindings.filter (·.2.exported)).map fun (name, binding) => (name, binding.value)).mergeSort fun a b => !decide (b.1 < a.1)

/-- Every name that can be seen from the scope, sorted and without repetition. -/
def identifiers (store : Store) (id : ScopeId) : List String :=
  (sortNames ((store.chain id).flatMap store.names)).eraseDups

def debug (store : Store) (id : ScopeId) : String :=
  "Environment \x7b names: " ++ quotedList (sortNames (store.names id)) ++ ", has_parent: "
    ++ boolText (store.parent? id).isSome ++ " \x7d"

end Store

end TableScript
