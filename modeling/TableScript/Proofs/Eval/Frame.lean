import TableScript.Proofs.Eval.Step
import TableScript.Proofs.Scope.Frame

set_option autoImplicit false

namespace TableScript

/-- The machine afterwards, also after a failure. -/
def Eval.after {α : Type} (action : Eval α) (machine : Machine) : Machine :=
  match action machine with
  | .ok _ final => final
  | .error _ final => final

/-- The scopes of the earlier machine are framed, and as many calls are open. -/
structure Machine.Frame (exempt : Option ScopeId) (before after : Machine) : Prop where
  store : before.store.Frame exempt after.store
  depth : after.depth = before.depth

/-- Every run of the evaluation stays within the frame. -/
def Eval.Keeps {α : Type} (exempt : Option ScopeId) (action : Eval α) : Prop :=
  ∀ machine : Machine, machine.Frame exempt (Eval.after action machine)

namespace Machine.Frame

theorem refl (exempt : Option ScopeId) (machine : Machine) : machine.Frame exempt machine :=
  ⟨.refl exempt machine.store, rfl⟩

theorem trans {exempt : Option ScopeId} {first second third : Machine}
    (early : first.Frame exempt second) (late : second.Frame exempt third) :
    first.Frame exempt third :=
  ⟨early.store.trans late.store, late.depth.trans early.depth⟩

end Machine.Frame

namespace Eval

variable {α β : Type} {exempt : Option ScopeId}

theorem Keeps.weaken {action : Eval α} (keeps : Keeps none action) (exempt : Option ScopeId) :
    Keeps exempt action :=
  fun machine => ⟨(keeps machine).store.weaken exempt, (keeps machine).depth⟩

theorem Keeps.bind {action : Eval α} {next : α → Eval β} (start : Keeps exempt action)
    (rest : ∀ value, Keeps exempt (next value)) : Keeps exempt (action >>= next) := by
  intro machine
  have early := start machine
  simp only [after, Bind.bind, EStateM.bind] at early ⊢
  cases ran : action machine with
  | error failure middle =>
      rw [ran] at early
      exact early
  | ok value middle =>
      rw [ran] at early
      exact early.trans (rest value middle)

theorem pure_keeps (value : α) : Keeps exempt (pure value : Eval α) := fun machine => .refl exempt machine

theorem throw_keeps (failure : Failure) : Keeps exempt (throw failure : Eval α) :=
  fun machine => .refl exempt machine

theorem fail_keeps (error : EvalError) : Keeps exempt (fail error : Eval α) := throw_keeps (.error error)

theorem get_keeps : Keeps exempt (get : Eval Machine) := fun machine => .refl exempt machine

theorem settle_keeps (value : Value) : Keeps exempt (settle value) :=
  fun machine => ⟨.refl exempt machine.store, rfl⟩

theorem resolve_keeps (scope : ScopeId) (name : String) : Keeps exempt (resolve scope name) := by
  refine Keeps.bind get_keeps fun machine => ?_
  split
  · exact pure_keeps _
  · exact fail_keeps _

theorem change_keeps {name : String} {refusal? : Store → Option ScopeError} {update : Store → Store}
    (framed : ∀ store, refusal? store = none → store.Frame exempt (update store)) :
    Keeps exempt (change name refusal? update) := by
  intro machine
  simp only [after, change]
  cases refused : refusal? machine.store with
  | some error => exact .refl exempt machine
  | none => exact ⟨framed machine.store refused, rfl⟩

theorem declare_keeps (scope : ScopeId) (name : String) (binding : Binding) :
    Keeps (some scope) (declare scope name binding) :=
  change_keeps fun _ allowed => Store.bind_frame binding allowed

theorem assign_keeps (scope : ScopeId) (name : String) (value : Value) :
    Keeps exempt (assign scope name value) :=
  change_keeps fun _ allowed => (Store.overwrite_frame value allowed).weaken exempt

theorem atDepth_keeps {action : Eval α} (depth : Nat) (keeps : Keeps exempt action) :
    Keeps exempt (atDepth depth action) := by
  intro machine
  have inside := keeps ⟨machine.store, depth, machine.collections⟩
  simp only [after, atDepth] at inside ⊢
  cases ran : action ⟨machine.store, depth, machine.collections⟩ with
  | ok value final =>
      rw [ran] at inside
      exact ⟨inside.store, rfl⟩
  | error failure final =>
      rw [ran] at inside
      exact ⟨inside.store, rfl⟩

/-- What happens in a new scope adds names to no scope that was there before. -/
theorem enclose_keeps (parent : ScopeId) {body : ScopeId → Eval α}
    (inside : ∀ inner, Keeps (some inner) (body inner)) : Keeps exempt (enclose parent >>= body) := by
  apply Keeps.weaken
  intro machine
  have created := (machine.store.create_frame (some parent)).weaken (some machine.store.scopes.size)
  have ran := inside machine.store.scopes.size
    ⟨(machine.store.create (some parent)).2, machine.depth, machine.collections⟩
  have both := created.trans ran.store
  exact ⟨both.of_fresh (Nat.le_refl _), ran.depth⟩

end Eval

/-- Evaluations related to themselves as far as they keep the frame. -/
def Simulation.frame (exempt : Option ScopeId) : Simulation where
  relates first _ := Eval.Keeps exempt first
  returns := Eval.pure_keeps
  sequence := Eval.Keeps.bind
  fails error _ := Eval.fail_keeps error
  disorders keys rows := Eval.throw_keeps (.disorder keys rows)
  settles := Eval.settle_keeps

theorem Eval.forM_keeps {α : Type} {exempt : Option ScopeId} {action : α → Eval PUnit}
    (each : ∀ item, Keeps exempt (action item)) (items : List α) : Keeps exempt (items.forM action) :=
  @Simulation.forM (.frame exempt) α action action each items

/-- The evaluator adds names only to the scope that it evaluates in. -/
structure Evaluator.Framed (run : Evaluator) : Prop where
  eval : ∀ expr scope, Eval.Keeps (some scope) (run.eval expr scope)
  resolve : ∀ value, Eval.Keeps none (run.resolve value)

namespace Evaluator.Framed

variable {run : Evaluator} (framed : run.Framed)
include framed

theorem force (owner : Value) (entry : Entry Value) : Eval.Keeps none (run.force owner entry) := by
  cases entry with
  | ready value => exact Eval.pure_keeps value
  | deferred origin expr scope =>
      refine Eval.enclose_keeps scope fun inner => ?_
      exact (Eval.declare_keeps inner "this" _).bind fun _ => framed.eval expr inner

theorem callFunction (f : Function) (args : List Value) : Eval.Keeps none (run.callFunction f args) := by
  change (Simulation.frame none).relates (run.callFunction f args) (run.callFunction f args)
  refine Simulation.callFunction Eval.get_keeps fun depth => ?_
  refine Eval.enclose_keeps f.scope fun scope => ?_
  refine Eval.Keeps.bind ?_ fun _ => Eval.atDepth_keeps _ (framed.eval f.body scope)
  refine Eval.forM_keeps (fun pair => ?_) _
  exact (Eval.settle_keeps pair.2).bind fun value => Eval.declare_keeps scope pair.1 _

theorem follows (exempt : Option ScopeId) : (Simulation.frame exempt).Follows run run where
  resolve value := (framed.resolve value).weaken exempt
  force owner entry := (framed.force owner entry).weaken exempt
  callFunction f args := (framed.callFunction f args).weaken exempt

theorem invoke (receiver : Value) (name : String) (args : List Value) :
    Eval.Keeps none (Method.invoke run receiver name args) :=
  (framed.follows none).invoke receiver name args fun error _ => Eval.fail_keeps error

theorem block (exempt : Option ScopeId) (scope : ScopeId) (items : List Expr) :
    Eval.Keeps exempt (Eval.enclose scope >>= fun inner => run.block inner items) := by
  refine Eval.enclose_keeps scope fun inner => ?_
  change (Simulation.frame (some inner)).relates (run.block inner items) (run.block inner items)
  refine Simulation.foldlM ?_ items Value.null
  intro _ item
  exact framed.eval item inner

theorem within (scope : ScopeId) : (Simulation.frame (some scope)).Within run run scope where
  follows := framed.follows (some scope)
  eval expr := framed.eval expr scope
  lookup := Eval.resolve_keeps scope
  declare := Eval.declare_keeps scope
  assign := Eval.assign_keeps scope
  block := framed.block (some scope) scope

theorem evalStep (options : Options) (expr : Expr) (scope : ScopeId) :
    Eval.Keeps (some scope) (Evaluator.evalStep options run expr scope) := by
  have pardons : (Simulation.frame (some scope)).Pardons options.nullOnBounds options.nullOnBounds := by
    intro error
    split
    · exact Eval.pure_keeps _
    · exact Eval.fail_keeps error
  refine (framed.within scope).evalStep pardons expr fun _ name _ _ receiver args => ?_
  exact (framed.invoke receiver name args).weaken (some scope)

/-- A block evaluates in a scope of its own. -/
theorem evalStep_block (options : Options) (items : List Expr) (scope : ScopeId) :
    Eval.Keeps none (Evaluator.evalStep options run (.block items) scope) :=
  (framed.block none scope items).bind fun value => Eval.settle_keeps value

end Evaluator.Framed

theorem Evaluator.withFuel_framed (options : Options) (fuel : Nat) : (withFuel options fuel).Framed := by
  induction fuel with
  | zero => exact ⟨fun _ _ => Eval.throw_keeps _, fun _ => Eval.throw_keeps _⟩
  | succ fuel ih =>
      rw [withFuel_succ]
      exact ⟨ih.evalStep options, (ih.follows none).resolveStep⟩

/-- The frame of evaluation, for every expression, scope and machine and for either outcome. Whatever scope
was there before keeps its parent and its protected names, loses no binding, and keeps its protected bindings
as they are. Only the scope of the expression itself may get new names or flags, and not even that one if the
expression is a block; every other scope keeps its names and flags and changes at most the values of bindings
that can be assigned and are not protected. So do all scopes when a function is called, an entry is
evaluated, a value is resolved or a method is invoked. As many calls are open afterwards as before. -/
theorem Evaluator.evaluation_frame (options : Options) (fuel : Nat) :
    (∀ expr scope machine,
      Machine.Frame (some scope) machine
        (Eval.after ((withFuel options fuel).eval expr scope) machine)) ∧
    (∀ items scope machine,
      Machine.Frame none machine
        (Eval.after ((withFuel options fuel).eval (.block items) scope) machine)) ∧
    (∀ callee args machine,
      Machine.Frame none machine (Eval.after ((withFuel options fuel).call callee args) machine)) ∧
    (∀ owner entry machine,
      Machine.Frame none machine (Eval.after ((withFuel options fuel).force owner entry) machine)) ∧
    (∀ value machine,
      Machine.Frame none machine (Eval.after ((withFuel options fuel).resolve value) machine)) ∧
    (∀ receiver name args machine,
      Machine.Frame none machine
        (Eval.after (Method.invoke (withFuel options fuel) receiver name args) machine)) := by
  have framed := withFuel_framed options fuel
  refine ⟨framed.eval, ?_, (framed.follows none).call, framed.force, framed.resolve, framed.invoke⟩
  intro items scope
  cases fuel with
  | zero => exact Eval.throw_keeps _
  | succ fuel =>
      rw [withFuel_succ]
      exact (withFuel_framed options fuel).evalStep_block options items scope

end TableScript
