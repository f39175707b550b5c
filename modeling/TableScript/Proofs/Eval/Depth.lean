import TableScript.Proofs.Eval.Frame

set_option autoImplicit false

namespace TableScript

/-- Up to the limit of open calls both evaluations do the same, and as many calls are open afterwards. -/
def Eval.SameWithin {α : Type} (first second : Eval α) : Prop :=
  ∀ machine, machine.depth ≤ Evaluator.maxCallDepth →
    second machine = first machine ∧ (Eval.after first machine).depth = machine.depth

namespace Eval

variable {α β : Type}

theorem SameWithin.bind {first second : Eval α} {next follow : α → Eval β} (start : SameWithin first second)
    (rest : ∀ value, SameWithin (next value) (follow value)) : SameWithin (first >>= next) (second >>= follow) := by
  intro machine shallow
  obtain ⟨same, depth⟩ := start machine shallow
  simp only [after, Bind.bind, EStateM.bind, same] at depth ⊢
  cases ran : first machine with
  | error failure middle =>
      rw [ran] at depth
      exact ⟨rfl, depth⟩
  | ok value middle =>
      rw [ran] at depth
      have level : middle.depth = machine.depth := depth
      obtain ⟨later, kept⟩ := rest value middle (by omega)
      exact ⟨later, kept.trans level⟩

/-- What keeps some frame keeps the number of open calls. -/
theorem sameWithin_self (exempt : Option ScopeId) {action : Eval α} (keeps : Keeps exempt action) :
    SameWithin action action := fun machine _ => ⟨rfl, (keeps machine).depth⟩

theorem enclose_sameWithin (parent : ScopeId) {body follow : ScopeId → Eval α}
    (inside : ∀ inner, SameWithin (body inner) (follow inner)) :
    SameWithin (enclose parent >>= body) (enclose parent >>= follow) :=
  fun machine shallow => inside machine.store.scopes.size
    ⟨(machine.store.create (some parent)).2, machine.depth, machine.collections⟩ shallow

theorem atDepth_sameWithin {first second : Eval α} {depth : Nat} (shallow : depth ≤ Evaluator.maxCallDepth)
    (inside : SameWithin first second) : SameWithin (atDepth depth first) (atDepth depth second) := by
  intro machine _
  obtain ⟨same, -⟩ := inside ⟨machine.store, depth, machine.collections⟩ shallow
  simp only [after, atDepth, same, true_and]
  cases first ⟨machine.store, depth, machine.collections⟩ <;> rfl

end Eval

/-- Evaluations that do the same up to the limit. -/
def Simulation.withinLimit : Simulation where
  relates := Eval.SameWithin
  returns value := Eval.sameWithin_self none (Eval.pure_keeps value)
  sequence := Eval.SameWithin.bind
  fails error _ := Eval.sameWithin_self none (Eval.fail_keeps error)
  disorders keys rows := Eval.sameWithin_self none (Eval.throw_keeps (.disorder keys rows))
  settles value := Eval.sameWithin_self none (Eval.settle_keeps value)

namespace Evaluator

/-- What the two evaluators do is the same up to the limit. -/
structure SameWithin (run other : Evaluator) : Prop where
  eval : ∀ expr scope, Eval.SameWithin (run.eval expr scope) (other.eval expr scope)
  resolve : ∀ value, Eval.SameWithin (run.resolve value) (other.resolve value)

namespace SameWithin

variable {run other : Evaluator} (same : SameWithin run other)
include same

theorem force (owner : Value) (entry : Entry Value) :
    Eval.SameWithin (run.force owner entry) (other.force owner entry) := by
  cases entry with
  | ready value => exact Simulation.withinLimit.returns value
  | deferred origin expr scope =>
      refine Eval.enclose_sameWithin scope fun inner => ?_
      refine Eval.SameWithin.bind ?_ fun _ => same.eval expr inner
      exact Eval.sameWithin_self (some inner) (Eval.declare_keeps inner "this" _)

/-- A body is evaluated under one more call than the call itself, which is within the limit as well. -/
theorem callFunction (f : Function) (args : List Value) :
    Eval.SameWithin (run.callFunction f args) (other.callFunction f args) := by
  intro machine shallow
  rw [Eval.after, callFunction_apply, callFunction_apply]
  split
  · exact ⟨rfl, rfl⟩
  · split
    · exact ⟨rfl, rfl⟩
    · rename_i shallower
      have entered : Eval.SameWithin (Eval.enclose f.scope >>= fun scope => run.apply f args machine.depth scope)
          (Eval.enclose f.scope >>= fun scope => other.apply f args machine.depth scope) := by
        refine Eval.enclose_sameWithin f.scope fun scope => ?_
        refine Eval.SameWithin.bind ?_ fun _ => Eval.atDepth_sameWithin (by omega) (same.eval f.body scope)
        refine Eval.sameWithin_self (some scope) (Eval.forM_keeps (fun pair => ?_) _)
        exact (Eval.settle_keeps pair.2).bind fun value => Eval.declare_keeps scope pair.1 _
      exact entered machine shallow

theorem follows : Simulation.withinLimit.Follows run other := ⟨same.resolve, same.force, same.callFunction⟩

theorem within (scope : ScopeId) : Simulation.withinLimit.Within run other scope where
  follows := same.follows
  eval expr := same.eval expr scope
  lookup name := Eval.sameWithin_self none (Eval.resolve_keeps scope name)
  declare name binding := Eval.sameWithin_self (some scope) (Eval.declare_keeps scope name binding)
  assign name value := Eval.sameWithin_self none (Eval.assign_keeps scope name value)
  block items := by
    refine Eval.enclose_sameWithin scope fun inner => ?_
    change Simulation.withinLimit.relates (run.block inner items) (other.block inner items)
    exact Simulation.foldlM (fun _ item => same.eval item inner) items Value.null

theorem evalStep (options : Options) (expr : Expr) (scope : ScopeId) :
    Eval.SameWithin (Evaluator.evalStep options run expr scope) (Evaluator.evalStep options other expr scope) := by
  have pardons : Simulation.withinLimit.Pardons options.nullOnBounds options.nullOnBounds := by
    intro error
    split
    · exact Simulation.withinLimit.returns Value.null
    · exact Eval.sameWithin_self none (Eval.fail_keeps error)
  refine (same.within scope).evalStep pardons expr fun _ name _ _ receiver args => ?_
  exact same.follows.invoke receiver name args fun error _ =>
    Eval.sameWithin_self none (Eval.fail_keeps error)

end SameWithin

/-- Evaluation as by `withFuel`, but for what would be evaluated under more open calls than the limit allows, which
goes as `beyond` has it. -/
def confined (options : Options) (beyond : Expr → ScopeId → Eval Value) : Nat → Evaluator
  | 0 => withFuel options 0
  | fuel + 1 =>
    ⟨fun expr scope machine =>
        if machine.depth ≤ maxCallDepth then evalStep options (confined options beyond fuel) expr scope machine
        else beyond expr scope machine,
      resolveStep (confined options beyond fuel)⟩

theorem confined_sameWithin (options : Options) (beyond : Expr → ScopeId → Eval Value) (fuel : Nat) :
    SameWithin (withFuel options fuel) (confined options beyond fuel) := by
  induction fuel with
  | zero =>
      refine ⟨fun expr scope => ?_, fun value => ?_⟩
      · exact Eval.sameWithin_self (some scope) ((withFuel_framed options 0).eval expr scope)
      · exact Eval.sameWithin_self none ((withFuel_framed options 0).resolve value)
  | succ fuel ih =>
      rw [withFuel_succ]
      refine ⟨fun expr scope machine shallow => ?_, fun value => ih.follows.resolveStep value⟩
      simp only [confined, shallow, ↓reduceIte]
      exact ih.evalStep options expr scope machine shallow

end Evaluator

end TableScript
