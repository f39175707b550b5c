import TableScript.Proofs.Eval.Law
import TableScript.Proofs.Eval.Step

set_option autoImplicit false

namespace TableScript

/-- Lawful stores make the evaluator yield lawful values, and it resolves lawful values to lawful ones. -/
structure Evaluator.Lawful (law : Law) (run : Evaluator) : Prop where
  eval : ∀ expr scope, law.Yields law.Throughout (run.eval expr scope)
  resolve : ∀ value, law.Throughout value → law.Yields law.Resolved (run.resolve value)

/-- What an evaluator yields, should it end. -/
def Logic.yielding (law : Law) (run : Evaluator) : Logic law where
  holds post action := law.Yields post (action run)
  steady yields _ := yields
  sequence := Yields.bind

namespace Evaluator

variable {law : Law}

namespace Lawful

variable {run : Evaluator} (lawful : run.Lawful law)
include lawful

theorem force {owner : Value} (held : law.Throughout owner) {entry : Entry Value} (entered : law.Entered entry) :
    law.Yields law.Throughout (run.force owner entry) := by
  cases entry with
  | ready value => exact yields_pure entered
  | deferred origin expr scope =>
      refine (Eval.enclose_yields scope).bind fun inner _ => ?_
      refine (Eval.declare_yields inner "this" ?_).bind fun _ _ => lawful.eval expr inner
      exact held

variable (kept : law.Kept)
include kept

theorem callFunction {args : List Value} (f : Function) (given : ∀ arg ∈ args, law.Throughout arg) :
    law.Yields law.Throughout (run.callFunction f args) := by
  intro machine before
  rw [Evaluator.callFunction_apply]
  split
  · exact before
  · split
    · exact before
    · have body (scope : ScopeId) : (Logic.yielding law run).holds law.Throughout fun run =>
          Eval.atDepth (machine.depth + 1) (run.eval f.body scope) :=
        Eval.atDepth_yields (machine.depth + 1) (lawful.eval f.body scope)
      exact Logic.apply kept given machine.depth body machine before

theorem serves : (Logic.yielding law run).Serves where
  resolve held := lawful.resolve _ held
  force held entered := lawful.force held entered
  callFunction _ given := lawful.callFunction kept _ given

theorem forceStored {handle : Handle} {entries : Dictionary (Entry Value)}
    (held : law.Throughout (.dict handle entries)) :
    law.Yields (fun row : Row => row.All law.Stored) (run.forceRow handle entries) :=
  (lawful.serves kept).forceStored kept held

theorem resolveStep {value : Value} (held : law.Throughout value) :
    law.Yields law.Resolved (Evaluator.resolveStep run value) := by
  refine @Logic.resolveStep law (Logic.yielding law run) kept value held ?_ ?_
  · rintro handle entries rfl entry member
    exact (lawful.force held (Law.throughout_dict.mp held entry member)).bind lawful.resolve
  · rintro handle items rfl item member
    exact lawful.resolve item (Law.throughout_array.mp held item member)

end Lawful

/-- Evaluation with any amount of fuel keeps the law. -/
theorem withFuel_lawful (upheld : law.Upheld) (options : Options) (fuel : Nat) :
    (withFuel options fuel).Lawful law := by
  induction fuel with
  | zero => exact ⟨fun _ _ => yields_throw _, fun _ _ => yields_throw _⟩
  | succ fuel ih =>
      rw [withFuel_succ]
      refine ⟨fun expr scope => ?_, fun _ held => ih.resolveStep upheld.toKept held⟩
      exact (ih.serves upheld.toKept).evalStep upheld.toKept options (upheld.any expr)
        (fun part _ scope => ih.eval part scope) scope

end Evaluator

end TableScript
