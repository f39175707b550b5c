import TableScript.Proofs.Eval.Verdict

set_option autoImplicit false

namespace TableScript

/-- It ended, and not for lack of fuel. -/
def Finished {α : Type} : EStateM.Result Failure Machine α → Prop
  | .error .outOfFuel _ => False
  | _ => True

namespace Verdict

/-- A failure is answered by the same failure, unless there was too little fuel. -/
def finishing : Verdict where
  admits _ := True
  answer?
    | .outOfFuel => none
    | failure => some failure
  plain failure _ := by
    refine ⟨trivial, fun answer given => ?_⟩
    cases failure with
    | error | disorder => exact (Option.some.inj given).symm
    | outOfFuel => cases given

theorem finishing_agrees (options : Options) {fuel more : Nat} (enough : fuel ≤ more) :
    finishing.Agrees (Evaluator.withFuel options fuel) (Evaluator.withFuel options more) := by
  have failing : ∀ {α : Type} (error : EvalError),
      finishing.Relates (Eval.fail error : Eval α) (Eval.fail error) := by
    intro α error machine
    refine ⟨trivial, fun answer given => ?_⟩
    cases given
    rfl
  induction fuel generalizing more with
  | zero => exact ⟨fun _ _ _ => ⟨trivial, nofun⟩, fun _ _ => ⟨trivial, nofun⟩⟩
  | succ fuel ih =>
      obtain ⟨more, rfl⟩ := Nat.exists_eq_add_of_le' enough
      change finishing.Agrees (Evaluator.withFuel options (fuel + 1))
        (Evaluator.withFuel options (more + fuel + 1))
      rw [Evaluator.withFuel_succ, Evaluator.withFuel_succ]
      have agrees := ih (Nat.le_add_left fuel more)
      refine ⟨fun expr scope => ?_, agrees.follows.resolveStep⟩
      apply (agrees.within scope).evalStep
      · intro error
        split
        · exact finishing.simulation.returns Value.null
        · exact failing error
      · intro _ name _ _ receiver args
        exact agrees.follows.invoke receiver name args fun error _ => failing error

theorem Relates.finished {α : Type} {first second : Eval α} {machine : Machine}
    (related : finishing.Relates first second) (ended : Finished (first machine)) :
    second machine = first machine := by
  have same := related machine
  cases ran : first machine with
  | ok value final =>
      rw [ran] at same
      exact same
  | error failure final =>
      rw [ran] at same ended
      cases failure with
      | error | disorder => exact same.2 _ rfl
      | outOfFuel => exact ended.elim

end Verdict

namespace Evaluator

variable {options : Options} {fuel more : Nat} {machine : Machine}

theorem resolve_more {value : Value} (enough : fuel ≤ more)
    (ended : Finished ((withFuel options fuel).resolve value machine)) :
    (withFuel options more).resolve value machine = (withFuel options fuel).resolve value machine :=
  ((Verdict.finishing_agrees options enough).resolve value).finished ended

theorem forceRow_more {handle : Handle} {entries : Dictionary (Entry Value)} (enough : fuel ≤ more)
    (ended : Finished ((withFuel options fuel).forceRow handle entries machine)) :
    (withFuel options more).forceRow handle entries machine =
      (withFuel options fuel).forceRow handle entries machine :=
  Verdict.Relates.finished ((Verdict.finishing_agrees options enough).follows.forceRow handle entries) ended

end Evaluator

end TableScript
