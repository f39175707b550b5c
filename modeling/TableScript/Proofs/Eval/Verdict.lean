import TableScript.Proofs.Eval.Step

set_option autoImplicit false

namespace TableScript

def Failure.isMiss : Failure → Bool
  | .error cause => cause.isMiss
  | .disorder .. => false
  | .outOfFuel => false

/-- What the failures of one evaluation may be, and with which failure, if any, another one answers. -/
structure Verdict where
  admits : Failure → Prop
  answer? : Failure → Option Failure
  /-- A failure that is no miss is admitted, and an answer to it is the same failure. -/
  plain : ∀ failure, failure.isMiss = false →
    admits failure ∧ ∀ answer, answer? failure = some answer → answer = failure

namespace Verdict

variable {α β : Type}

/-- The second outcome is the first one, but for what the verdict says of failures. -/
def Matches (verdict : Verdict) (first second : EStateM.Result Failure Machine α) : Prop :=
  match first with
  | .ok value final => second = .ok value final
  | .error failure final =>
    verdict.admits failure ∧
      ∀ answer, verdict.answer? failure = some answer → second = .error answer final

def Relates (verdict : Verdict) (first second : Eval α) : Prop :=
  ∀ machine, verdict.Matches (first machine) (second machine)

variable {verdict : Verdict}

theorem Relates.bind {first second : Eval α} {next follow : α → Eval β}
    (start : verdict.Relates first second) (rest : ∀ value, verdict.Relates (next value) (follow value)) :
    verdict.Relates (first >>= next) (second >>= follow) := by
  intro machine
  have early := start machine
  simp only [Bind.bind, EStateM.bind]
  cases ran : first machine with
  | ok value middle =>
      rw [ran] at early
      have same : second machine = .ok value middle := early
      rw [same]
      exact rest value middle
  | error failure middle =>
      rw [ran] at early
      refine ⟨early.1, fun answer given => ?_⟩
      rw [early.2 answer given]

/-- An evaluation that never ends in a miss is related to itself. -/
theorem relates_self {action : Eval α}
    (harmless : ∀ machine failure final, action machine = .error failure final → failure.isMiss = false) :
    verdict.Relates action action := by
  intro machine
  cases ran : action machine with
  | ok value final => rfl
  | error failure final =>
      have plain := verdict.plain failure (harmless machine failure final ran)
      refine ⟨plain.1, fun answer given => ?_⟩
      rw [plain.2 answer given]

theorem change_relates (name : String) (refusal? : Store → Option ScopeError) (update : Store → Store) :
    verdict.Relates (Eval.change name refusal? update) (Eval.change name refusal? update) := by
  apply relates_self
  intro machine failure final failed
  simp only [Eval.change] at failed
  split at failed
  · rename_i error _
    cases failed
    cases error <;> rfl
  · cases failed

theorem declare_relates (scope : ScopeId) (name : String) (binding : Binding) :
    verdict.Relates (Eval.declare scope name binding) (Eval.declare scope name binding) :=
  change_relates _ _ _

theorem assign_relates (scope : ScopeId) (name : String) (value : Value) :
    verdict.Relates (Eval.assign scope name value) (Eval.assign scope name value) :=
  change_relates _ _ _

theorem enclose_relates (parent : ScopeId) {body follow : ScopeId → Eval α}
    (inside : ∀ inner, verdict.Relates (body inner) (follow inner)) :
    verdict.Relates (Eval.enclose parent >>= body) (Eval.enclose parent >>= follow) :=
  fun _ => inside _ _

theorem atDepth_relates {first second : Eval α} (depth : Nat) (inside : verdict.Relates first second) :
    verdict.Relates (Eval.atDepth depth first) (Eval.atDepth depth second) := by
  intro machine
  have related := inside ⟨machine.store, depth, machine.collections⟩
  simp only [Eval.atDepth]
  cases ran : first ⟨machine.store, depth, machine.collections⟩ with
  | ok value final =>
      rw [ran] at related
      have same : second ⟨machine.store, depth, machine.collections⟩ = .ok value final := related
      rw [same]
      rfl
  | error failure final =>
      rw [ran] at related
      refine ⟨related.1, fun answer given => ?_⟩
      rw [related.2 answer given]

/-- Evaluations compared by a verdict. -/
def simulation (verdict : Verdict) : Simulation where
  relates := verdict.Relates
  returns value := fun _ => rfl
  sequence := Relates.bind
  fails error harmless := by
    apply relates_self
    intro machine failure final failed
    cases failed
    exact harmless
  disorders keys rows := by
    apply relates_self
    intro machine failure final failed
    cases failed
    rfl
  settles value := fun _ => rfl

theorem resolve_relates (scope : ScopeId) (name : String) :
    verdict.Relates (Eval.resolve scope name) (Eval.resolve scope name) := by
  have reads : verdict.Relates (get : Eval Machine) get := fun _ => rfl
  refine reads.bind fun machine => ?_
  split
  · exact verdict.simulation.returns _
  · exact verdict.simulation.fails _ rfl

/-- Both fields of the evaluators are related. -/
structure Agrees (verdict : Verdict) (run other : Evaluator) : Prop where
  eval : ∀ expr scope, verdict.Relates (run.eval expr scope) (other.eval expr scope)
  resolve : ∀ value, verdict.Relates (run.resolve value) (other.resolve value)

namespace Agrees

variable {run other : Evaluator} (agrees : verdict.Agrees run other)
include agrees

theorem force (owner : Value) (entry : Entry Value) :
    verdict.Relates (run.force owner entry) (other.force owner entry) := by
  cases entry with
  | ready value => exact fun _ => rfl
  | deferred origin expr scope =>
      refine enclose_relates scope fun inner => ?_
      exact (declare_relates inner "this" _).bind fun _ => agrees.eval expr inner

theorem callFunction (f : Function) (args : List Value) :
    verdict.Relates (run.callFunction f args) (other.callFunction f args) := by
  change verdict.simulation.relates (run.callFunction f args) (other.callFunction f args)
  refine Simulation.callFunction (fun _ => rfl) fun depth => ?_
  refine enclose_relates f.scope fun scope => ?_
  refine Relates.bind ?_ fun _ => atDepth_relates _ (agrees.eval f.body scope)
  refine @Simulation.forM verdict.simulation _ _ _ (fun pair => ?_) _
  exact (verdict.simulation.settles pair.2).bind fun value => declare_relates scope pair.1 _

theorem follows : verdict.simulation.Follows run other :=
  ⟨agrees.resolve, agrees.force, agrees.callFunction⟩

theorem block (scope : ScopeId) (items : List Expr) :
    verdict.Relates (Eval.enclose scope >>= fun inner => run.block inner items)
      (Eval.enclose scope >>= fun inner => other.block inner items) := by
  refine enclose_relates scope fun inner => ?_
  change verdict.simulation.relates (run.block inner items) (other.block inner items)
  refine Simulation.foldlM ?_ items Value.null
  intro _ item
  exact agrees.eval item inner

theorem within (scope : ScopeId) : verdict.simulation.Within run other scope where
  follows := agrees.follows
  eval expr := agrees.eval expr scope
  lookup := resolve_relates scope
  declare := declare_relates scope
  assign := assign_relates scope
  block := agrees.block scope

end Agrees

end Verdict

end TableScript
