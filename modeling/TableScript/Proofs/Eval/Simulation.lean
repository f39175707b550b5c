import TableScript.Eval.Evaluator
import TableScript.Proofs.Operation.Miss

set_option autoImplicit false

namespace TableScript

section Steps

variable {ε σ α β : Type} {action : EStateM ε σ α} {state middle : σ}

theorem get_bind (next : σ → EStateM ε σ α) (state : σ) :
    ((get : EStateM ε σ σ) >>= next) state = next state state := rfl

theorem set_bind (next : PUnit → EStateM ε σ α) (new state : σ) :
    ((set new : EStateM ε σ PUnit) >>= next) state = next ⟨⟩ new := rfl

theorem bind_of_ok {value : α} (ran : action state = .ok value middle) (next : α → EStateM ε σ β) :
    (action >>= next) state = next value middle := by
  simp only [Bind.bind, EStateM.bind, ran]

theorem bind_of_error {error : ε} (ran : action state = .error error middle) (next : α → EStateM ε σ β) :
    (action >>= next) state = .error error middle := by
  simp only [Bind.bind, EStateM.bind, ran]

end Steps

theorem Eval.resolve_of_found {machine : Machine} {scope : ScopeId} {name : String} {value : Value}
    (found : machine.store.resolve? scope name = some value) : resolve scope name machine = .ok value machine := by
  simp only [resolve, get_bind, found]
  rfl

/-- Binds the parameters in the scope of the call and evaluates the body there. -/
def Evaluator.apply (run : Evaluator) (f : Function) (args : List Value) (depth : Nat) (scope : ScopeId) :
    Eval Value := do
  (f.params.zip args).forM fun (param, arg) => do Eval.define scope param (← Eval.settle arg)
  Eval.atDepth (depth + 1) (run.eval f.body scope)

/-- A call checks the number of arguments, then the number of open calls. -/
theorem Evaluator.callFunction_apply (run : Evaluator) (f : Function) (args : List Value) (machine : Machine) :
    run.callFunction f args machine =
      if args.length ≠ f.params.length then
        .error (.error (.arity "function" f.params.length args.length)) machine
      else if maxCallDepth ≤ machine.depth then
        .error (.error (.callDepth maxCallDepth)) machine
      else (Eval.enclose f.scope >>= fun scope => run.apply f args machine.depth scope) machine := by
  unfold Evaluator.callFunction
  by_cases counted : args.length = f.params.length
  · by_cases deep : maxCallDepth ≤ machine.depth
    · simp only [ne_eq, counted, not_true_eq_false, ↓reduceIte, get_bind, deep]
      rfl
    · simp only [ne_eq, counted, not_true_eq_false, ↓reduceIte, get_bind, deep]
      rfl
  · simp only [ne_eq, counted, not_false_eq_true, ↓reduceIte]
    rfl

theorem Evaluator.callFunction_full (run : Evaluator) {f : Function} {args : List Value} {machine : Machine}
    (counted : args.length = f.params.length) (full : maxCallDepth ≤ machine.depth) :
    run.callFunction f args machine = .error (.error (.callDepth maxCallDepth)) machine := by
  rw [callFunction_apply, if_neg (not_not_intro counted), if_pos full]

/-- How the second of two evaluations follows the first. -/
structure Simulation where
  relates {α : Type} (first second : Eval α) : Prop
  returns {α : Type} (value : α) : relates (pure value) (pure value)
  sequence {α β : Type} {first second : Eval α} {next follow : α → Eval β}
    (start : relates first second) (rest : ∀ value, relates (next value) (follow value)) :
    relates (first >>= next) (second >>= follow)
  fails {α : Type} (error : EvalError) (harmless : error.isMiss = false) :
    relates (Eval.fail error : Eval α) (Eval.fail error)
  disorders {α : Type} (keys : List SortKey) (rows : List Row) :
    relates (throw (.disorder keys rows) : Eval α) (throw (.disorder keys rows))
  settles (value : Value) : relates (Eval.settle value) (Eval.settle value)

/-- What one evaluator does on its own account, the other follows. -/
structure Simulation.Follows (sim : Simulation) (run other : Evaluator) : Prop where
  resolve : ∀ value, sim.relates (run.resolve value) (other.resolve value)
  force : ∀ owner entry, sim.relates (run.force owner entry) (other.force owner entry)
  callFunction : ∀ f args, sim.relates (run.callFunction f args) (other.callFunction f args)

namespace Simulation

variable {sim : Simulation} {run other : Evaluator} {α β : Type}

theorem lift {outcome : Except EvalError α} (harmless : NeverMisses outcome) :
    sim.relates (Eval.lift outcome) (Eval.lift outcome) := by
  cases outcome with
  | ok value => exact sim.returns value
  | error error => exact sim.fails error (harmless error rfl)

/-- As `lift`, for an outcome that a sequence of steps takes up. -/
theorem outcome {outcome : Except EvalError α} (harmless : NeverMisses outcome) :
    sim.relates (liftM outcome : Eval α) (liftM outcome) := lift harmless

/-- What comes after an outcome needs to be related only for the value that it gives. -/
theorem check {outcome : Except EvalError α} {next follow : α → Eval β} (harmless : NeverMisses outcome)
    (rest : ∀ value, outcome = .ok value → sim.relates (next value) (follow value)) :
    sim.relates ((liftM outcome : Eval α) >>= next) ((liftM outcome : Eval α) >>= follow) := by
  cases outcome with
  | ok value => exact rest value rfl
  | error error => exact sim.fails error (harmless error rfl)

theorem mapM {first second : α → Eval β} (each : ∀ item, sim.relates (first item) (second item))
    (items : List α) : sim.relates (items.mapM first) (items.mapM second) := by
  induction items with
  | nil => exact sim.returns []
  | cons item rest ih =>
      rw [List.mapM_cons, List.mapM_cons]
      refine sim.sequence (each item) fun value => ?_
      exact sim.sequence ih fun values => sim.returns (value :: values)

theorem foldlM {first second : β → α → Eval β}
    (each : ∀ state item, sim.relates (first state item) (second state item)) (items : List α)
    (start : β) : sim.relates (items.foldlM first start) (items.foldlM second start) := by
  induction items generalizing start with
  | nil => exact sim.returns start
  | cons item rest ih =>
      rw [List.foldlM_cons, List.foldlM_cons]
      exact sim.sequence (each start item) fun state => ih state

theorem forM {first second : α → Eval PUnit} (each : ∀ item, sim.relates (first item) (second item))
    (items : List α) : sim.relates (items.forM first) (items.forM second) := by
  induction items with
  | nil => exact sim.returns _
  | cons item rest ih => exact sim.sequence (each item) fun _ => ih

/-- A call is related where running the function in its new scope is. -/
theorem callFunction {f : Function} {args : List Value}
    (reads : sim.relates (get : Eval Machine) get)
    (enters : ∀ depth,
      sim.relates (Eval.enclose f.scope >>= fun scope => run.apply f args depth scope)
        (Eval.enclose f.scope >>= fun scope => other.apply f args depth scope)) :
    sim.relates (run.callFunction f args) (other.callFunction f args) := by
  unfold Evaluator.callFunction
  extract_lets proceed follow
  have opened : ∀ done, sim.relates (proceed done) (follow done) := by
    intro done
    refine sim.sequence reads fun machine => ?_
    dsimp only
    split
    · exact sim.sequence (sim.fails _ rfl) fun _ => enters machine.depth
    · exact enters machine.depth
  split
  · exact sim.sequence (sim.fails _ rfl) opened
  · exact opened ()

namespace Follows

variable (follows : sim.Follows run other)
include follows

theorem read (handle : Handle) (entries : Dictionary (Entry Value)) (key : String) :
    sim.relates (run.read handle entries key) (other.read handle entries key) := by
  unfold Evaluator.read
  split
  · exact follows.force _ _
  · exact sim.returns _

theorem forceRow (handle : Handle) (entries : Dictionary (Entry Value)) :
    sim.relates (run.forceRow handle entries) (other.forceRow handle entries) := by
  unfold Evaluator.forceRow
  refine sim.sequence (mapM ?_ _) fun pairs => sim.returns _
  intro pair
  refine sim.sequence (follows.force _ _) fun value => ?_
  exact sim.sequence (follows.resolve value) fun resolved => sim.returns _

theorem resolveStep (value : Value) :
    sim.relates (Evaluator.resolveStep run value) (Evaluator.resolveStep other value) := by
  unfold Evaluator.resolveStep
  split
  · exact sim.sequence (follows.forceRow _ _) fun row => sim.settles _
  · exact sim.sequence (mapM follows.resolve _) fun items => sim.settles _
  · exact sim.returns _

theorem boundRow (binding : Schema Value) (value : Value) :
    sim.relates (run.boundRow binding value) (other.boundRow binding value) := by
  unfold Evaluator.boundRow
  split
  · exact sim.sequence (follows.forceRow _ _) fun row => sim.returns _
  · exact sim.fails _ rfl

theorem bindTo (binding : Schema Value) (value : Value) :
    sim.relates (run.bindTo binding value) (other.bindTo binding value) := by
  unfold Evaluator.bindTo
  split
  · exact sim.sequence (follows.forceRow _ _) fun row => sim.returns _
  · exact sim.sequence (mapM (follows.boundRow binding) _) fun rows => sim.returns _
  · exact sim.returns _
  · exact sim.returns _
  · exact sim.fails _ rfl

theorem call (callee : Value) (args : List Value) :
    sim.relates (run.call callee args) (other.call callee args) := by
  unfold Evaluator.call
  split
  · exact follows.callFunction _ args
  · split
    · exact follows.bindTo _ _
    · exact sim.fails _ rfl
  · exact sim.fails _ rfl

end Follows

end Simulation

end TableScript
