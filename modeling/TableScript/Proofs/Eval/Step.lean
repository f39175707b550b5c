import TableScript.Eval.Basic
import TableScript.Proofs.Method.Simulation

set_option autoImplicit false

namespace TableScript

theorem Evaluator.withFuel_succ (options : Options) (fuel : Nat) :
    withFuel options (fuel + 1) =
      ⟨evalStep options (withFuel options fuel), resolveStep (withFuel options fuel)⟩ := by
  have evaluates : evalWith options (fuel + 1) = evalStep options (withFuel options fuel) :=
    funext fun expr => funext fun scope => evalWith_succ options fuel expr scope
  have resolves : resolveWith options (fuel + 1) = resolveStep (withFuel options fuel) :=
    funext fun value => resolveWith_succ options fuel value
  rw [withFuel, evaluates, resolves]

theorem Evaluator.evalStep_method (options : Options) (run : Evaluator) (receiver : Expr) (name : String)
    (args : List Expr) (scope : ScopeId) :
    evalStep options run (.method receiver name args) scope = (do
      let receiver ← run.eval receiver scope
      let args ← args.mapM fun arg => run.eval arg scope
      Eval.settle (← Method.invoke run receiver name args)) := by
  simp only [evalStep, evalNode, bind_assoc]

namespace Simulation

/-- Where the first evaluation gives null or an error, depending on whether it allows misses, the second
follows with its own choice. -/
def Pardons (sim : Simulation) (optional choice : Bool) : Prop :=
  ∀ error, sim.relates (if optional then pure Value.null else Eval.fail error)
    (if choice then pure Value.null else Eval.fail error)

/-- What the evaluators do in one scope is related as well. -/
structure Within (sim : Simulation) (run other : Evaluator) (scope : ScopeId) : Prop where
  follows : sim.Follows run other
  eval : ∀ expr, sim.relates (run.eval expr scope) (other.eval expr scope)
  lookup : ∀ name, sim.relates (Eval.resolve scope name) (Eval.resolve scope name)
  declare : ∀ name binding,
    sim.relates (Eval.declare scope name binding) (Eval.declare scope name binding)
  assign : ∀ name value, sim.relates (Eval.assign scope name value) (Eval.assign scope name value)
  block : ∀ items, sim.relates (Eval.enclose scope >>= fun inner => run.block inner items)
    (Eval.enclose scope >>= fun inner => other.block inner items)

variable {sim : Simulation} {run other : Evaluator} {optional choice : Bool}

theorem Pardons.or (pardons : sim.Pardons optional choice) (written : Bool) :
    sim.Pardons (written || optional) (written || choice) := by
  cases written with
  | false => exact pardons
  | true => exact fun _ => sim.returns Value.null

theorem Pardons.lift (pardons : sim.Pardons optional choice) (outcome : Except EvalError Value) :
    sim.relates (Eval.lift (Position.pardon optional .null outcome))
      (Eval.lift (Position.pardon choice .null outcome)) := by
  cases outcome with
  | ok value => exact sim.returns value
  | error error =>
      cases missed : error.isMiss with
      | false =>
          have harmless : NeverMisses (.error error : Except EvalError Value) :=
            (neverMisses_error error).mpr missed
          rw [Position.pardon_of_neverMisses _ _ harmless, Position.pardon_of_neverMisses _ _ harmless]
          exact Simulation.lift harmless
      | true =>
          have related := pardons error
          simp only [Position.pardon, missed, Bool.and_true]
          cases optional <;> cases choice <;> exact related

theorem Pardons.element {α : Type} (pardons : sim.Pardons optional choice) (items : List α)
    (index : Int64) (toValue : α → Value) :
    sim.relates (Eval.lift (Position.element items index optional toValue))
      (Eval.lift (Position.element items index choice toValue)) := by
  rw [Position.element_eq_pardon items index optional, Position.element_eq_pardon items index choice]
  exact pardons.lift _

theorem Pardons.slice (pardons : sim.Pardons optional choice) (target start stop : Value) :
    sim.relates (Eval.lift (Position.slice target start stop optional))
      (Eval.lift (Position.slice target start stop choice)) := by
  rw [Position.slice_eq_pardon target start stop optional,
    Position.slice_eq_pardon target start stop choice]
  exact pardons.lift _

theorem Follows.index (follows : sim.Follows run other) (pardons : sim.Pardons optional choice)
    (target subscript : Value) :
    sim.relates (run.index target subscript optional) (other.index target subscript choice) := by
  unfold Evaluator.index
  split
  · exact pardons.element _ _ _
  · exact pardons.element _ _ _
  · exact pardons.element _ _ _
  · exact follows.read _ _ _
  · exact sim.returns _
  · exact pardons _
  · exact sim.fails _ rfl

theorem Follows.member (follows : sim.Follows run other) (target : Value) (name : String) :
    sim.relates (run.member target name) (other.member target name) := by
  unfold Evaluator.member
  split
  · exact follows.read _ _ _
  · split
    · exact sim.returns _
    · exact follows.invoke_nil _ _
  · exact sim.returns _
  · exact follows.invoke_nil _ _

namespace Within

variable {scope : ScopeId} (within : sim.Within run other scope)
include within

theorem binary (op : BinaryOp) (left right : Expr) :
    sim.relates (run.binary op left right scope) (other.binary op left right scope) := by
  unfold Evaluator.binary
  split
  · refine sim.sequence (within.eval left) fun value => ?_
    split
    · exact sim.sequence (within.eval right) fun value => sim.returns _
    · exact sim.returns _
  · refine sim.sequence (within.eval left) fun value => ?_
    split
    · exact sim.returns _
    · exact sim.sequence (within.eval right) fun value => sim.returns _
  · refine sim.sequence (within.eval left) fun value => ?_
    split
    · exact within.eval right
    · exact sim.returns value
  · refine sim.sequence (within.eval left) fun a => ?_
    refine sim.sequence (within.eval right) fun b => ?_
    split
    · refine sim.sequence (within.follows.resolve a) fun a => ?_
      refine sim.sequence (within.follows.resolve b) fun b => ?_
      exact outcome (Operation.binary_neverMisses a b .add)
    · exact outcome (Operation.binary_neverMisses a b .add)
  · split
    · refine sim.sequence (within.eval left) fun value => ?_
      refine sim.sequence (within.follows.resolve value) fun a => ?_
      refine sim.sequence (within.eval right) fun value => ?_
      refine sim.sequence (within.follows.resolve value) fun b => ?_
      exact outcome (Operation.binary_neverMisses a b _)
    · refine sim.sequence (within.eval left) fun a => ?_
      refine sim.sequence (within.eval right) fun b => ?_
      exact outcome (Operation.binary_neverMisses a b _)

theorem bound (expr : Option Expr) : sim.relates (run.bound scope expr) (other.bound scope expr) := by
  cases expr with
  | none => exact sim.returns _
  | some expr => exact within.eval expr

theorem args (exprs : List Expr) :
    sim.relates (exprs.mapM fun expr => run.eval expr scope)
      (exprs.mapM fun expr => other.eval expr scope) := mapM within.eval exprs

/-- Every expression, given that calls of methods are related where the expression is one. -/
theorem evalNode {options choices : Options}
    (pardons : sim.Pardons options.nullOnBounds choices.nullOnBounds) (expr : Expr)
    (methods : ∀ target name exprs, expr = .method target name exprs → ∀ receiver args,
      sim.relates (Method.invoke run receiver name args) (Method.invoke other receiver name args)) :
    sim.relates (run.evalNode options expr scope) (other.evalNode choices expr scope) := by
  cases expr with
  | null | bool | int | float | text | money | dict | lambda => exact sim.returns _
  | measure value suffix =>
      simp only [Evaluator.evalNode]
      split
      · exact sim.returns _
      · exact sim.fails _ rfl
  | ident name => exact within.lookup name
  | this => exact within.lookup "this"
  | array items => exact sim.sequence (within.args items) fun values => sim.returns _
  | unary op operand =>
      exact sim.sequence (within.eval operand) fun value => outcome (Operation.unary_neverMisses value op)
  | binary op left right => exact within.binary op left right
  | index target subscript written =>
      refine sim.sequence (within.eval target) fun target => ?_
      refine sim.sequence (within.eval subscript) fun subscript => ?_
      exact within.follows.index (pardons.or written) target subscript
  | slice target start stop =>
      refine sim.sequence (within.eval target) fun target => ?_
      refine sim.sequence (within.bound start) fun start => ?_
      refine sim.sequence (within.bound stop) fun stop => ?_
      exact pardons.slice target start stop
  | field target name =>
      exact sim.sequence (within.eval target) fun target => within.follows.member target name
  | call callee args =>
      refine sim.sequence (within.eval callee) fun callee => ?_
      exact sim.sequence (within.args args) fun args => within.follows.call callee args
  | method receiver name args =>
      refine sim.sequence (within.eval receiver) fun target => ?_
      exact sim.sequence (within.args args) fun values => methods receiver name args rfl target values
  | declare name value exported immutable =>
      refine sim.sequence (within.eval value) fun value => ?_
      exact sim.sequence (within.declare name _) fun _ => sim.returns _
  | assign name value =>
      refine sim.sequence (within.eval value) fun value => ?_
      exact sim.sequence (within.assign name value) fun _ => sim.returns _
  | block items => exact within.block items
  | cond test thenBranch elseBranch =>
      refine sim.sequence (within.eval test) fun value => ?_
      split
      · exact within.eval thenBranch
      · split
        · exact within.eval _
        · exact sim.returns _

theorem evalStep {options choices : Options}
    (pardons : sim.Pardons options.nullOnBounds choices.nullOnBounds) (expr : Expr)
    (methods : ∀ target name exprs, expr = .method target name exprs → ∀ receiver args,
      sim.relates (Method.invoke run receiver name args) (Method.invoke other receiver name args)) :
    sim.relates (Evaluator.evalStep options run expr scope) (Evaluator.evalStep choices other expr scope) :=
  sim.sequence (within.evalNode pardons expr methods) fun value => sim.settles value

end Within

end Simulation

end TableScript
