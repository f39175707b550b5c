import TableScript.Eval.Basic
import TableScript.Proofs.Method.Law

set_option autoImplicit false

namespace TableScript

theorem Evaluator.literalEntries_lawful {law : Law} {entries : List (String × Expr)}
    (allowed : ∀ pair ∈ entries, law.entry pair.2) (site : Site) (scope : ScopeId) :
    (literalEntries site scope entries).All law.Entered := by
  apply Dictionary.All.ofList
  intro pair member
  obtain ⟨position, inside, rfl⟩ := List.mem_mapIdx.mp member
  exact allowed _ (List.getElem_mem inside)

namespace Logic

variable {law : Law} {logic : Logic law}

/-- The judgement covers the evaluation of an expression in every scope. -/
def Evaluates (logic : Logic law) (expr : Expr) : Prop :=
  ∀ scope, logic.holds law.Throughout fun run => run.eval expr scope

theorem args {exprs : List Expr} (each : ∀ expr ∈ exprs, logic.Evaluates expr) (scope : ScopeId) :
    logic.holds (fun values => ∀ value ∈ values, law.Throughout value) fun run =>
      exprs.mapM fun expr => run.eval expr scope :=
  mapM fun expr member => each expr member scope

theorem bound {expr : Option Expr} (evaluates : ∀ part ∈ expr, logic.Evaluates part) (scope : ScopeId) :
    logic.holds law.Throughout fun run => run.bound scope expr := by
  cases expr with
  | none => exact returns (Law.throughout_scalar .null)
  | some expr => exact evaluates expr rfl scope

namespace Serves

variable (serves : logic.Serves)
include serves

theorem binary {left right : Expr} (first : logic.Evaluates left) (second : logic.Evaluates right)
    (op : BinaryOp) (scope : ScopeId) :
    logic.holds law.Throughout fun run => run.binary op left right scope := by
  have truth : ∀ value : Bool, logic.holds law.Throughout fun _ => (pure (.bool value) : Eval Value) :=
    fun value => returns (Law.throughout_scalar (.bool value))
  have operator : ∀ {a b : Value} (op : BinaryOp), law.Throughout a → law.Throughout b →
      logic.holds law.Throughout fun _ => (liftM (Operation.binary a b op) : Eval Value) :=
    fun op lawful other => outcome (Operation.binary_lawful lawful other op)
  -- Operators that take the operands as they are, and those that see them resolved.
  have direct : ∀ op, logic.holds law.Throughout (fun run => do
      let a ← run.eval left scope
      let b ← run.eval right scope
      liftM (Operation.binary a b op)) := by
    intro op
    refine logic.sequence (first scope) fun a held => logic.sequence (second scope) fun b given => ?_
    exact operator op held given
  have deep : ∀ op, logic.holds law.Throughout (fun run => do
      let a ← run.resolve (← run.eval left scope)
      let b ← run.resolve (← run.eval right scope)
      liftM (Operation.binary a b op)) := by
    intro op
    refine logic.sequence (first scope) fun a held => logic.sequence (serves.resolve held) fun a held => ?_
    refine logic.sequence (second scope) fun b given => logic.sequence (serves.resolve given) fun b given => ?_
    exact operator op held.2 given.2
  cases op with
  | and =>
      refine logic.sequence (first scope) fun a _ => ite (fun _ => ?_) fun _ => truth false
      exact logic.sequence (second scope) fun b _ => truth b.truthy
  | or =>
      refine logic.sequence (first scope) fun a _ => ite (fun _ => truth true) fun _ => ?_
      exact logic.sequence (second scope) fun b _ => truth b.truthy
  | coalesce =>
      refine logic.sequence (first scope) fun a held => ite (fun _ => second scope) fun _ => ?_
      exact returns held
  | add =>
      refine logic.sequence (first scope) fun a held => logic.sequence (second scope) fun b given => ?_
      refine ite (fun _ => ?_) fun _ => operator .add held given
      refine logic.sequence (serves.resolve held) fun a held => logic.sequence (serves.resolve given) fun b given => ?_
      exact operator .add held.2 given.2
  | eq => exact deep .eq
  | notEq => exact deep .notEq
  | member => exact deep .member
  | notMember => exact deep .notMember
  | _ => exact direct _

variable (kept : law.Kept)
include kept

theorem index {target : Value} (held : law.Throughout target) (subscript : Value) (optional : Bool) :
    logic.holds law.Throughout fun run => run.index target subscript optional := by
  cases target with
  | array handle items =>
      cases subscript with
      | int place => exact lift (Position.element_lawful place _ (Law.throughout_array.mp held))
      | _ => exact fails _
  | text text =>
      cases subscript with
      | int place => exact lift (Position.element_lawful place _ fun _ _ => Law.throughout_scalar (.text _))
      | _ => exact fails _
  | table handle table =>
      cases subscript with
      | int place => exact lift (Position.element_lawful place _ fun row => kept.rowValue_lawful held)
      | _ => exact fails _
  | dict handle entries =>
      cases subscript with
      | text key => exact serves.read held key
      | _ => exact fails _
  | record handle record =>
      cases subscript with
      | text field =>
          have each := (Law.throughout_record.mp held).2.2
          exact returns (Row.cell_of_all each (kept.stored_scalar .null) field).2
      | _ => exact fails _
  | null => exact ite (fun _ => returns (Law.throughout_scalar .null)) fun _ => fails _
  | bool | int | float | quantity | money | schema | function | error => exact fails _

theorem member {target : Value} (held : law.Throughout target) (name : String) :
    logic.holds law.Throughout fun run => run.member target name := by
  have none : ∀ arg ∈ ([] : List Value), law.Throughout arg := nofun
  cases target with
  | dict handle entries => exact serves.read held name
  | record handle record =>
      refine ite (fun _ => ?_) fun _ => serves.invoke kept held none name
      have each := (Law.throughout_record.mp held).2.2
      exact returns (Row.cell_of_all each (kept.stored_scalar .null) name).2
  | null => exact returns (Law.throughout_scalar .null)
  | bool | int | float | quantity | text | money | array | table | schema | function | error =>
      exact serves.invoke kept held none name

theorem evalNode (options : Options) {expr : Expr} (allowed : law.expr expr)
    (evaluates : ∀ part ∈ expr.parts, logic.Evaluates part) (scope : ScopeId) :
    logic.holds law.Throughout fun run => run.evalNode options expr scope := by
  cases expr with
  | null | bool | int | float | text | money => exact returns (Law.throughout_scalar (by simp))
  | lambda site params body =>
      exact returns (Law.throughout_function.mpr (kept.parts allowed body List.mem_cons_self))
  | measure value suffix =>
      cases made : Quantity.ofLiteral? value suffix with
      | some quantity =>
          simp only [Evaluator.evalNode, made]
          exact returns (Law.throughout_scalar (.quantity _))
      | none =>
          simp only [Evaluator.evalNode, made]
          exact fails _
  | ident name => exact lookup scope name
  | this => exact lookup scope "this"
  | array items =>
      exact logic.sequence (args evaluates scope) fun values each => returns (Law.throughout_ofItems.mpr each)
  | dict site entries =>
      have entered := Evaluator.literalEntries_lawful (kept.literal allowed) site scope
      exact returns (Law.throughout_ofEntries.mpr entered)
  | unary op operand =>
      refine logic.sequence (evaluates operand List.mem_cons_self scope) fun value _ => ?_
      exact outcome (Operation.unary_lawful value op)
  | binary op left right =>
      simp only [Expr.parts, List.forall_mem_cons] at evaluates
      exact serves.binary evaluates.1 evaluates.2.1 op scope
  | index target subscript written =>
      simp only [Expr.parts, List.forall_mem_cons] at evaluates
      refine logic.sequence (evaluates.1 scope) fun target held => ?_
      exact logic.sequence (evaluates.2.1 scope) fun subscript _ => serves.index kept held subscript _
  | slice target start stop =>
      simp only [Expr.parts, List.forall_mem_cons, List.forall_mem_append, Option.mem_toList] at evaluates
      refine logic.sequence (evaluates.1 scope) fun target held => ?_
      refine logic.sequence (bound evaluates.2.1 scope) fun start _ => ?_
      refine logic.sequence (bound evaluates.2.2 scope) fun stop _ => ?_
      exact outcome (Position.slice_lawful held start stop _)
  | field target name =>
      refine logic.sequence (evaluates target List.mem_cons_self scope) fun target held => ?_
      exact serves.member kept held name
  | call callee args =>
      simp only [Expr.parts, List.forall_mem_cons] at evaluates
      refine logic.sequence (evaluates.1 scope) fun callee called => ?_
      exact logic.sequence (Logic.args evaluates.2 scope) fun args given => serves.call kept called given
  | method receiver name args =>
      simp only [Expr.parts, List.forall_mem_cons] at evaluates
      refine logic.sequence (evaluates.1 scope) fun receiver held => ?_
      exact logic.sequence (Logic.args evaluates.2 scope) fun args given => serves.invoke kept held given name
  | declare name value exported immutable =>
      refine logic.sequence (evaluates value List.mem_cons_self scope) fun value held => ?_
      refine logic.sequence (Logic.declare scope name ?_) fun _ _ => returns (Law.throughout_scalar .null)
      exact held
  | assign name value =>
      refine logic.sequence (evaluates value List.mem_cons_self scope) fun value held => ?_
      exact logic.sequence (Logic.assign scope name held) fun _ _ => returns (Law.throughout_scalar .null)
  | block items =>
      refine logic.sequence (enclose scope) fun inner _ => ?_
      exact foldlM (Law.throughout_scalar .null) fun _ item member _ => evaluates item member inner
  | cond test thenBranch elseBranch =>
      simp only [Expr.parts, List.forall_mem_cons, Option.mem_toList] at evaluates
      refine logic.sequence (evaluates.1 scope) fun test _ => ite (fun _ => evaluates.2.1 scope) fun _ => ?_
      cases elseBranch with
      | some expr => exact evaluates.2.2 expr rfl scope
      | none => exact returns (Law.throughout_scalar .null)

/-- One step of evaluation. -/
theorem evalStep (options : Options) {expr : Expr} (allowed : law.expr expr)
    (evaluates : ∀ part ∈ expr.parts, logic.Evaluates part) (scope : ScopeId) :
    logic.holds law.Throughout fun run => Evaluator.evalStep options run expr scope :=
  logic.sequence (serves.evalNode kept options allowed evaluates scope) fun _ held => settle kept held

end Serves

end Logic

end TableScript
