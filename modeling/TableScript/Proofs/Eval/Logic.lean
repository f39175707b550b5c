import TableScript.Proofs.Eval.Simulation
import TableScript.Proofs.Eval.Yields
import TableScript.Proofs.Table.Law
import TableScript.Proofs.Table.OrderBy

set_option autoImplicit false

namespace TableScript

/-- There is a reason in the program or in its data to fail like this: it is an error, or the sort gave up on
contradictory keys. -/
def Failure.Grounded : Failure → Prop
  | .error _ => True
  | .disorder keys rows => SortKey.Contradictory keys rows
  | .outOfFuel => False

/-- How an evaluation with so many open calls may end: with as many of them, and not for want of fuel. -/
def Ended {α : Type} (depth : Nat) : EStateM.Result Failure Machine α → Prop
  | .ok _ final => final.depth = depth
  | .error failure final => failure.Grounded ∧ final.depth = depth

/-- Every run ends with the open calls that it began with. -/
def Eval.Steady {α : Type} (action : Eval α) : Prop := ∀ machine, Ended machine.depth (action machine)

/-- Which actions, made of what an evaluator does, have results of a kind. -/
structure Logic (law : Law) where
  holds {α : Type} (post : α → Prop) (action : Evaluator → Eval α) : Prop
  steady {α : Type} {post : α → Prop} {action : Eval α} (yields : law.Yields post action)
    (ends : action.Steady) : holds post fun _ => action
  sequence {α β : Type} {middle : α → Prop} {post : β → Prop} {first : Evaluator → Eval α}
    {next : α → Evaluator → Eval β} (start : holds middle first)
    (rest : ∀ value, middle value → holds post (next value)) :
    holds post fun run => first run >>= fun value => next value run

namespace Eval

section Steady

variable {α : Type}

theorem pure_steady (value : α) : (pure value : Eval α).Steady := fun _ => rfl

theorem fail_steady (error : EvalError) : (fail error : Eval α).Steady :=
  fun _ => ⟨trivial, rfl⟩

theorem lift_steady (outcome : Except EvalError α) : (lift outcome).Steady := by
  cases outcome with
  | ok value => exact pure_steady value
  | error error => exact fail_steady error

theorem settle_steady (value : Value) : (settle value).Steady := fun _ => rfl

theorem enclose_steady (parent : ScopeId) : (enclose parent).Steady := fun _ => rfl

theorem change_steady (name : String) (refusal? : Store → Option ScopeError) (update : Store → Store) :
    (change name refusal? update).Steady := by
  rintro ⟨store, depth, collections⟩
  simp only [change]
  cases refusal? store with
  | none => rfl
  | some error => exact ⟨trivial, rfl⟩

theorem resolve_steady (scope : ScopeId) (name : String) : (resolve scope name).Steady := by
  intro machine
  simp only [resolve, get_bind]
  cases machine.store.resolve? scope name with
  | some value => exact pure_steady value machine
  | none => exact fail_steady _ machine

end Steady

end Eval

namespace Logic

variable {law : Law} {logic : Logic law} {α β : Type} {post : α → Prop}

section Rules

theorem returns {value : α} (held : post value) : logic.holds post fun _ => (pure value : Eval α) :=
  logic.steady (yields_pure held) (Eval.pure_steady value)

theorem fails (error : EvalError) : logic.holds post fun _ => (Eval.fail error : Eval α) :=
  logic.steady (Eval.fail_yields error) (Eval.fail_steady error)

/-- The same action in other words. -/
theorem restate {first second : Evaluator → Eval α} (same : ∀ run, second run = first run)
    (held : logic.holds post first) : logic.holds post second := by
  rw [show second = first from funext same]
  exact held

theorem imp {weaker : α → Prop} {action : Evaluator → Eval α} (held : logic.holds post action)
    (follows : ∀ value, post value → weaker value) : logic.holds weaker action := by
  refine restate (fun run => (bind_pure (action run)).symm) ?_
  exact logic.sequence held fun value given => returns (follows value given)

theorem lift {outcome : Except EvalError α} (gives : Gives post outcome) :
    logic.holds post fun _ => Eval.lift outcome :=
  logic.steady (Eval.lift_yields gives) (Eval.lift_steady outcome)

/-- As `lift`, for an outcome that a sequence of steps takes up. -/
theorem outcome {outcome : Except EvalError α} (gives : Gives post outcome) :
    logic.holds post fun _ => (liftM outcome : Eval α) := lift gives

/-- What comes after an outcome matters only for the value that it gives. -/
theorem check {result : β → Prop} {outcome : Except EvalError α} {next : α → Evaluator → Eval β}
    (rest : ∀ value, outcome = .ok value → logic.holds result (next value)) :
    logic.holds result fun run => (liftM outcome : Eval α) >>= fun value => next value run :=
  logic.sequence (Logic.outcome (gives_self outcome)) rest

theorem ite {condition : Prop} [Decidable condition] {first second : Evaluator → Eval α}
    (whenTrue : condition → logic.holds post first) (whenFalse : ¬ condition → logic.holds post second) :
    logic.holds post fun run => if condition then first run else second run := by
  by_cases true : condition
  · simpa only [true, ↓reduceIte] using whenTrue true
  · simpa only [true, ↓reduceIte] using whenFalse true

/-- Every result of the list has the property of the results of its item. -/
theorem mapM {result : β → Prop} {action : Evaluator → α → Eval β} {items : List α}
    (each : ∀ item ∈ items, logic.holds result fun run => action run item) :
    logic.holds (fun results => ∀ value ∈ results, result value) fun run => items.mapM (action run) := by
  induction items with
  | nil => exact returns fun value none => nomatch none
  | cons item rest ih =>
      simp only [List.mapM_cons]
      refine logic.sequence (each item List.mem_cons_self) fun value first => ?_
      refine logic.sequence (ih fun later member => each later (List.mem_cons_of_mem item member))
        fun values others => ?_
      exact returns (List.forall_mem_cons.mpr ⟨first, others⟩)

theorem foldlM {holds : β → Prop} {action : Evaluator → β → α → Eval β} {items : List α} {start : β}
    (first : holds start)
    (each : ∀ total item, item ∈ items → holds total → logic.holds holds fun run => action run total item) :
    logic.holds holds fun run => items.foldlM (action run) start := by
  induction items generalizing start with
  | nil => exact returns first
  | cons item rest ih =>
      simp only [List.foldlM_cons]
      refine logic.sequence (each start item List.mem_cons_self first) fun total held => ?_
      exact ih held fun total later member => each total later (List.mem_cons_of_mem item member)

theorem forM {action : Evaluator → α → Eval PUnit} {items : List α}
    (each : ∀ item ∈ items, logic.holds (fun _ => True) fun run => action run item) :
    logic.holds (fun _ => True) fun run => items.forM (action run) := by
  induction items with
  | nil => exact returns trivial
  | cons item rest ih =>
      refine logic.sequence (each item List.mem_cons_self) fun _ _ => ?_
      exact ih fun later member => each later (List.mem_cons_of_mem item member)

theorem enclose (parent : ScopeId) : logic.holds (fun _ => True) fun _ => Eval.enclose parent :=
  logic.steady (Eval.enclose_yields parent) (Eval.enclose_steady parent)

theorem declare {binding : Binding} (scope : ScopeId) (name : String) (lawful : law.Throughout binding.value) :
    logic.holds (fun _ => True) fun _ => Eval.declare scope name binding :=
  logic.steady (Eval.declare_yields scope name lawful) (Eval.change_steady name _ _)

theorem assign {value : Value} (scope : ScopeId) (name : String) (lawful : law.Throughout value) :
    logic.holds (fun _ => True) fun _ => Eval.assign scope name value :=
  logic.steady (Eval.assign_yields scope name lawful) (Eval.change_steady name _ _)

theorem lookup (scope : ScopeId) (name : String) : logic.holds law.Throughout fun _ => Eval.resolve scope name :=
  logic.steady (Eval.resolve_yields scope name) (Eval.resolve_steady scope name)

variable (kept : law.Kept)
include kept

theorem settle {value : Value} (lawful : law.Throughout value) :
    logic.holds law.Throughout fun _ => Eval.settle value :=
  logic.steady (Eval.settle_yields kept lawful) (Eval.settle_steady value)

theorem settleResolved {value : Value} (resolved : law.Resolved value) :
    logic.holds law.Resolved fun _ => Eval.settle value :=
  logic.steady (Eval.settle_resolved kept resolved) (Eval.settle_steady value)

/-- A function is applied in a new scope, where its parameters are bound to the arguments. -/
theorem apply {f : Function} {args : List Value} (given : ∀ arg ∈ args, law.Throughout arg) (depth : Nat)
    (body : ∀ scope, logic.holds law.Throughout fun run => Eval.atDepth (depth + 1) (run.eval f.body scope)) :
    logic.holds law.Throughout fun run =>
      Eval.enclose f.scope >>= fun scope => run.apply f args depth scope := by
  refine logic.sequence (Logic.enclose f.scope) fun scope _ => ?_
  refine logic.sequence (Logic.forM fun pair member => ?_) fun _ (_ : True) => body scope
  have known := given pair.2 (List.of_mem_zip member).2
  exact logic.sequence (Logic.settle kept known) fun arg settled => Logic.declare scope pair.1 settled

end Rules

/-- What an evaluator is asked to do by itself. -/
structure Serves (logic : Logic law) : Prop where
  resolve : ∀ {value : Value}, law.Throughout value → logic.holds law.Resolved fun run => run.resolve value
  force : ∀ {owner : Value} {entry : Entry Value}, law.Throughout owner → law.Entered entry →
    logic.holds law.Throughout fun run => run.force owner entry
  callFunction : ∀ {f : Function} {args : List Value}, law.Throughout (.function f) →
    (∀ arg ∈ args, law.Throughout arg) → logic.holds law.Throughout fun run => run.callFunction f args

/-- Evaluating a dictionary, where each entry can be evaluated and its value resolved. -/
theorem forceRow {handle : Handle} {entries : Dictionary (Entry Value)}
    (each : ∀ entry ∈ entries.values, logic.holds law.Resolved fun run =>
      run.force (.dict handle entries) entry >>= run.resolve) :
    logic.holds (fun row : Row => row.All law.Resolved) fun run => run.forceRow handle entries := by
  have pairs : ∀ pair ∈ entries.entries, logic.holds (fun forced : String × Value => law.Resolved forced.2)
      fun run => do
        let value ← run.force (.dict handle entries) pair.2
        return (pair.1, ← run.resolve value) := by
    intro pair member
    refine restate (fun run => (bind_assoc (run.force (.dict handle entries) pair.2) run.resolve fun resolved =>
      pure (pair.1, resolved)).symm) ?_
    refine logic.sequence (each pair.2 (List.mem_map_of_mem member)) fun resolved done => ?_
    exact Logic.returns done
  exact logic.sequence (Logic.mapM pairs) fun forced all => returns (Dictionary.all_iff.mpr all)

/-- One level of resolving, where what the value holds can be resolved. -/
theorem resolveStep (kept : law.Kept) {value : Value} (held : law.Throughout value)
    (entry : ∀ handle entries, value = .dict handle entries → ∀ entry ∈ entries.values,
      logic.holds law.Resolved fun run => run.force (.dict handle entries) entry >>= run.resolve)
    (item : ∀ handle items, value = .array handle items → ∀ item ∈ items,
      logic.holds law.Resolved fun run => run.resolve item) :
    logic.holds law.Resolved fun run => Evaluator.resolveStep run value := by
  cases value with
  | dict handle entries =>
      refine logic.sequence (forceRow (entry handle entries rfl)) fun row each => ?_
      exact settleResolved kept (Law.resolved_ofRow each)
  | array handle items =>
      refine logic.sequence (mapM (item handle items rfl)) fun items each => ?_
      exact settleResolved kept (Law.resolved_ofItems each)
  | null | bool | int | float | quantity | text | money | table | record | schema | function | error =>
      exact returns ⟨nofun, held⟩

namespace Serves

variable (serves : logic.Serves)
include serves

theorem read {handle : Handle} {entries : Dictionary (Entry Value)}
    (held : law.Throughout (.dict handle entries)) (key : String) :
    logic.holds law.Throughout fun run => run.read handle entries key := by
  cases found : entries.get? key with
  | some entry =>
      simp only [Evaluator.read, found]
      exact serves.force held ((Law.throughout_dict.mp held).get? found)
  | none =>
      simp only [Evaluator.read, found]
      exact returns (Law.throughout_scalar .null)

theorem forceRow {handle : Handle} {entries : Dictionary (Entry Value)}
    (held : law.Throughout (.dict handle entries)) :
    logic.holds (fun row : Row => row.All law.Resolved) fun run => run.forceRow handle entries := by
  refine Logic.forceRow fun entry member => ?_
  exact logic.sequence (serves.force held (Law.throughout_dict.mp held entry member)) fun _ => serves.resolve

theorem resolveAll {items : List Value} (each : ∀ item ∈ items, law.Throughout item) :
    logic.holds (fun resolved => ∀ value ∈ resolved, law.Resolved value) fun run => items.mapM run.resolve :=
  Logic.mapM fun item member => serves.resolve (each item member)

variable (kept : law.Kept)
include kept

theorem forceStored {handle : Handle} {entries : Dictionary (Entry Value)}
    (held : law.Throughout (.dict handle entries)) :
    logic.holds (fun row : Row => row.All law.Stored) fun run => run.forceRow handle entries :=
  imp (serves.forceRow held) fun _ each => each.imp fun _ => kept.stored_of_resolved

theorem boundRow {binding : Schema Value} {value : Value} (held : law.Throughout value) :
    logic.holds (fun row => ∃ data : Row, data.All law.Stored ∧ row = Record.bindData binding data)
      fun run => run.boundRow binding value := by
  cases value with
  | dict handle entries =>
      exact logic.sequence (serves.forceStored kept held) fun row each => returns ⟨row, each, rfl⟩
  | null | bool | int | float | quantity | text | money | array | table | record | schema | function | error =>
      exact fails _

theorem bindTo {binding : Schema Value} {value : Value} (declared : law.Throughout (.schema binding))
    (held : law.Throughout value) : logic.holds law.Throughout fun run => run.bindTo binding value := by
  cases value with
  | dict handle entries =>
      refine logic.sequence (serves.forceStored kept held) fun row each => ?_
      exact returns (kept.create_lawful declared each)
  | array handle items =>
      have each := Law.throughout_array.mp held
      refine logic.sequence (Logic.mapM fun item member => serves.boundRow kept (each item member))
        fun rows bound => ?_
      exact returns (kept.bound_lawful rfl rfl declared bound)
  | record handle record =>
      have stored := (Law.throughout_record.mp held).2.2
      exact returns (kept.create_lawful declared stored)
  | table handle table =>
      refine returns (kept.bound_lawful rfl rfl declared fun row member => ?_)
      obtain ⟨source, earlier, rfl⟩ := List.mem_map.mp member
      exact ⟨source, (Law.throughout_table.mp held).2.2 source earlier, rfl⟩
  | null | bool | int | float | quantity | text | money | schema | function | error => exact fails _

theorem call {callee : Value} {args : List Value} (called : law.Throughout callee)
    (given : ∀ arg ∈ args, law.Throughout arg) :
    logic.holds law.Throughout fun run => run.call callee args := by
  cases callee with
  | function f => exact serves.callFunction called given
  | schema binding =>
      match args with
      | [arg] => exact serves.bindTo kept called (given arg List.mem_cons_self)
      | [] | _ :: _ :: _ => exact fails _
  | null | bool | int | float | quantity | text | money | array | dict | table | record | error =>
      exact fails _

end Serves

end Logic

end TableScript
