import TableScript.Proofs.Eval.Depth
import TableScript.Proofs.Eval.Law
import TableScript.Proofs.Scope.Chain

set_option autoImplicit false

namespace TableScript

/-- No dictionary in the value has an unevaluated entry, and no function in it a dictionary literal in its body. -/
structure Value.Inert (value : Value) : Prop where
  ready : ∀ handle entries, (Value.dict handle entries).Occurs value →
    ∀ origin expr scope, .deferred origin expr scope ∉ entries.values
  free : ∀ f, (Value.function f).Occurs value → f.body.DictFree

/-- The law of inert values, whatever they are otherwise. -/
def Law.inert : Law where
  cell _ := True
  schema _ := True
  record _ := True
  table _ := True
  expr := Expr.DictFree
  entry _ := False

namespace Law

theorem inert_kept : inert.Kept where
  declare _ := trivial
  complete _ := trivial
  cellSettles _ _ := trivial
  recordSettles _ _ := trivial
  tableSettles _ _ := trivial
  create _ _ := trivial
  refresh _ := trivial
  assign _ _ _ := trivial
  validate _ := trivial
  withError _ _ _ := trivial
  row _ _ _ := trivial
  unbound _ := trivial
  bound _ _ _ _ := trivial
  grow _ _ _ _ := trivial
  parts free := free.part
  literal free := absurd free Expr.DictFree.not_dict

theorem throughout_inert {value : Value} : inert.Throughout value ↔ value.Inert := by
  constructor
  · exact fun lawful => ⟨fun handle entries deep => lawful _ deep, fun f deep => lawful _ deep⟩
  · rintro ⟨ready, free⟩ part deep
    cases part with
    | dict handle entries => exact ready handle entries deep
    | function f => exact free f deep
    | table => exact ⟨trivial, fun _ _ _ _ => trivial⟩
    | record => exact ⟨trivial, fun _ _ => trivial⟩
    | schema => exact ⟨trivial, fun _ _ _ _ => trivial⟩
    | null | bool | int | float | quantity | text | money | array | error => trivial

end Law

namespace Value

theorem sizeOf_item {handle : Handle} {items : List Value} {item : Value} (held : item ∈ items) :
    sizeOf item < sizeOf (Value.array handle items) := by
  have smaller := List.sizeOf_lt_of_mem held
  simp only [array.sizeOf_spec]
  omega

theorem sizeOf_entry {handle : Handle} {entries : Dictionary (Entry Value)} {value : Value}
    (held : .ready value ∈ entries.values) : sizeOf value < sizeOf (Value.dict handle entries) := by
  obtain ⟨pairs⟩ := entries
  obtain ⟨⟨key, entry⟩, member, rfl⟩ := List.mem_map.mp held
  have smaller := List.sizeOf_lt_of_mem member
  simp only [Prod.mk.sizeOf_spec, Entry.ready.sizeOf_spec] at smaller
  simp only [dict.sizeOf_spec, Dictionary.mk.sizeOf_spec]
  omega

end Value

/-- Some amount of fuel suffices for the action to end, with a lawful store and as many open calls as before, and
more fuel makes no difference. -/
def EndsFrom {α : Type} (law : Law) (options : Options) (machine : Machine) (post : α → Prop)
    (action : Evaluator → Eval α) : Prop :=
  ∃ fuel outcome, Leaves (fun final : Machine => final.store.Lawful law) post outcome ∧
    Ended machine.depth outcome ∧
    ∀ more, fuel ≤ more → action (Evaluator.withFuel options more) machine = outcome

namespace EndsFrom

variable {law : Law} {options : Options} {machine : Machine} {α β : Type} {post : α → Prop}

/-- What needs no evaluator needs no fuel. -/
theorem atOnce {action : Evaluator → Eval α} {outcome : EStateM.Result Failure Machine α}
    (leaves : Leaves (fun final : Machine => final.store.Lawful law) post outcome)
    (ended : Ended machine.depth outcome) (runs : ∀ run, action run machine = outcome) :
    EndsFrom law options machine post action :=
  ⟨0, outcome, leaves, ended, fun _ _ => runs _⟩

/-- An action that fails whatever the evaluator. -/
theorem refused (error : EvalError) {action : Evaluator → Eval α} (lawful : machine.store.Lawful law)
    (fails : ∀ run, action run machine = .error (.error error) machine) : EndsFrom law options machine post action :=
  ⟨0, .error (.error error) machine, lawful, ⟨trivial, rfl⟩, fun _ _ => fails _⟩

theorem congr {first second : Evaluator → Eval α} (ends : EndsFrom law options machine post first)
    (same : ∀ run, second run machine = first run machine) : EndsFrom law options machine post second := by
  obtain ⟨fuel, outcome, leaves, ended, enough⟩ := ends
  exact ⟨fuel, outcome, leaves, ended, fun more large => (same _).trans (enough more large)⟩

/-- What comes after a value starts from the machine that is left. -/
theorem bind {result : β → Prop} {first : Evaluator → Eval α} {next : α → Evaluator → Eval β}
    (start : EndsFrom law options machine post first)
    (rest : ∀ value (middle : Machine), post value → middle.store.Lawful law → middle.depth = machine.depth →
      EndsFrom law options middle result (next value)) :
    EndsFrom law options machine result fun run => first run >>= fun value => next value run := by
  obtain ⟨fuel, outcome, leaves, ended, same⟩ := start
  cases outcome with
  | error failure middle =>
      exact ⟨fuel, .error failure middle, leaves, ended, fun more enough => bind_of_error (same more enough) _⟩
  | ok value middle =>
      have level : middle.depth = machine.depth := ended
      obtain ⟨extra, outcome, left, stopped, later⟩ := rest value middle leaves.1 leaves.2 level
      refine ⟨max fuel extra, outcome, left, level ▸ stopped, fun more enough => ?_⟩
      exact (bind_of_ok (same more (by omega)) _).trans (later more (by omega))

/-- One step more takes one unit of fuel more. -/
theorem step {action next : Evaluator → Eval α} (ends : EndsFrom law options machine post action)
    (unfolds : ∀ fuel, next (Evaluator.withFuel options (fuel + 1)) = action (Evaluator.withFuel options fuel)) :
    EndsFrom law options machine post next := by
  obtain ⟨fuel, outcome, leaves, ended, same⟩ := ends
  refine ⟨fuel + 1, outcome, leaves, ended, fun more enough => ?_⟩
  obtain ⟨less, rfl⟩ : ∃ less, more = less + 1 := ⟨more - 1, by omega⟩
  rw [unfolds less]
  exact same less (by omega)

/-- What ends under other open calls ends from here when they are opened for it. -/
theorem atDepth {inner : Nat} {action : Evaluator → Eval α}
    (ends : EndsFrom law options ⟨machine.store, inner, machine.collections⟩ post action) :
    EndsFrom law options machine post fun run => Eval.atDepth inner (action run) := by
  obtain ⟨fuel, outcome, leaves, ended, same⟩ := ends
  cases outcome with
  | ok value final =>
      refine ⟨fuel, .ok value ⟨final.store, machine.depth, final.collections⟩, leaves, rfl, fun more enough => ?_⟩
      simp only [Eval.atDepth, same more enough]
  | error failure final =>
      refine ⟨fuel, .error failure ⟨final.store, machine.depth, final.collections⟩, leaves, ⟨ended.1, rfl⟩, ?_⟩
      intro more enough
      simp only [Eval.atDepth, same more enough]

end EndsFrom

namespace Logic

variable {options : Options} {depth : Nat}

/-- What ends under so many open calls, from every lawful store. -/
def ending (law : Law) (options : Options) (depth : Nat) : Logic law where
  holds post action := ∀ machine : Machine, machine.store.Lawful law → machine.depth = depth →
    EndsFrom law options machine post action
  steady yields ends machine lawful _ := .atOnce (yields machine lawful) (ends machine) fun _ => rfl
  sequence start rest machine lawful level := by
    refine (start machine lawful level).bind fun value middle held left same => ?_
    exact rest value held middle left (same.trans level)

/-- The values are ready, so that resolving goes down the value. -/
theorem ending_resolve (value : Value) (held : Law.inert.Throughout value) :
    (ending .inert options depth).holds Law.inert.Resolved fun run => run.resolve value := by
  induction size : sizeOf value using Nat.strongRecOn generalizing value with
  | ind size ih =>
    subst size
    have step : (ending .inert options depth).holds Law.inert.Resolved fun run =>
        Evaluator.resolveStep run value := by
      refine Logic.resolveStep Law.inert_kept held ?_ ?_
      · rintro handle entries rfl entry member
        have entered := Law.throughout_dict.mp held entry member
        cases entry with
        | ready value => exact ih _ (Value.sizeOf_entry member) value entered rfl
        | deferred => exact entered.elim
      · rintro handle items rfl item member
        exact ih _ (Value.sizeOf_item member) item (Law.throughout_array.mp held item member) rfl
    intro machine lawful level
    refine (step machine lawful level).step fun fuel => ?_
    rw [Evaluator.withFuel_succ]

/-- A call ends if function bodies end under one more call, as long as the limit allows one. -/
theorem ending_serves (bodies : depth < Evaluator.maxCallDepth →
    ∀ expr : Expr, expr.DictFree → (ending .inert options (depth + 1)).Evaluates expr) :
    (ending .inert options depth).Serves where
  resolve held := ending_resolve _ held
  force {owner entry} held entered := by
    cases entry with
    | ready value => exact returns entered
    | deferred => exact entered.elim
  callFunction {f args} called given := by
    have free : f.body.DictFree := Law.throughout_function.mp called
    rintro machine lawful rfl
    by_cases counted : args.length = f.params.length
    · by_cases deep : Evaluator.maxCallDepth ≤ machine.depth
      · exact EndsFrom.refused _ lawful fun run => run.callFunction_full counted deep
      · have body (scope : ScopeId) : (ending .inert options machine.depth).holds Law.inert.Throughout fun run =>
            Eval.atDepth (machine.depth + 1) (run.eval f.body scope) := by
          intro machine lawful _
          exact .atDepth (bodies (by omega) f.body free scope _ lawful rfl)
        have entered := Logic.apply Law.inert_kept given machine.depth body machine lawful rfl
        refine entered.congr fun run => ?_
        simp only [Evaluator.callFunction_apply, counted, deep, ne_eq, not_true_eq_false, ↓reduceIte]
    · refine EndsFrom.refused (.arity "function" f.params.length args.length) lawful fun run => ?_
      simp only [Evaluator.callFunction_apply, counted, ne_eq, not_false_eq_true, ↓reduceIte]

/-- An expression ends if its parts and what they call do. -/
theorem ending_evaluates (serves : (ending .inert options depth).Serves) {expr : Expr} (free : expr.DictFree) :
    (ending .inert options depth).Evaluates expr := by
  induction free with
  | @intro expr other each ih =>
    intro scope machine lawful level
    have step := serves.evalStep Law.inert_kept options (Expr.DictFree.intro other each) ih scope
    refine (step machine lawful level).step fun fuel => ?_
    rw [Evaluator.withFuel_succ]

/-- Induction on the calls that may still be opened. -/
theorem ending_all (options : Options) (remaining depth : Nat) (limited : Evaluator.maxCallDepth ≤ depth + remaining)
    (expr : Expr) (free : expr.DictFree) : (ending .inert options depth).Evaluates expr := by
  induction remaining generalizing depth expr with
  | zero => exact ending_evaluates (ending_serves fun below => absurd below (by omega)) free
  | succ remaining ih => exact ending_evaluates (ending_serves fun _ => ih (depth + 1) (by omega)) free

end Logic

namespace Evaluator

/-- The limit of open calls makes evaluation end. Let neither the expression nor the body of a function that occurs
in the store contain a dictionary literal, let no value in the store have an unevaluated entry, and let no more
calls be open than the limit allows. Then some amount of fuel suffices to end with a value, with an error of the
program or in a sort that gives up, with as many open calls as before, and more fuel gives the same. A sort gives up
only on contradictory keys, and keys are contradictory only where two cells are compared with a rounding. A call with
the right number of arguments fails where the limit is reached, whatever would evaluate the body; and nothing is ever
evaluated under more open calls, so that it makes no difference how `beyond` would go about it. -/
theorem evaluation_terminates (options : Options) {expr : Expr} (free : expr.DictFree) (scope : ScopeId)
    {machine : Machine} (inert : ∀ value, machine.store.Holds value → value.Inert)
    (shallow : machine.depth ≤ maxCallDepth) :
    (∃ fuel outcome, Ended machine.depth outcome ∧
      (∀ keys rows final, outcome = .error (.disorder keys rows) final → ¬ SortKey.ComparesExactly keys rows) ∧
      ∀ more, fuel ≤ more → (withFuel options more).eval expr scope machine = outcome) ∧
    (∀ (run : Evaluator) (f : Function) (args : List Value) (full : Machine),
      args.length = f.params.length → maxCallDepth ≤ full.depth →
        run.callFunction f args full = .error (.error (.callDepth maxCallDepth)) full) ∧
    (EvalError.callDepth maxCallDepth).code = "CALL-0005" ∧
    ∀ beyond fuel,
      (confined options beyond fuel).eval expr scope machine = (withFuel options fuel).eval expr scope machine := by
  refine ⟨?ends, ?limit, rfl, ?deeper⟩
  case ends =>
    have lawful : machine.store.Lawful .inert := fun value held => Law.throughout_inert.mpr (inert value held)
    have limited : maxCallDepth ≤ machine.depth + maxCallDepth := Nat.le_add_left _ _
    obtain ⟨fuel, outcome, -, ended, same⟩ :=
      Logic.ending_all options maxCallDepth machine.depth limited expr free scope machine lawful rfl
    refine ⟨fuel, outcome, ended, ?_, same⟩
    rintro keys rows final rfl exact
    exact exact.not_contradictory ended.1
  case limit =>
    exact fun run f args full counted reached => run.callFunction_full counted reached
  case deeper =>
    intro beyond fuel
    exact ((confined_sameWithin options beyond fuel).eval expr scope machine shallow).1

/-- A machine with a function `f` that calls itself without end. -/
def runaway : Machine :=
  ⟨(Store.empty.create none).2.bind 0 "f" ⟨.function ⟨0, ["n"], .call (.ident "f") [.ident "n"], 0⟩, true, false⟩,
    0, 0⟩

theorem evaluation_terminates_when_runaway :
    (Expr.call (.ident "f") [.int 0]).DictFree ∧ (∀ value, runaway.store.Holds value → value.Inert) ∧
    runaway.depth ≤ maxCallDepth ∧
    ∃ fuel outcome, Ended 0 outcome ∧
      (∀ keys rows final, outcome = .error (.disorder keys rows) final → ¬ SortKey.ComparesExactly keys rows) ∧
      ∀ more, fuel ≤ more → (withFuel .default more).eval (.call (.ident "f") [.int 0]) 0 runaway = outcome := by
  have call {arg : Expr} (free : arg.DictFree) : (Expr.call (.ident "f") [arg]).DictFree := by
    refine ⟨by simp, ?_⟩
    simp only [Expr.parts, List.forall_mem_cons]
    exact ⟨.leaf (by simp) rfl, free, by simp⟩
  have lawful : runaway.store.Lawful .inert := by
    refine Store.bind_lawful (Store.create_lawful Store.empty_lawful none) 0 "f" ?_
    exact Law.throughout_function.mpr (call (.leaf (by simp) rfl))
  have inert (value : Value) (held : runaway.store.Holds value) : value.Inert :=
    Law.throughout_inert.mp (lawful value held)
  have free : (Expr.call (.ident "f") [.int 0]).DictFree := call (.leaf (by simp) rfl)
  exact ⟨free, inert, Nat.zero_le _, (evaluation_terminates .default free 0 inert (Nat.zero_le _)).1⟩

section Disorder

variable {options : Options} {run : Evaluator} {receiver arg : Expr} {scope : ScopeId}
  {machine middle final : Machine} {handle : Handle} {table : Table Value} {column : String}

/-- Where the sort gives up, so does the step. -/
theorem evalStep_orderBy (evaluated : run.eval receiver scope machine = .ok (.table handle table) middle)
    (named : run.eval arg scope middle = .ok (.text column) final)
    (givesUp : table.orderBy? [.ascending column] = none) :
    evalStep options run (.method receiver "orderBy" [arg]) scope machine =
      .error (.disorder [.ascending column] table.rows) final := by
  have args : ([arg].mapM fun arg => run.eval arg scope) middle = .ok [.text column] final := by
    rw [List.mapM_cons, bind_of_ok named]
    rfl
  have sorts : Method.invoke run (.table handle table) "orderBy" [.text column] =
      Method.orderBy table [.ascending column] := rfl
  have ends : Method.orderBy table [.ascending column] final =
      .error (.disorder [.ascending column] table.rows) final := by
    rw [Method.orderBy, givesUp]
    rfl
  rw [evalStep_method, bind_of_ok evaluated, bind_of_ok args, sorts]
  exact bind_of_error ends _

/-- The integers 2^53 and 2^53 + 1 among floats of 2^53, which both of them equal. -/
def contradictoryCells : List Value :=
  let float : Value := .float ⟨0x4340000000000000⟩
  let even : Value := .int 9007199254740992
  let odd : Value := .int 9007199254740993
  [float, odd, float, odd, odd, float, float, odd, even, odd, even, even, even, odd, even, odd, float, odd, float,
    odd, odd]

def unsortable : Table Value := .plain ["a"] (contradictoryCells.map fun cell => ⟨[("a", cell)]⟩)

/-- A machine with that table as `t`. -/
def holdingUnsortable : Machine :=
  ⟨(Store.empty.create none).2.bind 0 "t" ⟨.ofTable unsortable, true, false⟩, 0, 0⟩

theorem holdingUnsortable_inert (value : Value) (held : holdingUnsortable.store.Holds value) : value.Inert := by
  have scalar : ∀ cell ∈ contradictoryCells, cell.Scalar := by
    simp only [contradictoryCells, List.forall_mem_cons]
    repeat' first | exact .int _ | exact .float _ | constructor
    exact List.forall_mem_nil _
  have lawful : holdingUnsortable.store.Lawful .inert := by
    refine Store.bind_lawful (Store.create_lawful Store.empty_lawful none) 0 "t" ?_
    refine Law.inert_kept.plain_lawful ["a"] fun row member => ?_
    obtain ⟨cell, held, rfl⟩ := List.mem_map.mp member
    have stored := Law.inert_kept.stored_scalar (scalar cell held)
    exact Dictionary.all_iff.mpr (List.forall_mem_singleton.mpr stored)
  exact Law.throughout_inert.mp (lawful value held)

theorem eval_holdingUnsortable (fuel : Nat) :
    (withFuel .default (fuel + 2)).eval (.method (.ident "t") "orderBy" [.text "a"]) 0 holdingUnsortable =
      .error (.disorder [.ascending "a"] unsortable.rows) ⟨holdingUnsortable.store, 0, 1⟩ := by
  have receiver : (withFuel .default (fuel + 1)).eval (.ident "t") 0 holdingUnsortable =
      .ok (.table (some 0) unsortable) ⟨holdingUnsortable.store, 0, 1⟩ := by
    rw [withFuel_succ]
    change (Eval.resolve 0 "t" >>= Eval.settle) holdingUnsortable = _
    rw [bind_of_ok (Eval.resolve_of_found (Store.resolve?_of_binding? rfl))]
    rfl
  have arg : (withFuel .default (fuel + 1)).eval (.text "a") 0 ⟨holdingUnsortable.store, 0, 1⟩ =
      .ok (.text "a") ⟨holdingUnsortable.store, 0, 1⟩ := by
    rw [withFuel_succ]
    rfl
  have givesUp : unsortable.orderBy? [.ascending "a"] = none := by
    rw [← Option.isNone_iff_eq_none]
    decide +kernel
  rw [withFuel_succ]
  exact evalStep_orderBy receiver arg givesUp

/-- No amount of fuel is enough for a value or an error: the sort gives up. -/
theorem evaluation_gives_up_on_contradictory_keys :
    (Expr.method (.ident "t") "orderBy" [.text "a"]).DictFree ∧
    (∀ value, holdingUnsortable.store.Holds value → value.Inert) ∧ holdingUnsortable.depth ≤ maxCallDepth ∧
    ¬ ∃ fuel, ∀ more, fuel ≤ more →
      let outcome := (withFuel .default more).eval (.method (.ident "t") "orderBy" [.text "a"]) 0 holdingUnsortable
      (∃ value final, outcome = .ok value final) ∨ ∃ error final, outcome = .error (.error error) final := by
  have free : (Expr.method (.ident "t") "orderBy" [.text "a"]).DictFree := by
    refine ⟨by simp, ?_⟩
    simp only [Expr.parts, List.forall_mem_cons]
    exact ⟨.leaf (by simp) rfl, .leaf (by simp) rfl, by simp⟩
  refine ⟨free, holdingUnsortable_inert, Nat.zero_le _, ?_⟩
  rintro ⟨fuel, ends⟩
  have disorder := eval_holdingUnsortable fuel
  rcases ends (fuel + 2) (by omega) with ⟨value, final, ended⟩ | ⟨error, final, ended⟩
  · cases disorder.symm.trans ended
  · cases disorder.symm.trans ended

end Disorder

end Evaluator

end TableScript
