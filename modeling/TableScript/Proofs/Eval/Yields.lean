import TableScript.Eval.Evaluator
import TableScript.Proofs.Operation.Law
import TableScript.Proofs.Record.Law
import TableScript.Proofs.Scope.Law

set_option autoImplicit false

namespace TableScript

open List (Forall₂)

/-- The invariant holds at the end, and a result has the property. -/
def Leaves {ε σ α : Type} (invariant : σ → Prop) (post : α → Prop) : EStateM.Result ε σ α → Prop
  | .ok value final => post value ∧ invariant final
  | .error _ final => invariant final

/-- From every state with the invariant the action leaves it, and a result has the property. -/
def Yields {ε σ α : Type} (invariant : σ → Prop) (post : α → Prop) (action : EStateM ε σ α) : Prop :=
  ∀ state, invariant state → Leaves invariant post (action state)

section Actions

variable {ε σ α β : Type} {invariant : σ → Prop} {post : α → Prop}

theorem yields_pure {value : α} (holds : post value) :
    Yields invariant post (pure value : EStateM ε σ α) := fun _ before => ⟨holds, before⟩

theorem yields_throw (error : ε) : Yields invariant post (throw error : EStateM ε σ α) :=
  fun _ before => before

theorem yields_get : Yields invariant invariant (get : EStateM ε σ σ) := fun _ before => ⟨before, before⟩

theorem yields_set {state : σ} (holds : invariant state) :
    Yields invariant (fun _ => True) (set state : EStateM ε σ PUnit) := fun _ _ => ⟨trivial, holds⟩

theorem Yields.bind {action : EStateM ε σ α} {next : α → EStateM ε σ β} {result : β → Prop}
    (first : Yields invariant post action)
    (rest : ∀ value, post value → Yields invariant result (next value)) :
    Yields invariant result (action >>= next) := by
  intro state before
  have early := first state before
  simp only [Bind.bind, EStateM.bind]
  cases ran : action state with
  | error failure middle =>
      rw [ran] at early
      exact early
  | ok value middle =>
      rw [ran] at early
      exact rest value early.1 middle early.2

theorem Yields.imp {action : EStateM ε σ α} {weaker : α → Prop} (yields : Yields invariant post action)
    (follows : ∀ value, post value → weaker value) : Yields invariant weaker action := by
  intro state before
  have after := yields state before
  cases ran : action state with
  | error failure final =>
      rw [ran] at after
      exact after
  | ok value final =>
      rw [ran] at after
      exact ⟨follows value after.1, after.2⟩

/-- The results stand to their items as each step yields them. -/
theorem Yields.mapM_each {f : α → EStateM ε σ β} {related : α → β → Prop} {items : List α}
    (each : ∀ item ∈ items, Yields invariant (related item) (f item)) :
    Yields invariant (Forall₂ related items) (items.mapM f) := by
  induction items with
  | nil => exact yields_pure .nil
  | cons item rest ih =>
      rw [List.mapM_cons]
      refine (each item List.mem_cons_self).bind fun value first => ?_
      refine (ih fun later member => each later (List.mem_cons_of_mem item member)).bind fun values others => ?_
      exact yields_pure (.cons first others)

/-- Every result of the list has the property that its item yields. -/
theorem Yields.mapM {f : α → EStateM ε σ β} {result : β → Prop} {items : List α}
    (each : ∀ item ∈ items, Yields invariant result (f item)) :
    Yields invariant (fun results => ∀ value ∈ results, result value) (items.mapM f) := by
  refine (Yields.mapM_each each).imp fun results all value member => ?_
  obtain ⟨_, _, holds⟩ := source_of_mem all member
  exact holds

end Actions

namespace Law

/-- What the evaluation yields where every bound value obeys the law. -/
abbrev Yields {α : Type} (law : Law) (post : α → Prop) (action : Eval α) : Prop :=
  TableScript.Yields (fun machine : Machine => machine.store.Lawful law) post action

/-- A lawful value that has been resolved. -/
def Resolved (law : Law) (value : Value) : Prop := value.Complete ∧ law.Throughout value

variable {law : Law}

theorem Kept.stored_of_resolved (kept : law.Kept) {value : Value} (resolved : law.Resolved value) :
    law.Stored value := kept.stored_of_complete resolved.1 resolved.2

theorem resolved_ofItems {items : List Value} (each : ∀ item ∈ items, law.Resolved item) :
    law.Resolved (.ofItems items) := by
  refine ⟨Value.complete_array.mpr fun item member => (each item member).1, ?_⟩
  exact throughout_array.mpr fun item member => (each item member).2

theorem resolved_ofRow {row : Row} (each : row.All law.Resolved) : law.Resolved (.ofRow row) := by
  refine ⟨Value.complete_ofRow fun value member => (each value member).1, ?_⟩
  exact throughout_ofRow (each.imp fun _ resolved => resolved.2)

end Law

namespace Eval

section Outcomes

variable {α : Type} {invariant : Machine → Prop} {post : α → Prop}

theorem fail_yields (error : EvalError) : Yields invariant post (fail error : Eval α) := yields_throw _

theorem lift_yields {outcome : Except EvalError α} (gives : Gives post outcome) :
    Yields invariant post (lift outcome) := by
  cases outcome with
  | ok value => exact yields_pure (gives value rfl)
  | error error => exact fail_yields error

/-- As `lift_yields`, for an outcome that a sequence of steps takes up. -/
theorem outcome_yields {outcome : Except EvalError α} (gives : Gives post outcome) :
    Yields invariant post (liftM outcome : Eval α) := lift_yields gives

/-- What comes after an outcome matters only for the value that it gives. -/
theorem check_yields {β : Type} {result : β → Prop} {outcome : Except EvalError α} {next : α → Eval β}
    (rest : ∀ value, outcome = .ok value → Yields invariant result (next value)) :
    Yields invariant result ((liftM outcome : Eval α) >>= next) :=
  (outcome_yields (gives_self outcome)).bind rest

end Outcomes

variable {law : Law} {α : Type} {post : α → Prop}

theorem settle_yields (kept : law.Kept) {value : Value} (lawful : law.Throughout value) :
    law.Yields law.Throughout (settle value) :=
  fun machine before => ⟨kept.throughout_settles ⟨machine.collections, rfl⟩ lawful, before⟩

theorem settle_resolved (kept : law.Kept) {value : Value} (resolved : law.Resolved value) :
    law.Yields law.Resolved (settle value) := by
  intro machine before
  have settled : value.Settles (value.settle machine.collections).1 := ⟨machine.collections, rfl⟩
  exact ⟨⟨resolved.1.settles settled, kept.throughout_settles settled resolved.2⟩, before⟩

theorem enclose_yields (parent : ScopeId) : law.Yields (fun _ => True) (enclose parent) :=
  fun _ before => ⟨trivial, Store.create_lawful before _⟩

theorem change_yields {name : String} {refusal? : Store → Option ScopeError} {update : Store → Store}
    (changed : ∀ store, store.Lawful law → (update store).Lawful law) :
    law.Yields (fun _ => True) (change name refusal? update) := by
  intro machine before
  simp only [change]
  cases refusal? machine.store with
  | some error => exact before
  | none => exact ⟨trivial, changed machine.store before⟩

theorem declare_yields {binding : Binding} (scope : ScopeId) (name : String)
    (lawful : law.Throughout binding.value) : law.Yields (fun _ => True) (declare scope name binding) :=
  change_yields fun _ before => Store.bind_lawful before scope name lawful

theorem assign_yields {value : Value} (scope : ScopeId) (name : String) (lawful : law.Throughout value) :
    law.Yields (fun _ => True) (assign scope name value) :=
  change_yields fun _ before => Store.overwrite_lawful before scope name lawful

theorem resolve_yields (scope : ScopeId) (name : String) : law.Yields law.Throughout (resolve scope name) := by
  refine yields_get.bind fun machine before => ?_
  split
  · rename_i found
    exact yields_pure (before _ (Store.holds_of_resolve? found))
  · exact fail_yields _

theorem atDepth_yields {action : Eval α} (depth : Nat) (yields : law.Yields post action) :
    law.Yields post (atDepth depth action) := by
  intro machine before
  have inside := yields ⟨machine.store, depth, machine.collections⟩ before
  simp only [atDepth] at inside ⊢
  cases ran : action ⟨machine.store, depth, machine.collections⟩ with
  | ok value final =>
      rw [ran] at inside
      exact inside
  | error failure final =>
      rw [ran] at inside
      exact inside

end Eval

namespace Method

variable {α : Type} {post : α → Prop}

/-- Nothing is asked of the machine. -/
abbrev Makes (post : α → Prop) (action : Eval α) : Prop := Yields (fun _ => True) post action

theorem makes_any (action : Eval α) : Makes (fun _ => True) action := by
  intro machine _
  cases action machine <;> simp [Leaves]

theorem Makes.result {action : Eval α} {machine final : Machine} {value : α} (makes : Makes post action)
    (ran : action machine = .ok value final) : post value := by
  have made := makes machine trivial
  rw [ran] at made
  exact made.1

theorem makes_settle (value : Value) : Makes value.Settles (Eval.settle value) :=
  fun machine _ => ⟨⟨machine.collections, rfl⟩, trivial⟩

end Method

/-- Evaluating a dictionary gives a row with the same keys. -/
theorem Evaluator.forceRow_keys (run : Evaluator) (handle : Handle) (entries : Dictionary (Entry Value)) :
    Method.Makes (fun row : Row => row.keys = entries.keys) (run.forceRow handle entries) := by
  have each : Method.Makes (Forall₂ (fun entry pair => entry.1 = pair.1) entries.entries)
      (entries.entries.mapM fun entry => do
        let value ← run.force (.dict handle entries) entry.2
        return (entry.1, ← run.resolve value)) := by
    refine Yields.mapM_each fun entry _ => ?_
    exact (Method.makes_any _).bind fun value _ => (Method.makes_any _).bind fun resolved _ => yields_pure rfl
  refine each.bind fun pairs keys => yields_pure ?_
  have same : Forall₂ Eq entries.keys (pairs.map Prod.fst) :=
    List.forall₂_map_left_iff.mpr (List.forall₂_map_right_iff.mpr keys)
  rw [List.forall₂_eq_eq_eq] at same
  exact same.symm

end TableScript
