import TableScript.Proofs.Eval.Fuel
import TableScript.Proofs.Eval.Resolving
import TableScript.Session.Basic

set_option autoImplicit false

namespace TableScript

namespace Value

/-- As many items, or the same keys in their order; any other value as it is. -/
def SameLayout : Value → Value → Prop
  | .array _ items, resolved => ∃ handle made, resolved = .array handle made ∧ made.length = items.length
  | .dict _ entries, resolved => ∃ handle made, resolved = .dict handle made ∧ made.keys = entries.keys
  | value, resolved => resolved = value

theorem keys_of_settles {row : Row} {dict : Value} (settled : (Value.ofRow row).Settles dict) :
    ∃ handle entries, dict = .dict handle entries ∧ entries.keys = row.keys := by
  have keys := Dictionary.keys_map row Entry.ready
  cases settled.numbered with
  | same => exact ⟨none, _, rfl, keys⟩
  | dict next each =>
    have same := map_eq_of_forall₂ each fun _ _ _ (related : _ ∧ _) => related.1
    exact ⟨some next, _, rfl, same.trans keys⟩

theorem length_of_settles {items : List Value} {array : Value} (settled : (Value.ofItems items).Settles array) :
    ∃ handle made, array = .array handle made ∧ made.length = items.length := by
  cases settled.numbered with
  | same => exact ⟨none, items, rfl, rfl⟩
  | array next each => exact ⟨some next, _, rfl, each.length_eq.symm⟩

end Value

namespace Evaluator

open Method (Makes makes_any makes_settle)

/-- Every value of the row is the result of resolving one. -/
theorem forceRow_makes {run : Evaluator} {holds : Value → Prop} (each : ∀ value, Makes holds (run.resolve value))
    (handle : Handle) (entries : Dictionary (Entry Value)) :
    Makes (fun row : Row => row.All holds) (run.forceRow handle entries) := by
  have pairs : Makes (fun pairs => ∀ pair ∈ pairs, holds pair.2)
      (entries.entries.mapM fun entry => do
        let value ← run.force (.dict handle entries) entry.2
        return (entry.1, ← run.resolve value)) := by
    refine Yields.mapM fun entry _ => (makes_any _).bind fun value _ => ?_
    exact (each value).bind fun resolved held => yields_pure held
  exact pairs.bind fun forced all => yields_pure (Dictionary.all_iff.mpr all)

/-- Every level of what is resolved took one unit of fuel. -/
theorem resolve_within (options : Options) (fuel : Nat) (value : Value) :
    Makes (Value.CompleteWithin fuel) ((withFuel options fuel).resolve value) := by
  induction fuel generalizing value with
  | zero => exact yields_throw _
  | succ fuel ih =>
    rw [withFuel_succ]
    change Makes _ (resolveStep (withFuel options fuel) value)
    cases value with
    | array handle items =>
      refine (Yields.mapM fun item _ => ih item).bind fun resolved each => ?_
      refine (makes_settle _).imp fun final settled => Value.CompleteWithin.settles ?_ settled
      exact each
    | dict handle entries =>
      refine (forceRow_makes ih handle entries).bind fun forced each => ?_
      refine (makes_settle _).imp fun final settled => Value.CompleteWithin.settles ?_ settled
      intro entry held
      obtain ⟨value, member, rfl⟩ := Dictionary.mem_values_map.mp held
      exact ⟨value, rfl, each value member⟩
    | _ => exact yields_pure trivial

theorem resolve_layout (options : Options) (fuel : Nat) (value : Value) :
    Makes value.SameLayout ((withFuel options fuel).resolve value) := by
  cases fuel with
  | zero => exact yields_throw _
  | succ fuel =>
    rw [withFuel_succ]
    change Makes _ (resolveStep (withFuel options fuel) value)
    cases value with
    | array handle items =>
      have lengths : Makes (fun resolved => resolved.length = items.length)
          (items.mapM (withFuel options fuel).resolve) :=
        (Yields.mapM_each fun item _ => makes_any _).imp fun _ each => each.length_eq.symm
      refine lengths.bind fun resolved length => (makes_settle _).imp fun final settled => ?_
      obtain ⟨number, made, rfl, same⟩ := Value.length_of_settles settled
      exact ⟨number, made, rfl, same.trans length⟩
    | dict handle entries =>
      refine (forceRow_keys _ handle entries).bind fun row keys => (makes_settle _).imp fun final settled => ?_
      obtain ⟨number, made, rfl, same⟩ := Value.keys_of_settles settled
      exact ⟨number, made, rfl, same.trans keys⟩
    | _ => exact yields_pure rfl

/-- The dictionary is the row, with the same bindings on the machine; or both evaluations fail alike. -/
def SameEntries : EStateM.Result Failure Machine Row → EStateM.Result Failure Machine Value → Prop
  | .ok row final, .ok value last =>
    (Value.ofRow row).Settles value ∧ last.store = final.store ∧ last.depth = final.depth
  | .error failure final, .error other last => other = failure ∧ last = final
  | _, _ => False

theorem forceRow_resolve (options : Options) (fuel : Nat) (handle : Handle) (entries : Dictionary (Entry Value))
    (machine : Machine) :
    SameEntries ((withFuel options fuel).forceRow handle entries machine)
      ((withFuel options (fuel + 1)).resolve (.dict handle entries) machine) := by
  rw [withFuel_succ]
  change SameEntries _ (((withFuel options fuel).forceRow handle entries >>= fun row =>
    Eval.settle (.ofRow row)) machine)
  cases forced : (withFuel options fuel).forceRow handle entries machine with
  | ok row final =>
    rw [bind_of_ok forced]
    exact ⟨⟨final.collections, rfl⟩, rfl, rfl⟩
  | error failure final =>
    rw [bind_of_error forced]
    exact ⟨rfl, rfl⟩

/-- How much fuel either takes makes no difference. -/
theorem forceRow_resolve_of_finished {options : Options} {fuel more : Nat} {handle : Handle}
    {entries : Dictionary (Entry Value)} {machine : Machine}
    (forced : Finished ((withFuel options fuel).forceRow handle entries machine))
    (resolved : Finished ((withFuel options more).resolve (.dict handle entries) machine)) :
    SameEntries ((withFuel options fuel).forceRow handle entries machine)
      ((withFuel options more).resolve (.dict handle entries) machine) := by
  have both := forceRow_resolve options (fuel + more) handle entries machine
  rw [forceRow_more (Nat.le_add_right fuel more) forced,
    resolve_more (Nat.le_succ_of_le (Nat.le_add_left more fuel)) resolved] at both
  exact both

/-- What resolving gives has no unevaluated entry, at any depth of arrays and dictionaries, and as many items or
the same keys in their order. Resolving it again, at any later time, changes no binding and gives the same, but
for numbers. A dictionary is resolved to the row that it is forced to: to the same entries with the same
effects, or with the same failure. -/
theorem resolve_complete (options : Options) :
    (∀ fuel value machine result final, (withFuel options fuel).resolve value machine = .ok result final →
      result.Complete ∧ value.SameLayout result ∧
        ∀ more ≥ fuel, (withFuel options more).Resolves result) ∧
    (∀ fuel handle entries machine,
      SameEntries ((withFuel options fuel).forceRow handle entries machine)
        ((withFuel options (fuel + 1)).resolve (.dict handle entries) machine)) ∧
    (∀ fuel more handle entries machine, Finished ((withFuel options fuel).forceRow handle entries machine) →
      Finished ((withFuel options more).resolve (.dict handle entries) machine) →
      SameEntries ((withFuel options fuel).forceRow handle entries machine)
        ((withFuel options more).resolve (.dict handle entries) machine)) := by
  refine ⟨fun fuel value machine result final ran => ?_, forceRow_resolve options,
    fun _ _ _ _ _ => forceRow_resolve_of_finished⟩
  have within := (resolve_within options fuel value).result ran
  have layout := (resolve_layout options fuel value).result ran
  exact ⟨within.complete, layout, fun more enough => withFuel_resolves_within options within enough⟩

/-- A dictionary literal with another one in a list. -/
theorem resolve_complete_of_nested_literals :
    let run := withFuel .default 8
    let entries := literalEntries 0 0
      [("x", .binary .add (.int 1) (.int 2)), ("rows", .array [.dict 1 [("y", .int 4)]])]
    let machine := (Session.start .default).machine
    ∃ result final row middle,
      (run.resolve (.dict none entries) machine = .ok result final ∧
        run.forceRow none entries machine = .ok row middle) ∧
      result.unnumbered = .ofRow ⟨[("x", .int 3), ("rows", .ofItems [.ofRow ⟨[("y", .int 4)]⟩])]⟩ ∧
      result.Complete ∧ (Value.dict none entries).SameLayout result ∧ run.Resolves result ∧
      (Value.ofRow row).Settles result ∧ final.store = middle.store := by
  intro run entries machine
  obtain ⟨resolves, -, forces⟩ := resolve_complete .default
  obtain ⟨complete, layout, again⟩ := resolves 8 (.dict none entries) machine _ _ rfl
  obtain ⟨settled, store, -⟩ := forces 8 8 none entries machine trivial trivial
  exact ⟨_, _, _, _, ⟨rfl, rfl⟩, rfl, complete, layout, again 8 (Nat.le_refl 8), settled, store⟩

end Evaluator

end TableScript
