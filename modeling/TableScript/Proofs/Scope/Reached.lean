import TableScript.Eval.Monad
import TableScript.Proofs.Scope.Chain

set_option autoImplicit false

namespace TableScript

namespace Store

/-- The stores that come about by creating scopes, declaring, assigning and protecting. What is refused makes
no store. -/
inductive Reached : Store → Prop
  | empty : Reached .empty
  | new {store : Store} (before : Reached store) : Reached (store.create none).2
  | enclosed {store : Store} {parent : ScopeId} (before : Reached store)
      (there : parent < store.scopes.size) : Reached (store.create (some parent)).2
  | declare {store after : Store} {id : ScopeId} {name : String} {binding : Binding}
      (before : Reached store) (made : store.declare id name binding = .ok after) : Reached after
  | assign {store after : Store} {id : ScopeId} {name : String} {value : Value} (before : Reached store)
      (made : store.assign id name value = .ok after) : Reached after
  | protect {store : Store} (before : Reached store) (id : ScopeId) (name : String) (value : Value) :
      Reached (store.protect id name value)

/-- What a scope protects is bound in it, cannot be assigned and is not visible outside. -/
def Guarded (store : Store) : Prop :=
  ∀ id name, store.isProtected id name = true → ∃ value, store.binding? id name = some ⟨value, false, false⟩

/-- The later store has another value in one binding, and nothing else is different. -/
structure Revalued (before after : Store) (owner : ScopeId) (name : String) (value : Value) : Prop where
  size : after.scopes.size = before.scopes.size
  parents : ∀ id, after.parent? id = before.parent? id
  guards : ∀ id other, after.isProtected id other = before.isProtected id other
  changed : ∃ binding, before.binding? owner name = some binding ∧
    after.binding? owner name = some { binding with value := value }
  others : ∀ id other, (id, other) ≠ (owner, name) → after.binding? id other = before.binding? id other

/-- Why an assignment is refused, as the innermost binding of the name tells. -/
def Refuses (store : Store) (id : ScopeId) (name : String) : ScopeError → Prop
  | .undefined => ∀ owner binding, ¬ store.Innermost id name owner binding
  | .protectedName => ∃ owner binding, store.Innermost id name owner binding ∧
      store.isProtected owner name = true
  | .immutable => ∃ owner binding, store.Innermost id name owner binding ∧
      store.isProtected owner name = false ∧ binding.isMutable = false

variable {store : Store} {id : ScopeId} {name : String}

section Changes

theorem parent?_update {change : Scope → Scope} (kept : ∀ scope, (change scope).parent = scope.parent)
    (id other : ScopeId) : (store.update id change).parent? other = store.parent? other := by
  unfold parent?
  rw [scope?_update]
  split
  · cases store.scope? other with
    | none => rfl
    | some scope => exact kept scope
  · rfl

theorem parent?_bind (store : Store) (id : ScopeId) (name : String) (binding : Binding) (other : ScopeId) :
    (store.bind id name binding).parent? other = store.parent? other := by
  refine parent?_update (fun scope => ?_) id other
  rfl

theorem parent?_protect (store : Store) (id : ScopeId) (name : String) (value : Value) (other : ScopeId) :
    (store.protect id name value).parent? other = store.parent? other := by
  refine parent?_update (fun scope => ?_) id other
  rfl

theorem parent?_create (store : Store) (parent : Option ScopeId) (id : ScopeId) :
    (store.create parent).2.parent? id = if id = store.scopes.size then parent else store.parent? id := by
  unfold parent? scope? create
  rw [Array.getElem?_push]
  split
  · rfl
  · rfl

theorem scope?_eq_none (late : store.scopes.size ≤ id) : store.scope? id = none :=
  Array.getElem?_eq_none late

theorem binding?_create (store : Store) (parent : Option ScopeId) (id : ScopeId) (name : String) :
    (store.create parent).2.binding? id name = store.binding? id name := by
  unfold binding? create
  by_cases fresh : id = store.scopes.size
  · rw [scope?_eq_none (Nat.le_of_eq fresh.symm), scope?, Array.getElem?_push, if_pos fresh]
    rfl
  · rw [scope?, Array.getElem?_push, if_neg fresh, ← scope?]

theorem isProtected_create (store : Store) (parent : Option ScopeId) (id : ScopeId) (name : String) :
    (store.create parent).2.isProtected id name = store.isProtected id name := by
  unfold isProtected create
  by_cases fresh : id = store.scopes.size
  · rw [scope?_eq_none (Nat.le_of_eq fresh.symm), scope?, Array.getElem?_push, if_pos fresh]
    rfl
  · rw [scope?, Array.getElem?_push, if_neg fresh, ← scope?]

theorem isProtected_bind (store : Store) (id : ScopeId) (name : String) (binding : Binding)
    (other : ScopeId) (seen : String) :
    (store.bind id name binding).isProtected other seen = store.isProtected other seen := by
  unfold isProtected bind
  rw [scope?_update]
  split
  · cases store.scope? other <;> rfl
  · rfl

theorem binding?_bind_of_ne (binding : Binding) {other : ScopeId} {seen : String}
    (apart : (other, seen) ≠ (id, name)) :
    (store.bind id name binding).binding? other seen = store.binding? other seen := by
  unfold binding? bind
  rw [scope?_update]
  split
  · rename_i same
    subst other
    have different : seen ≠ name := fun equal => apart (by rw [equal])
    cases store.scope? id with
    | none => rfl
    | some scope => exact Dictionary.get?_insert_of_ne _ binding different
  · rfl

theorem binding?_bind_self {scope : Scope} (there : store.scope? id = some scope) (binding : Binding) :
    (store.bind id name binding).binding? id name = some binding := by
  unfold binding? bind
  rw [scope?_update, if_pos rfl, there]
  exact Dictionary.get?_insert_self _ name binding

end Changes

section Assignment

variable {owner : ScopeId} {binding : Binding}

theorem assign_of_innermost (innermost : store.Innermost id name owner binding) (value : Value) :
    store.assign id name value =
      if store.isProtected owner name then .error .protectedName
      else if binding.isMutable then .ok (store.bind owner name { binding with value := value })
      else .error .immutable := by
  simp only [assign, assignRefusal?, overwrite, holder?_eq_some_iff.mpr innermost]
  cases store.isProtected owner name with
  | true => rfl
  | false =>
      obtain ⟨old, assignable, exported⟩ := binding
      cases assignable <;> rfl

theorem assign_of_unbound (unbound : store.holder? id name = none) (value : Value) :
    store.assign id name value = .error .undefined := by
  unfold assign assignRefusal?
  rw [unbound]

/-- A store is changed by an assignment where the innermost binding allows it. -/
theorem assign_eq_ok_iff {after : Store} (value : Value) : store.assign id name value = .ok after ↔
    ∃ owner binding, store.Innermost id name owner binding ∧ binding.isMutable = true ∧
      store.isProtected owner name = false ∧ after = store.bind owner name { binding with value := value } := by
  constructor
  · intro made
    cases held : store.holder? id name with
    | none =>
        rw [assign_of_unbound held] at made
        cases made
    | some pair =>
        have innermost := holder?_eq_some_iff.mp held
        rw [assign_of_innermost innermost] at made
        split at made
        · cases made
        · rename_i free
          split at made
          · rename_i assignable
            cases made
            exact ⟨_, _, innermost, assignable, Bool.eq_false_iff.mpr free, rfl⟩
          · cases made
  · rintro ⟨owner, binding, innermost, assignable, free, rfl⟩
    rw [assign_of_innermost innermost, free, assignable]
    rfl

theorem assign_eq_error_iff (value : Value) (error : ScopeError) :
    store.assign id name value = .error error ↔ store.Refuses id name error := by
  cases held : store.holder? id name with
  | none =>
      have unbound : ∀ owner binding, ¬ store.Innermost id name owner binding := by
        intro owner binding innermost
        rw [holder?_eq_some_iff.mpr innermost] at held
        cases held
      rw [assign_of_unbound held]
      cases error with
      | undefined => exact iff_of_true rfl unbound
      | protectedName => exact iff_of_false nofun fun ⟨_, _, innermost, _⟩ => unbound _ _ innermost
      | immutable => exact iff_of_false nofun fun ⟨_, _, innermost, _⟩ => unbound _ _ innermost
  | some pair =>
      obtain ⟨owner, binding⟩ := pair
      have innermost := holder?_eq_some_iff.mp held
      -- Any other innermost binding is this one, so the refusal can be read off it.
      have protectedHere : store.Refuses id name .protectedName ↔ store.isProtected owner name = true := by
        constructor
        · rintro ⟨other, found, same, reserved⟩
          rw [(innermost.unique same).1]
          exact reserved
        · exact fun reserved => ⟨owner, binding, innermost, reserved⟩
      have immutableHere : store.Refuses id name .immutable ↔
          store.isProtected owner name = false ∧ binding.isMutable = false := by
        constructor
        · rintro ⟨other, found, same, free, fixed⟩
          obtain ⟨rfl, rfl⟩ := innermost.unique same
          exact ⟨free, fixed⟩
        · exact fun ⟨free, fixed⟩ => ⟨owner, binding, innermost, free, fixed⟩
      rw [assign_of_innermost innermost]
      cases error with
      | undefined =>
          have refused : ¬ store.Refuses id name .undefined := fun unbound => unbound owner binding innermost
          cases store.isProtected owner name <;> cases binding.isMutable <;> simp [refused]
      | protectedName =>
          rw [protectedHere]
          cases store.isProtected owner name <;> cases binding.isMutable <;> simp
      | immutable =>
          rw [immutableHere]
          cases store.isProtected owner name <;> cases binding.isMutable <;> simp

theorem bind_revalued (bound : store.binding? owner name = some binding) (value : Value) :
    store.Revalued (store.bind owner name { binding with value := value }) owner name value := by
  obtain ⟨scope, there, -⟩ := Option.bind_eq_some_iff.mp bound
  exact {
    size := Array.size_modify
    parents := parent?_bind store owner name _
    guards := isProtected_bind store owner name _
    changed := ⟨binding, bound, binding?_bind_self there _⟩
    others := fun _ _ => binding?_bind_of_ne _ }

namespace Revalued

variable {after : Store} {value : Value} (revalued : store.Revalued after owner name value)
include revalued

theorem binding?_eq_none {scope : ScopeId} {seen : String} (missing : store.binding? scope seen = none) :
    after.binding? scope seen = none := by
  rw [revalued.others scope seen ?_]
  · exact missing
  · intro same
    obtain ⟨binding, bound, -⟩ := revalued.changed
    cases same
    rw [bound] at missing
    cases missing

/-- A binding stays the innermost one, with the value it now has. -/
theorem innermost {seen : String} {other : ScopeId} {held now : Binding}
    (innermost : store.Innermost id seen other held) (found : after.binding? other seen = some now) :
    after.Innermost id seen other now := by
  obtain ⟨inner, outer, split, absent, -⟩ := innermost
  refine ⟨inner, outer, (chain_congr revalued.parents id).trans split, fun scope member => ?_, found⟩
  exact revalued.binding?_eq_none (absent scope member)

theorem resolve?_owner {held : Binding} (innermost : store.Innermost id name owner held) :
    after.resolve? id name = some value := by
  obtain ⟨binding, -, changed⟩ := revalued.changed
  exact (revalued.innermost innermost changed).resolve?

theorem resolve?_other {seen : String}
    (apart : ¬ (seen = name ∧ ∃ held, store.Innermost id name owner held)) :
    after.resolve? id seen = store.resolve? id seen := by
  cases held : store.holder? id seen with
  | none =>
      have absent : after.holder? id seen = none := by
        rw [holder?_eq_none_iff, chain_congr revalued.parents]
        exact fun scope member => revalued.binding?_eq_none (holder?_eq_none_iff.mp held scope member)
      rw [resolve?, resolve?, held, absent]
  | some pair =>
      obtain ⟨other, binding⟩ := pair
      have innermost := holder?_eq_some_iff.mp held
      have elsewhere : (other, seen) ≠ (owner, name) := by
        intro same
        cases same
        exact apart ⟨rfl, binding, innermost⟩
      have found : after.binding? other seen = some binding := by
        rw [revalued.others other seen elsewhere]
        exact innermost.bound
      rw [(revalued.innermost innermost found).resolve?, innermost.resolve?]

end Revalued

end Assignment

section Invariants

theorem declare_eq_error_iff (binding : Binding) (error : ScopeError) :
    store.declare id name binding = .error error ↔
      error = .protectedName ∧ store.isProtected id name = true := by
  unfold declare declareRefusal?
  cases store.isProtected id name with
  | true => simp [eq_comm]
  | false => simp

theorem declare_eq_ok {after : Store} {binding : Binding} (made : store.declare id name binding = .ok after) :
    store.isProtected id name = false ∧ after = store.bind id name binding := by
  unfold declare declareRefusal? at made
  cases free : store.isProtected id name with
  | true =>
      rw [free] at made
      cases made
  | false =>
      rw [free] at made
      cases made
      exact ⟨rfl, rfl⟩

theorem Ordered.of_parent? {after : Store} (ordered : store.Ordered)
    (same : ∀ id, after.parent? id = store.parent? id) : after.Ordered :=
  fun child parent links => ordered child parent ((same child).symm.trans links)

theorem Ordered.create (ordered : store.Ordered) {parent : Option ScopeId}
    (there : ∀ id ∈ parent, id < store.scopes.size) : (store.create parent).2.Ordered := by
  intro child around links
  rw [Links, parent?_create] at links
  split at links
  · rename_i fresh
    rw [fresh]
    exact there around links
  · exact ordered child around links

theorem Guarded.create (guarded : store.Guarded) (parent : Option ScopeId) :
    (store.create parent).2.Guarded := by
  intro id name reserved
  rw [isProtected_create] at reserved
  rw [binding?_create]
  exact guarded id name reserved

/-- What is not protected can be bound to anything. -/
theorem Guarded.bind (guarded : store.Guarded) (free : store.isProtected id name = false)
    (binding : Binding) : (store.bind id name binding).Guarded := by
  intro other seen reserved
  rw [isProtected_bind] at reserved
  rw [binding?_bind_of_ne]
  · exact guarded other seen reserved
  · intro same
    cases same
    rw [free] at reserved
    cases reserved

theorem isProtected_protect_of_ne (value : Value) {other : ScopeId} {seen : String}
    (apart : (other, seen) ≠ (id, name)) :
    (store.protect id name value).isProtected other seen = store.isProtected other seen := by
  unfold isProtected protect
  rw [scope?_update]
  split
  · rename_i same
    subst other
    have different : seen ≠ name := fun equal => apart (by rw [equal])
    cases store.scope? id with
    | none => rfl
    | some scope =>
        simp only [Option.map_some, Option.any_some]
        by_cases known : scope.protects name = true
        · simp only [known, ↓reduceIte]
          rfl
        · simp only [known, Bool.false_eq_true, ↓reduceIte]
          simp [Scope.protects, different]
  · rfl

theorem binding?_protect (store : Store) (id : ScopeId) (name : String) (value : Value) (other : ScopeId)
    (seen : String) : (store.protect id name value).binding? other seen =
      (store.bind id name ⟨value, false, false⟩).binding? other seen := by
  unfold binding? protect bind
  rw [scope?_update, scope?_update]
  split
  · cases store.scope? other <;> rfl
  · rfl

theorem scope?_of_isProtected (reserved : store.isProtected id name = true) :
    ∃ scope, store.scope? id = some scope := by
  unfold isProtected at reserved
  cases there : store.scope? id with
  | none =>
      rw [there] at reserved
      cases reserved
  | some scope => exact ⟨scope, rfl⟩

theorem Guarded.protect (guarded : store.Guarded) (id : ScopeId) (name : String) (value : Value) :
    (store.protect id name value).Guarded := by
  intro other seen reserved
  rw [binding?_protect]
  by_cases same : (other, seen) = (id, name)
  · cases same
    obtain ⟨scope, there⟩ := scope?_of_isProtected reserved
    rw [Store.protect, scope?_update, if_pos rfl] at there
    obtain ⟨earlier, found, -⟩ := Option.map_eq_some_iff.mp there
    exact ⟨value, binding?_bind_self found _⟩
  · rw [isProtected_protect_of_ne value same] at reserved
    rw [binding?_bind_of_ne _ same]
    exact guarded other seen reserved

namespace Reached

theorem ordered (reached : store.Reached) : store.Ordered := by
  induction reached with
  | empty => exact fun _ _ => nofun
  | new _ ordered => exact ordered.create nofun
  | enclosed _ there ordered =>
      refine ordered.create fun id same => ?_
      cases same
      exact there
  | declare _ made ordered =>
      rw [(declare_eq_ok made).2]
      exact ordered.of_parent? (parent?_bind _ _ _ _)
  | assign _ made ordered =>
      obtain ⟨owner, binding, -, -, -, rfl⟩ := (assign_eq_ok_iff _).mp made
      exact ordered.of_parent? (parent?_bind _ _ _ _)
  | protect _ id name value ordered => exact ordered.of_parent? (parent?_protect _ id name value)

theorem guarded (reached : store.Reached) : store.Guarded := by
  induction reached with
  | empty => exact fun _ _ => nofun
  | new _ guarded => exact guarded.create none
  | enclosed _ _ guarded => exact guarded.create _
  | declare _ made guarded =>
      obtain ⟨free, rfl⟩ := declare_eq_ok made
      exact guarded.bind free _
  | assign _ made guarded =>
      obtain ⟨owner, binding, -, -, free, rfl⟩ := (assign_eq_ok_iff _).mp made
      exact guarded.bind free _
  | protect _ id name value guarded => exact guarded.protect id name value

end Reached

/-- A declaration is refused by a scope that holds the name and protects it. -/
theorem Guarded.declare_eq_error_iff (guarded : store.Guarded) (binding : Binding) (error : ScopeError) :
    store.declare id name binding = .error error ↔ error = .protectedName ∧
      ∃ held, store.Innermost id name id held ∧ store.isProtected id name = true := by
  rw [Store.declare_eq_error_iff]
  refine and_congr_right fun _ => ⟨fun reserved => ?_, fun ⟨_, _, reserved⟩ => reserved⟩
  obtain ⟨value, bound⟩ := guarded id name reserved
  exact ⟨_, innermost_self bound, reserved⟩

end Invariants

section Machines

variable {machine after : Machine} {failure : Failure}

/-- A change that is refused leaves the machine as it was. -/
theorem change_eq_error {refusal? : Store → Option ScopeError} {update : Store → Store}
    (failed : Eval.change name refusal? update machine = .error failure after) :
    after = machine ∧ ∃ error, refusal? machine.store = some error ∧
      failure = .error (Eval.scopeError name error) := by
  obtain ⟨store, depth, collections⟩ := machine
  cases refused : refusal? store with
  | some error =>
      simp only [Eval.change, refused] at failed
      cases failed
      exact ⟨rfl, error, rfl, rfl⟩
  | none =>
      simp only [Eval.change, refused] at failed
      cases failed

theorem failed_assign {value : Value} (failed : Eval.assign id name value machine = .error failure after) :
    after = machine ∧ ∃ error, machine.store.assign id name value = .error error ∧
      failure = .error (Eval.scopeError name error) := by
  obtain ⟨same, error, refused, shown⟩ := change_eq_error failed
  refine ⟨same, error, ?_, shown⟩
  simp only [assign, refused]

theorem failed_declare {binding : Binding}
    (failed : Eval.declare id name binding machine = .error failure after) :
    after = machine ∧ ∃ error, machine.store.declare id name binding = .error error ∧
      failure = .error (Eval.scopeError name error) := by
  obtain ⟨same, error, refused, shown⟩ := change_eq_error failed
  refine ⟨same, error, ?_, shown⟩
  simp only [declare, refused]

end Machines

/-- What holds of every store that programs reach, for every scope and every name: how scopes are nested, what
protection means, which assignments and declarations are refused, what an assignment changes, and which names
are listed. -/
theorem scope_laws (reached : store.Reached) :
    (∀ id, (store.chain id).Nodup ∧ ¬ Relation.TransGen store.Links id id ∧
      ∀ around, around ∈ store.chain id ↔ Relation.ReflTransGen store.Links id around) ∧
    (∀ id name, store.isProtected id name = true →
      ∃ value, store.binding? id name = some ⟨value, false, false⟩) ∧
    ∀ id name,
      (∀ value, (∃ after, store.assign id name value = .ok after) ↔
        ∃ owner binding, store.Innermost id name owner binding ∧ binding.isMutable = true ∧
          store.isProtected owner name = false) ∧
      (∀ value after, store.assign id name value = .ok after → ∃ owner binding,
        store.Innermost id name owner binding ∧ store.Revalued after owner name value ∧
        (∀ other held, store.Innermost other name owner held → after.resolve? other name = some value) ∧
        ∀ other seen, ¬ (seen = name ∧ ∃ held, store.Innermost other name owner held) →
          after.resolve? other seen = store.resolve? other seen) ∧
      (∀ value error, store.assign id name value = .error error ↔ store.Refuses id name error) ∧
      (∀ binding error, store.declare id name binding = .error error ↔ error = .protectedName ∧
        ∃ held, store.Innermost id name id held ∧ store.isProtected id name = true) ∧
      (∀ machine after failure, machine.store = store →
        (∀ value, Eval.assign id name value machine = .error failure after →
          after = machine ∧ ∃ error, store.assign id name value = .error error ∧
            failure = .error (Eval.scopeError name error)) ∧
        ∀ binding, Eval.declare id name binding machine = .error failure after →
          after = machine ∧ ∃ error, store.declare id name binding = .error error ∧
            failure = .error (Eval.scopeError name error)) ∧
      (name ∈ store.identifiers id ↔ (store.resolve? id name).isSome = true) := by
  have ordered := reached.ordered
  have guarded := reached.guarded
  refine ⟨fun id => ⟨ordered.nodup_chain id, ordered.acyclic id, ordered.mem_chain_iff id⟩, guarded,
    fun id name => ⟨fun value => ?succeeds, fun value after made => ?changes, assign_eq_error_iff,
      guarded.declare_eq_error_iff, fun machine after failure same => ?refused, mem_identifiers_iff⟩⟩
  case succeeds =>
    constructor
    · rintro ⟨after, made⟩
      obtain ⟨owner, binding, innermost, assignable, free, -⟩ := (assign_eq_ok_iff value).mp made
      exact ⟨owner, binding, innermost, assignable, free⟩
    · rintro ⟨owner, binding, innermost, assignable, free⟩
      exact ⟨_, (assign_eq_ok_iff value).mpr ⟨owner, binding, innermost, assignable, free, rfl⟩⟩
  case changes =>
    obtain ⟨owner, binding, innermost, -, -, rfl⟩ := (assign_eq_ok_iff value).mp made
    have revalued := bind_revalued innermost.bound value
    exact ⟨owner, binding, innermost, revalued, fun _ _ => revalued.resolve?_owner,
      fun _ _ => revalued.resolve?_other⟩
  case refused =>
    subst same
    exact ⟨fun _ => failed_assign, fun _ => failed_declare⟩

/-- A root that protects `len` and binds `total`, around a scope of its own. -/
def nested : Store :=
  ((((empty.create none).2.protect 0 "len" .null).bind 0 "total" ⟨.bool false, true, false⟩).create (some 0)).2

/-- From the inner scope `len` cannot be assigned and `total` can, for the root too. -/
theorem scope_laws_when_nested : nested.Reached ∧
    nested.assign 1 "len" (.bool true) = .error .protectedName ∧
    ∃ after, nested.assign 1 "total" (.bool true) = .ok after ∧ after.resolve? 0 "total" = some (.bool true) ∧
      after.resolve? 1 "len" = nested.resolve? 1 "len" := by
  have reserved : ((empty.create none).2.protect 0 "len" .null).Reached := .protect (.new .empty) 0 "len" .null
  have reached : nested.Reached :=
    .enclosed (@Reached.declare _ _ 0 "total" ⟨.bool false, true, false⟩ reserved rfl) (by decide)
  obtain ⟨-, -, laws⟩ := scope_laws reached
  have root : nested.chain 0 = [0] := chain_of_root rfl
  have inner : nested.chain 1 = [1, 0] := by
    rw [reached.ordered.chain_of_links (rfl : nested.parent? 1 = some 0), root]
  have absent (name : String) (missing : nested.binding? 1 name = none) :
      ∀ scope ∈ [1], nested.binding? scope name = none := by
    simpa using missing
  refine ⟨reached, ?_, ?_⟩
  · obtain ⟨-, -, refused, -⟩ := laws 1 "len"
    exact (refused _ _).mpr ⟨0, ⟨.null, false, false⟩, ⟨[1], [], inner, absent "len" rfl, rfl⟩, rfl⟩
  · obtain ⟨succeeds, changes, -⟩ := laws 1 "total"
    have innermost : nested.Innermost 1 "total" 0 ⟨.bool false, true, false⟩ :=
      ⟨[1], [], inner, absent "total" rfl, rfl⟩
    obtain ⟨after, made⟩ := (succeeds (.bool true)).mpr ⟨0, _, innermost, rfl, rfl⟩
    obtain ⟨owner, binding, owns, -, seen, others⟩ := changes _ after made
    obtain ⟨rfl, rfl⟩ := innermost.unique owns
    have fromRoot : nested.Innermost 0 "total" 0 ⟨.bool false, true, false⟩ := innermost_self rfl
    refine ⟨after, made, seen 0 _ fromRoot, others 1 "len" ?_⟩
    simp

end Store

end TableScript
