import TableScript.Proofs.Dictionary.Lookup
import TableScript.Scope.Basic

set_option autoImplicit false

namespace TableScript

/-- Whether a binding can be assigned and whether it is visible outside. -/
def Binding.flags (binding : Binding) : Bool × Bool := (binding.isMutable, binding.exported)

/-- The later scope has all names of the earlier one, and the protected ones as they were. -/
structure Scope.Grown (before after : Scope) : Prop where
  parent : after.parent = before.parent
  protectedNames : after.protectedNames = before.protectedNames
  bound : ∀ name, before.binds name = true → after.binds name = true
  guarded : ∀ name, before.protects name = true → after.bindings.get? name = before.bindings.get? name

/-- The later scope has the same names with the same flags. Only a value whose binding can be assigned and
is not protected may be another one. -/
structure Scope.Steady (before after : Scope) : Prop where
  parent : after.parent = before.parent
  protectedNames : after.protectedNames = before.protectedNames
  names : after.bindings.keys = before.bindings.keys
  flags : ∀ name,
    (after.bindings.get? name).map Binding.flags = (before.bindings.get? name).map Binding.flags
  fixed : ∀ name binding, before.bindings.get? name = some binding →
    binding.isMutable = false ∨ before.protects name = true →
    after.bindings.get? name = some binding

namespace Scope

theorem Grown.refl (scope : Scope) : scope.Grown scope := ⟨rfl, rfl, fun _ bound => bound, fun _ _ => rfl⟩

theorem Steady.refl (scope : Scope) : scope.Steady scope :=
  ⟨rfl, rfl, rfl, fun _ => rfl, fun _ _ found _ => found⟩

theorem protects_of_eq {before after : Scope} (same : after.protectedNames = before.protectedNames)
    (name : String) : after.protects name = before.protects name := by
  simp only [protects, same]

theorem Grown.trans {first second third : Scope} (early : first.Grown second)
    (late : second.Grown third) : first.Grown third := by
  refine ⟨late.parent.trans early.parent, late.protectedNames.trans early.protectedNames, ?_, ?_⟩
  · intro name bound
    exact late.bound name (early.bound name bound)
  · intro name reserved
    have still : second.protects name = true := by
      rw [protects_of_eq early.protectedNames]
      exact reserved
    rw [late.guarded name still, early.guarded name reserved]

theorem Steady.trans {first second third : Scope} (early : first.Steady second)
    (late : second.Steady third) : first.Steady third := by
  refine ⟨late.parent.trans early.parent, late.protectedNames.trans early.protectedNames,
    late.names.trans early.names, ?_, ?_⟩
  · intro name
    rw [late.flags, early.flags]
  · intro name binding found reason
    apply late.fixed name binding (early.fixed name binding found reason)
    rw [protects_of_eq early.protectedNames]
    exact reason

theorem Steady.grown {before after : Scope} (steady : before.Steady after) : before.Grown after := by
  refine ⟨steady.parent, steady.protectedNames, ?_, ?_⟩
  · intro name bound
    unfold binds at bound ⊢
    rw [Dictionary.contains_iff, steady.names, ← Dictionary.contains_iff]
    exact bound
  · intro name reserved
    cases found : before.bindings.get? name with
    | some binding => exact steady.fixed name binding found (Or.inr reserved)
    | none =>
        have flags := steady.flags name
        rw [found] at flags
        exact Option.map_eq_none_iff.mp flags

theorem bind_grown {scope : Scope} {name : String} (binding : Binding)
    (free : scope.protects name = false) : scope.Grown (scope.bind name binding) := by
  refine ⟨rfl, rfl, ?_, ?_⟩
  · intro other bound
    exact Dictionary.contains_insert_of_contains name binding bound
  · intro other reserved
    have apart : other ≠ name := by
      rintro rfl
      rw [free] at reserved
      cases reserved
    exact Dictionary.get?_insert_of_ne _ binding apart

theorem bind_steady {scope : Scope} {name : String} {binding : Binding} (value : Value)
    (found : scope.bindings.get? name = some binding) (assignable : binding.isMutable = true)
    (free : scope.protects name = false) :
    scope.Steady (scope.bind name { binding with value := value }) := by
  refine ⟨rfl, rfl, Dictionary.keys_insert_of_contains _ (Dictionary.contains_of_get? found), ?_, ?_⟩
  · intro other
    by_cases same : other = name
    · subst other
      simp only [bind, Dictionary.get?_insert_self, found, Option.map_some, Binding.flags]
    · simp only [bind, Dictionary.get?_insert_of_ne _ _ same]
  · intro other held heldThere reason
    have apart : other ≠ name := by
      rintro rfl
      rw [found, Option.some.injEq] at heldThere
      subst held
      rw [assignable, free] at reason
      simp at reason
    rw [← heldThere]
    exact Dictionary.get?_insert_of_ne _ _ apart

end Scope

/-- Every scope of the earlier store is still there and has only grown. All but the exempt one have the same
names and flags as before. -/
def Store.Frame (exempt : Option ScopeId) (before after : Store) : Prop :=
  ∀ id scope, before.scope? id = some scope →
    ∃ later, after.scope? id = some later ∧ scope.Grown later ∧
      (exempt ≠ some id → scope.Steady later)

namespace Store

theorem Frame.refl (exempt : Option ScopeId) (store : Store) : store.Frame exempt store :=
  fun _ scope found => ⟨scope, found, .refl scope, fun _ => .refl scope⟩

theorem Frame.trans {exempt : Option ScopeId} {first second third : Store}
    (early : first.Frame exempt second) (late : second.Frame exempt third) :
    first.Frame exempt third := by
  intro id scope found
  obtain ⟨middle, foundThere, grown, steady⟩ := early id scope found
  obtain ⟨later, foundLast, grownOn, steadyOn⟩ := late id middle foundThere
  exact ⟨later, foundLast, grown.trans grownOn, fun other => (steady other).trans (steadyOn other)⟩

theorem Frame.weaken {before after : Store} (frame : before.Frame none after)
    (exempt : Option ScopeId) : before.Frame exempt after := by
  intro id scope found
  obtain ⟨later, foundLater, grown, steady⟩ := frame id scope found
  exact ⟨later, foundLater, grown, fun _ => steady (by simp)⟩

/-- An exemption for a scope that was not there yet is none. -/
theorem Frame.of_fresh {before after : Store} {id : ScopeId} (frame : before.Frame (some id) after)
    (fresh : before.scopes.size ≤ id) : before.Frame none after := by
  intro other scope found
  have old : other < before.scopes.size := (Array.getElem?_eq_some_iff.mp found).1
  obtain ⟨later, foundLater, grown, steady⟩ := frame other scope found
  refine ⟨later, foundLater, grown, fun _ => steady ?_⟩
  intro same
  cases same
  exact Nat.not_lt.mpr fresh old

theorem scope?_update (store : Store) (id other : ScopeId) (change : Scope → Scope) :
    (store.update id change).scope? other =
      if id = other then (store.scope? other).map change else store.scope? other := by
  simp only [update, scope?, Array.getElem?_modify]

theorem create_frame (store : Store) (parent : Option ScopeId) :
    store.Frame none (store.create parent).2 := by
  intro id scope found
  have old : id < store.scopes.size := (Array.getElem?_eq_some_iff.mp found).1
  refine ⟨scope, ?_, .refl scope, fun _ => .refl scope⟩
  change (store.scopes.push _)[id]? = some scope
  rw [Array.getElem?_push, if_neg (Nat.ne_of_lt old)]
  exact found

theorem isProtected_eq {store : Store} {id : ScopeId} {scope : Scope}
    (found : store.scope? id = some scope) (name : String) :
    store.isProtected id name = scope.protects name := by
  simp only [isProtected, found, Option.any_some]

/-- A declaration that is not refused touches its own scope only. -/
theorem bind_frame {store : Store} {id : ScopeId} {name : String} (binding : Binding)
    (allowed : store.declareRefusal? id name = none) :
    store.Frame (some id) (store.bind id name binding) := by
  intro other scope found
  simp only [bind, scope?_update]
  by_cases same : id = other
  · subst other
    have free : scope.protects name = false := by
      rw [← isProtected_eq found name]
      simpa [declareRefusal?] using allowed
    refine ⟨scope.bind name binding, ?_, Scope.bind_grown binding free, ?_⟩
    · simp only [found, ↓reduceIte, Option.map_some]
    · intro exempted
      exact absurd rfl exempted
  · refine ⟨scope, ?_, .refl scope, fun _ => .refl scope⟩
    simp only [same, ↓reduceIte, found]

theorem binding?_of_holder? {store : Store} {id owner : ScopeId} {name : String} {binding : Binding}
    (held : store.holder? id name = some (owner, binding)) : store.binding? owner name = some binding := by
  obtain ⟨candidate, _, found⟩ := List.exists_of_findSome?_eq_some held
  obtain ⟨there, foundThere, pair⟩ := Option.map_eq_some_iff.mp found
  cases pair
  exact foundThere

/-- An assignment that is not refused gives one binding another value. -/
theorem overwrite_frame {store : Store} {id : ScopeId} {name : String} (value : Value)
    (allowed : store.assignRefusal? id name = none) :
    store.Frame none (store.overwrite id name value) := by
  unfold assignRefusal? at allowed
  unfold overwrite
  cases held : store.holder? id name with
  | none => exact .refl none store
  | some owned =>
      obtain ⟨owner, binding⟩ := owned
      obtain ⟨place, foundOwner, foundBinding⟩ :=
        Option.bind_eq_some_iff.mp (binding?_of_holder? held)
      simp only [held, isProtected_eq foundOwner] at allowed
      have free : place.protects name = false := by
        cases guarded : place.protects name with
        | false => rfl
        | true => simp [guarded] at allowed
      have assignable : binding.isMutable = true := by
        cases mutability : binding.isMutable with
        | true => rfl
        | false => simp [free, mutability] at allowed
      have steady := Scope.bind_steady value foundBinding assignable free
      intro other scope found
      simp only [bind, scope?_update]
      by_cases same : owner = other
      · subst other
        rw [foundOwner, Option.some.injEq] at found
        subst scope
        refine ⟨place.bind name { binding with value := value }, ?_, steady.grown, fun _ => steady⟩
        simp only [foundOwner, ↓reduceIte, Option.map_some]
      · refine ⟨scope, ?_, .refl scope, fun _ => .refl scope⟩
        simp only [same, ↓reduceIte, found]

end Store

end TableScript
