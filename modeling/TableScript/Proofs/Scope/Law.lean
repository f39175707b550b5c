import TableScript.Proofs.Scope.Frame
import TableScript.Proofs.Value.Law

set_option autoImplicit false

namespace TableScript

namespace Store

/-- Some name of some scope is bound to the value. -/
def Holds (store : Store) (value : Value) : Prop :=
  ∃ id scope, store.scope? id = some scope ∧ ∃ binding ∈ scope.bindings.values, binding.value = value

/-- Every bound value obeys the law throughout. -/
def Lawful (law : Law) (store : Store) : Prop := ∀ value, store.Holds value → law.Throughout value

variable {law : Law} {store : Store}

theorem holds_of_binding? {id : ScopeId} {name : String} {binding : Binding}
    (found : store.binding? id name = some binding) : store.Holds binding.value := by
  obtain ⟨scope, there, bound⟩ := Option.bind_eq_some_iff.mp found
  have held := List.mem_map_of_mem (f := Prod.snd) (Dictionary.mem_of_get? bound)
  exact ⟨id, scope, there, binding, held, rfl⟩

theorem holds_of_resolve? {id : ScopeId} {name : String} {value : Value}
    (found : store.resolve? id name = some value) : store.Holds value := by
  obtain ⟨⟨owner, binding⟩, held, rfl⟩ := Option.map_eq_some_iff.mp found
  exact holds_of_binding? (binding?_of_holder? held)

theorem empty_lawful : empty.Lawful law := by
  rintro value ⟨id, scope, there, -⟩
  cases there

theorem create_lawful (lawful : store.Lawful law) (parent : Option ScopeId) :
    (store.create parent).2.Lawful law := by
  rintro value ⟨id, scope, there, binding, held, rfl⟩
  simp only [create, scope?, Array.getElem?_push] at there
  split at there
  · cases there
    cases held
  · exact lawful _ ⟨id, scope, there, binding, held, rfl⟩

/-- Changing a scope adds no values but lawful ones. -/
theorem update_lawful {id : ScopeId} {change : Scope → Scope} (lawful : store.Lawful law)
    (changed : ∀ scope : Scope, (scope.bindings.All fun binding => law.Throughout binding.value) →
      (change scope).bindings.All fun binding => law.Throughout binding.value) :
    (store.update id change).Lawful law := by
  rintro value ⟨other, scope, there, binding, held, rfl⟩
  rw [scope?_update] at there
  split at there
  · obtain ⟨before, earlier, rfl⟩ := Option.map_eq_some_iff.mp there
    exact changed before (fun bound known => lawful _ ⟨other, before, earlier, bound, known, rfl⟩) binding held
  · exact lawful _ ⟨other, scope, there, binding, held, rfl⟩

theorem bind_lawful {binding : Binding} (lawful : store.Lawful law) (id : ScopeId) (name : String)
    (new : law.Throughout binding.value) : (store.bind id name binding).Lawful law :=
  update_lawful lawful fun _ each => each.insert name new

theorem overwrite_lawful {value : Value} (lawful : store.Lawful law) (id : ScopeId) (name : String)
    (new : law.Throughout value) : (store.overwrite id name value).Lawful law := by
  unfold overwrite
  split
  · exact lawful
  · exact bind_lawful lawful _ name new

theorem protect_lawful {value : Value} (lawful : store.Lawful law) (id : ScopeId) (name : String)
    (new : law.Throughout value) : (store.protect id name value).Lawful law :=
  update_lawful lawful fun _ each => each.insert name new

/-- The values that a scope exports are bound in it. -/
theorem holds_of_mem_exports {id : ScopeId} {pair : String × Value} (member : pair ∈ store.exports id) :
    store.Holds pair.2 := by
  unfold exports at member
  rw [List.mem_mergeSort] at member
  obtain ⟨⟨name, binding⟩, kept, rfl⟩ := List.mem_map.mp member
  have bound := (List.mem_filter.mp kept).1
  cases there : store.scope? id with
  | none =>
      rw [there] at bound
      cases bound
  | some scope =>
      rw [there] at bound
      exact ⟨id, scope, there, binding, List.mem_map_of_mem (f := Prod.snd) bound, rfl⟩

end Store

end TableScript
