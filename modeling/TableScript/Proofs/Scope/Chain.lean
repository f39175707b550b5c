import Mathlib.Logic.Basic
import Mathlib.Logic.Relation
import TableScript.Proofs.Dictionary.Distinct
import TableScript.Proofs.Scope.Frame

set_option autoImplicit false

namespace TableScript.Store

/-- The second scope is the parent of the first. -/
def Links (store : Store) (child parent : ScopeId) : Prop := store.parent? child = some parent

/-- Every parent is older than its children. -/
def Ordered (store : Store) : Prop := ∀ child parent, store.Links child parent → parent < child

/-- The binding is the first one of the name on the way from the scope outward, and `owner` holds it. -/
def Innermost (store : Store) (id : ScopeId) (name : String) (owner : ScopeId) (binding : Binding) : Prop :=
  ∃ inner outer, store.chain id = inner ++ owner :: outer ∧
    (∀ scope ∈ inner, store.binding? scope name = none) ∧ store.binding? owner name = some binding

variable {store : Store}

section Chain

theorem chain_of_root {id : ScopeId} (root : store.parent? id = none) : store.chain id = [id] := by
  rw [chain, root]

theorem Ordered.chain_of_links (ordered : store.Ordered) {id parent : ScopeId}
    (links : store.Links id parent) : store.chain id = id :: store.chain parent := by
  have older := ordered id parent links
  rw [chain, show store.parent? id = some parent from links]
  simp only [older, ↓reduceIte]

theorem chain_eq_cons (store : Store) (id : ScopeId) : ∃ outer, store.chain id = id :: outer := by
  rw [chain]
  split
  · exact ⟨_, rfl⟩
  · split <;> exact ⟨_, rfl⟩

/-- A name bound in the scope itself is found there. -/
theorem resolve?_of_binding? {id : ScopeId} {name : String} {binding : Binding}
    (bound : store.binding? id name = some binding) : store.resolve? id name = some binding.value := by
  obtain ⟨outer, chained⟩ := chain_eq_cons store id
  simp only [resolve?, holder?, chained, List.findSome?_cons, bound, Option.map_some]

theorem Ordered.links_older (ordered : store.Ordered) {inner outer : ScopeId}
    (around : Relation.TransGen store.Links inner outer) : outer < inner := by
  induction around with
  | single links => exact ordered _ _ links
  | tail _ links ih => exact Nat.lt_trans (ordered _ _ links) ih

theorem Ordered.acyclic (ordered : store.Ordered) (id : ScopeId) : ¬ Relation.TransGen store.Links id id :=
  fun around => Nat.lt_irrefl id (ordered.links_older around)

/-- The chain lists the scope and all scopes around it. -/
theorem Ordered.mem_chain_iff (ordered : store.Ordered) (id ancestor : ScopeId) :
    ancestor ∈ store.chain id ↔ Relation.ReflTransGen store.Links id ancestor := by
  induction id using Nat.strongRecOn with
  | ind id ih =>
      cases link : store.parent? id with
      | none =>
          rw [chain_of_root link, List.mem_singleton, Relation.ReflTransGen.cases_head_iff]
          constructor
          · exact fun same => .inl same.symm
          · rintro (same | ⟨parent, links, -⟩)
            · exact same.symm
            · rw [Links, link] at links
              cases links
      | some parent =>
          rw [ordered.chain_of_links link, List.mem_cons, ih parent (ordered id parent link),
            Relation.ReflTransGen.cases_head_iff (a := id)]
          constructor
          · rintro (same | above)
            · exact .inl same.symm
            · exact .inr ⟨parent, link, above⟩
          · rintro (same | ⟨other, links, above⟩)
            · exact .inl same.symm
            · cases Option.some.inj (link.symm.trans links)
              exact .inr above

theorem Ordered.nodup_chain (ordered : store.Ordered) (id : ScopeId) : (store.chain id).Nodup := by
  induction id using Nat.strongRecOn with
  | ind id ih =>
      cases link : store.parent? id with
      | none =>
          rw [chain_of_root link]
          simp
      | some parent =>
          have older := ordered id parent link
          rw [ordered.chain_of_links link, List.nodup_cons]
          refine ⟨fun member => ?_, ih parent older⟩
          have around := (ordered.mem_chain_iff parent id).mp member
          exact ordered.acyclic id (Relation.TransGen.head' link around)

/-- Chains depend on the parents only. -/
theorem chain_congr {other : Store} (same : ∀ id, other.parent? id = store.parent? id) (id : ScopeId) :
    other.chain id = store.chain id := by
  induction id using Nat.strongRecOn with
  | ind id ih =>
      rw [chain, chain, same]
      cases store.parent? id with
      | none => rfl
      | some parent =>
          by_cases older : parent < id
          · simp only [older, ↓reduceIte, ih parent older]
          · simp only [older, ↓reduceIte]

end Chain

section Lookup

variable {id owner : ScopeId} {name : String} {binding : Binding}

theorem holder?_eq_some_iff : store.holder? id name = some (owner, binding) ↔
    store.Innermost id name owner binding := by
  simp only [holder?, List.findSome?_eq_some_iff, Option.map_eq_some_iff, Option.map_eq_none_iff, Innermost]
  constructor
  · rintro ⟨inner, candidate, outer, split, ⟨held, found, same⟩, absent⟩
    cases same
    exact ⟨inner, outer, split, absent, found⟩
  · rintro ⟨inner, outer, split, absent, found⟩
    exact ⟨inner, owner, outer, split, ⟨binding, found, rfl⟩, absent⟩

theorem holder?_eq_none_iff : store.holder? id name = none ↔
    ∀ scope ∈ store.chain id, store.binding? scope name = none := by
  simp only [holder?, List.findSome?_eq_none_iff, Option.map_eq_none_iff]

/-- At most one scope is the innermost one that binds a name. -/
theorem Innermost.unique {other : ScopeId} {held : Binding} (first : store.Innermost id name owner binding)
    (second : store.Innermost id name other held) : owner = other ∧ binding = held := by
  have same := (holder?_eq_some_iff.mpr first).symm.trans (holder?_eq_some_iff.mpr second)
  exact Prod.mk.inj (Option.some.inj same)

theorem Innermost.bound (innermost : store.Innermost id name owner binding) :
    store.binding? owner name = some binding := by
  obtain ⟨-, -, -, -, bound⟩ := innermost
  exact bound

theorem Innermost.resolve? (innermost : store.Innermost id name owner binding) :
    store.resolve? id name = some binding.value := by
  rw [Store.resolve?, holder?_eq_some_iff.mpr innermost]
  rfl

theorem innermost_self (bound : store.binding? id name = some binding) :
    store.Innermost id name id binding := by
  obtain ⟨outer, starts⟩ := chain_eq_cons store id
  exact ⟨[], outer, starts, nofun, bound⟩

theorem resolve?_isSome_iff : (store.resolve? id name).isSome = true ↔
    ∃ scope ∈ store.chain id, (store.binding? scope name).isSome = true := by
  rw [resolve?, Option.isSome_map, Option.isSome_iff_ne_none, ne_eq, holder?_eq_none_iff]
  simp only [not_forall, exists_prop, Option.isSome_iff_ne_none]

theorem mem_names_iff (scope : ScopeId) : name ∈ store.names scope ↔
    (store.binding? scope name).isSome = true := by
  unfold names binding?
  cases store.scope? scope with
  | none => simp
  | some found => exact Dictionary.isSome_get?.symm

/-- The names that can be seen are those that can be resolved. -/
theorem mem_identifiers_iff : name ∈ store.identifiers id ↔ (store.resolve? id name).isSome = true := by
  rw [resolve?_isSome_iff, identifiers, List.mem_eraseDups, sortNames, List.mem_mergeSort, List.mem_flatMap]
  simp only [mem_names_iff]

end Lookup

end TableScript.Store
