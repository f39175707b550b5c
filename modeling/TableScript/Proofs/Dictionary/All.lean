import TableScript.Proofs.Dictionary.Distinct

set_option autoImplicit false

namespace TableScript.Dictionary

variable {α β : Type} {d : Dictionary α} {holds : α → Prop}

/-- Every value has the property. -/
def All (holds : α → Prop) (d : Dictionary α) : Prop := ∀ value ∈ d.values, holds value

theorem all_iff : d.All holds ↔ ∀ pair ∈ d.entries, holds pair.2 := by
  simp only [All, values, List.forall_mem_map]

namespace All

theorem imp {weaker : α → Prop} (each : d.All holds) (follows : ∀ value, holds value → weaker value) :
    d.All weaker := fun value member => follows value (each value member)

theorem get? {key : String} {value : α} (each : d.All holds) (found : d.get? key = some value) :
    holds value := all_iff.mp each (key, value) (mem_of_get? found)

theorem empty : (Dictionary.empty : Dictionary α).All holds := by
  intro value member
  cases member

theorem insert {value : α} (each : d.All holds) (key : String) (new : holds value) :
    (d.insert key value).All holds := by
  rw [all_iff] at each ⊢
  unfold Dictionary.insert
  split
  · rw [List.forall_mem_map]
    intro pair member
    split
    · exact new
    · exact each pair member
  · intro pair member
    rcases List.mem_append.mp member with old | added
    · exact each pair old
    · rw [List.mem_singleton.mp added]
      exact new

theorem insertAll {pairs : List (String × α)} (each : d.All holds) (new : ∀ pair ∈ pairs, holds pair.2) :
    (pairs.foldl (fun d pair => d.insert pair.1 pair.2) d).All holds := by
  induction pairs generalizing d with
  | nil => exact each
  | cons pair rest ih =>
      have first := new pair List.mem_cons_self
      exact ih (each.insert pair.1 first) fun later member => new later (List.mem_cons_of_mem pair member)

theorem ofList {pairs : List (String × α)} (each : ∀ pair ∈ pairs, holds pair.2) :
    (Dictionary.ofList pairs).All holds := empty.insertAll each

theorem merge {other : Dictionary α} (left : d.All holds) (right : other.All holds) :
    (d.merge other).All holds := left.insertAll (all_iff.mp right)

theorem erase (each : d.All holds) (key : String) : (d.erase key).All holds := by
  rw [all_iff] at each ⊢
  intro pair member
  exact each pair (mem_erase.mp member).1

theorem insertAt {value : α} (each : d.All holds) (index : Nat) (key : String) (new : holds value) :
    (d.insertAt index key value).All holds := by
  rw [all_iff]
  intro pair member
  rcases List.mem_cons.mp ((d.insertAt_perm index key value).mem_iff.mp member) with rfl | old
  · exact new
  · exact all_iff.mp (each.erase key) pair old

theorem rename (each : d.All holds) (old new : String) : (d.rename old new).All holds := by
  unfold Dictionary.rename rename?
  split
  · have others : (Dictionary.mk (if old = new then d.entries else (d.erase new).entries)).All holds := by
      split
      · exact each
      · exact each.erase new
    simp only [Option.getD_some, all_iff, List.forall_mem_map] at others ⊢
    intro pair member
    split <;> exact others pair member
  · exact each

theorem map {f : α → β} {image : β → Prop} (each : d.All fun value => image (f value)) :
    (d.map f).All image := by
  rw [all_iff] at each ⊢
  simpa only [Dictionary.map, List.forall_mem_map] using each

end All

end TableScript.Dictionary
