import TableScript.Dictionary.Basic

set_option autoImplicit false

namespace TableScript.Dictionary

variable {α : Type}

theorem contains_iff (d : Dictionary α) (key : String) : d.contains key = true ↔ key ∈ d.keys := by
  simp [contains, keys]

theorem contains_of_get? {d : Dictionary α} {key : String} {value : α}
    (found : d.get? key = some value) : d.contains key = true := by
  obtain ⟨front, back, split, _⟩ := List.lookup_eq_some_iff.mp found
  simp [contains, split]

private theorem lookup_replace_self (entries : List (String × α)) (key : String) (value : α)
    (present : entries.any (·.1 == key) = true) :
    (entries.map fun pair => if pair.1 == key then (key, value) else pair).lookup key = some value := by
  induction entries with
  | nil => simp at present
  | cons pair rest ih =>
      obtain ⟨name, held⟩ := pair
      by_cases same : name = key
      · simp [same]
      · have later : rest.any (·.1 == key) = true := by simpa [same] using present
        have different : (key == name) = false := by simpa using fun equal => same equal.symm
        simpa only [List.map_cons, beq_iff_eq, same, ↓reduceIte, List.lookup_cons, different] using
          ih later

private theorem lookup_replace_other (entries : List (String × α)) (key other : String) (value : α)
    (apart : other ≠ key) :
    (entries.map fun pair => if pair.1 == key then (key, value) else pair).lookup other =
      entries.lookup other := by
  induction entries with
  | nil => rfl
  | cons pair rest ih =>
      obtain ⟨name, held⟩ := pair
      by_cases same : name = key
      · have different : (other == key) = false := by simpa using apart
        simpa only [List.map_cons, beq_iff_eq, same, ↓reduceIte, List.lookup_cons, different] using ih
      · simp only [List.map_cons, beq_iff_eq, same, ↓reduceIte, List.lookup_cons] at ih ⊢
        rw [ih]

@[simp] theorem get?_insert_self (d : Dictionary α) (key : String) (value : α) :
    (d.insert key value).get? key = some value := by
  unfold insert get?
  split
  · rename_i present
    exact lookup_replace_self d.entries key value present
  · rename_i absent
    have missing : d.entries.lookup key = none := by
      rw [List.lookup_eq_none_iff]
      intro pair member
      have other : ¬ pair.1 = key := by
        intro equal
        exact absent (by simpa [contains] using ⟨pair.2, by rw [← equal]; exact member⟩)
      simpa using fun equal => other equal.symm
    simp [List.lookup_append, missing]

theorem get?_insert_of_ne (d : Dictionary α) {key other : String} (value : α) (apart : other ≠ key) :
    (d.insert key value).get? other = d.get? other := by
  unfold insert get?
  split
  · exact lookup_replace_other d.entries key other value apart
  · have different : (other == key) = false := by simpa using apart
    simp [List.lookup_append, List.lookup_cons, different]

/-- A present key keeps its place. -/
theorem keys_insert_of_contains {d : Dictionary α} {key : String} (value : α)
    (present : d.contains key = true) : (d.insert key value).keys = d.keys := by
  simp only [insert, present, ↓reduceIte, keys, List.map_map]
  apply List.map_congr_left
  intro pair _
  by_cases same : pair.1 = key
  · simp [same]
  · simp [same]

theorem contains_insert_of_contains {d : Dictionary α} {other : String} (key : String) (value : α)
    (present : d.contains other = true) : (d.insert key value).contains other = true := by
  by_cases held : d.contains key = true
  · rw [contains_iff, keys_insert_of_contains value held, ← contains_iff]
    exact present
  · rw [contains_iff] at present ⊢
    simp only [insert, held, Bool.false_eq_true, ↓reduceIte, keys, List.map_append, List.mem_append]
    exact Or.inl present

theorem get?_insertAll_of_absent (d : Dictionary α) {pairs : List (String × α)} {key : String}
    (absent : key ∉ pairs.map Prod.fst) :
    (pairs.foldl (fun d pair => d.insert pair.1 pair.2) d).get? key = d.get? key := by
  induction pairs generalizing d with
  | nil => rfl
  | cons pair rest ih =>
    obtain ⟨apart, later⟩ := not_or.mp (mt List.mem_cons.mpr absent)
    rw [List.foldl_cons, ih _ later, get?_insert_of_ne d pair.2 apart]

theorem get?_ofList_of_absent {pairs : List (String × α)} {key : String} (absent : key ∉ pairs.map Prod.fst) :
    (ofList pairs).get? key = none := get?_insertAll_of_absent empty absent

/-- The last pair with a key counts. -/
theorem get?_ofList_of_last (front : List (String × α)) {key : String} (value : α) {back : List (String × α)}
    (last : key ∉ back.map Prod.fst) : (ofList (front ++ (key, value) :: back)).get? key = some value := by
  rw [ofList, List.foldl_append, List.foldl_cons, get?_insertAll_of_absent _ last, get?_insert_self]

variable {β : Type}

theorem get?_map (d : Dictionary α) (f : α → β) (key : String) : (d.map f).get? key = (d.get? key).map f := by
  obtain ⟨entries⟩ := d
  simp only [get?, map]
  induction entries with
  | nil => rfl
  | cons pair rest ih =>
    rw [List.map_cons, List.lookup_cons, List.lookup_cons, ih]
    split <;> rfl

theorem map_insert (d : Dictionary α) (key : String) (value : α) (f : α → β) :
    (d.insert key value).map f = (d.map f).insert key (f value) := by
  have contains : (d.map f).contains key = d.contains key := by
    simp only [Dictionary.contains, map, List.any_map]
    rfl
  unfold insert
  rw [contains]
  split
  · simp only [map, List.map_map]
    refine congrArg Dictionary.mk (List.map_congr_left fun pair _ => ?_)
    simp only [Function.comp_apply]
    split <;> rfl
  · simp [map]

end TableScript.Dictionary
