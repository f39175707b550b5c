import TableScript.Proofs.Dictionary.Refinement

set_option autoImplicit false

namespace TableScript.Dictionary

variable {α : Type}

/-- The pair, with the value if it has the key. -/
def reassign (key : String) (value : α) (pair : String × α) : String × α :=
  if pair.1 == key then (key, value) else pair

theorem reassign_of_ne {key : String} {pair : String × α} (value : α) (apart : pair.1 ≠ key) :
    reassign key value pair = pair := if_neg (by simpa using apart)

theorem reassign_self {key : String} {pair : String × α} (value : α) (same : pair.1 = key) :
    reassign key value pair = (key, value) := if_pos (by simpa using same)

theorem insert_of_contains {d : Dictionary α} {key : String} (value : α) (present : d.contains key = true) :
    d.insert key value = ⟨d.entries.map (reassign key value)⟩ := if_pos present

theorem contains_insert_self (d : Dictionary α) (key : String) (value : α) :
    (d.insert key value).contains key = true := contains_of_get? (get?_insert_self d key value)

/-- The later of two values counts, and the place is the one that the earlier took. -/
theorem insert_insert_self (d : Dictionary α) (key : String) (first second : α) :
    (d.insert key first).insert key second = d.insert key second := by
  rw [insert_of_contains second (contains_insert_self d key first)]
  by_cases present : d.contains key = true
  · rw [insert_of_contains first present, insert_of_contains second present, List.map_map]
    refine congrArg Dictionary.mk (List.map_congr_left fun pair _ => ?_)
    have put : reassign key second (key, first) = (key, second) := reassign_self second rfl
    by_cases same : pair.1 = key
    · rw [Function.comp_apply, reassign_self first same, put, reassign_self second same]
    · rw [Function.comp_apply, reassign_of_ne first same]
  · have absent : key ∉ d.keys := fun member => present ((contains_iff d key).mpr member)
    have others : ∀ pair ∈ d.entries ++ [], pair.1 ≠ key := by
      rintro pair member rfl
      exact absent (mem_keys (by simpa using member))
    rw [insert_of_absent first absent, insert_of_absent second absent]
    exact congrArg Dictionary.mk (map_split (fun _ => (key, second)) others)

/-- A new value for a present key may be given before or after another insertion. -/
theorem insert_comm_of_contains {d : Dictionary α} {key other : String} (value held : α)
    (present : d.contains key = true) (apart : other ≠ key) :
    (d.insert key value).insert other held = (d.insert other held).insert key value := by
  rw [insert_of_contains value (contains_insert_of_contains other held present)]
  by_cases known : d.contains other = true
  · rw [insert_of_contains held (contains_insert_of_contains key value known),
      insert_of_contains value present, insert_of_contains held known, List.map_map, List.map_map]
    refine congrArg Dictionary.mk (List.map_congr_left fun pair _ => ?_)
    rw [Function.comp_apply, Function.comp_apply]
    by_cases same : pair.1 = key
    · have passed : pair.1 ≠ other := fun here => apart (here.symm.trans same)
      rw [reassign_self value same, reassign_of_ne held apart.symm, reassign_of_ne held passed,
        reassign_self value same]
    · rw [reassign_of_ne value same]
      by_cases here : pair.1 = other
      · rw [reassign_self held here, reassign_of_ne value apart]
      · rw [reassign_of_ne held here, reassign_of_ne value same]
  · have absent : other ∉ d.keys := fun member => known ((contains_iff d other).mpr member)
    have missing : other ∉ (d.insert key value).keys := by rwa [keys_insert_of_contains value present]
    rw [insert_of_absent held missing, insert_of_absent held absent, insert_of_contains value present,
      List.map_append, List.map_singleton, reassign_of_ne value apart]

section Replaced

variable {key : String} (value : α)

/-- Where the key is present from the start, its value may be given first or last. -/
theorem insertAll_reassign_of_contains {d : Dictionary α} (pairs : List (String × α))
    (present : d.contains key = true) :
    (pairs.map (reassign key value)).foldl (fun d pair => d.insert pair.1 pair.2) (d.insert key value) =
      (pairs.foldl (fun d pair => d.insert pair.1 pair.2) d).insert key value := by
  induction pairs generalizing d with
  | nil => rfl
  | cons pair rest ih =>
    rw [List.map_cons, List.foldl_cons, List.foldl_cons,
      ← ih (contains_insert_of_contains pair.1 pair.2 present)]
    by_cases same : pair.1 = key
    · rw [reassign_self value same, insert_insert_self, same, insert_insert_self]
    · rw [reassign_of_ne value same, insert_comm_of_contains value pair.2 present same]

/-- Where the pairs give the key a value, they may as well give it the new one. -/
theorem insertAll_reassign (d : Dictionary α) {pairs : List (String × α)} (given : key ∈ pairs.map Prod.fst) :
    (pairs.map (reassign key value)).foldl (fun d pair => d.insert pair.1 pair.2) d =
      (pairs.foldl (fun d pair => d.insert pair.1 pair.2) d).insert key value := by
  induction pairs generalizing d with
  | nil => cases given
  | cons pair rest ih =>
    rw [List.map_cons, List.foldl_cons, List.foldl_cons]
    by_cases same : pair.1 = key
    · have put := insertAll_reassign_of_contains value rest (contains_insert_self d key pair.2)
      rw [insert_insert_self] at put
      rw [reassign_self value same, put, same]
    · have later : key ∈ rest.map Prod.fst := by simpa [Ne.symm same] using given
      rw [reassign_of_ne value same, ih _ later]

end Replaced

/-- What is inserted on the right is inserted last. -/
theorem merge_insert_right (left right : Dictionary α) (key : String) (value : α) :
    left.merge (right.insert key value) = (left.merge right).insert key value := by
  by_cases present : right.contains key = true
  · rw [insert_of_contains value present]
    exact insertAll_reassign value left ((contains_iff right key).mp present)
  · have absent : key ∉ right.keys := fun member => present ((contains_iff right key).mpr member)
    rw [insert_of_absent value absent, merge, List.foldl_append]
    rfl

theorem merge_assoc (first second third : Dictionary α) :
    (first.merge second).merge third = first.merge (second.merge third) := by
  obtain ⟨pairs⟩ := third
  induction pairs generalizing second with
  | nil => rfl
  | cons pair rest ih =>
    have step := ih (second.insert pair.1 pair.2)
    rwa [merge_insert_right] at step

theorem merge_empty (d : Dictionary α) : d.merge .empty = d := rfl

theorem empty_merge {d : Dictionary α} (distinct : d.keys.Nodup) : Dictionary.empty.merge d = d :=
  congrArg Dictionary.mk (entries_ofList distinct)

/-- The keys on the left in their order, and then those that stand on the right only, in theirs. -/
theorem keys_merge {left right : Dictionary α} (distinct : left.keys.Nodup) (apart : right.keys.Nodup) :
    (left.merge right).keys = left.keys ++ right.keys.filter (· ∉ left.keys) := by
  have listed := congrArg (List.map Prod.fst) (merge_toList distinct apart)
  rw [Pairs.merge, List.map_append, List.map_map] at listed
  have added : right.keys.filter (· ∉ left.keys) =
      (right.toList.filter fun pair => pair.1 ∉ left.toList.map Prod.fst).map Prod.fst := List.filter_map
  rw [added]
  exact listed

theorem get?_insertAll (d : Dictionary α) {pairs : List (String × α)} (apart : (pairs.map Prod.fst).Nodup)
    (key : String) :
    (pairs.foldl (fun d pair => d.insert pair.1 pair.2) d).get? key = (pairs.lookup key).or (d.get? key) := by
  induction pairs generalizing d with
  | nil => rfl
  | cons pair rest ih =>
    obtain ⟨fresh, others⟩ := List.nodup_cons.mp apart
    rw [List.foldl_cons, ih _ others, List.lookup_cons]
    by_cases same : key = pair.1
    · have unlisted : rest.lookup pair.1 = none := get?_eq_none_iff (d := ⟨rest⟩).mpr fresh
      rw [same, unlisted, get?_insert_self, beq_self_eq_true]
      rfl
    · rw [get?_insert_of_ne d pair.2 same, beq_false_of_ne same]

/-- The value on the right if there is one, otherwise the one on the left. -/
theorem get?_merge (left : Dictionary α) {right : Dictionary α} (apart : right.keys.Nodup) (key : String) :
    (left.merge right).get? key = (right.get? key).or (left.get? key) := get?_insertAll left apart key

end TableScript.Dictionary
