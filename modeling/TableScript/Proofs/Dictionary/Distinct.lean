import TableScript.Proofs.Dictionary.Lookup

set_option autoImplicit false

namespace TableScript.Dictionary

variable {α : Type} {d : Dictionary α} {key : String} {value : α}

theorem get?_eq_none_iff : d.get? key = none ↔ key ∉ d.keys := by
  simp only [get?, List.lookup_eq_none_iff, keys, List.mem_map, not_exists, not_and]
  constructor
  · intro missing pair member same
    exact absurd same.symm (by simpa using missing pair member)
  · intro missing pair member
    simpa using fun same => missing pair member (Eq.symm same)

theorem mem_of_get? (found : d.get? key = some value) : (key, value) ∈ d.entries := by
  obtain ⟨front, back, split, -⟩ := List.lookup_eq_some_iff.mp found
  rw [split]
  exact List.mem_append_right front List.mem_cons_self

theorem mem_keys {pair : String × α} (member : pair ∈ d.entries) : pair.1 ∈ d.keys :=
  List.mem_map_of_mem member

theorem mem_erase {pair : String × α} :
    pair ∈ (d.erase key).entries ↔ pair ∈ d.entries ∧ pair.1 ≠ key := by
  simp [erase]

theorem erase_of_absent (absent : key ∉ d.keys) : d.erase key = d := by
  have kept : d.entries.filter (·.1 != key) = d.entries := by
    rw [List.filter_eq_self]
    intro pair member
    have other : pair.1 ≠ key := fun same => absent (same ▸ mem_keys member)
    simpa using other
  simp only [erase, kept]

theorem keys_erase : (d.erase key).keys = d.keys.filter (· != key) := by
  simp only [keys, erase, List.filter_map]
  rfl

theorem not_mem_keys_erase : key ∉ (d.erase key).keys := by
  simp [keys_erase]

theorem get?_erase_self (d : Dictionary α) (key : String) : (d.erase key).get? key = none :=
  get?_eq_none_iff.mpr not_mem_keys_erase

theorem get?_erase_of_ne (d : Dictionary α) {key other : String} (apart : other ≠ key) :
    (d.erase key).get? other = d.get? other := by
  obtain ⟨entries⟩ := d
  simp only [get?, erase]
  induction entries with
  | nil => rfl
  | cons pair rest ih =>
      obtain ⟨name, held⟩ := pair
      by_cases same : name = key
      · have different : (other == name) = false := by simpa [same] using apart
        have dropped : (name != key) = false := by simpa using same
        simp only [List.filter_cons, dropped, Bool.false_eq_true, ↓reduceIte, List.lookup_cons, different, ih]
      · have kept : (name != key) = true := by simpa using same
        simp only [List.filter_cons, kept, ↓reduceIte, List.lookup_cons, ih]

theorem nodup_keys_erase (key : String) (distinct : d.keys.Nodup) : (d.erase key).keys.Nodup := by
  rw [keys_erase]
  exact distinct.filter _

/-- Around a pair stand pairs of other keys only, and they are what is left when its key is erased. -/
theorem split_of_get? (distinct : d.keys.Nodup) (found : d.get? key = some value) :
    ∃ front back, d.entries = front ++ (key, value) :: back ∧ (∀ pair ∈ front ++ back, pair.1 ≠ key) ∧
      (d.erase key).entries = front ++ back := by
  obtain ⟨front, back, split, -⟩ := List.lookup_eq_some_iff.mp found
  have moved : d.keys.Perm (key :: (front ++ back).map (·.1)) := by
    rw [keys, split]
    exact List.perm_middle.map Prod.fst
  have apart := moved.nodup_iff.mp distinct
  have others : ∀ pair ∈ front ++ back, pair.1 ≠ key := by
    intro pair member same
    exact (List.nodup_cons.mp apart).1 (same ▸ List.mem_map_of_mem member)
  refine ⟨front, back, split, others, ?_⟩
  have kept : (front ++ back).filter (·.1 != key) = front ++ back := by
    rw [List.filter_eq_self]
    intro pair member
    simpa using others pair member
  simpa [erase, split] using kept

/-- What was found under a key is what is missing once the key is erased. -/
theorem perm_of_get? (distinct : d.keys.Nodup) (found : d.get? key = some value) :
    d.entries.Perm ((key, value) :: (d.erase key).entries) := by
  obtain ⟨front, back, split, -, rest⟩ := split_of_get? distinct found
  rw [split, rest]
  exact List.perm_middle

/-- Changing the pairs of a key changes one pair only, where the key stands once. -/
theorem map_split {front back : List (String × α)} (change : String × α → String × α)
    (others : ∀ pair ∈ front ++ back, pair.1 ≠ key) :
    ((front ++ (key, value) :: back).map fun pair => if pair.1 == key then change pair else pair) =
      front ++ change (key, value) :: back := by
  have kept : ((front ++ back).map fun pair => if pair.1 == key then change pair else pair) =
      front ++ back := by
    rw [List.map_congr_left fun pair member => if_neg (by simpa using others pair member)]
    exact List.map_id _
  rw [List.map_append] at kept
  obtain ⟨before, after⟩ := List.append_inj kept (by simp)
  simp only [List.map_append, List.map_cons, before, after, beq_self_eq_true, ↓reduceIte]

theorem insert_perm (key : String) (value : α) (distinct : d.keys.Nodup) :
    (d.insert key value).entries.Perm ((key, value) :: (d.erase key).entries) := by
  cases found : d.get? key with
  | none =>
      have absent := get?_eq_none_iff.mp found
      have missing : d.contains key = false := by
        simpa using fun present => absent ((contains_iff d key).mp present)
      simp only [insert, missing, Bool.false_eq_true, ↓reduceIte, erase_of_absent absent]
      exact List.perm_append_singleton (key, value) d.entries
  | some held =>
      obtain ⟨front, back, split, others, rest⟩ := split_of_get? distinct found
      have replaced : (d.insert key value).entries = front ++ (key, value) :: back := by
        simp only [insert, contains_of_get? found, ↓reduceIte, split]
        exact map_split (fun _ => (key, value)) others
      rw [replaced, rest]
      exact List.perm_middle

theorem get?_of_mem (distinct : d.keys.Nodup) (member : (key, value) ∈ d.entries) :
    d.get? key = some value := by
  cases found : d.get? key with
  | none => exact absurd (List.mem_map_of_mem member) (get?_eq_none_iff.mp found)
  | some held =>
      have spread := (perm_of_get? distinct found).mem_iff.mp member
      rcases List.mem_cons.mp spread with here | later
      · rw [(Prod.mk.inj here).2]
      · exact absurd rfl (mem_erase.mp later).2

theorem not_contains (absent : key ∉ d.keys) : d.contains key = false := by
  rw [← Bool.not_eq_true, contains_iff]
  exact absent

theorem isSome_get? : (d.get? key).isSome = true ↔ key ∈ d.keys := by
  rw [Option.isSome_iff_ne_none, ne_eq, get?_eq_none_iff, Decidable.not_not]

theorem insert_of_absent (value : α) (absent : key ∉ d.keys) :
    d.insert key value = ⟨d.entries ++ [(key, value)]⟩ := by
  simp [insert, not_contains absent]

theorem keys_insert_of_absent (value : α) (absent : key ∉ d.keys) :
    (d.insert key value).keys = d.keys ++ [key] := by
  simp [insert_of_absent value absent, keys]

theorem nodup_keys_insert (key : String) (value : α) (distinct : d.keys.Nodup) :
    (d.insert key value).keys.Nodup := by
  by_cases present : key ∈ d.keys
  · rw [keys_insert_of_contains value ((contains_iff d key).mpr present)]
    exact distinct
  · rw [keys_insert_of_absent value present]
    exact (List.perm_append_singleton key d.keys).nodup_iff.mpr (List.nodup_cons.mpr ⟨present, distinct⟩)

theorem nodup_keys_insertAll (pairs : List (String × α)) (distinct : d.keys.Nodup) :
    (pairs.foldl (fun d pair => d.insert pair.1 pair.2) d).keys.Nodup := by
  induction pairs generalizing d with
  | nil => exact distinct
  | cons pair rest ih => exact ih (nodup_keys_insert pair.1 pair.2 distinct)

/-- Pairs of new and different keys go to the end as they are. -/
theorem entries_insertAll (pairs : List (String × α)) (distinct : (d.keys ++ pairs.map Prod.fst).Nodup) :
    (pairs.foldl (fun d pair => d.insert pair.1 pair.2) d).entries = d.entries ++ pairs := by
  induction pairs generalizing d with
  | nil => simp
  | cons pair rest ih =>
      have absent : pair.1 ∉ d.keys := by
        intro present
        exact (List.nodup_append.mp distinct).2.2 pair.1 present pair.1 List.mem_cons_self rfl
      have spread : ((d.insert pair.1 pair.2).keys ++ rest.map Prod.fst).Nodup := by
        rw [keys_insert_of_absent pair.2 absent]
        simpa using distinct
      rw [List.foldl_cons, ih spread, insert_of_absent pair.2 absent]
      simp

theorem entries_ofList {pairs : List (String × α)} (distinct : (pairs.map Prod.fst).Nodup) :
    (ofList pairs).entries = pairs := by
  have spread : ((empty : Dictionary α).keys ++ pairs.map Prod.fst).Nodup := by simpa [empty, keys] using distinct
  rw [ofList, entries_insertAll pairs spread]
  rfl

theorem nodup_keys_ofList (pairs : List (String × α)) : (ofList pairs).keys.Nodup :=
  nodup_keys_insertAll pairs List.nodup_nil

theorem nodup_keys_merge (other : Dictionary α) (distinct : d.keys.Nodup) :
    (d.merge other).keys.Nodup := nodup_keys_insertAll other.entries distinct

theorem insertAt_perm (d : Dictionary α) (index : Nat) (key : String) (value : α) :
    (d.insertAt index key value).entries.Perm ((key, value) :: (d.erase key).entries) := by
  refine List.perm_middle.trans (List.Perm.cons _ ?_)
  rw [List.take_append_drop]

theorem nodup_keys_insertAt (index : Nat) (key : String) (value : α) (distinct : d.keys.Nodup) :
    (d.insertAt index key value).keys.Nodup := by
  have moved := (d.insertAt_perm index key value).map Prod.fst
  exact moved.nodup_iff.mpr (List.nodup_cons.mpr ⟨not_mem_keys_erase, nodup_keys_erase key distinct⟩)

/-- Without the key that was put in, a dictionary is as it was without it before. -/
theorem erase_insertAt (d : Dictionary α) (index : Nat) (key : String) (value : α) :
    (d.insertAt index key value).erase key = d.erase key := by
  have rest : ∀ others : List (String × α),
      (others.take index ++ (key, value) :: others.drop index).filter (·.1 != key) =
        others.filter (·.1 != key) := by
    intro others
    rw [List.filter_append, List.filter_cons_of_neg (by simp), ← List.filter_append, List.take_append_drop]
  unfold insertAt
  rw [erase, rest]
  exact congrArg Dictionary.mk (by rw [erase, List.filter_filter]; simp)

theorem get?_insertAt_self (d : Dictionary α) (index : Nat) (key : String) (value : α) :
    (d.insertAt index key value).get? key = some value := by
  have missing : ((d.erase key).entries.take index).lookup key = none := by
    rw [List.lookup_eq_none_iff]
    intro pair member
    simpa using (mem_erase.mp (List.mem_of_mem_take member)).2.symm
  simp [get?, insertAt, List.lookup_append, missing]

theorem get?_insertAt_of_ne (d : Dictionary α) (index : Nat) (value : α) {key other : String}
    (apart : other ≠ key) : (d.insertAt index key value).get? other = d.get? other := by
  rw [← get?_erase_of_ne (d.insertAt index key value) apart, erase_insertAt, get?_erase_of_ne d apart]

section Renamed

variable {old new other : String}

private theorem lookup_renamed (entries : List (String × α))
    (alone : ∀ pair ∈ entries, pair.1 = new → pair.1 = old) :
    (entries.map fun pair => if pair.1 == old then (new, pair.2) else pair).lookup new = entries.lookup old := by
  induction entries with
  | nil => rfl
  | cons pair rest ih =>
      obtain ⟨name, held⟩ := pair
      obtain ⟨first, later⟩ := List.forall_mem_cons.mp alone
      by_cases same : name = old
      · simp [same]
      · have apart : (new == name) = false := by simpa using fun equal => same (first equal.symm)
        have different : (old == name) = false := by simpa using fun equal => same equal.symm
        simpa only [List.map_cons, beq_iff_eq, same, ↓reduceIte, List.lookup_cons, apart, different] using
          ih later

private theorem lookup_unrenamed (entries : List (String × α)) (apartOld : other ≠ old)
    (apartNew : other ≠ new) :
    (entries.map fun pair => if pair.1 == old then (new, pair.2) else pair).lookup other =
      entries.lookup other := by
  induction entries with
  | nil => rfl
  | cons pair rest ih =>
      obtain ⟨name, held⟩ := pair
      by_cases same : name = old
      · have different : (other == old) = false := by simpa using apartOld
        have renamed : (other == new) = false := by simpa using apartNew
        simpa only [List.map_cons, beq_iff_eq, same, ↓reduceIte, List.lookup_cons, different, renamed] using ih
      · simp only [List.map_cons, beq_iff_eq, same, ↓reduceIte, List.lookup_cons] at ih ⊢
        rw [ih]

theorem rename_of_absent (absent : d.contains old = false) : d.rename old new = d := by
  simp [rename, rename?, absent]

/-- The new key reads what the old one read. -/
theorem get?_rename_of_contains (present : d.contains old = true) :
    (d.rename old new).get? new = d.get? old := by
  simp only [rename, rename?, present, ↓reduceIte, Option.getD_some, get?]
  split
  next same => exact lookup_renamed d.entries fun pair _ equal => equal.trans same.symm
  next apart =>
    rw [lookup_renamed _ fun pair member equal => absurd equal (mem_erase.mp member).2]
    exact get?_erase_of_ne d apart

/-- No other key reads anything else. -/
theorem get?_rename_of_ne (apartOld : other ≠ old) (apartNew : other ≠ new) :
    (d.rename old new).get? other = d.get? other := by
  by_cases present : d.contains old = true
  · simp only [rename, rename?, present, ↓reduceIte, Option.getD_some, get?]
    rw [lookup_unrenamed _ apartOld apartNew]
    split
    · rfl
    · exact get?_erase_of_ne d apartNew
  · rw [rename_of_absent (by simpa using present)]

end Renamed

end TableScript.Dictionary
