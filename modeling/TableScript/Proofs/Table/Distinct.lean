import Mathlib.Data.List.Induction
import Mathlib.Data.List.Sort
import TableScript.Proofs.Table.Basic

set_option autoImplicit false

namespace TableScript

namespace Table

section Lists

variable {α : Type} (same : α → α → Bool)

/-- The last item is kept if no kept item is the same. -/
theorem distinctBy_concat (items : List α) (last : α) :
    distinctBy same (items ++ [last]) =
      if (distinctBy same items).any (same · last) then distinctBy same items
      else distinctBy same items ++ [last] := by
  unfold distinctBy
  rw [List.foldl_append, List.foldl_cons, List.foldl_nil, keepIfNew, List.any_reverse]
  split
  · rfl
  · rw [List.reverse_cons]

theorem distinctBy_sublist (items : List α) : (distinctBy same items).Sublist items := by
  induction items using List.reverseRecOn with
  | nil => exact List.Sublist.refl _
  | append_singleton items last ih =>
    rw [distinctBy_concat]
    split
    · exact ih.trans (List.sublist_append_left items [last])
    · exact ih.append_right [last]

theorem distinctBy_pairwise (items : List α) :
    (distinctBy same items).Pairwise fun earlier later => same earlier later = false := by
  induction items using List.reverseRecOn with
  | nil => exact List.Pairwise.nil
  | append_singleton items last ih =>
    rw [distinctBy_concat]
    split
    · exact ih
    · rename_i new
      refine List.pairwise_append.mpr ⟨ih, List.pairwise_singleton _ _, fun kept member item only => ?_⟩
      rw [List.mem_singleton.mp only, ← Bool.not_eq_true]
      exact fun equal => new (List.any_eq_true.mpr ⟨kept, member, equal⟩)

theorem distinctBy_eq_self {items : List α}
    (apart : items.Pairwise fun earlier later => same earlier later = false) : distinctBy same items = items := by
  induction items using List.reverseRecOn with
  | nil => rfl
  | append_singleton items last ih =>
    obtain ⟨before, -, new⟩ := List.pairwise_append.mp apart
    rw [distinctBy_concat, ih before, if_neg]
    rw [Bool.not_eq_true, List.any_eq_false]
    exact fun kept member => Bool.not_eq_true _ ▸ new kept member last (List.mem_singleton_self last)

/-- The places of the kept items: they are read there in order, and a place is left out if and only if the item at
an earlier kept place is the same. -/
structure Sifted (items kept : List α) (places : List Nat) : Prop where
  ordered : places.Pairwise (· < ·)
  reads : places.map (items[·]?) = kept.map some
  left_out_iff : ∀ place item, items[place]? = some item →
    (place ∉ places ↔ ∃ earlier ∈ places, earlier < place ∧
      ∃ other, items[earlier]? = some other ∧ same other item = true)

namespace Sifted

variable {same} {items kept : List α} {places : List Nat}

theorem mem_kept_iff (sifted : Sifted same items kept places) (item : α) :
    item ∈ kept ↔ ∃ place ∈ places, items[place]? = some item := by
  have listed : some item ∈ kept.map some ↔ item ∈ kept := by simp
  rw [← listed, ← sifted.reads, List.mem_map]

theorem inside (sifted : Sifted same items kept places) : ∀ place ∈ places, place < items.length := by
  intro place member
  have read : items[place]? ∈ kept.map some := sifted.reads ▸ List.mem_map_of_mem member
  obtain ⟨item, -, here⟩ := List.mem_map.mp read
  exact (List.getElem?_eq_some_iff.mp here.symm).1

/-- An item more behind the others changes nothing at their places. -/
theorem left_out_concat (sifted : Sifted same items kept places) (last : α) {more : List Nat}
    (agrees : ∀ place < items.length, place ∈ more ↔ place ∈ places) {place : Nat} {item : α}
    (earlier : place < items.length) (here : (items ++ [last])[place]? = some item) :
    place ∉ more ↔ ∃ earlier ∈ more, earlier < place ∧
      ∃ other, (items ++ [last])[earlier]? = some other ∧ same other item = true := by
  rw [List.getElem?_append_left earlier] at here
  rw [agrees place earlier, sifted.left_out_iff place item here]
  constructor
  · rintro ⟨first, member, before, other, read, equal⟩
    have inside := Nat.lt_trans before earlier
    exact ⟨first, (agrees first inside).mpr member, before, other,
      (List.getElem?_append_left inside).trans read, equal⟩
  · rintro ⟨first, member, before, other, read, equal⟩
    have inside := Nat.lt_trans before earlier
    rw [List.getElem?_append_left inside] at read
    exact ⟨first, (agrees first inside).mp member, before, other, read, equal⟩

theorem map_getElem?_concat (sifted : Sifted same items kept places) (last : α) :
    places.map ((items ++ [last])[·]?) = kept.map some := by
  rw [← sifted.reads]
  exact List.map_congr_left fun place member => List.getElem?_append_left (sifted.inside place member)

theorem leave {last : α} (sifted : Sifted same items kept places) (seen : ∃ item ∈ kept, same item last = true) :
    Sifted same (items ++ [last]) kept places where
  ordered := sifted.ordered
  reads := sifted.map_getElem?_concat last
  left_out_iff := by
    intro place item here
    by_cases earlier : place < items.length
    · exact sifted.left_out_concat last (fun _ _ => Iff.rfl) earlier here
    have final : place = items.length := by
      have bound := (List.getElem?_eq_some_iff.mp here).1
      rw [List.length_append, List.length_singleton] at bound
      omega
    subst final
    obtain rfl : last = item := by simpa using here
    obtain ⟨other, member, equal⟩ := seen
    obtain ⟨first, among, read⟩ := (sifted.mem_kept_iff other).mp member
    have inside := sifted.inside first among
    refine ⟨fun _ => ⟨first, among, inside, other, (List.getElem?_append_left inside).trans read, equal⟩, fun _ => ?_⟩
    exact fun present => Nat.lt_irrefl _ (sifted.inside _ present)

theorem keep {last : α} (sifted : Sifted same items kept places) (new : ∀ item ∈ kept, same item last = false) :
    Sifted same (items ++ [last]) (kept ++ [last]) (places ++ [items.length]) where
  ordered := by
    refine List.pairwise_append.mpr ⟨sifted.ordered, List.pairwise_singleton _ _, fun place member final only => ?_⟩
    rw [List.mem_singleton.mp only]
    exact sifted.inside place member
  reads := by
    rw [List.map_append, List.map_append, sifted.map_getElem?_concat]
    simp
  left_out_iff := by
    intro place item here
    by_cases earlier : place < items.length
    · refine sifted.left_out_concat last (fun other inside => ?_) earlier here
      simp [Nat.ne_of_lt inside]
    have final : place = items.length := by
      have bound := (List.getElem?_eq_some_iff.mp here).1
      rw [List.length_append, List.length_singleton] at bound
      omega
    subst final
    obtain rfl : last = item := by simpa using here
    refine ⟨fun absent => absurd (List.mem_append_right _ List.mem_cons_self) absent, ?_⟩
    rintro ⟨first, member, before, other, read, equal⟩ -
    have among : first ∈ places := by simpa [Nat.ne_of_lt before] using member
    rw [List.getElem?_append_left before] at read
    rw [new other ((sifted.mem_kept_iff other).mpr ⟨first, among, read⟩)] at equal
    exact absurd equal Bool.false_ne_true

/-- The kept items are determined. -/
theorem unique (sifted : Sifted same items kept places) {others : List α} {otherPlaces : List Nat}
    (also : Sifted same items others otherPlaces) : others = kept := by
  have agrees (place : Nat) : place ∈ otherPlaces ↔ place ∈ places := by
    induction place using Nat.strongRecOn with
    | ind place ih =>
      cases here : items[place]? with
      | none =>
        have outside := List.getElem?_eq_none_iff.mp here
        exact ⟨fun member => absurd (also.inside place member) (Nat.not_lt.mpr outside),
          fun member => absurd (sifted.inside place member) (Nat.not_lt.mpr outside)⟩
      | some item =>
        rw [← not_iff_not, also.left_out_iff place item here, sifted.left_out_iff place item here]
        refine exists_congr fun earlier => ?_
        constructor
        · rintro ⟨member, before, rest⟩
          exact ⟨(ih earlier before).mp member, before, rest⟩
        · rintro ⟨member, before, rest⟩
          exact ⟨(ih earlier before).mpr member, before, rest⟩
  have samePlaces : otherPlaces = places := also.ordered.eq_of_mem_iff sifted.ordered agrees
  subst samePlaces
  exact List.map_injective_iff.mpr (Option.some_injective α) (also.reads.symm.trans sifted.reads)

end Sifted

theorem exists_sifted (items : List α) : ∃ places, Sifted same items (distinctBy same items) places := by
  induction items using List.reverseRecOn with
  | nil => exact ⟨[], .nil, rfl, fun place item here => nomatch here⟩
  | append_singleton items last ih =>
    obtain ⟨places, sifted⟩ := ih
    rw [distinctBy_concat]
    split
    · rename_i seen
      exact ⟨places, sifted.leave (List.any_eq_true.mp seen)⟩
    · rename_i new
      refine ⟨_, sifted.keep fun item member => ?_⟩
      rw [← Bool.not_eq_true]
      exact fun equal => new (List.any_eq_true.mpr ⟨item, member, equal⟩)

/-- The items that are the same as none of those kept before them. -/
structure FirstOnes (items kept : List α) : Prop where
  sublist : kept.Sublist items
  apart : kept.Pairwise fun earlier later => same earlier later = false
  sifted : ∃ places, Sifted same items kept places
  only : ∀ others places, Sifted same items others places → others = kept

theorem distinctBy_firstOnes (items : List α) : FirstOnes same items (distinctBy same items) where
  sublist := distinctBy_sublist same items
  apart := distinctBy_pairwise same items
  sifted := exists_sifted same items
  only _ _ also := (exists_sifted same items).elim fun _ sifted => sifted.unique also

end Lists

variable (table : Table Value)

theorem uniqueRows_uniqueRows : table.uniqueRows.uniqueRows = table.uniqueRows :=
  congrArg table.withRows (distinctBy_eq_self Row.same (distinctBy_pairwise Row.same table.rows))

theorem uniqueValues_of_mem {table : Table Value} {name : String} (declared : name ∈ table.columns) :
    table.uniqueValues name =
      .ok (distinctBy Operation.equal (table.rows.map fun row => Row.cell row name)) := by
  rw [uniqueValues, column_of_mem declared]
  rfl

theorem uniqueValues_of_not_mem {table : Table Value} {name : String} (unknown : name ∉ table.columns) :
    table.uniqueValues name = .error (.unknownColumn name) := by
  rw [uniqueValues, column, if_neg (mt (hasColumn_iff name).mp unknown)]
  rfl

/-- The different values of a column are, in order, those to which no kept one before them is equal for the
operator, and the different rows of a table are those to which no kept one before them is equal in structure. The
table stays as it is otherwise, and has no more equal rows to lose. -/
theorem unique_keeps_first :
    (∀ name, (name ∉ table.columns → table.uniqueValues name = .error (.unknownColumn name)) ∧
      (name ∈ table.columns → ∃ cells kept, table.column name = .ok cells ∧
        table.uniqueValues name = .ok kept ∧ FirstOnes Operation.equal cells kept)) ∧
    FirstOnes Row.same table.rows table.uniqueRows.rows ∧
    (table.uniqueRows.columns = table.columns ∧ table.uniqueRows.schema = table.schema ∧
      table.uniqueRows.fromDatabase = table.fromDatabase) ∧
    table.uniqueRows.uniqueRows = table.uniqueRows := by
  refine ⟨fun name => ⟨uniqueValues_of_not_mem, fun declared => ?_⟩, distinctBy_firstOnes Row.same table.rows,
    ⟨rfl, rfl, rfl⟩, table.uniqueRows_uniqueRows⟩
  exact ⟨_, _, column_of_mem declared, uniqueValues_of_mem declared, distinctBy_firstOnes Operation.equal _⟩

/-- What is not a number is kept twice. A float is left out as equal to an integer that rounds to it; the integer
that it is stays, for it is equal only to the one left out. As rows all five differ. -/
theorem unique_keeps_first_where_rounded :
    let cells : List Value := [.float ⟨0x7FF8000000000000⟩, .float ⟨0x7FF8000000000000⟩, .int 9007199254740993,
      .float ⟨0x4340000000000000⟩, .int 9007199254740992]
    let table : Table Value := .plain ["v"] (cells.map fun cell => ⟨[("v", cell)]⟩)
    "v" ∈ table.columns ∧ table.column "v" = .ok cells ∧
      (∃ kept, table.uniqueValues "v" = .ok kept ∧ FirstOnes Operation.equal cells kept ∧
        kept.map Value.kind = ["float", "float", "integer", "integer"]) ∧
      FirstOnes Row.same table.rows table.uniqueRows.rows ∧ table.uniqueRows.size = 5 := by
  intro cells table
  have declared : "v" ∈ table.columns := List.mem_singleton_self "v"
  obtain ⟨values, rows, -, -⟩ := unique_keeps_first table
  obtain ⟨read, kept, found, unique, first⟩ := (values "v").2 declared
  have same : cells = read := Except.ok.inj found
  subst same
  have listed := Except.ok.inj ((uniqueValues_of_mem declared).symm.trans unique)
  refine ⟨declared, found, ⟨kept, unique, first, ?_⟩, rows, by decide +kernel⟩
  rw [← listed]
  decide +kernel

end Table

end TableScript
