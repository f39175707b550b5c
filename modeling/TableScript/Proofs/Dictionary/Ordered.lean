import Mathlib.Data.List.Basic
import TableScript.Dictionary.Ordered
import TableScript.Proofs.Dictionary.Refinement

set_option autoImplicit false

namespace TableScript

namespace OrderedMap

variable {α : Type} {map : OrderedMap α} {d : Dictionary α} {key : String}

/-- The order has the key of every entry once, and nothing else. -/
structure InStep (map : OrderedMap α) : Prop where
  distinct : map.order.Nodup
  listed : ∀ key, key ∈ map.order ↔ key ∈ map.entries

/-- The order is that of the dictionary, and so is what is found under every key. -/
structure Represents (map : OrderedMap α) (d : Dictionary α) : Prop where
  order : map.order = d.keys
  entries : ∀ key, map.get? key = d.get? key

theorem contains_eq (map : OrderedMap α) (key : String) : map.contains key = (map.get? key).isSome :=
  Std.HashMap.contains_eq_isSome_getElem?

theorem Represents.contains_iff (shown : map.Represents d) (key : String) :
    map.contains key = true ↔ key ∈ d.keys := by
  rw [contains_eq, shown.entries, Dictionary.isSome_get?]

theorem Represents.inStep (shown : map.Represents d) (distinct : d.keys.Nodup) : map.InStep where
  distinct := shown.order ▸ distinct
  listed key := by rw [shown.order, ← shown.contains_iff key, contains, Std.HashMap.contains_iff_mem]

namespace InStep

theorem contains_iff (inStep : map.InStep) (key : String) : map.contains key = true ↔ key ∈ map.order := by
  rw [inStep.listed, contains, Std.HashMap.contains_iff_mem]

/-- Where the two are in step, no key of the order is passed over. -/
theorem keys_toDictionary (inStep : map.InStep) : map.toDictionary.keys = map.order := by
  have present : ∀ key ∈ map.order, ((map.get? key).map (key, ·)).map Prod.fst = some key := by
    intro key member
    rw [← inStep.contains_iff, contains_eq] at member
    obtain ⟨value, found⟩ := Option.isSome_iff_exists.mp member
    rw [found]
    rfl
  have listed : map.toDictionary.keys = map.order.filterMap some := by
    rw [toDictionary, Dictionary.keys, toList, List.map_filterMap]
    exact List.filterMap_congr present
  rw [listed, List.filterMap_some]

theorem nodup_keys (inStep : map.InStep) : map.toDictionary.keys.Nodup :=
  inStep.keys_toDictionary ▸ inStep.distinct

theorem get?_toDictionary (inStep : map.InStep) (key : String) : map.toDictionary.get? key = map.get? key := by
  refine Option.ext fun value => ?_
  rw [Dictionary.get?_eq_some_iff inStep.nodup_keys]
  change (key, value) ∈ map.toList ↔ _
  rw [toList, List.mem_filterMap]
  constructor
  · rintro ⟨other, -, found⟩
    obtain ⟨held, here, same⟩ := Option.map_eq_some_iff.mp found
    cases same
    exact here
  · intro found
    have present : map.contains key = true := by rw [contains_eq, found]; rfl
    exact ⟨key, (inStep.contains_iff key).mp present, by rw [found]; rfl⟩

theorem represents (inStep : map.InStep) : map.Represents map.toDictionary where
  order := inStep.keys_toDictionary.symm
  entries key := (inStep.get?_toDictionary key).symm

end InStep

/-- Only one dictionary is represented. -/
theorem Represents.toDictionary_eq (shown : map.Represents d) (distinct : d.keys.Nodup) :
    map.toDictionary = d := by
  have inStep := shown.inStep distinct
  refine Dictionary.ext_get? distinct (inStep.keys_toDictionary.trans shown.order) fun key => ?_
  rw [inStep.get?_toDictionary, shown.entries]

theorem get?_put {entries : Std.HashMap String α} {order : List String} {value : α} {other : String} :
    get? ⟨entries.insert key value, order⟩ other = if other = key then some value else entries[other]? := by
  rw [get?, Std.HashMap.getElem?_insert]
  by_cases same : other = key
  · rw [if_pos same, if_pos (by simpa using same.symm)]
  · rw [if_neg same, if_neg (by simpa using Ne.symm same)]

theorem getElem?_erase {entries : Std.HashMap String α} {other : String} :
    (entries.erase key)[other]? = if other = key then none else entries[other]? := by
  rw [Std.HashMap.getElem?_erase]
  by_cases same : other = key
  · rw [if_pos same, if_pos (by simpa using same.symm)]
  · rw [if_neg same, if_neg (by simpa using Ne.symm same)]

namespace Represents

theorem empty : (empty : OrderedMap α).Represents .empty where
  order := rfl
  entries _ := Std.HashMap.getElem?_empty

theorem insert (shown : map.Represents d) (key : String) (value : α) :
    (map.insert key value).Represents (d.insert key value) where
  order := by
    rw [OrderedMap.insert]
    by_cases present : key ∈ d.keys
    · rw [if_pos ((shown.contains_iff key).mpr present), shown.order,
        Dictionary.keys_insert_of_contains value ((d.contains_iff key).mpr present)]
    · rw [if_neg (mt (shown.contains_iff key).mp present), shown.order,
        Dictionary.keys_insert_of_absent value present]
  entries other := by
    rw [OrderedMap.insert, get?_put]
    split
    next same => rw [same, Dictionary.get?_insert_self]
    next apart => exact (shown.entries other).trans (d.get?_insert_of_ne value apart).symm

theorem insertAt (shown : map.Represents d) (index : Nat) (key : String) (value : α) :
    (map.insertAt index key value).Represents (d.insertAt index key value) where
  order := by
    have others : (if map.contains key then map.order.filter (· != key) else map.order) =
        (d.erase key).keys := by
      split
      next => rw [Dictionary.keys_erase, shown.order]
      next absent => rw [Dictionary.erase_of_absent (mt (shown.contains_iff key).mpr absent), shown.order]
    rw [OrderedMap.insertAt, Dictionary.keys_insertAt]
    simp only [others]
  entries other := by
    rw [OrderedMap.insertAt, get?_put]
    split
    next same => rw [same, Dictionary.get?_insertAt_self]
    next apart => exact (shown.entries other).trans (d.get?_insertAt_of_ne index value apart).symm

theorem remove (shown : map.Represents d) (key : String) :
    (map.remove key).1 = d.get? key ∧ (map.remove key).2.Represents (d.erase key) := by
  rw [OrderedMap.remove, shown.entries]
  cases found : d.get? key with
  | none =>
    rw [Dictionary.erase_of_absent (Dictionary.get?_eq_none_iff.mp found)]
    exact ⟨rfl, shown⟩
  | some value =>
    refine ⟨rfl, ?_, fun other => ?_⟩
    · rw [Dictionary.keys_erase, shown.order]
    · rw [get?, getElem?_erase]
      split
      next same => rw [same, Dictionary.get?_erase_self]
      next apart => exact (shown.entries other).trans (d.get?_erase_of_ne apart).symm

/-- What a renaming to another key works on: the map without the entries of both keys, and the order without the
new one. -/
theorem renamed (shown : map.Represents d) {old new : String} {value : α} (found : map.get? old = some value)
    {entries : Std.HashMap String α} {order : List String}
    (others : ∀ other, other ≠ old → other ≠ new → entries[other]? = map.get? other)
    (dropped : old ≠ new → entries[old]? = none) (kept : order = (d.roomFor old new).keys) :
    OrderedMap.Represents
      ⟨entries.insert new value, order.map fun key => if key == old then new else key⟩ (d.rename old new) := by
  have present : old ∈ d.keys := by rw [← Dictionary.isSome_get?, ← shown.entries, found]; rfl
  refine ⟨?_, fun other => ?_⟩
  · rw [Dictionary.keys_rename present, kept]
  · rw [get?_put]
    split
    next same =>
      rw [same, Dictionary.get?_rename_of_contains ((d.contains_iff old).mpr present), ← shown.entries, found]
    next apartNew =>
      by_cases same : other = old
      · subst same
        rw [dropped apartNew, Dictionary.get?_eq_none_iff.mpr (Dictionary.not_mem_keys_rename apartNew)]
      · rw [others other same apartNew, shown.entries, Dictionary.get?_rename_of_ne same apartNew]

theorem rename (shown : map.Represents d) (old new : String) :
    (map.rename old new).1 = d.contains old ∧ (map.rename old new).2.Represents (d.rename old new) := by
  have holds : d.contains old = (map.get? old).isSome := by
    rw [Bool.eq_iff_iff, ← contains_eq, shown.contains_iff, d.contains_iff]
  rw [OrderedMap.rename]
  cases found : map.get? old with
  | none =>
    rw [found] at holds
    rw [Dictionary.rename_of_absent holds]
    exact ⟨holds.symm, shown⟩
  | some value =>
    rw [found] at holds
    refine ⟨holds.symm, ?_⟩
    have taken : (map.entries.erase old).contains new = true ↔ old ≠ new ∧ new ∈ d.keys := by
      rw [← shown.contains_iff, contains, Std.HashMap.contains_iff_mem, Std.HashMap.contains_iff_mem,
        Std.HashMap.mem_erase, beq_eq_false_iff_ne]
    refine shown.renamed found (fun other apartOld apartNew => ?_) (fun apart => ?_) ?_
    · split
      next => rw [getElem?_erase, if_neg apartOld, get?]
      next => rw [getElem?_erase, if_neg apartNew, getElem?_erase, if_neg apartOld, get?]
    · rw [if_neg apart, getElem?_erase, if_neg apart, getElem?_erase, if_pos rfl]
    · rw [Dictionary.roomFor, shown.order]
      by_cases same : old = new
      · rw [if_pos same, if_neg fun both => both.1 same]
      · rw [if_neg same]
        split
        next => rw [Dictionary.keys_erase]
        next untaken =>
          rw [Dictionary.erase_of_absent fun member => untaken ⟨same, taken.mpr ⟨same, member⟩⟩]

theorem insertAll (shown : map.Represents d) (pairs : List (String × α)) :
    (pairs.foldl (fun map pair => map.insert pair.1 pair.2) map).Represents
      (pairs.foldl (fun d pair => d.insert pair.1 pair.2) d) := by
  induction pairs generalizing map d with
  | nil => exact shown
  | cons pair rest ih => exact ih (shown.insert pair.1 pair.2)

theorem ofList (pairs : List (String × α)) : (ofList pairs).Represents (.ofList pairs) := empty.insertAll pairs

theorem merged {right : OrderedMap α} {other : Dictionary α} (shown : map.Represents d)
    (also : right.Represents other) (distinct : other.keys.Nodup) :
    (map.merged right).Represents (d.merge other) := by
  have listed : right.toList = other.entries := congrArg Dictionary.entries (also.toDictionary_eq distinct)
  rw [OrderedMap.merged, listed]
  exact shown.insertAll other.entries

section Pairs

variable (shown : map.Represents d) (distinct : d.keys.Nodup) {old : String} (new : String)

include shown

theorem position?_eq (key : String) : map.position? key = d.position? key := by
  rw [OrderedMap.position?, shown.order, Dictionary.position?_eq]
  rfl

include distinct

theorem toList_eq : map.toList = d.toList := congrArg Dictionary.toList (shown.toDictionary_eq distinct)

theorem toList_remove (key : String) : (map.remove key).2.toList = Pairs.remove d.toList key := by
  rw [← Dictionary.erase_toList key distinct]
  exact (shown.remove key).2.toList_eq (Dictionary.nodup_keys_erase key distinct)

theorem rename_of_absent (absent : old ∉ map.order) :
    Pairs.rename? d.toList old new = none ∧ map.rename old new = (false, map) := by
  rw [shown.order] at absent
  rw [← Dictionary.rename?_toList old new distinct, Dictionary.rename?_eq_none_iff.mpr absent,
    OrderedMap.rename, shown.entries, Dictionary.get?_eq_none_iff.mpr absent]
  exact ⟨rfl, rfl⟩

theorem rename_of_present (present : old ∈ map.order) :
    ∃ renamed, map.rename old new = (true, renamed) ∧ Pairs.rename? d.toList old new = some renamed.toList := by
  rw [shown.order, ← Dictionary.contains_iff] at present
  obtain ⟨found, after⟩ := shown.rename old new
  refine ⟨(map.rename old new).2, Prod.ext (found.trans present) rfl, ?_⟩
  have renamed : d.rename? old new = some (d.rename old new) := by
    simp [Dictionary.rename, Dictionary.rename?, present]
  rw [← Dictionary.rename?_toList old new distinct, renamed,
    after.toList_eq (Dictionary.nodup_keys_rename old new distinct)]
  rfl

end Pairs

end Represents

theorem empty_inStep : (empty : OrderedMap α).InStep := Represents.empty.inStep List.nodup_nil

theorem ofList_inStep (pairs : List (String × α)) : (ofList pairs).InStep :=
  (Represents.ofList pairs).inStep (Dictionary.nodup_keys_ofList pairs)

namespace InStep

variable (inStep : map.InStep)

include inStep

theorem insert (key : String) (value : α) : (map.insert key value).InStep :=
  (inStep.represents.insert key value).inStep (Dictionary.nodup_keys_insert key value inStep.nodup_keys)

theorem insertAt (index : Nat) (key : String) (value : α) : (map.insertAt index key value).InStep :=
  (inStep.represents.insertAt index key value).inStep
    (Dictionary.nodup_keys_insertAt index key value inStep.nodup_keys)

theorem remove (key : String) : (map.remove key).2.InStep :=
  (inStep.represents.remove key).2.inStep (Dictionary.nodup_keys_erase key inStep.nodup_keys)

theorem rename (old new : String) : (map.rename old new).2.InStep :=
  (inStep.represents.rename old new).2.inStep (Dictionary.nodup_keys_rename old new inStep.nodup_keys)

theorem merged {right : OrderedMap α} (also : right.InStep) : (map.merged right).InStep :=
  (inStep.represents.merged also.represents also.nodup_keys).inStep
    (Dictionary.nodup_keys_merge right.toDictionary inStep.nodup_keys)

end InStep

end OrderedMap

namespace Construction

variable {α : Type}

/-- The map that the operations make. -/
def store : Construction α → OrderedMap α
  | .empty => .empty
  | .ofList pairs => .ofList pairs
  | .insert start key value => start.store.insert key value
  | .insertAt start index key value => start.store.insertAt index key value
  | .erase start key => (start.store.remove key).2
  | .rename start old new => (start.store.rename old new).2
  | .merge left right => left.store.merged right.store

theorem store_inStep (made : Construction α) : made.store.InStep := by
  induction made with
  | empty => exact OrderedMap.empty_inStep
  | ofList pairs => exact OrderedMap.ofList_inStep pairs
  | insert start key value ih => exact ih.insert key value
  | insertAt start index key value ih => exact ih.insertAt index key value
  | erase start key ih => exact ih.remove key
  | rename start old new ih => exact ih.rename old new
  | merge left right ihLeft ihRight => exact ihLeft.merged ihRight

theorem store_represents (made : Construction α) : made.store.Represents made.build := by
  induction made with
  | empty => exact .empty
  | ofList pairs => exact .ofList pairs
  | insert start key value ih => exact ih.insert key value
  | insertAt start index key value ih => exact ih.insertAt index key value
  | erase start key ih => exact (ih.remove key).2
  | rename start old new ih => exact (ih.rename old new).2
  | merge left right ihLeft ihRight => exact ihLeft.merged ihRight right.build_distinct

/-- After any operations the order has the key of every entry once and nothing else, and the entries in this
order are the pairs that the same operations leave on a list. Taking a key out gives the entry that it had,
renaming says whether there was one and changes nothing otherwise, and what the map answers about a key, its place
and its size is what the list says. -/
theorem dictionary_refines_pairs (made : Construction α) :
    (made.store.order.Nodup ∧ ∀ key, key ∈ made.store.order ↔ key ∈ made.store.entries) ∧
    made.store.toList = made.pairs ∧
    made.store.toDictionary = made.build ∧
    (∀ key,
      (made.store.remove key).1 = made.pairs.lookup key ∧
      (made.store.remove key).2.toList = made.pairs.remove key) ∧
    (∀ old new,
      (old ∉ made.store.order →
        made.pairs.rename? old new = none ∧ made.store.rename old new = (false, made.store)) ∧
      (old ∈ made.store.order → ∃ renamed, made.store.rename old new = (true, renamed) ∧
        made.pairs.rename? old new = some renamed.toList)) ∧
    (∀ key value, made.store.get? key = some value ↔ (key, value) ∈ made.pairs) ∧
    (∀ key, made.store.contains key = true ↔ ∃ value, (key, value) ∈ made.pairs) ∧
    (∀ key place, made.store.position? key = some place ↔
      ∃ value, made.pairs[place]? = some (key, value)) ∧
    made.store.size = made.pairs.length := by
  have inStep := made.store_inStep
  have shown := made.store_represents
  have distinct := made.build_distinct
  rw [← made.build_toList]
  refine ⟨⟨inStep.distinct, inStep.listed⟩, shown.toList_eq distinct, shown.toDictionary_eq distinct,
    fun key => ⟨(shown.remove key).1, shown.toList_remove distinct key⟩,
    fun old new => ⟨shown.rename_of_absent distinct new, shown.rename_of_present distinct new⟩,
    fun key value => ?_, fun key => ?_, fun key place => ?_, ?_⟩
  · rw [shown.entries, Dictionary.get?_eq_some_iff distinct]
  · rw [shown.contains_iff, ← Dictionary.contains_iff, Dictionary.contains_iff_mem]
  · rw [shown.position?_eq, Dictionary.position?_eq_some_iff distinct]
  · rw [OrderedMap.size, shown.order, Dictionary.keys, List.length_map]
    rfl

end Construction

end TableScript
