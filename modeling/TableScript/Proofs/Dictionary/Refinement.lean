import TableScript.Proofs.Dictionary.Distinct

set_option autoImplicit false

namespace TableScript

/-- Pairs of a key and a value in an order. -/
abbrev Pairs (α : Type) := List (String × α)

namespace Pairs

variable {α : Type}

/-- The place of the first pair with the key. -/
def place? (pairs : Pairs α) (key : String) : Option Nat := pairs.findIdx? fun pair => pair.1 = key

/-- A pair takes the place of the one with its key; without one it comes last. -/
def insert (pairs : Pairs α) (key : String) (value : α) : Pairs α :=
  match pairs.place? key with
  | some place => pairs.set place (key, value)
  | none => pairs ++ [(key, value)]

/-- Takes out the pair with the key. -/
def remove (pairs : Pairs α) (key : String) : Pairs α :=
  match pairs.place? key with
  | some place => pairs.eraseIdx place
  | none => pairs

/-- Takes out the pair with the key, and puts the new one at the index or, if fewer remain, last. -/
def insertAt (pairs : Pairs α) (index : Nat) (key : String) (value : α) : Pairs α :=
  let others := pairs.remove key
  others.insertIdx (min index others.length) (key, value)

/-- Takes out another pair with the key `new`, and changes the key of the pair with `old` where it stands. -/
def rename? (pairs : Pairs α) (old new : String) : Option (Pairs α) :=
  let others := if old = new then pairs else pairs.remove new
  (others.place? old).map fun place => others.modify place fun pair => (new, pair.2)

/-- The left pairs in their places, with the values that the right ones give their keys, and then the right
pairs with keys of their own. -/
def merge (left right : Pairs α) : Pairs α :=
  left.map (fun pair => (pair.1, (right.lookup pair.1).getD pair.2)) ++
    right.filter fun pair => pair.1 ∉ left.map Prod.fst

theorem place?_eq_none_iff {pairs : Pairs α} {key : String} :
    pairs.place? key = none ↔ key ∉ pairs.map Prod.fst := by
  simp only [place?, List.findIdx?_eq_none_iff, List.mem_map, not_exists, not_and,
    decide_eq_false_iff_not]

/-- Behind pairs of other keys, a key has the next place. -/
theorem place?_split {front : Pairs α} {key : String} (value : α) (back : Pairs α)
    (others : ∀ pair ∈ front, pair.1 ≠ key) :
    place? (front ++ (key, value) :: back) key = some front.length := by
  have before : front.findIdx? (fun pair => pair.1 = key) = none := by
    rw [List.findIdx?_eq_none_iff]
    intro pair member
    simpa using others pair member
  rw [place?, List.findIdx?_append, before]
  simp [List.findIdx?_cons]

end Pairs

namespace Dictionary

variable {α : Type} {d : Dictionary α} {key : String} {value : α}

/-- What a renaming keeps: all but another entry of `new`. -/
def roomFor (d : Dictionary α) (old new : String) : Dictionary α :=
  if old = new then d else d.erase new

theorem nodup_keys_roomFor (old new : String) (distinct : d.keys.Nodup) : (d.roomFor old new).keys.Nodup := by
  unfold roomFor
  split
  · exact distinct
  · exact nodup_keys_erase new distinct

theorem mem_keys_roomFor {old new : String} : old ∈ (d.roomFor old new).keys ↔ old ∈ d.keys := by
  unfold roomFor
  split
  · rfl
  · rename_i apart
    simp [keys_erase, apart]

theorem not_mem_keys_roomFor {old new : String} (apart : old ≠ new) : new ∉ (d.roomFor old new).keys := by
  rw [roomFor, if_neg apart]
  exact not_mem_keys_erase

/-- A renamed entry stands where it stood, and no other entry has its old or its new key. -/
theorem rename?_split (old new : String) (distinct : d.keys.Nodup) (present : old ∈ d.keys) :
    ∃ value front back, (d.roomFor old new).entries = front ++ (old, value) :: back ∧
      (∀ pair ∈ front ++ back, pair.1 ≠ old ∧ pair.1 ≠ new) ∧
      ((d.roomFor old new).erase old).entries = front ++ back ∧
      d.rename? old new = some ⟨front ++ (new, value) :: back⟩ := by
  have held : ((d.roomFor old new).get? old).isSome = true := isSome_get?.mpr (mem_keys_roomFor.mpr present)
  obtain ⟨value, found⟩ := Option.isSome_iff_exists.mp held
  obtain ⟨front, back, split, others, rest⟩ := split_of_get? (nodup_keys_roomFor old new distinct) found
  refine ⟨value, front, back, split, ?_, rest, ?_⟩
  · intro pair member
    refine ⟨others pair member, ?_⟩
    rintro rfl
    rw [← rest] at member
    exact not_mem_keys_roomFor (others pair (rest ▸ member)).symm (mem_keys (mem_erase.mp member).1)
  · have named : (if old = new then d.entries else (d.erase new).entries) = front ++ (old, value) :: back := by
      rw [← split, roomFor]
      split <;> rfl
    simp only [rename?, (contains_iff d old).mpr present, ↓reduceIte, named]
    rw [map_split (fun pair => (new, pair.2)) others]

theorem rename?_eq_none_iff {old new : String} : d.rename? old new = none ↔ old ∉ d.keys := by
  rw [← contains_iff]
  simp [rename?]

theorem keys_rename {old new : String} (present : old ∈ d.keys) :
    (d.rename old new).keys = (d.roomFor old new).keys.map fun key => if key == old then new else key := by
  have named : (if old = new then d.entries else (d.erase new).entries) = (d.roomFor old new).entries := by
    rw [roomFor]
    split <;> rfl
  simp only [rename, rename?, (contains_iff d old).mpr present, ↓reduceIte, Option.getD_some, named, keys,
    List.map_map]
  refine List.map_congr_left fun pair _ => ?_
  simp only [Function.comp_apply]
  split <;> rfl

theorem not_mem_keys_rename {old new : String} (apart : old ≠ new) : old ∉ (d.rename old new).keys := by
  by_cases present : old ∈ d.keys
  · rw [keys_rename present, List.mem_map]
    rintro ⟨key, -, same⟩
    split at same
    next => exact apart same.symm
    next other => exact other (by simpa using same)
  · rwa [rename_of_absent (not_contains present)]

theorem nodup_keys_rename (old new : String) (distinct : d.keys.Nodup) : (d.rename old new).keys.Nodup := by
  by_cases present : old ∈ d.keys
  · obtain ⟨value, front, back, -, others, rest, renamed⟩ := rename?_split old new distinct present
    have apart := nodup_keys_erase old (nodup_keys_roomFor old new distinct)
    rw [keys, rest] at apart
    simp only [rename, renamed, Option.getD_some, keys]
    refine (List.perm_middle.map Prod.fst).nodup_iff.mpr (List.nodup_cons.mpr ⟨?_, apart⟩)
    intro member
    obtain ⟨pair, among, same⟩ := List.mem_map.mp member
    exact (others pair among).2 same
  · rw [rename, rename?_eq_none_iff.mpr present]
    exact distinct

theorem insert_toList (key : String) (value : α) (distinct : d.keys.Nodup) :
    (d.insert key value).toList = Pairs.insert d.toList key value := by
  cases found : d.get? key with
  | none =>
      have absent := get?_eq_none_iff.mp found
      have unplaced : Pairs.place? d.toList key = none := Pairs.place?_eq_none_iff.mpr absent
      rw [insert_of_absent value absent, Pairs.insert, unplaced]
      rfl
  | some held =>
      obtain ⟨front, back, split, others, -⟩ := split_of_get? distinct found
      have place := Pairs.place?_split held back fun pair member =>
        others pair (List.mem_append_left back member)
      simp only [toList, insert, contains_of_get? found, ↓reduceIte, split, Pairs.insert, place]
      rw [map_split (fun _ => (key, value)) others]
      simp

theorem erase_toList (key : String) (distinct : d.keys.Nodup) :
    (d.erase key).toList = Pairs.remove d.toList key := by
  cases found : d.get? key with
  | none =>
      have absent := get?_eq_none_iff.mp found
      have unplaced : Pairs.place? d.toList key = none := Pairs.place?_eq_none_iff.mpr absent
      rw [erase_of_absent absent, Pairs.remove, unplaced]
  | some held =>
      obtain ⟨front, back, split, others, rest⟩ := split_of_get? distinct found
      have place := Pairs.place?_split held back fun pair member =>
        others pair (List.mem_append_left back member)
      simp only [toList, rest, split, Pairs.remove, place]
      simp [List.eraseIdx_append]

theorem insertIdx_min {β : Type} (items : List β) (index : Nat) (item : β) :
    items.insertIdx (min index items.length) item = items.take index ++ item :: items.drop index := by
  induction items generalizing index with
  | nil => simp
  | cons first rest ih =>
      cases index with
      | zero => simp
      | succ index =>
          have step := ih index
          simpa [Nat.succ_min_succ] using step

theorem insertAt_toList (index : Nat) (key : String) (value : α) (distinct : d.keys.Nodup) :
    (d.insertAt index key value).toList = Pairs.insertAt d.toList index key value := by
  have others := erase_toList key distinct
  simp only [Pairs.insertAt, ← others, insertIdx_min]
  rfl

theorem keys_insertAt (d : Dictionary α) (index : Nat) (key : String) (value : α) :
    (d.insertAt index key value).keys =
      (d.erase key).keys.insertIdx (min index (d.erase key).keys.length) key := by
  rw [insertIdx_min]
  simp [keys, insertAt, List.map_take, List.map_drop]

theorem keys_insertAt_of_absent {index : Nat} (inside : index ≤ d.keys.length) (value : α)
    (absent : key ∉ d.keys) : (d.insertAt index key value).keys = d.keys.insertIdx index key := by
  rw [keys_insertAt, erase_of_absent absent, Nat.min_eq_left inside]

theorem rename?_toList (old new : String) (distinct : d.keys.Nodup) :
    (d.rename? old new).map toList = Pairs.rename? d.toList old new := by
  have room : (if old = new then d.toList else Pairs.remove d.toList new) = (d.roomFor old new).entries := by
    rw [← erase_toList new distinct, roomFor]
    split <;> rfl
  simp only [Pairs.rename?, room]
  by_cases present : old ∈ d.keys
  · obtain ⟨value, front, back, split, others, -, renamed⟩ := rename?_split old new distinct present
    have place := Pairs.place?_split value back fun pair member =>
      (others pair (List.mem_append_left back member)).1
    rw [renamed, split, place]
    simp [toList, List.modify_eq_take_cons_drop]
  · have unplaced : Pairs.place? (d.roomFor old new).entries old = none :=
      Pairs.place?_eq_none_iff.mpr (mt mem_keys_roomFor.mp present)
    rw [rename?_eq_none_iff.mpr present, unplaced]
    rfl

/-- Merging starts with the first right pair, whose key the others do not have. -/
theorem merge_insert {rest : List (String × α)} (absent : key ∉ rest.map Prod.fst) :
    Pairs.merge (d.insert key value).toList rest = Pairs.merge d.toList ((key, value) :: rest) := by
  have unlisted : rest.lookup key = none := get?_eq_none_iff (d := ⟨rest⟩).mpr absent
  have passed : ∀ {other}, other ≠ key → ((key, value) :: rest).lookup other = rest.lookup other := by
    intro other apart
    have different : (other == key) = false := by simpa using apart
    rw [List.lookup_cons, different]
  by_cases present : key ∈ d.keys
  · have same : (d.insert key value).toList.map Prod.fst = d.toList.map Prod.fst :=
      keys_insert_of_contains value ((contains_iff d key).mpr present)
    have dropped : decide (key ∉ d.toList.map Prod.fst) = false :=
      decide_eq_false (not_not_intro present)
    simp only [Pairs.merge, same, List.filter_cons, dropped, Bool.false_eq_true, ↓reduceIte]
    congr 1
    simp only [toList, insert, (contains_iff d key).mpr present, ↓reduceIte, List.map_map]
    apply List.map_congr_left
    intro pair _
    by_cases here : pair.1 = key
    · simp [here, unlisted]
    · simp [here, passed here]
  · have kept : decide (key ∉ d.toList.map Prod.fst) = true := decide_eq_true present
    have longer : (d.insert key value).toList = d.toList ++ [(key, value)] := by
      rw [insert_of_absent value present]
      rfl
    have front : d.toList.map (fun pair => (pair.1, (rest.lookup pair.1).getD pair.2)) =
        d.toList.map fun pair => (pair.1, (((key, value) :: rest).lookup pair.1).getD pair.2) := by
      apply List.map_congr_left
      intro pair member
      rw [passed fun here => present (here ▸ mem_keys member)]
    have back : (rest.filter fun pair => pair.1 ∉ (d.toList ++ [(key, value)]).map Prod.fst) =
        rest.filter fun pair => pair.1 ∉ d.toList.map Prod.fst := by
      apply List.filter_congr
      intro pair member
      have other : pair.1 ≠ key := fun here => absent (here ▸ List.mem_map_of_mem member)
      simp [other]
    simp only [Pairs.merge, longer, back]
    simp only [List.map_append, List.map_cons, List.map_nil, unlisted, front, List.filter_cons, kept,
      ↓reduceIte, Option.getD_none, List.append_assoc, List.singleton_append]

theorem insertAll_toList (right : List (String × α)) (apart : (right.map Prod.fst).Nodup)
    (distinct : d.keys.Nodup) :
    (right.foldl (fun d pair => d.insert pair.1 pair.2) d).toList = Pairs.merge d.toList right := by
  induction right generalizing d with
  | nil => simp [Pairs.merge]
  | cons pair rest ih =>
      obtain ⟨fresh, others⟩ := List.nodup_cons.mp apart
      rw [List.foldl_cons, ih others (nodup_keys_insert pair.1 pair.2 distinct)]
      exact merge_insert fresh

theorem merge_toList {other : Dictionary α} (distinct : d.keys.Nodup) (apart : other.keys.Nodup) :
    (d.merge other).toList = Pairs.merge d.toList other.toList :=
  insertAll_toList other.entries apart distinct

theorem ofList_toList (pairs : List (String × α)) :
    (ofList pairs).toList = pairs.foldl (fun pairs pair => Pairs.insert pairs pair.1 pair.2) [] := by
  suffices ∀ d : Dictionary α, d.keys.Nodup →
      (pairs.foldl (fun d pair => d.insert pair.1 pair.2) d).toList =
        pairs.foldl (fun pairs pair => Pairs.insert pairs pair.1 pair.2) d.toList from
    this empty List.nodup_nil
  induction pairs with
  | nil => exact fun d _ => rfl
  | cons pair rest ih =>
      intro d distinct
      rw [List.foldl_cons, List.foldl_cons, ih _ (nodup_keys_insert pair.1 pair.2 distinct),
        insert_toList pair.1 pair.2 distinct]

theorem get?_eq_some_iff (distinct : d.keys.Nodup) : d.get? key = some value ↔ (key, value) ∈ d.toList :=
  ⟨mem_of_get?, get?_of_mem distinct⟩

theorem contains_iff_mem : d.contains key = true ↔ ∃ value, (key, value) ∈ d.toList := by
  simp [contains_iff, keys, toList]

theorem position?_eq (d : Dictionary α) (key : String) : d.position? key = d.keys.idxOf? key := by
  rw [position?, keys, List.idxOf?, List.findIdx?_map]
  rfl

theorem position?_eq_some_iff {place : Nat} (distinct : d.keys.Nodup) :
    d.position? key = some place ↔ ∃ value, d.toList[place]? = some (key, value) := by
  simp only [position?, List.findIdx?_eq_some_iff_getElem, toList, beq_iff_eq]
  constructor
  · rintro ⟨inside, rfl, -⟩
    exact ⟨d.entries[place].2, List.getElem?_eq_getElem inside⟩
  · rintro ⟨value, found⟩
    obtain ⟨inside, here⟩ := List.getElem?_eq_some_iff.mp found
    refine ⟨inside, by rw [here], ?_⟩
    intro earlier before same
    have apart := List.pairwise_iff_getElem.mp distinct earlier place
      (by simpa [keys] using Nat.lt_trans before inside) (by simpa [keys] using inside) before
    simp only [keys, List.getElem_map, same, here, ne_eq, not_true_eq_false] at apart

/-- The keys in their order, each with what is found under it, are the pairs. -/
theorem filterMap_get? (distinct : d.keys.Nodup) :
    (d.keys.filterMap fun key => (d.get? key).map (key, ·)) = d.toList := by
  have found : ∀ entries : List (String × α), (∀ pair ∈ entries, pair ∈ d.entries) →
      (entries.filterMap fun pair => (d.get? pair.1).map (pair.1, ·)) = entries := by
    intro entries among
    induction entries with
    | nil => rfl
    | cons pair rest ih =>
        have held : d.get? pair.1 = some pair.2 := get?_of_mem distinct (among pair List.mem_cons_self)
        rw [List.filterMap_cons, held, Option.map_some]
        exact congrArg _ (ih fun other member => among other (List.mem_cons_of_mem pair member))
  rw [keys, List.filterMap_map]
  exact found d.entries fun _ member => member

theorem ext_get? {first second : Dictionary α} (distinct : second.keys.Nodup)
    (keys : first.keys = second.keys) (same : ∀ key, first.get? key = second.get? key) : first = second := by
  have entries : first.toList = second.toList := by
    rw [← filterMap_get? distinct, ← filterMap_get? (keys ▸ distinct), keys]
    exact congrArg (List.filterMap · second.keys) (funext fun key => by rw [same])
  exact congrArg Dictionary.mk entries

end Dictionary

/-- How a dictionary is made. -/
inductive Construction (α : Type) where
  | empty
  | ofList (pairs : List (String × α))
  | insert (start : Construction α) (key : String) (value : α)
  | insertAt (start : Construction α) (index : Nat) (key : String) (value : α)
  | erase (start : Construction α) (key : String)
  | rename (start : Construction α) (old new : String)
  | merge (left right : Construction α)

namespace Construction

variable {α : Type}

def build : Construction α → Dictionary α
  | .empty => .empty
  | .ofList pairs => .ofList pairs
  | .insert start key value => start.build.insert key value
  | .insertAt start index key value => start.build.insertAt index key value
  | .erase start key => start.build.erase key
  | .rename start old new => start.build.rename old new
  | .merge left right => left.build.merge right.build

/-- What the same operations leave on a list of pairs. -/
def pairs : Construction α → Pairs α
  | .empty => []
  | .ofList pairs => pairs.foldl (fun pairs pair => Pairs.insert pairs pair.1 pair.2) []
  | .insert start key value => start.pairs.insert key value
  | .insertAt start index key value => start.pairs.insertAt index key value
  | .erase start key => start.pairs.remove key
  | .rename start old new => (start.pairs.rename? old new).getD start.pairs
  | .merge left right => left.pairs.merge right.pairs

theorem build_distinct (made : Construction α) : made.build.keys.Nodup := by
  induction made with
  | empty => exact List.nodup_nil
  | ofList pairs => exact Dictionary.nodup_keys_ofList pairs
  | insert start key value ih => exact Dictionary.nodup_keys_insert key value ih
  | insertAt start index key value ih => exact Dictionary.nodup_keys_insertAt index key value ih
  | erase start key ih => exact Dictionary.nodup_keys_erase key ih
  | rename start old new ih => exact Dictionary.nodup_keys_rename old new ih
  | merge left right ihLeft ihRight => exact Dictionary.nodup_keys_merge right.build ihLeft

theorem build_toList (made : Construction α) : made.build.toList = made.pairs := by
  induction made with
  | empty => rfl
  | ofList pairs => exact Dictionary.ofList_toList pairs
  | insert start key value ih =>
      rw [build, Dictionary.insert_toList key value start.build_distinct, ih, pairs]
  | insertAt start index key value ih =>
      rw [build, Dictionary.insertAt_toList index key value start.build_distinct, ih, pairs]
  | erase start key ih => rw [build, Dictionary.erase_toList key start.build_distinct, ih, pairs]
  | rename start old new ih =>
      rw [build, pairs, ← ih, ← Dictionary.rename?_toList old new start.build_distinct, Dictionary.rename]
      cases start.build.rename? old new <;> rfl
  | merge left right ihLeft ihRight =>
      rw [build, Dictionary.merge_toList left.build_distinct right.build_distinct, ihLeft, ihRight, pairs]

end Construction

end TableScript
