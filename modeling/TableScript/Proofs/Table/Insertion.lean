import TableScript.Method.Table
import TableScript.Proofs.Dictionary.Refinement
import TableScript.Proofs.Eval.Resolving
import TableScript.Proofs.Table.Basic

set_option autoImplicit false

namespace TableScript

namespace Table

namespace Place

/-- The name beside which a place lies. -/
def anchor? : Place → Option String
  | .last => none
  | .after anchor => some anchor
  | .before anchor => some anchor

/-- A place beside a name, if beside any, is beside one of these. -/
def Anchored (place : Place) (names : List String) : Prop := ∀ anchor, place.anchor? = some anchor → anchor ∈ names

/-- Names, and the same names with a new one in the place. Of several names like the anchor the first one
counts. -/
inductive Inserts (name : String) : Place → List String → List String → Prop
  | last (names : List String) : Inserts name .last names (names ++ [name])
  | after {front : List String} {anchor : String} (back : List String) (first : anchor ∉ front) :
    Inserts name (.after anchor) (front ++ anchor :: back) (front ++ anchor :: name :: back)
  | before {front : List String} {anchor : String} (back : List String) (first : anchor ∉ front) :
    Inserts name (.before anchor) (front ++ anchor :: back) (front ++ name :: anchor :: back)

/-- The index of the place among names, the last one if they lack the anchor. -/
def index (place : Place) (names : List String) : Nat :=
  match place with
  | .last => names.length
  | .after anchor => ((names.idxOf? anchor).map (· + 1)).getD names.length
  | .before anchor => (names.idxOf? anchor).getD names.length

theorem idxOf?_split {front : List String} {anchor : String} (back : List String) (first : anchor ∉ front) :
    (front ++ anchor :: back).idxOf? anchor = some front.length := by
  have before : front.findIdx? (· == anchor) = none := by
    rw [List.findIdx?_eq_none_iff]
    intro name member
    have other : name ≠ anchor := fun same => first (same ▸ member)
    simpa using other
  rw [List.idxOf?, List.findIdx?_append, before]
  simp [List.findIdx?_cons]

theorem insertIdx_split (front back : List String) (name : String) :
    (front ++ back).insertIdx front.length name = front ++ name :: back := by
  have inside : min front.length (front ++ back).length = front.length := by simp
  have parts := Dictionary.insertIdx_min (front ++ back) front.length name
  rwa [inside, List.take_left, List.drop_left] at parts

/-- The index of an anchor is that of its first place. -/
theorem exists_split {anchor : String} {names : List String} (member : anchor ∈ names) :
    ∃ front back, names = front ++ anchor :: back ∧ anchor ∉ front ∧ names.idxOf? anchor = some front.length := by
  obtain ⟨front, back, rfl, first⟩ := List.eq_append_cons_of_mem member
  exact ⟨front, back, rfl, first, idxOf?_split back first⟩

theorem index_le (place : Place) (names : List String) : place.index names ≤ names.length := by
  have inside : ∀ anchor at_, names.idxOf? anchor = some at_ → at_ < names.length :=
    fun anchor at_ found => (List.idxOf?_eq_some_iff.mp found).1
  cases place with
  | last => exact Nat.le_refl _
  | after anchor =>
      simp only [index]
      cases found : names.idxOf? anchor with
      | none => exact Nat.le_refl _
      | some at_ => exact inside anchor at_ found
  | before anchor =>
      simp only [index]
      cases found : names.idxOf? anchor with
      | none => exact Nat.le_refl _
      | some at_ => exact Nat.le_of_lt (inside anchor at_ found)

theorem inserts_index {place : Place} {names : List String} (name : String) (anchored : place.Anchored names) :
    place.Inserts name names (names.insertIdx (place.index names) name) := by
  cases place with
  | last =>
      rw [index, List.insertIdx_length_self]
      exact .last names
  | after anchor =>
      obtain ⟨front, back, rfl, first, found⟩ := exists_split (anchored anchor rfl)
      have next := insertIdx_split (front ++ [anchor]) back name
      rw [index, found, Option.map_some, Option.getD_some]
      simp only [List.length_append, List.length_cons, List.length_nil, List.append_assoc, List.cons_append,
        List.nil_append] at next
      rw [next]
      exact .after back first
  | before anchor =>
      obtain ⟨front, back, rfl, first, found⟩ := exists_split (anchored anchor rfl)
      rw [index, found, Option.getD_some, insertIdx_split]
      exact .before back first

theorem split_of_inserts {name : String} {place : Place} {names wider : List String}
    (inserts : place.Inserts name names wider) :
    ∃ front back, names = front ++ back ∧ wider = front ++ name :: back := by
  cases inserts with
  | last => exact ⟨names, [], (List.append_nil names).symm, rfl⟩
  | @after front anchor back => exact ⟨front ++ [anchor], back, by simp, by simp⟩
  | @before front anchor back => exact ⟨front, anchor :: back, rfl, rfl⟩

theorem mem_of_inserts {name other : String} {place : Place} {names wider : List String}
    (inserts : place.Inserts name names wider) : other ∈ wider ↔ other = name ∨ other ∈ names := by
  obtain ⟨front, back, rfl, rfl⟩ := split_of_inserts inserts
  simp only [List.mem_append, List.mem_cons]
  exact or_left_comm

/-- Without the new name the names are the old ones. -/
theorem filter_of_inserts {name : String} {place : Place} {names wider : List String} (new : name ∉ names)
    (inserts : place.Inserts name names wider) : wider.filter (· ≠ name) = names := by
  obtain ⟨front, back, rfl, rfl⟩ := split_of_inserts inserts
  rw [List.filter_append, List.filter_cons_of_neg (by simp), ← List.filter_append, List.filter_eq_self]
  intro other member
  have apart : other ≠ name := fun same => new (same ▸ member)
  simpa using apart

end Place

variable {table : Table Value} {name : String} {place : Place}

theorem cellSlot_eq (row : Row) (place : Place) : cellSlot row place = place.index row.keys := by
  have size : row.size = row.keys.length := (List.length_map _).symm
  cases place <;> simp only [cellSlot, Place.index, size, Dictionary.position?_eq]

theorem columnSlot_of_mem (declared : name ∈ table.columns) (place : Place) :
    table.columnSlot name place = .error (.duplicateColumn name) :=
  if_pos ((hasColumn_iff name).mpr declared)

theorem columnIndex_of_not_mem {anchor : String} (unknown : anchor ∉ table.columns) :
    table.columnIndex anchor = .error (.unknownColumn anchor) := by
  rw [columnIndex, List.idxOf?_eq_none_iff.mpr unknown]

theorem columnSlot_unanchored (new : name ∉ table.columns) {anchor : String}
    (beside : place.anchor? = some anchor) (unknown : anchor ∉ table.columns) :
    table.columnSlot name place = .error (.unknownColumn anchor) := by
  unfold columnSlot
  rw [if_neg (mt (hasColumn_iff name).mp new)]
  cases place with
  | last => cases beside
  | after =>
      obtain rfl := Option.some.inj beside
      exact congrArg (Except.map (· + 1)) (columnIndex_of_not_mem unknown)
  | before =>
      obtain rfl := Option.some.inj beside
      exact columnIndex_of_not_mem unknown

theorem columnSlot_anchored (new : name ∉ table.columns) (anchored : place.Anchored table.columns) :
    table.columnSlot name place = .ok (place.index table.columns) := by
  unfold columnSlot
  rw [if_neg (mt (hasColumn_iff name).mp new)]
  cases place with
  | last => rfl
  | after anchor | before anchor =>
      obtain ⟨front, back, -, -, found⟩ := Place.exists_split (anchored anchor rfl)
      simp only [columnIndex, Place.index, found]
      rfl

/-- A new cell does not show in the other columns. -/
theorem cell_insertAt_of_ne (row : Row) (index : Nat) (value : Value) {other : String} (apart : other ≠ name) :
    Row.cell (row.insertAt index name value) other = Row.cell row other := by
  rw [Row.cell, Dictionary.get?_insertAt_of_ne row index value apart, Row.cell]

theorem cell_erase_of_ne (row : Row) {other : String} (apart : other ≠ name) :
    Row.cell (row.erase name) other = Row.cell row other := by
  rw [Row.cell, Dictionary.get?_erase_of_ne row apart, Row.cell]

/-- Dropping one column takes it out of the list, and its entry out of every row. -/
theorem dropColumns_singleton (declared : name ∈ table.columns) :
    table.dropColumns [name] =
      .ok (plain (table.columns.filter (· ≠ name)) (table.rows.map (·.erase name))) := by
  have found : ([name].find? fun name => !table.hasColumn name) = none := by
    simpa using (hasColumn_iff name).mpr declared
  have others : (table.columns.filter fun column => !([name].contains column)) =
      table.columns.filter (· ≠ name) := by
    refine List.filter_congr fun column _ => ?_
    simp
  simp only [dropColumns, found, others]
  rfl

/-- What a table has with a new column, and what it has when the column is dropped again. -/
structure Widened (table : Table Value) (name : String) (place : Place) (values : List Value)
    (wider : Table Value) : Prop where
  columns : place.Inserts name table.columns wider.columns
  size : wider.rows.length = table.rows.length
  given : wider.column name = .ok values
  others : ∀ other ∈ table.columns, wider.column other = table.column other
  /-- Rows that have exactly the columns in their order still do. -/
  aligned : (∀ row ∈ table.rows, row.keys = table.columns) → ∀ row ∈ wider.rows, row.keys = wider.columns
  dropped : ∃ narrower, wider.dropColumns [name] = .ok narrower ∧ narrower.columns = table.columns ∧
    (∀ other ∈ table.columns, narrower.column other = table.column other) ∧
    -- A row is as it was, less an entry that it held under the name although that was no column.
    narrower.rows = table.rows.map (·.erase name) ∧
    ((∀ row ∈ table.rows, name ∉ row.keys) → narrower.rows = table.rows)

/-- The cells of the new column, each put into its row. -/
theorem rows_withColumn (table : Table Value) (name : String) (place : Place) (slot : Nat)
    (values : List Value) :
    (table.withColumn name place slot values).rows =
      (table.rows.zip values).map fun pair => pair.1.insertAt (place.index pair.1.keys) name pair.2 := by
  simp only [withColumn, plain, cellSlot_eq, ← List.map_uncurry_zip_eq_zipWith]
  rfl

section Values

variable {values : List Value} (even : values.length = table.rows.length)
include even

/-- What a new cell does not change in a row is as it was in every row. -/
theorem map_rows_withColumn {γ : Type} (slot : Nat) {shown unchanged : Row → γ}
    (same : ∀ row index value, shown (row.insertAt index name value) = unchanged row) :
    (table.withColumn name place slot values).rows.map shown = table.rows.map unchanged := by
  rw [rows_withColumn, List.map_map]
  calc (table.rows.zip values).map _
    _ = ((table.rows.zip values).map Prod.fst).map unchanged := by
      rw [List.map_map]
      exact List.map_congr_left fun pair _ => same pair.1 _ pair.2
    _ = table.rows.map unchanged := by rw [List.map_fst_zip (Nat.le_of_eq even.symm)]

theorem map_cell_withColumn (slot : Nat) :
    ((table.withColumn name place slot values).rows.map fun row => Row.cell row name) = values := by
  rw [rows_withColumn, List.map_map]
  calc (table.rows.zip values).map _
    _ = (table.rows.zip values).map Prod.snd := by
      refine List.map_congr_left fun pair _ => ?_
      exact congrArg (·.getD .null) (Dictionary.get?_insertAt_self pair.1 _ name pair.2)
    _ = values := List.map_snd_zip (Nat.le_of_eq even)

theorem withColumn_widened (new : name ∉ table.columns) (anchored : place.Anchored table.columns) :
    table.Widened name place values (table.withColumn name place (place.index table.columns) values) := by
  have inserts := Place.inserts_index name anchored
  have apart {other : String} (declared : other ∈ table.columns) : other ≠ name :=
    fun same => new (same ▸ declared)
  have member {other : String} (old : other = name ∨ other ∈ table.columns) :
      other ∈ (table.withColumn name place (place.index table.columns) values).columns :=
    (Place.mem_of_inserts inserts).mpr old
  constructor
  case columns => exact inserts
  case size => simp [rows_withColumn, even]
  case given => rw [column_of_mem (member (.inl rfl)), map_cell_withColumn even]
  case others =>
    intro other declared
    rw [column_of_mem (member (.inr declared)), column_of_mem declared,
      map_rows_withColumn even _ fun row index value => cell_insertAt_of_ne row index value (apart declared)]
  case aligned =>
    intro keyed row held
    rw [rows_withColumn] at held
    obtain ⟨⟨source, value⟩, paired, rfl⟩ := List.mem_map.mp held
    have keys := keyed source (List.of_mem_zip paired).1
    rw [Dictionary.keys_insertAt_of_absent (Place.index_le place _) value (keys ▸ new), keys]
    rfl
  case dropped =>
    have columns : (table.withColumn name place (place.index table.columns) values).columns.filter (· ≠ name) =
        table.columns := Place.filter_of_inserts new inserts
    have rows : (table.withColumn name place (place.index table.columns) values).rows.map (·.erase name) =
        table.rows.map (·.erase name) :=
      map_rows_withColumn even _ fun row index value => Dictionary.erase_insertAt row index name value
    refine ⟨plain table.columns (table.rows.map (·.erase name)), ?_, rfl, fun other declared => ?_, rfl,
      fun clear => ?_⟩
    · rw [dropColumns_singleton (member (.inl rfl)), columns, rows]
    · rw [column_of_mem declared, @column_of_mem (plain table.columns _) other declared, plain, List.map_map]
      exact congrArg Except.ok (List.map_congr_left fun row _ => cell_erase_of_ne row (apart declared))
    · calc table.rows.map (·.erase name)
        _ = table.rows.map id :=
          List.map_congr_left fun row held => Dictionary.erase_of_absent (clear row held)
        _ = table.rows := List.map_id _

end Values

end Table

namespace Method

open Eval (Numbers numbers_pure numbers_mapM)
open Table (Place Widened)

variable {table : Table Value} {name : String} {place : Place}

/-- Evaluated values are stored as they are, up to the numbers of their collections. -/
theorem columnValues_numbers (options : Options) {values : List Value} (even : values.length = table.rows.length)
    (complete : ∀ value ∈ values, value.Complete) {fuel : Nat}
    (enough : sizeOf (values.map Value.unnumbered) < fuel) :
    Numbers (fun stored => stored.map Value.unnumbered = values.map Value.unnumbered)
      (columnValues (.withFuel options fuel) table (.values values)) := by
  have resolves (value : Value) (held : value ∈ values) : (Evaluator.withFuel options fuel).Resolves value := by
    have smaller := List.sizeOf_lt_of_mem (List.mem_map_of_mem (f := Value.unnumbered) held)
    exact Evaluator.withFuel_resolves options (complete value held) (Nat.lt_trans smaller enough)
  simp only [columnValues, Table.size, even, ↓reduceIte]
  refine (numbers_mapM resolves).imp fun stored each => ?_
  exact Value.map_eq_of_forall₂ each fun first _ second same => same

/-- A column is refused if its name is taken, otherwise if the table lacks the column beside which it is to
stand, otherwise if it does not have one value for each row. Everything else gives the table with the new
column, if the values are evaluated; they are stored as they are, up to the numbers of collections. -/
theorem addColumn_inserts (table : Table Value) (name : String) (place : Place) (values : List Value) :
    (name ∈ table.columns → ∀ run,
      addColumn run table name place (.values values) = Eval.fail (.duplicateColumn name)) ∧
    (name ∉ table.columns → ∀ anchor, place.anchor? = some anchor → anchor ∉ table.columns → ∀ run,
      addColumn run table name place (.values values) = Eval.fail (.unknownColumn anchor)) ∧
    (name ∉ table.columns → place.Anchored table.columns → values.length ≠ table.rows.length → ∀ run,
      addColumn run table name place (.values values) =
        Eval.fail (.columnLength table.rows.length values.length)) ∧
    (name ∉ table.columns → place.Anchored table.columns → values.length = table.rows.length →
      (∀ value ∈ values, value.Complete) → ∃ enough, ∀ fuel ≥ enough, ∀ options,
        Numbers (fun made => ∃ stored wider, made = .ofTable wider ∧
            stored.map Value.unnumbered = values.map Value.unnumbered ∧ table.Widened name place stored wider)
          (addColumn (.withFuel options fuel) table name place (.values values))) := by
  refine ⟨fun declared run => ?_, fun new anchor beside unknown run => ?_, fun new anchored uneven run => ?_,
    fun new anchored even complete => ?_⟩
  · rw [addColumn, Table.columnSlot_of_mem declared]
    rfl
  · rw [addColumn, Table.columnSlot_unanchored new beside unknown]
    rfl
  · rw [addColumn, Table.columnSlot_anchored new anchored]
    simp only [columnValues, Table.size, uneven, ↓reduceIte]
    rfl
  · refine ⟨sizeOf (values.map Value.unnumbered) + 1, fun fuel enough options => ?_⟩
    rw [addColumn, Table.columnSlot_anchored new anchored]
    change Numbers _ (columnValues (.withFuel options fuel) table (.values values) >>= fun stored =>
      pure (Value.ofTable (table.withColumn name place (place.index table.columns) stored)))
    refine (columnValues_numbers options even complete enough).bind fun stored same => numbers_pure ?_
    have length : stored.length = table.rows.length := by
      simpa [even] using congrArg List.length same
    exact ⟨stored, _, rfl, same, Table.withColumn_widened length new anchored⟩

/-- A row with exactly the columns, one that lacks the anchor, and one that holds the name before the anchor. -/
theorem addColumn_inserts_into_mixed_rows :
    let table : Table Value := .plain ["a", "c"]
      [⟨[("a", .int 1), ("c", .int 2)]⟩, ⟨[("c", .int 3)]⟩, ⟨[("b", .int 9), ("a", .int 4)]⟩]
    let values : List Value := [.int 5, .ofItems [.null], .text "x"]
    ("b" ∉ table.columns ∧ (Place.after "a").Anchored table.columns ∧ values.length = table.rows.length ∧
      ∀ value ∈ values, value.Complete) ∧
    ∃ enough, ∀ fuel ≥ enough, Numbers (fun made => ∃ stored wider, made = .ofTable wider ∧
        stored.map Value.unnumbered = values.map Value.unnumbered ∧ wider.column "b" = .ok stored ∧
        wider.column "a" = .ok [.int 1, .null, .int 4] ∧ wider.column "c" = .ok [.int 2, .int 3, .null])
      (addColumn (.withFuel .default fuel) table "b" (.after "a") (.values values)) := by
  intro table values
  have new : "b" ∉ table.columns := by decide
  have anchored : (Place.after "a").Anchored table.columns := by
    rintro anchor ⟨⟩
    decide
  have complete : ∀ value ∈ values, value.Complete := by
    simp [values, Value.ofItems, Value.complete_array, Value.Scalar.complete]
  obtain ⟨-, -, -, inserts⟩ := addColumn_inserts table "b" (.after "a") values
  obtain ⟨enough, numbers⟩ := inserts new anchored rfl complete
  refine ⟨⟨new, anchored, rfl, complete⟩, enough, fun fuel large => (numbers fuel large .default).imp ?_⟩
  rintro made ⟨stored, wider, rfl, same, widened⟩
  exact ⟨stored, wider, rfl, same, widened.given, widened.others "a" (by decide), widened.others "c" (by decide)⟩

end Method

end TableScript
