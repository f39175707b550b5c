import Mathlib.Data.List.InsertIdx
import TableScript.Proofs.Record.Law
import TableScript.Table.Aggregate
import TableScript.Table.Transform

set_option autoImplicit false

namespace TableScript

variable {law : Law}

namespace Table

theorem mem_of_mem_distinctBy {α : Type} {same : α → α → Bool} {items : List α} {item : α}
    (member : item ∈ distinctBy same items) : item ∈ items := by
  have kept : ∀ (items start : List α), item ∈ items.foldl (keepIfNew same) start →
      item ∈ start ∨ item ∈ items := by
    intro items
    induction items with
    | nil => exact fun start held => .inl held
    | cons next rest ih =>
        intro start held
        rcases ih _ held with early | late
        · unfold keepIfNew at early
          split at early
          · exact .inl early
          · rcases List.mem_cons.mp early with rfl | older
            · exact .inr List.mem_cons_self
            · exact .inl older
        · exact .inr (List.mem_cons_of_mem next late)
  rcases kept items [] (List.mem_reverse.mp member) with none | held
  · cases none
  · exact held

/-- Every row of every group is one of the rows. -/
def Grouped (rows : List Row) (groups : List (String × List Row)) : Prop :=
  ∀ group ∈ groups, ∀ row ∈ group.2, row ∈ rows

theorem Grouped.addToGroup {rows : List Row} {groups : List (String × List Row)} {row : Row}
    (grouped : Grouped rows groups) (column : String) (held : row ∈ rows) :
    Grouped rows (addToGroup column groups row) := by
  intro group member other inside
  simp only [Table.addToGroup] at member
  split at member
  · obtain ⟨before, earlier, rfl⟩ := List.mem_map.mp member
    split at inside
    · rcases List.mem_cons.mp inside with rfl | older
      · exact held
      · exact grouped before earlier other older
    · exact grouped before earlier other inside
  · rcases List.mem_cons.mp member with rfl | earlier
    · rw [List.mem_singleton.mp inside]
      exact held
    · exact grouped group earlier other inside

theorem Grouped.addAll {rows : List Row} (column : String) (added : List Row)
    (groups : List (String × List Row)) (held : ∀ row ∈ added, row ∈ rows) (grouped : Grouped rows groups) :
    Grouped rows (added.foldl (Table.addToGroup column) groups) := by
  induction added generalizing groups with
  | nil => exact grouped
  | cons row rest ih =>
      have first := grouped.addToGroup column (held row List.mem_cons_self)
      exact ih _ (fun later member => held later (List.mem_cons_of_mem row member)) first

end Table

namespace Aggregate

theorem extreme_lawful {values : List Value} (wanted : Ordering)
    (each : ∀ value ∈ values, law.Throughout value) : law.Throughout (extreme wanted values) := by
  cases values with
  | nil => exact Law.throughout_scalar .null
  | cons first rest =>
      unfold extreme
      refine List.foldlRecOn rest _ (each first List.mem_cons_self) fun best lawful value member => ?_
      split
      · exact each value (List.mem_cons_of_mem first member)
      · exact lawful

/-- A sum is a number or an amount of money. -/
theorem sum_scalar (table : Table Value) (column : String) : Gives Value.Scalar (sum table column) := by
  refine gives_bind fun values _ => gives_bind fun total _ => ?_
  split
  · simp
  · unfold numberTotal
    split
    · simp
    · exact Gives.map fun _ _ => .int _

theorem average_scalar (table : Table Value) (column : String) : Gives Value.Scalar (average table column) := by
  refine gives_bind fun values _ => ?_
  dsimp only
  split
  · simp
  · refine gives_bind fun total _ => ?_
    repeat' split
    all_goals simp

end Aggregate

namespace Law.Kept

variable (kept : law.Kept) {handle : Handle} {table : Table Value}
include kept

theorem rowValue_lawful {row : Row} (lawful : law.Throughout (.table handle table))
    (member : row ∈ table.rows) : law.Throughout (table.rowValue row) := by
  obtain ⟨here, bindings, each⟩ := throughout_table.mp lawful
  unfold Table.rowValue
  cases bound : table.schema with
  | none => exact throughout_ofRow ((each row member).imp fun _ stored => stored.2)
  | some binding =>
      have fresh : law.Throughout (.ofRecord (.fresh binding row)) :=
        throughout_record.mpr ⟨kept.row bound member here, bindings binding bound, each row member⟩
      dsimp only
      split
      · exact kept.validate_lawful fresh
      · exact fresh

theorem rowValues_lawful (lawful : law.Throughout (.table handle table)) :
    ∀ value ∈ table.rowValues, law.Throughout value := by
  intro value member
  obtain ⟨row, held, rfl⟩ := List.mem_map.mp member
  exact kept.rowValue_lawful lawful held

/-- Without a schema only the cells matter. -/
theorem plain_lawful (columns : List String) {rows : List Row} (each : ∀ row ∈ rows, row.All law.Stored) :
    law.Throughout (.ofTable (.plain columns rows)) :=
  throughout_table.mpr ⟨kept.unbound rfl, fun _ => nofun, each⟩

/-- Rows bound to a schema make a table of that schema. -/
theorem bound_lawful {binding : Schema Value} (bound : table.schema = some binding)
    (columns : table.columns = binding.fieldNames) (lawful : law.Throughout (.schema binding))
    (rows : ∀ row ∈ table.rows, ∃ data : Row, data.All law.Stored ∧ row = Record.bindData binding data) :
    law.Throughout (.ofTable table) := by
  refine throughout_table.mpr ⟨?_, ?_, ?_⟩
  · refine kept.bound bound columns (fun row member => ?_) (throughout_schema.mp lawful).1
    obtain ⟨data, -, made⟩ := rows row member
    exact ⟨data, made⟩
  · intro other same
    cases bound.symm.trans same
    exact lawful
  · intro row member
    obtain ⟨data, each, rfl⟩ := rows row member
    exact kept.stored_bindData lawful each

/-- A table with some of the rows, in any order and number. -/
theorem rows_lawful {rows : List Row} (lawful : law.Throughout (.table handle table))
    (old : ∀ row ∈ rows, row ∈ table.rows) : law.Throughout (.ofTable (table.withRows rows)) := by
  obtain ⟨here, bindings, each⟩ := throughout_table.mp lawful
  refine throughout_table.mpr ⟨?_, bindings, fun row member => each row (old row member)⟩
  cases bound : table.schema with
  | none => exact kept.unbound bound
  | some binding =>
      have declared := (throughout_schema.mp (bindings binding bound)).1
      exact kept.grow bound (fun row member => .inl (old row member)) declared here

theorem select_lawful (lawful : law.Throughout (.table handle table)) (columns : List String) :
    law.Throughout (.ofTable (table.select columns)) := by
  refine kept.plain_lawful columns fun row member => ?_
  obtain ⟨source, held, rfl⟩ := List.mem_map.mp member
  have each := (throughout_table.mp lawful).2.2 source held
  apply Dictionary.All.ofList
  intro pair shown
  obtain ⟨column, -, rfl⟩ := List.mem_map.mp shown
  exact Row.cell_of_all each (kept.stored_scalar .null) column

theorem limit_lawful (lawful : law.Throughout (.table handle table)) (count offset : Int64) :
    Gives (fun cut => law.Throughout (.ofTable cut)) (table.limit count offset) := by
  unfold Table.limit
  split
  · exact gives_error _
  · split
    · exact gives_error _
    · rw [gives_ok]
      exact kept.rows_lawful lawful fun row member => List.mem_of_mem_drop (List.mem_of_mem_take member)

/-- Rows that fit leave a lawful table, wherever they are put among the old ones. -/
theorem fitRow_lawful {row : Row} (lawful : law.Throughout (.table handle table))
    (new : row.All law.Stored) :
    Gives (fun fitted => ∀ rows : List Row, (∀ row ∈ rows, row ∈ table.rows ∨ row = fitted.2) →
      law.Throughout (.ofTable (table.derive fitted.1 rows))) (table.fitRow row) := by
  obtain ⟨here, bindings, each⟩ := throughout_table.mp lawful
  have cells : ∀ {fitted : Row} {rows : List Row}, fitted.All law.Stored →
      (∀ row ∈ rows, row ∈ table.rows ∨ row = fitted) → ∀ row ∈ rows, row.All law.Stored := by
    intro fitted rows stored origin row member
    rcases origin row member with old | rfl
    · exact each row old
    · exact stored
  unfold Table.fitRow
  cases bound : table.schema with
  | some binding =>
      have declared := bindings binding bound
      refine gives_ok.mpr fun rows origin => throughout_table.mpr ⟨?_, bindings, ?_⟩
      · refine kept.grow bound (fun row member => ?_) (throughout_schema.mp declared).1 here
        exact (origin row member).imp_right fun same => ⟨_, same⟩
      · exact cells (kept.stored_bindData declared new) origin
  | none =>
      dsimp only
      split
      · exact gives_ok.mpr fun rows origin =>
          throughout_table.mpr ⟨kept.unbound bound, bindings, cells new origin⟩
      · split
        · refine gives_ok.mpr fun rows origin =>
            throughout_table.mpr ⟨kept.unbound bound, bindings, cells ?_ origin⟩
          apply Dictionary.All.ofList
          intro pair shown
          obtain ⟨column, -, rfl⟩ := List.mem_map.mp shown
          exact Row.cell_of_all new (kept.stored_scalar .null) column
        · exact gives_error _

theorem appendRow_lawful {row : Row} (lawful : law.Throughout (.table handle table))
    (new : row.All law.Stored) :
    Gives (fun grown => law.Throughout (.ofTable grown)) (table.appendRow row) := by
  refine (kept.fitRow_lawful lawful new).bind fun fitted placed => ?_
  refine gives_pure.mpr (placed _ fun row member => ?_)
  simpa using member

theorem insertRow_lawful {row : Row} (lawful : law.Throughout (.table handle table)) (slot : Nat)
    (new : row.All law.Stored) :
    Gives (fun grown => law.Throughout (.ofTable grown)) (table.insertRow slot row) := by
  refine (kept.fitRow_lawful lawful new).bind fun fitted placed => ?_
  exact gives_pure.mpr (placed _ fun row member => (List.eq_or_mem_of_mem_insertIdx member).symm)

theorem withColumn_lawful {values : List Value} (lawful : law.Throughout (.table handle table))
    (name : String) (place : Table.Place) (slot : Nat) (new : ∀ value ∈ values, law.Stored value) :
    law.Throughout (.ofTable (table.withColumn name place slot values)) := by
  refine kept.plain_lawful _ fun row member => ?_
  rw [← List.map_uncurry_zip_eq_zipWith] at member
  obtain ⟨⟨source, value⟩, paired, rfl⟩ := List.mem_map.mp member
  obtain ⟨held, given⟩ := List.of_mem_zip paired
  have each := (throughout_table.mp lawful).2.2 source held
  exact each.insertAt _ name (new value given)

theorem renameColumn_lawful (lawful : law.Throughout (.table handle table)) (old new : String) :
    Gives (fun renamed => law.Throughout (.ofTable renamed)) (table.renameColumn old new) := by
  unfold Table.renameColumn
  split
  · exact gives_error _
  · split
    · exact gives_error _
    · refine gives_ok.mpr (kept.plain_lawful _ fun row member => ?_)
      obtain ⟨source, held, rfl⟩ := List.mem_map.mp member
      exact ((throughout_table.mp lawful).2.2 source held).rename old new

theorem dropColumns_lawful (lawful : law.Throughout (.table handle table)) (names : List String) :
    Gives (fun narrower => law.Throughout (.ofTable narrower)) (table.dropColumns names) := by
  have erased : ∀ (names : List String) (row : Row), row.All law.Stored →
      (names.foldl Dictionary.erase row).All law.Stored := by
    intro names
    induction names with
    | nil => exact fun row each => each
    | cons name rest ih => exact fun row each => ih _ (each.erase name)
  unfold Table.dropColumns
  split
  · exact gives_error _
  · refine gives_ok.mpr (kept.plain_lawful _ fun row member => ?_)
    obtain ⟨source, held, rfl⟩ := List.mem_map.mp member
    exact erased names source ((throughout_table.mp lawful).2.2 source held)

theorem cell_lawful {row : Row} (lawful : law.Throughout (.table handle table)) (member : row ∈ table.rows)
    (column : String) : law.Throughout (Row.cell row column) :=
  (Row.cell_of_all ((throughout_table.mp lawful).2.2 row member) (kept.stored_scalar .null) column).2

theorem column_lawful (lawful : law.Throughout (.table handle table)) (name : String) :
    Gives (fun values => ∀ value ∈ values, law.Throughout value) (table.column name) := by
  unfold Table.column
  split
  · refine gives_ok.mpr fun value member => ?_
    obtain ⟨row, held, rfl⟩ := List.mem_map.mp member
    exact kept.cell_lawful lawful held name
  · exact gives_error _

theorem uniqueValues_lawful (lawful : law.Throughout (.table handle table)) (name : String) :
    Gives (fun values => ∀ value ∈ values, law.Throughout value) (table.uniqueValues name) := by
  refine Gives.map ((kept.column_lawful lawful name).imp fun values each => ?_)
  exact fun value member => each value (Table.mem_of_mem_distinctBy member)

theorem uniqueRows_lawful (lawful : law.Throughout (.table handle table)) :
    law.Throughout (.ofTable table.uniqueRows) :=
  kept.rows_lawful lawful fun _ member => Table.mem_of_mem_distinctBy member

theorem groupBy_lawful (lawful : law.Throughout (.table handle table)) (column : String) :
    Gives (fun groups => law.Throughout (.ofRow (groups.map .ofTable))) (table.groupBy column) := by
  unfold Table.groupBy
  split
  · have grouped : Table.Grouped table.rows (table.rows.foldl (Table.addToGroup column) []) :=
      .addAll column table.rows [] (fun _ member => member) fun _ member => nomatch member
    refine gives_ok.mpr (throughout_ofRow (Dictionary.All.map ?_))
    rw [Dictionary.all_iff]
    intro pair member
    obtain ⟨group, held, rfl⟩ := List.mem_map.mp member
    refine kept.rows_lawful lawful fun row inside => ?_
    exact grouped group (List.mem_reverse.mp held) row (List.mem_reverse.mp inside)
  · exact gives_error _

/-- What cells contribute to an aggregate is a number they write or themselves. -/
theorem gather_lawful (lawful : law.Throughout (.table handle table)) (column method : String)
    (keepOther : Bool) :
    Gives (fun values => ∀ value ∈ values, law.Throughout value)
      (Aggregate.gather table column method keepOther) := by
  have contributed : ∀ cell value, Aggregate.contribution? keepOther cell = some value →
      law.Throughout cell → law.Throughout value := by
    intro cell value given lawful
    unfold Aggregate.contribution? at given
    split at given
    · cases given
    · cases given
      exact lawful
    · cases given
      exact lawful
    · cases given
      exact lawful
    · rename_i text
      rcases Option.or_eq_some_iff.mp given with read | ⟨-, shown⟩
      · unfold Aggregate.readNumber? at read
        dsimp only at read
        split at read
        · cases read
          simp
        · obtain ⟨number, -, rfl⟩ := Option.map_eq_some_iff.mp read
          simp
      · split at shown
        · cases shown
          simp
        · cases shown
    · split at given
      · cases given
        exact lawful
      · cases given
  refine gives_bind fun _ _ => ?_
  refine gives_pure.mpr fun value member => ?_
  obtain ⟨row, held, given⟩ := List.mem_filterMap.mp member
  exact contributed _ value given (kept.cell_lawful lawful held column)

theorem least_lawful (lawful : law.Throughout (.table handle table)) (column : String) :
    Gives law.Throughout (Aggregate.least table column) :=
  Gives.map ((kept.gather_lawful lawful column "min" true).imp fun _ => Aggregate.extreme_lawful .lt)

theorem greatest_lawful (lawful : law.Throughout (.table handle table)) (column : String) :
    Gives law.Throughout (Aggregate.greatest table column) :=
  Gives.map ((kept.gather_lawful lawful column "max" true).imp fun _ => Aggregate.extreme_lawful .gt)

end Law.Kept

end TableScript
