import Mathlib.Data.List.Perm.Basic
import Mathlib.Data.List.Perm.Subperm
import TableScript.Proofs.Query.Cells
import TableScript.Proofs.Record.Rebinding
import TableScript.Proofs.Sorting.Permutation
import TableScript.Proofs.Table.Distinct

set_option autoImplicit false

namespace TableScript

open List (Forall₂)

/-- Validation sees no numbers. -/
theorem Validation.check_unnumbered (field : Field Value) (value : Value) :
    check field value.unnumbered = check field value := by
  cases value with
  | array handle items =>
    rw [Value.unnumbered_array, check_compound (.array _ _), check_compound (.array _ _)]
  | dict handle entries =>
    rw [Value.unnumbered_dict, check_compound (.dict _ _), check_compound (.dict _ _)]
  | table handle held =>
    rw [Value.unnumbered_table, check_compound (.table _ _), check_compound (.table _ _)]
  | record handle held =>
    rw [Value.unnumbered_record, check_compound (.record _ _), check_compound (.record _ _)]
  | _ => rfl

theorem Row.cell_unnumbered (row : Row) (name : String) :
    (Row.cell row name).unnumbered = Row.cell row.unnumbered name := by
  rw [Row.cell, Row.cell, Row.unnumbered, Dictionary.get?_map]
  cases row.get? name <;> rfl

theorem Validation.errors_congr {first second : Row} (same : Row.unnumbered first = Row.unnumbered second)
    (binding : Schema Value) : errors binding first = errors binding second := by
  have each : ∀ field : Field Value,
      check field (Row.cell first field.name) = check field (Row.cell second field.name) := by
    intro field
    rw [← check_unnumbered, Row.cell_unnumbered, same, ← Row.cell_unnumbered, check_unnumbered]
  simp only [errors, each]

/-- The same record, but for the numbers of the collections in it. -/
structure Record.Alike (first second : Record Value) : Prop where
  schema : first.schema = second.schema
  data : Row.unnumbered first.data = Row.unnumbered second.data
  errors : first.errors = second.errors
  validated : first.validated = second.validated

theorem Record.alike_validate {binding : Schema Value} {first second : Row}
    (same : Row.unnumbered first = Row.unnumbered second) :
    (fresh binding first).validate.Alike (fresh binding second).validate :=
  ⟨rfl, same, Validation.errors_congr same binding, rfl⟩

/-- Numbering changes nothing in the value: it is numbered, or there is nothing to number. -/
def Value.Settled (value : Value) : Prop := ∀ other, value.Settles other → other = value

theorem Value.Scalar.settled {value : Value} (scalar : value.Scalar) : value.Settled := by
  rintro other ⟨next, rfl⟩
  cases scalar <;> rfl

theorem Row.eq_of_settles {first second : Row} (each : first.All Value.Settled) (settles : Row.Settles first second) :
    second = first := by
  have entries := Value.map_eq_of_forall₂ (f := id) (g := id) settles fun pair member other related =>
    Prod.ext related.1 (each pair.2 (List.mem_map_of_mem member) other.2 related.2)
  rw [List.map_id, List.map_id] at entries
  exact congrArg Dictionary.mk entries

theorem Record.cast_scalar {value : Value} (scalar : value.Scalar) (typeName : String) :
    (cast value typeName).Scalar := by
  rcases cast_eq_or_scalar value typeName with kept | made
  · rw [kept]
    exact scalar
  · exact made

/-- A cell is a scalar, also when it is cast, and a fallback is filled in as it is. -/
theorem Query.settled_fieldValue {field : Field Value} (numbered : ∀ value ∈ field.fallback, value.Settled)
    (columns : List String) (cellsOfRow : List Scalar) :
    (Record.fieldValue field (row columns cellsOfRow)).Settled := by
  unfold Record.fieldValue
  cases found : (row columns cellsOfRow).get? field.name with
  | some value =>
    have scalar : value.Scalar := (row_scalar columns cellsOfRow).get? found
    exact (Record.cast_scalar scalar field.typeName).settled
  | none =>
    cases fallback : field.fallback with
    | some value => exact numbered value fallback
    | none => exact Value.Scalar.null.settled

theorem Query.settled_bindData {schema : Schema Value}
    (numbered : ∀ field ∈ schema.fields, ∀ value ∈ field.fallback, value.Settled) (columns : List String)
    (cellsOfRow : List Scalar) :
    (Record.bindData schema (row columns cellsOfRow)).All Value.Settled :=
  Dictionary.All.ofList (List.forall_mem_map.mpr fun field listed =>
    settled_fieldValue (numbered field listed) columns cellsOfRow)

namespace Method

/-- The methods of a table that choose or order its rows. -/
def narrowing : List String := ["where", "orderBy", "limit", "unique"]

/-- If the value is a table, it is the given one with some of the rows, none of them twice. -/
def Narrows (table : Table Value) (value : Value) : Prop :=
  ∀ handle made, value = .table handle made → ∃ rows : List Row, rows.Subperm table.rows ∧ made = table.withRows rows

variable {table : Table Value}

theorem narrows_withRows {rows : List Row} (fewer : rows.Subperm table.rows) :
    Narrows table (.ofTable (table.withRows rows)) := by
  rintro handle made ⟨⟩
  exact ⟨rows, fewer, rfl⟩

theorem keepItems_sublist {α : Type} (run : Evaluator) (f : Value) (toArg : α → Value) (items : List α) :
    Makes (fun kept : List α => kept.Sublist items) (keepItems run f toArg items) := by
  induction items with
  | nil => exact yields_pure .slnil
  | cons item rest ih =>
    refine (makes_any _).bind fun wanted _ => ih.bind fun others chosen => yields_pure ?_
    split
    · exact chosen.cons_cons item
    · exact chosen.cons item

theorem orderBy_narrows (keys : List SortKey) : Makes (Narrows table) (orderBy table keys) := by
  refine (orderBy_yields table keys).imp ?_
  rintro _ ⟨rows, permuted, rfl⟩
  exact narrows_withRows permuted.subperm

theorem limit_narrows (args : List Value) : Gives (Narrows table) (tableView table "limit" args) := by
  have limited : ∀ count offset, Gives (Narrows table) (Value.ofTable <$> table.limit count offset) := by
    intro count offset
    refine Gives.map ?_
    unfold Table.limit
    repeat' split
    · exact gives_error _
    · exact gives_error _
    · exact gives_ok.mpr (narrows_withRows ((List.take_sublist _ _).trans (List.drop_sublist _ _)).subperm)
  refine gives_bind fun _ _ => gives_bind fun count _ => ?_
  split
  · exact gives_bind fun offset _ => limited count offset
  · exact limited count 0

theorem unique_narrows (args : List Value) : Gives (Narrows table) (tableView table "unique" args) := by
  refine gives_bind fun _ _ => ?_
  split
  · exact gives_pure.mpr (narrows_withRows (Table.distinctBy_sublist _ _).subperm)
  · exact gives_bind fun _ _ => gives_bind fun _ _ => gives_pure.mpr nofun

theorem invoke_narrows (run : Evaluator) (handle : Handle) {name : String} (args : List Value)
    (narrows : name ∈ narrowing) : Makes (Narrows table) (invoke run (.table handle table) name args) := by
  simp only [narrowing, List.mem_cons, List.not_mem_nil, or_false] at narrows
  rcases narrows with rfl | rfl | rfl | rfl
  · refine Eval.check_yields fun f _ => (keepItems_sublist run f table.rowValue table.rows).bind fun rows chosen => ?_
    exact yields_pure (narrows_withRows chosen.subperm)
  · exact Eval.check_yields fun _ _ => Eval.check_yields fun keys _ => orderBy_narrows keys
  · exact Eval.lift_yields (limit_narrows args)
  · exact Eval.lift_yields (unique_narrows args)

end Method

/-- The tables that come about from a table by choosing and ordering rows, whatever evaluates the arguments and
the functions, on whatever machine, and by numbering collections. -/
inductive Table.Narrowed (start : Table Value) : Table Value → Prop
  | start : Narrowed start start
  | method {run : Evaluator} {handle holder : Handle} {table made : Table Value} {name : String}
      {args : List Value} {machine final : Machine} (before : Narrowed start table)
      (narrows : name ∈ Method.narrowing)
      (called : Method.invoke run (.table handle table) name args machine = .ok (.table holder made) final) :
      Narrowed start made
  | numbered {table : Table Value} {rows : List Row} (before : Narrowed start table)
      (settled : Forall₂ Row.Settles table.rows rows) : Narrowed start (table.withRows rows)

section Narrowing

variable {β : Type} {holds : Row → Prop} {view : Row → β}

/-- Some of the rows, none of them twice, under the same columns and schema, as far as they are viewed in a way
that does not see numbering. -/
theorem Table.Narrowed.exists_rows {start made : Table Value} (narrowed : start.Narrowed made)
    (stays : ∀ row other, holds row → Row.Settles row other → holds other ∧ view other = view row)
    (first : ∀ row ∈ start.rows, holds row) :
    ∃ rows, made = start.withRows rows ∧ (∀ row ∈ rows, holds row) ∧
      (rows.map view).Subperm (start.rows.map view) := by
  -- A method chooses among the rows as they are, and numbering gives rows of the same view.
  induction narrowed with
  | start => exact ⟨start.rows, rfl, first, .refl _⟩
  | method _ narrows called ih =>
    obtain ⟨rows, rfl, each, fewer⟩ := ih
    obtain ⟨chosen, ⟨ordered, perm, sublist⟩, rfl⟩ := (Method.invoke_narrows _ _ _ narrows).result called _ _ rfl
    refine ⟨chosen, rfl, fun row member => each row (sublist.subset (perm.mem_iff.mpr member)), ?_⟩
    exact List.Subperm.trans ⟨ordered.map view, perm.map view, sublist.map view⟩ fewer
  | numbered _ settled ih =>
    obtain ⟨rows, rfl, each, fewer⟩ := ih
    have same := Value.map_eq_of_forall₂ settled fun row member other numbered =>
      (stays row other (each row member) numbered).2
    refine ⟨_, rfl, fun row member => ?_, same ▸ fewer⟩
    obtain ⟨source, earlier, numbered⟩ := source_of_mem settled member
    exact (stays source row (each source earlier) numbered).1

/-- What is chosen from images are the images of some items. -/
theorem exists_of_subperm_map {α β : Type} {f : α → β} {images : List β} {items : List α}
    (fewer : images.Subperm (items.map f)) : ∃ kept : List α, kept.Subperm items ∧ images = kept.map f := by
  obtain ⟨ordered, perm, sublist⟩ := fewer
  obtain ⟨source, chosen, rfl⟩ := List.sublist_map_iff.mp sublist
  have each : Forall₂ (fun image item => image = f item) (source.map f) source :=
    List.forall₂_map_left_iff.mpr (List.forall₂_same.mpr fun _ _ => rfl)
  obtain ⟨kept, same, moved⟩ := List.perm_comp_forall₂ perm.symm each
  refine ⟨kept, ⟨source, moved.symm, chosen⟩, ?_⟩
  exact List.forall₂_eq_eq_eq ▸ List.forall₂_map_right_iff.mpr same

namespace Query

theorem rowValue_table (schema : Schema Value) (columns : List String) (rows : List (List Scalar))
    (cellsOfRow : List Scalar) :
    (table columns rows (some schema)).rowValue (Record.bindData schema (row columns cellsOfRow)) =
      .ofRecord (record schema columns cellsOfRow) := rfl

theorem rows_table (schema : Schema Value) (columns : List String) (rows : List (List Scalar)) :
    (table columns rows (some schema)).rows =
      rows.map fun cellsOfRow => Record.bindData schema (row columns cellsOfRow) := List.map_map

/-- The rows that remain of a query are rows of the query, bound to the schema. -/
theorem exists_kept {schema : Schema Value} {columns : List String} {rows : List (List Scalar)} {made : Table Value}
    (narrowed : (table columns rows (some schema)).Narrowed made)
    (stays : ∀ row other, holds row → Row.Settles row other → holds other ∧ view other = view row)
    (first : ∀ cellsOfRow, holds (Record.bindData schema (row columns cellsOfRow))) :
    ∃ chosen kept, made = (table columns rows (some schema)).withRows chosen ∧ List.Subperm kept rows ∧
      chosen.map view = kept.map fun cellsOfRow => view (Record.bindData schema (row columns cellsOfRow)) := by
  have bound : ∀ held ∈ (table columns rows (some schema)).rows, holds held := by
    rw [rows_table]
    exact List.forall_mem_map.mpr fun cellsOfRow _ => first cellsOfRow
  obtain ⟨chosen, same, -, fewer⟩ := narrowed.exists_rows stays bound
  rw [rows_table, List.map_map] at fewer
  obtain ⟨kept, remain, images⟩ := exists_of_subperm_map fewer
  exact ⟨chosen, kept, same, remain, images⟩

end Query

end Narrowing

theorem Evaluator.index_table (run : Evaluator) (handle : Handle) (table : Table Value) {index : Int64}
    {place : Nat} {row : Row} (resolved : Position.resolve? index table.rows.length = some place)
    (found : table.rows[place]? = some row) (optional : Bool) (machine : Machine) :
    run.index (.table handle table) (.int index) optional machine = .ok (table.rowValue row) machine := by
  change Eval.lift (Position.element table.rows index optional table.rowValue) machine = _
  rw [Position.element, resolved, Option.bind_some, found]
  rfl

namespace Query

/-- Every index of the table reads the record of a row of the query, up to `same`, and no row of the query is read
at two places. -/
def Reads (same : Record Value → Record Value → Prop) (schema : Schema Value) (columns : List String)
    (rows : List (List Scalar)) (made : Table Value) : Prop :=
  ∃ kept : List (List Scalar), kept.Subperm rows ∧ made.rows.length = kept.length ∧
    ∀ run handle index optional machine place cellsOfRow,
      Position.resolve? index kept.length = some place → kept[place]? = some cellsOfRow →
      ∃ read, Evaluator.index run (.table handle made) (.int index) optional machine =
          .ok (.ofRecord read) machine ∧ same read (record schema columns cellsOfRow)

variable {schema : Schema Value} {columns : List String} {rows : List (List Scalar)}

theorem reads_of_images {β : Type} {view : Row → β} {same : Record Value → Record Value → Prop} {chosen : List Row}
    {kept : List (List Scalar)} (remain : kept.Subperm rows)
    (images : chosen.map view =
      kept.map fun cellsOfRow => view (Record.bindData schema (row columns cellsOfRow)))
    (seen : ∀ first second, view first = view second →
      same (Record.fresh schema first).validate (Record.fresh schema second).validate) :
    Reads same schema columns rows ((table columns rows (some schema)).withRows chosen) := by
  have length : chosen.length = kept.length := by
    rw [← List.length_map view, images, List.length_map]
  refine ⟨kept, remain, length, ?_⟩
  intro run handle index optional machine place cellsOfRow resolved found
  have there := congrArg (·[place]?) images
  simp only [List.getElem?_map, found, Option.map_some, Option.map_eq_some_iff] at there
  obtain ⟨held, present, shown⟩ := there
  rw [← length] at resolved
  refine ⟨(Record.fresh schema held).validate, ?_, seen held _ shown⟩
  exact Evaluator.index_table run handle ((table columns rows (some schema)).withRows chosen) resolved present
    optional machine

/-- Whatever the fallbacks are, the records are the same but for numbers. -/
theorem reads_alike {made : Table Value} (narrowed : (table columns rows (some schema)).Narrowed made) :
    Reads Record.Alike schema columns rows made := by
  have stays : ∀ row other, True → Row.Settles row other → True ∧ Row.unnumbered other = Row.unnumbered row :=
    fun row other _ numbered => ⟨trivial, numbered.unnumbered fun _ _ _ settles => settles.unnumbered⟩
  obtain ⟨chosen, kept, rfl, remain, images⟩ := exists_kept narrowed stays fun _ => trivial
  exact reads_of_images remain images fun _ _ same => Record.alike_validate same

/-- Where no fallback is a collection without a number, the records are the same. -/
theorem reads_same {made : Table Value} (narrowed : (table columns rows (some schema)).Narrowed made)
    (numbered : ∀ field ∈ schema.fields, ∀ value ∈ field.fallback, value.Settled) :
    Reads Eq schema columns rows made := by
  have stays : ∀ row other, Dictionary.All Value.Settled row → Row.Settles row other →
      Dictionary.All Value.Settled other ∧ other = row := by
    intro row other each settles
    obtain rfl := Row.eq_of_settles each settles
    exact ⟨each, rfl⟩
  obtain ⟨chosen, kept, rfl, remain, images⟩ :=
    exists_kept narrowed stays fun cellsOfRow => settled_bindData numbered columns cellsOfRow
  exact reads_of_images remain images fun _ _ same => same ▸ rfl

end Query

/-- The rows of a query read the same through the table and one by one, whatever the schema, the columns and the
cells are. The row at an index of the table is the record that its cells are bound and validated to. For the rows
that remain it still is once rows have been chosen and ordered by any sequence of methods: exactly if the fallbacks
are numbered, and else but for the numbers of the collections in them. A declared field, with a name of its own,
holds the cell of the last column with that name, cast, where a cell that the row is too short for is null, and its
fallback if no column has the name. -/
theorem Query.rows_read_alike (schema : Schema Value) (columns : List String) (rows : List (List Scalar)) :
    (table columns rows (some schema)).rowValues =
      rows.map (fun cellsOfRow => .ofRecord (record schema columns cellsOfRow)) ∧
    (∀ run handle index optional machine place cellsOfRow,
      Position.resolve? index rows.length = some place → rows[place]? = some cellsOfRow →
      Evaluator.index run (.table handle (table columns rows (some schema))) (.int index) optional machine =
        .ok (.ofRecord (record schema columns cellsOfRow)) machine) ∧
    (∀ made, (table columns rows (some schema)).Narrowed made →
      Reads Record.Alike schema columns rows made ∧
      ((∀ field ∈ schema.fields, ∀ value ∈ field.fallback, value.Settled) → Reads Eq schema columns rows made)) ∧
    (schema.fieldNames.Nodup → ∀ field ∈ schema.fields, ∀ cellsOfRow,
      (∀ front back, columns = front ++ field.name :: back → field.name ∉ back →
        (record schema columns cellsOfRow).data.get? field.name =
          some (Record.cast ((cellsOfRow[front.length]?.map Scalar.toValue).getD .null) field.typeName)) ∧
      (field.name ∉ columns →
        (record schema columns cellsOfRow).data.get? field.name = some (field.fallback.getD .null))) := by
  refine ⟨?_, ?_, fun made narrowed => ⟨reads_alike narrowed, reads_same narrowed⟩, ?_⟩
  · rw [Table.rowValues, rows_table, List.map_map]
    rfl
  · intro run handle index optional machine place cellsOfRow resolved found
    have there : (table columns rows (some schema)).rows[place]? =
        some (Record.bindData schema (row columns cellsOfRow)) := by
      rw [rows_table, List.getElem?_map, found, Option.map_some]
    rw [Evaluator.index_table run handle _ ?_ there, rowValue_table]
    rw [rows_table, List.length_map]
    exact resolved
  · intro distinct field declared cellsOfRow
    have held : (record schema columns cellsOfRow).data.get? field.name =
        some (Record.fieldValue field (row columns cellsOfRow)) := Record.get?_bindData distinct _ declared
    rw [held, Record.fieldValue]
    constructor
    · rintro front back rfl last
      rw [get?_row_of_last last]
    · intro absent
      rw [get?_row_of_absent absent]

namespace Query

/-- A schema with a fallback. -/
def noted : Schema Value where
  id := 0
  name := "Entry"
  fields := [FieldDecl.new "id" "int", { FieldDecl.new "note" "string" with fallback := some (.text "none") }].map
    (·.draft.field)

/-- A column that stands twice, one that is not declared, one that is missing, and a row that is too short. -/
def repeated : Table Value := table ["id", "other", "id"] [[.int 1, .null, .int 2], [.int 3]] (some noted)

/-- The last row is read the same by itself and after the first one is dropped. Its cell for `id` is missing at the
second place, where it counts. -/
theorem rows_read_alike_where_repeated :
    (∃ made, Method.invoke (.withFuel .default 1) (.table none repeated) "limit" [.int 1, .int 1] ⟨.empty, 0, 0⟩ =
        .ok (.ofTable made) ⟨.empty, 0, 0⟩ ∧
      ∃ read, Evaluator.index (.withFuel .default 1) (.table none made) (.int (-1)) false ⟨.empty, 0, 0⟩ =
          .ok (.ofRecord read) ⟨.empty, 0, 0⟩ ∧
        ∃ cellsOfRow ∈ [[.int 1, .null, .int 2], [.int 3]],
          read.Alike (record noted ["id", "other", "id"] cellsOfRow)) ∧
    Evaluator.index (.withFuel .default 1) (.table none repeated) (.int (-1)) false ⟨.empty, 0, 0⟩ =
      .ok (.ofRecord (record noted ["id", "other", "id"] [.int 3])) ⟨.empty, 0, 0⟩ ∧
    (record noted ["id", "other", "id"] [.int 3]).data.get? "id" = some .null ∧
    (record noted ["id", "other", "id"] [.int 3]).data.get? "note" = some (.text "none") := by
  obtain ⟨-, direct, remaining, fields⟩ :=
    rows_read_alike noted ["id", "other", "id"] [[.int 1, .null, .int 2], [.int 3]]
  have called : Method.invoke (.withFuel .default 1) (.table none repeated) "limit" [.int 1, .int 1] ⟨.empty, 0, 0⟩ =
      .ok (.ofTable (repeated.withRows (repeated.rows.drop 1))) ⟨.empty, 0, 0⟩ := rfl
  refine ⟨⟨_, called, ?_⟩, direct _ none (-1) false _ 1 _ rfl rfl, ?_, ?_⟩
  · obtain ⟨⟨kept, remain, length, reads⟩, -⟩ := remaining _ (.method .start (by decide) called)
    obtain ⟨cellsOfRow, rfl⟩ := List.length_eq_one_iff.mp length.symm
    obtain ⟨read, ran, alike⟩ := reads (.withFuel .default 1) none (-1) false ⟨.empty, 0, 0⟩ 0 cellsOfRow rfl rfl
    exact ⟨read, ran, cellsOfRow, remain.subset List.mem_cons_self, alike⟩
  · exact (fields (by decide) _ List.mem_cons_self [.int 3]).1 ["id", "other"] [] rfl List.not_mem_nil
  · exact (fields (by decide) _ (List.mem_cons_of_mem _ List.mem_cons_self) [.int 3]).2 (by decide)

end Query

end TableScript
