import TableScript.Proofs.Session.Law

set_option autoImplicit false

namespace TableScript

/-- The data has exactly the declared fields, in order. -/
def Record.Shaped (record : Record Value) : Prop := record.data.keys = record.schema.fieldNames

/-- If there is a schema, the columns and every row are exactly its fields, in order. -/
def Table.Shaped (table : Table Value) : Prop :=
  ∀ binding, table.schema = some binding →
    table.columns = binding.fieldNames ∧ ∀ row ∈ table.rows, row.keys = binding.fieldNames

/-- A record or a table has the shape of its schema. Other values have none to keep. -/
def Value.Shaped : Value → Prop
  | .record _ held => held.Shaped
  | .table _ held => held.Shaped
  | _ => True

theorem Schema.mem_of_field? {ν : Type} (schema : Schema ν) {name : String} {field : Field ν}
    (found : schema.field? name = some field) : field ∈ schema.fields ∧ field.name = name := by
  unfold field? at found
  exact ⟨List.mem_of_find?_eq_some found, by simpa using List.find?_some found⟩

theorem Schema.field?_of_mem {ν : Type} (schema : Schema ν) {field : Field ν}
    (distinct : schema.fieldNames.Nodup) (member : field ∈ schema.fields) :
    schema.field? field.name = some field := by
  unfold fieldNames at distinct
  unfold field?
  generalize schema.fields = fields at distinct member ⊢
  induction fields with
  | nil => cases member
  | cons first rest ih =>
    obtain ⟨fresh, distinct⟩ := List.nodup_cons.mp distinct
    rcases List.mem_cons.mp member with rfl | later
    · rw [List.find?_cons, beq_self_eq_true]
    · have apart : first.name ≠ field.name := fun same =>
        fresh (List.mem_map.mpr ⟨field, later, same.symm⟩)
      rw [List.find?_cons, beq_false_of_ne apart]
      exact ih distinct later

theorem Schema.mem_fieldNames_of_field? {ν : Type} {schema : Schema ν} {name : String} {field : Field ν}
    (found : schema.field? name = some field) : name ∈ schema.fieldNames := by
  obtain ⟨member, rfl⟩ := schema.mem_of_field? found
  exact List.mem_map_of_mem member

theorem Schema.isSome_field? {ν : Type} (schema : Schema ν) (name : String) :
    (schema.field? name).isSome = schema.hasField name := by
  rw [field?, hasField, List.isSome_find?]

theorem Record.entries_bindData {binding : Schema Value} (distinct : binding.fieldNames.Nodup) (data : Row) :
    (bindData binding data).entries = binding.fields.map fun field => (field.name, fieldValue field data) := by
  have names : (binding.fields.map fun field => (field.name, fieldValue field data)).map Prod.fst =
      binding.fieldNames := by
    simp only [List.map_map, Schema.fieldNames]
    rfl
  rw [bindData, Dictionary.entries_ofList (names ▸ distinct)]

theorem Record.keys_bindData {binding : Schema Value} (distinct : binding.fieldNames.Nodup) (data : Row) :
    (bindData binding data).keys = binding.fieldNames := by
  rw [Dictionary.keys, entries_bindData distinct, List.map_map, Schema.fieldNames]
  rfl

/-- Different field names in every schema, and the shape of the schema in every record and table. -/
def Law.shape : Law where
  cell _ := True
  schema binding := binding.fieldNames.Nodup
  record := Record.Shaped
  table := Table.Shaped

theorem Law.shape_kept : shape.Upheld where
  complete _ := trivial
  cellSettles _ _ := trivial
  declare made := (Schema.declare_declared _ _ _ _ made).nodup
  recordSettles settled shaped := settled.keys.trans shaped
  tableSettles := by
    intro table rows settled shaped binding bound
    refine ⟨(shaped binding bound).1, fun row member => ?_⟩
    obtain ⟨source, earlier, numbered⟩ := source_of_mem settled member
    exact numbered.keys.trans ((shaped binding bound).2 source earlier)
  create data distinct := Record.keys_bindData distinct data
  refresh shaped := shaped
  assign := by
    intro binding data key value declared shaped
    have named : key ∈ binding.fieldNames := by
      obtain ⟨field, listed, same⟩ := List.any_eq_true.mp declared
      exact List.mem_map.mpr ⟨field, listed, by simpa using same⟩
    have present : data.contains key = true := by
      rw [Dictionary.contains_iff, show data.keys = binding.fieldNames from shaped]
      exact named
    exact (Dictionary.keys_insert_of_contains value present).trans shaped
  validate shaped := shaped
  withError _ _ shaped := shaped
  row bound member shaped := (shaped _ bound).2 _ member
  unbound none := by
    intro binding bound
    rw [none] at bound
    cases bound
  bound := by
    intro table binding bound columns rows distinct other same
    cases bound.symm.trans same
    refine ⟨columns, fun row member => ?_⟩
    obtain ⟨data, rfl⟩ := rows row member
    exact Record.keys_bindData distinct data
  grow := by
    intro table binding rows bound origin distinct shaped other same
    cases bound.symm.trans same
    refine ⟨(shaped binding bound).1, fun row member => ?_⟩
    rcases origin row member with old | ⟨data, rfl⟩
    · exact (shaped binding bound).2 row old
    · exact Record.keys_bindData distinct data

theorem Law.shaped_of_throughout {value : Value} (lawful : shape.Throughout value) :
    ∀ part : Value, part.Occurs value → part.Shaped := by
  intro part deep
  have here := lawful part deep
  cases part with
  | record | table => exact here.1
  | null | bool | int | float | quantity | text | money | array | dict | schema | function | error => trivial

namespace Method

/-- The methods of a table that choose, add, rename or drop columns. -/
def reshaping : List String :=
  ["select", "appendCol", "insertColAfter", "insertColBefore", "renameCol", "dropCol"]

/-- A table that is bound to no schema. -/
def Unbound (value : Value) : Prop := ∃ made : Table Value, value = .ofTable made ∧ made.schema = none

theorem addColumn_unbound (run : Evaluator) (table : Table Value) (name : String) (place : Table.Place)
    (source : ColumnSource) : Makes Unbound (addColumn run table name place source) := by
  refine Eval.check_yields fun slot _ => (makes_any _).bind fun values _ => ?_
  exact yields_pure ⟨_, rfl, rfl⟩

theorem addBeside_unbound (run : Evaluator) (table : Table Value) (method : String)
    (place : String → Table.Place) (args : List Value) :
    Makes Unbound (addBeside run table method place args) := by
  refine Eval.check_yields fun _ _ => Eval.check_yields fun anchor _ => ?_
  refine Eval.check_yields fun name _ => Eval.check_yields fun source _ => ?_
  exact addColumn_unbound run table name _ source

theorem select_unbound (table : Table Value) (args : List Value) :
    Gives Unbound (tableView table "select" args) := by
  refine gives_bind fun _ _ => ?_
  split
  · exact gives_bind fun columns _ => gives_pure.mpr ⟨_, rfl, rfl⟩
  · exact gives_error _

theorem renameColumn_unbound {table made : Table Value} {old new : String}
    (renamed : table.renameColumn old new = .ok made) : made.schema = none := by
  unfold Table.renameColumn at renamed
  split at renamed
  · cases renamed
  · split at renamed
    · cases renamed
    · cases renamed
      rfl

theorem renameCol_unbound (table : Table Value) (args : List Value) :
    Gives Unbound (tableView table "renameCol" args) := by
  refine gives_bind fun _ _ => gives_bind fun old _ => gives_bind fun new _ => gives_bind fun made renamed => ?_
  exact gives_pure.mpr ⟨made, rfl, renameColumn_unbound renamed⟩

theorem dropColumns_unbound {table made : Table Value} {names : List String}
    (narrowed : table.dropColumns names = .ok made) : made.schema = none := by
  unfold Table.dropColumns at narrowed
  split at narrowed
  · cases narrowed
  · cases narrowed
    rfl

theorem dropCol_unbound (table : Table Value) (args : List Value) :
    Gives Unbound (tableView table "dropCol" args) := by
  have dropped : Gives Unbound (do
      let made ← table.dropColumns (← Argument.texts "dropCol" args)
      return Value.ofTable made) :=
    gives_bind fun names _ => gives_bind fun made narrowed =>
      gives_pure.mpr ⟨made, rfl, dropColumns_unbound narrowed⟩
  cases args with
  | nil => exact gives_throw _
  | cons first rest => exact dropped

theorem reshaping_unbound (run : Evaluator) (handle : Handle) (table : Table Value) {name : String}
    (args : List Value) (reshapes : name ∈ reshaping) :
    Makes Unbound (invoke run (.table handle table) name args) := by
  simp only [reshaping, List.mem_cons, List.not_mem_nil, or_false] at reshapes
  rcases reshapes with rfl | rfl | rfl | rfl | rfl | rfl
  · exact Eval.lift_yields (select_unbound table args)
  · refine Eval.check_yields fun _ _ => Eval.check_yields fun column _ => Eval.check_yields fun source _ => ?_
    exact addColumn_unbound run table column _ source
  · exact addBeside_unbound run table _ _ args
  · exact addBeside_unbound run table _ _ args
  · exact Eval.lift_yields (renameCol_unbound table args)
  · exact Eval.lift_yields (dropCol_unbound table args)

end Method

/-- The shape of the schema, for every session from its start on. Whatever the commands are, every record and
every table with a schema that occurs in a reply or under a name, at any depth, has exactly the declared
fields in order: as the keys of the data, as the columns, and as the keys of each row. So has whatever an
expression gives in any scope of the session then reached. A table method that chooses, adds, renames or drops
columns gives a table without a schema. -/
theorem Session.schema_shape (options : Options) (commands : List Command) :
    (∀ reply, .ok reply ∈ ((start options).steps commands).1 → ∀ shown ∈ reply.values,
      ∀ part : Value, part.Occurs shown → part.Shaped) ∧
    (∀ value, ((start options).steps commands).2.Holds value →
      ∀ part : Value, part.Occurs value → part.Shaped) ∧
    (∀ fuel expr scope value final,
      (Evaluator.withFuel options fuel).eval expr scope ((start options).steps commands).2.machine =
        .ok value final → ∀ part : Value, part.Occurs value → part.Shaped) ∧
    (∀ run handle table name args machine value final, name ∈ Method.reshaping →
      Method.invoke run (.table handle table) name args machine = .ok value final → Method.Unbound value) := by
  have kept := Law.shape_kept
  obtain ⟨replies, lawful⟩ := steps_lawful kept commands (start_lawful options) fun _ _ _ _ _ _ => trivial
  refine ⟨?_, ?_, ?_, ?_⟩
  · intro reply given shown member
    exact Law.shaped_of_throughout (replies reply given shown member)
  · intro value bound
    exact Law.shaped_of_throughout (lawful value bound)
  · intro fuel expr scope value final ran
    have yields := (Evaluator.withFuel_lawful kept options fuel).eval expr scope _ lawful
    rw [ran] at yields
    exact Law.shaped_of_throughout yields.1
  · intro run handle table name args machine value final reshapes ran
    have made := Method.reshaping_unbound run handle table args reshapes machine trivial
    rw [ran] at made
    exact made.1

end TableScript
