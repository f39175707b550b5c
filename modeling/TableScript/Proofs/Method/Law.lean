import TableScript.Method.Basic
import TableScript.Proofs.Eval.Logic
import TableScript.Proofs.Method.Simulation

set_option autoImplicit false

namespace TableScript

variable {law : Law}

namespace Argument

theorem nth_lawful {args : List Value} (given : ∀ arg ∈ args, law.Throughout arg) (place : Nat) :
    law.Throughout (nth args place) := by
  unfold nth
  cases found : args[place]? with
  | none => exact Law.throughout_scalar .null
  | some arg => exact given arg (List.mem_of_getElem? found)

theorem dictionary_lawful {method : String} {value : Value} (lawful : law.Throughout value) :
    Gives (fun row => law.Throughout (.dict row.1 row.2)) (dictionary method value) := by
  intro row keyed
  rw [eq_of_dictionary keyed] at lawful
  exact lawful

theorem none_lawful {method : String} {args : List Value} {result : Value} (lawful : law.Throughout result) :
    Gives law.Throughout (none method args result) := gives_bind fun _ _ => gives_pure.mpr lawful

theorem function_lawful (method : String) {value : Value} (lawful : law.Throughout value) :
    Gives law.Throughout (function method value) := by
  unfold function
  split
  · exact gives_ok.mpr lawful
  · exact gives_error _

theorem oneFunction_lawful (method : String) {args : List Value} (given : ∀ arg ∈ args, law.Throughout arg) :
    Gives law.Throughout (oneFunction method args) :=
  gives_bind fun _ _ => function_lawful method (nth_lawful given 0)

theorem size_lawful (length : Nat) : law.Throughout (size length) := Law.throughout_scalar (.int _)

end Argument

namespace Method

theorem dictionaryView_lawful {handle : Handle} {entries : Dictionary (Entry Value)} {args : List Value}
    (held : law.Throughout (.dict handle entries)) (given : ∀ arg ∈ args, law.Throughout arg)
    (name : String) : Gives law.Throughout (dictionaryView entries name args) := by
  have each := Law.throughout_dict.mp held
  unfold dictionaryView
  split
  · exact Argument.none_lawful (Law.throughout_texts _)
  · exact gives_bind fun key _ => by simp
  · exact Argument.none_lawful (Argument.size_lawful _)
  · exact gives_bind fun key _ => gives_pure.mpr (Law.throughout_ofEntries.mpr (each.erase key))
  · refine gives_bind fun _ _ => gives_bind fun key _ => ?_
    have new : law.Entered (.ready (Argument.nth args 1)) := Argument.nth_lawful given 1
    exact gives_pure.mpr (Law.throughout_ofEntries.mpr (each.insert key new))
  · exact gives_error _

theorem text_lawful (value name : String) (args : List Value) :
    Gives law.Throughout (text value name args) := by
  unfold text
  split
  · exact Argument.none_lawful (Argument.size_lawful _)
  · exact Argument.none_lawful (Law.throughout_scalar (.text _))
  · exact Argument.none_lawful (Law.throughout_scalar (.text _))
  · exact Argument.none_lawful (Law.throughout_scalar (.text _))
  · exact gives_error _

theorem metadata_lawful {binding : Schema Value} (lawful : law.Throughout (.schema binding))
    (field key : String) : law.Throughout (binding.metadata field key) := by
  unfold Schema.metadata Schema.metadata? Schema.field?
  cases found : binding.fields.find? (·.name == field) with
  | none => exact Law.throughout_scalar .null
  | some declared =>
      have each := ((Law.throughout_schema.mp lawful).2 declared (List.mem_of_find?_eq_some found)).2
      cases known : declared.metadata.get? key with
      | none => simp [known]
      | some value => simpa [known] using each.get? known

theorem fieldView_lawful {binding : Schema Value} (lawful : law.Throughout (.schema binding)) (name : String)
    (args : List Value) : Gives law.Throughout (fieldView binding name args) := by
  unfold fieldView
  split
  · exact gives_bind fun field _ => by simp
  · exact gives_bind fun field _ => gives_pure.mpr (metadata_lawful lawful field _)
  · refine gives_bind fun _ _ => gives_bind fun field _ => gives_bind fun key _ => ?_
    exact gives_pure.mpr (metadata_lawful lawful field key)
  · exact gives_bind fun field _ => gives_pure.mpr (Law.throughout_texts _)
  · exact gives_error _

theorem schema_lawful {binding : Schema Value} (lawful : law.Throughout (.schema binding)) (name : String)
    (args : List Value) : Gives law.Throughout (schema binding name args) := by
  unfold schema
  split
  · exact Argument.none_lawful (Law.throughout_texts _)
  · exact Argument.none_lawful (Law.throughout_texts _)
  · refine Argument.none_lawful ?_
    cases binding.primaryKey? <;> simp
  · exact Argument.none_lawful (Law.throughout_scalar (.text _))
  · exact fieldView_lawful lawful _ args

theorem dictOf_lawful {pairs : List (String × Value)} (each : ∀ pair ∈ pairs, law.Throughout pair.2) :
    law.Throughout (dictOf pairs) := Law.throughout_ofRow (Dictionary.All.ofList each)

theorem errorsValue_lawful (errors : FieldErrors) : law.Throughout (errorsValue errors) := by
  refine dictOf_lawful fun pair member => ?_
  obtain ⟨⟨field, error⟩, -, rfl⟩ := List.mem_map.mp member
  exact dictOf_lawful (by simp)

theorem errorList_lawful (errors : FieldErrors) : law.Throughout (errorList errors) := by
  refine Law.throughout_ofItems.mpr fun value member => ?_
  obtain ⟨⟨field, error⟩, -, rfl⟩ := List.mem_map.mp member
  exact dictOf_lawful (by simp)

theorem dataWithErrors_lawful {record : Record Value} (each : record.data.All law.Throughout) :
    law.Throughout (.ofRow (dataWithErrors record)) := by
  refine Law.throughout_ofRow ?_
  unfold dataWithErrors
  split
  · exact each.insert _ (errorsValue_lawful record.errors)
  · exact each

end Method

namespace Law.Kept

variable (kept : law.Kept)
include kept

theorem recordView_lawful {handle : Handle} {record : Record Value}
    (lawful : law.Throughout (.record handle record)) (name : String) (args : List Value) :
    Gives law.Throughout (Method.recordView record name args) := by
  obtain ⟨-, binding, stored⟩ := throughout_record.mp lawful
  have each : record.data.All law.Throughout := stored.imp fun _ held => held.2
  unfold Method.recordView
  split
  · refine gives_bind fun field _ => ?_
    split
    · exact gives_pure.mpr (Row.cell_of_all each (throughout_scalar .null) field)
    · exact gives_error _
  · exact Argument.none_lawful (kept.validate_lawful lawful)
  · exact Argument.none_lawful (throughout_scalar (.bool _))
  · exact Argument.none_lawful (Method.errorsValue_lawful _)
  · refine gives_bind fun field _ => ?_
    cases record.errors.get? field <;> simp
  · refine gives_bind fun field _ => ?_
    cases record.errors.get? field <;> simp
  · exact gives_bind fun field _ => by simp
  · exact Argument.none_lawful (Method.errorList_lawful _)
  · refine gives_bind fun _ _ => gives_bind fun field _ => gives_bind fun first _ => ?_
    split
    · exact gives_pure.mpr (kept.withError_lawful field _ lawful)
    · exact gives_bind fun message _ => gives_pure.mpr (kept.withError_lawful field _ lawful)
  · exact Argument.none_lawful binding
  · exact Argument.none_lawful (throughout_ofRow each)
  · exact Argument.none_lawful (throughout_ofRow each)
  · exact Argument.none_lawful (Method.dataWithErrors_lawful each)
  · exact Argument.none_lawful (throughout_texts _)
  · exact Method.fieldView_lawful binding _ args
  · exact Method.fieldView_lawful binding _ args
  · exact Method.fieldView_lawful binding _ args
  · exact Method.fieldView_lawful binding _ args
  · exact gives_error _

theorem tableView_lawful {handle : Handle} {table : Table Value}
    (lawful : law.Throughout (.table handle table)) (name : String) (args : List Value) :
    Gives law.Throughout (Method.tableView table name args) := by
  unfold Method.tableView
  split
  case h_1 =>
    refine gives_bind fun _ _ => ?_
    split
    · exact gives_bind fun columns _ => gives_pure.mpr (kept.select_lawful lawful columns)
    · exact gives_error _
  case h_2 =>
    have limited : ∀ count offset, Gives law.Throughout (Value.ofTable <$> table.limit count offset) :=
      fun count offset => Gives.map (kept.limit_lawful lawful count offset)
    refine gives_bind fun _ _ => gives_bind fun count _ => ?_
    split
    · exact gives_bind fun offset _ => limited count offset
    · exact limited count 0
  case h_7 =>
    refine gives_bind fun column _ => (kept.column_lawful lawful column).bind fun values each => ?_
    exact gives_pure.mpr (throughout_ofItems.mpr each)
  case h_8 => exact Argument.none_lawful (throughout_ofItems.mpr (kept.rowValues_lawful lawful))
  case h_9 =>
    refine gives_bind fun _ _ => gives_bind fun old _ => gives_bind fun new _ => ?_
    exact (kept.renameColumn_lawful lawful old new).bind fun renamed held => gives_pure.mpr held
  case h_10 =>
    have dropped : ∀ names, Gives law.Throughout (Value.ofTable <$> table.dropColumns names) :=
      fun names => Gives.map (kept.dropColumns_lawful lawful names)
    split
    · exact gives_bind fun _ _ => gives_bind fun names _ => dropped names
    · exact gives_bind fun names _ => dropped names
  case h_11 =>
    refine gives_bind fun _ _ => ?_
    split
    · exact gives_pure.mpr (kept.uniqueRows_lawful lawful)
    · refine gives_bind fun column _ => (kept.uniqueValues_lawful lawful column).bind fun values each => ?_
      exact gives_pure.mpr (throughout_ofItems.mpr each)
  case h_12 =>
    refine gives_bind fun column _ => ?_
    exact (kept.groupBy_lawful lawful column).bind fun groups held => gives_pure.mpr held
  case h_13 => exact gives_bind fun column _ => (Aggregate.sum_scalar table column).imp fun _ => throughout_scalar
  case h_14 =>
    exact gives_bind fun column _ => (Aggregate.average_scalar table column).imp fun _ => throughout_scalar
  case h_15 => exact gives_bind fun column _ => kept.least_lawful lawful column
  case h_16 => exact gives_bind fun column _ => kept.greatest_lawful lawful column
  case h_21 => exact gives_error _
  case h_6 => exact Argument.none_lawful (throughout_texts _)
  case h_3 | h_4 | h_5 => exact Argument.none_lawful (Argument.size_lawful _)
  case h_17 | h_18 | h_19 | h_20 => exact Argument.none_lawful (throughout_scalar (.text _))

end Law.Kept

/-- The values that a column takes up, or the function that makes them, obey the law. -/
def Method.ColumnSource.Lawful (law : Law) : ColumnSource → Prop
  | .values items => ∀ item ∈ items, law.Throughout item
  | .compute f => law.Throughout f

theorem Method.columnSource_lawful {value : Value} (method : String) (lawful : law.Throughout value) :
    Gives (ColumnSource.Lawful law) (columnSource method value) := by
  unfold columnSource
  split
  · exact gives_ok.mpr (Law.throughout_array.mp lawful)
  · exact gives_ok.mpr lawful
  · exact gives_error _

namespace Method

variable (run : Evaluator)

theorem dictionary_of_ne (handle : Handle) (entries : Dictionary (Entry Value)) {name : String}
    (args : List Value) (other : name ≠ "values") :
    dictionary run handle entries name args = Eval.lift (dictionaryView entries name args) := by
  unfold dictionary
  split
  · contradiction
  · rfl

/-- What is ordered has the same rows. -/
theorem orderBy_yields {invariant : Machine → Prop} (held : Table Value) (keys : List SortKey) :
    Yields invariant (fun value => ∃ rows : List Row, rows.Perm held.rows ∧ value = .ofTable (held.withRows rows))
      (orderBy held keys) := by
  unfold orderBy
  split
  · rename_i ordered sorted
    obtain ⟨rows, made, rfl⟩ := Option.map_eq_some_iff.mp sorted
    exact yields_pure ⟨rows, Sorting.stable?_perm _ held.rows rows made, rfl⟩
  · exact yields_throw _

theorem orderBy_steady (held : Table Value) (keys : List SortKey) : (orderBy held keys).Steady := by
  intro machine
  unfold orderBy
  cases sorted : held.orderBy? keys with
  | some ordered => exact Eval.pure_steady _ machine
  | none => exact ⟨Table.contradictory_of_orderBy? sorted, rfl⟩

/-- The methods of a table that do more than look at it. -/
def evaluating : List String :=
  ["orderBy", "where", "appendRow", "insertRowAt", "appendCol", "insertColAfter", "insertColBefore", "map", "find", "any",
    "all"]

theorem table_of_not_mem (held : Table Value) {name : String} (args : List Value) (other : name ∉ evaluating) :
    table run held name args = Eval.lift (tableView held name args) := by
  unfold table
  split <;> first | rfl | exact absurd (by decide) other

end Method

namespace Logic.Serves

variable {logic : Logic law} (serves : logic.Serves)
include serves

theorem dictionary {handle : Handle} {entries : Dictionary (Entry Value)} {args : List Value}
    (held : law.Throughout (.dict handle entries)) (given : ∀ arg ∈ args, law.Throughout arg)
    (name : String) :
    logic.holds law.Throughout fun run => Method.dictionary run handle entries name args := by
  by_cases reads : name = "values"
  · subst name
    refine check fun _ _ => ?_
    have forced : ∀ entry ∈ entries.values, logic.holds law.Throughout fun run =>
        run.force (.dict handle entries) entry :=
      fun entry member => serves.force held (Law.throughout_dict.mp held entry member)
    exact logic.sequence (mapM forced) fun values each => returns (Law.throughout_ofItems.mpr each)
  · refine restate (fun run => Method.dictionary_of_ne run handle entries args reads) ?_
    exact lift (Method.dictionaryView_lawful held given _)

variable (kept : law.Kept)
include kept

/-- The kept items are some of the items. -/
theorem keepItems {α : Type} {f : Value} {toArg : α → Value} {items : List α}
    (called : law.Throughout f) (given : ∀ item ∈ items, law.Throughout (toArg item)) :
    logic.holds (fun chosen => ∀ item ∈ chosen, item ∈ items) fun run =>
      Method.keepItems run f toArg items := by
  induction items with
  | nil => exact returns fun item none => none
  | cons item rest ih =>
      have first : ∀ arg ∈ [toArg item], law.Throughout arg :=
        List.forall_mem_singleton.mpr (given item List.mem_cons_self)
      refine logic.sequence (serves.call kept called first) fun wanted _ => ?_
      refine logic.sequence (ih fun later member => given later (List.mem_cons_of_mem item member))
        fun others chosen => returns fun other member => ?_
      split at member
      · rcases List.mem_cons.mp member with rfl | later
        · exact List.mem_cons_self
        · exact List.mem_cons_of_mem item (chosen other later)
      · exact List.mem_cons_of_mem item (chosen other member)

theorem mapItems {items args : List Value} (held : ∀ item ∈ items, law.Throughout item)
    (given : ∀ arg ∈ args, law.Throughout arg) :
    logic.holds law.Throughout fun run => Method.array run items "map" args := by
  refine logic.sequence (outcome (Argument.oneFunction_lawful _ given)) fun f called => ?_
  have results : ∀ item ∈ items, logic.holds law.Throughout fun run => run.call f [item] := fun item member =>
    serves.call kept called (List.forall_mem_singleton.mpr (held item member))
  exact logic.sequence (mapM results) fun values each => returns (Law.throughout_ofItems.mpr each)

theorem filterItems {items args : List Value} (held : ∀ item ∈ items, law.Throughout item)
    (given : ∀ arg ∈ args, law.Throughout arg) :
    logic.holds law.Throughout fun run => Method.array run items "filter" args := by
  refine logic.sequence (outcome (Argument.oneFunction_lawful _ given)) fun f called => ?_
  refine logic.sequence (serves.keepItems kept called held) fun chosen some => ?_
  exact returns (Law.throughout_ofItems.mpr fun item member => held item (some item member))

theorem array {items args : List Value} (held : ∀ item ∈ items, law.Throughout item)
    (given : ∀ arg ∈ args, law.Throughout arg) (name : String) :
    logic.holds law.Throughout fun run => Method.array run items name args := by
  by_cases maps : name = "map"
  · subst name
    exact serves.mapItems kept held given
  by_cases filters : name = "filter"
  · subst name
    exact serves.filterItems kept held given
  by_cases counts : name = "len"
  · subst name
    exact lift (Argument.none_lawful (Argument.size_lawful _))
  by_cases reverses : name = "reverse"
  · subst name
    refine lift (Argument.none_lawful (Law.throughout_ofItems.mpr fun item member => ?_))
    exact held item (List.mem_reverse.mp member)
  · refine restate (fun run => ?_) (fails (.noMethod name "array"))
    unfold Method.array
    split <;> first | rfl | contradiction

theorem record {handle : Handle} {record : Record Value} {args : List Value}
    (held : law.Throughout (.record handle record)) (given : ∀ arg ∈ args, law.Throughout arg)
    (name : String) : logic.holds law.Throughout fun run => Method.record run record name args := by
  by_cases sets : name = "set"
  · subst name
    refine check fun _ _ => check fun field _ => ?_
    cases found : record.schema.field? field with
    | none => exact fails _
    | some declared =>
        refine logic.sequence (serves.resolve (Argument.nth_lawful given 1)) fun value resolved => ?_
        have stored := kept.stored_cast (kept.stored_of_resolved resolved) declared.typeName
        exact logic.sequence (outcome (kept.setField_lawful held field stored)) fun changed fresh => returns fresh
  by_cases updates : name = "update"
  · subst name
    refine check fun _ _ => ?_
    refine logic.sequence (outcome (Argument.dictionary_lawful (Argument.nth_lawful given 0))) fun changes known => ?_
    refine logic.sequence (serves.forceStored kept known) fun row each => ?_
    exact returns (kept.update_lawful held each)
  · refine restate (fun run => ?_) (lift (kept.recordView_lawful held name args))
    unfold Method.record
    split <;> first | rfl | contradiction

section Tables

variable {handle : Handle} {table : Table Value} (held : law.Throughout (.table handle table))
include held

theorem callRow {f : Value} {row : Row} (called : law.Throughout f) (member : row ∈ table.rows) :
    logic.holds law.Throughout fun run => run.call f [table.rowValue row] :=
  serves.call kept called (List.forall_mem_singleton.mpr (kept.rowValue_lawful held member))

theorem columnValues {source : Method.ColumnSource} (known : source.Lawful law) :
    logic.holds (fun values => ∀ value ∈ values, law.Stored value) fun run =>
      Method.columnValues run table source := by
  cases source with
  | values items =>
      refine ite (fun _ => ?_) fun _ => fails _
      refine imp (serves.resolveAll known) fun values each => ?_
      exact fun value member => kept.stored_of_resolved (each value member)
  | compute f =>
      refine mapM fun row member => ?_
      refine logic.sequence (serves.callRow kept held known member) fun value given => ?_
      exact imp (serves.resolve given) fun _ => kept.stored_of_resolved

theorem addColumn {source : Method.ColumnSource} (known : source.Lawful law) (name : String)
    (place : Table.Place) :
    logic.holds law.Throughout fun run => Method.addColumn run table name place source := by
  refine check fun slot _ => logic.sequence (serves.columnValues kept held known) fun values each => ?_
  exact returns (kept.withColumn_lawful held name place slot each)

theorem addBeside {args : List Value} (given : ∀ arg ∈ args, law.Throughout arg) (method : String)
    (place : String → Table.Place) :
    logic.holds law.Throughout fun run => Method.addBeside run table method place args := by
  refine check fun _ _ => check fun anchor _ => check fun name _ => ?_
  have source := Method.columnSource_lawful method (Argument.nth_lawful given 2)
  exact logic.sequence (outcome source) fun source known => serves.addColumn kept held known name _

/-- A row that is found is one of the rows. -/
theorem findRow {f : Value} {rows : List Row} (called : law.Throughout f) (wanted : Bool)
    (old : ∀ row ∈ rows, row ∈ table.rows) :
    logic.holds (fun found => ∀ row, found = some row → row ∈ table.rows) fun run =>
      Method.findRow run table f wanted rows := by
  induction rows with
  | nil => exact returns nofun
  | cons row rest ih =>
      refine logic.sequence (serves.callRow kept held called (old row List.mem_cons_self)) fun value _ => ?_
      refine ite (fun _ => returns ?_) fun _ =>
        ih fun later member => old later (List.mem_cons_of_mem row member)
      rintro other ⟨⟩
      exact old row List.mem_cons_self

theorem found {args : List Value} (given : ∀ arg ∈ args, law.Throughout arg) (method : String) (wanted : Bool)
    {shown : Option Row → Value} (shows : ∀ found, (∀ row, found = some row → row ∈ table.rows) →
      law.Throughout (shown found)) :
    logic.holds law.Throughout fun run => do
      let f ← (liftM (Argument.oneFunction method args) : Eval Value)
      return shown (← Method.findRow run table f wanted table.rows) := by
  refine logic.sequence (outcome (Argument.oneFunction_lawful method given)) fun f called => ?_
  refine logic.sequence (serves.findRow kept held called wanted fun _ member => member) fun found old => ?_
  exact returns (shows found old)

end Tables

theorem table {handle : Handle} {table : Table Value} {args : List Value}
    (held : law.Throughout (.table handle table)) (given : ∀ arg ∈ args, law.Throughout arg)
    (name : String) : logic.holds law.Throughout fun run => Method.table run table name args := by
  by_cases evaluates : name ∈ Method.evaluating
  · simp only [Method.evaluating, List.mem_cons, List.not_mem_nil, or_false] at evaluates
    rcases evaluates with rfl | rfl | rfl | rfl | rfl | rfl | rfl | rfl | rfl | rfl | rfl
    · refine check fun _ _ => check fun keys _ => ?_
      refine logic.steady ((Method.orderBy_yields table keys).imp ?_) (Method.orderBy_steady table keys)
      rintro _ ⟨rows, permuted, rfl⟩
      exact kept.rows_lawful held fun row => permuted.mem_iff.mp
    · refine logic.sequence (outcome (Argument.oneFunction_lawful _ given)) fun f called => ?_
      refine logic.sequence (serves.keepItems kept called fun row => kept.rowValue_lawful held) fun rows old => ?_
      exact returns (kept.rows_lawful held old)
    · refine check fun _ _ => ?_
      refine logic.sequence (outcome (Argument.dictionary_lawful (Argument.nth_lawful given 0))) fun row known => ?_
      refine logic.sequence (serves.forceStored kept known) fun forced each => ?_
      exact logic.sequence (outcome (kept.appendRow_lawful held each)) fun grown done => returns done
    · refine check fun _ _ => check fun index _ => ?_
      refine logic.sequence (outcome (Argument.dictionary_lawful (Argument.nth_lawful given 1))) fun row known => ?_
      refine check fun slot _ => logic.sequence (serves.forceStored kept known) fun forced each => ?_
      exact logic.sequence (outcome (kept.insertRow_lawful held slot each)) fun grown done => returns done
    · refine check fun _ _ => check fun column _ => ?_
      have source := Method.columnSource_lawful "appendCol" (Argument.nth_lawful given 1)
      exact logic.sequence (outcome source) fun source known => serves.addColumn kept held known column _
    · exact serves.addBeside kept held given _ _
    · exact serves.addBeside kept held given _ _
    · refine logic.sequence (outcome (Argument.oneFunction_lawful _ given)) fun f called => ?_
      refine logic.sequence (mapM fun row => serves.callRow kept held called) fun values each => ?_
      exact returns (Law.throughout_ofItems.mpr each)
    · refine serves.found kept held given _ true fun found old => ?_
      cases found with
      | none => exact Law.throughout_scalar .null
      | some row => exact kept.rowValue_lawful held (old row rfl)
    · exact serves.found kept held given _ true fun _ _ => Law.throughout_scalar (.bool _)
    · exact serves.found kept held given _ false fun _ _ => Law.throughout_scalar (.bool _)
  · refine restate (fun run => Method.table_of_not_mem run table args evaluates) ?_
    exact lift (kept.tableView_lawful held name args)

theorem invoke {receiver : Value} {args : List Value} (held : law.Throughout receiver)
    (given : ∀ arg ∈ args, law.Throughout arg) (name : String) :
    logic.holds law.Throughout fun run => Method.invoke run receiver name args := by
  cases receiver with
  | dict handle entries => exact serves.dictionary held given name
  | array handle items => exact serves.array kept (Law.throughout_array.mp held) given name
  | text value => exact lift (Method.text_lawful value name args)
  | record handle record => exact serves.record kept held given name
  | schema binding => exact lift (Method.schema_lawful held name args)
  | table handle table => exact serves.table kept held given name
  | null | bool | int | float | quantity | money | function | error => exact fails _

end Logic.Serves

end TableScript
