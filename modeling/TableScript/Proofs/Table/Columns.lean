import Mathlib.Data.List.InsertIdx
import Mathlib.Data.List.Nodup
import Mathlib.Data.List.Perm.Subperm
import TableScript.Proofs.Schema.Shape
import TableScript.Proofs.Table.Basic

set_option autoImplicit false

namespace TableScript

namespace Table

variable {table : Table Value}

/-- A new name keeps the names different, wherever it is put. -/
theorem nodup_insertIdx {columns : List String} {name : String} (distinct : columns.Nodup)
    (new : name ∉ columns) (slot : Nat) : (columns.insertIdx slot name).Nodup := by
  by_cases inside : slot ≤ columns.length
  · rw [(List.perm_insertIdx name columns inside).nodup_iff]
    exact List.nodup_cons.mpr ⟨new, distinct⟩
  · rw [List.insertIdx_of_length_lt (Nat.lt_of_not_le inside)]
    exact distinct

theorem columnSlot_new {name : String} {place : Place} {slot : Nat}
    (free : table.columnSlot name place = .ok slot) : name ∉ table.columns := by
  unfold columnSlot at free
  split at free
  · cases free
  · rename_i absent
    rwa [hasColumn_iff] at absent

theorem nodup_renameColumn (distinct : table.columns.Nodup) (old new : String) :
    Gives (fun made => made.columns.Nodup) (table.renameColumn old new) := by
  unfold renameColumn
  split
  · exact gives_error _
  · split
    · exact gives_error _
    · rename_i free
      refine gives_ok.mpr (List.Nodup.map_on (fun first present second also same => ?_) distinct)
      -- Only `old` changes, into a name that no other column has.
      have unused : ∀ column ∈ table.columns, column ≠ old → column ≠ new := by
        rintro column member other rfl
        exact free ⟨Ne.symm other, (hasColumn_iff column).mpr member⟩
      split at same
      · rename_i here
        split at same
        · rename_i there
          rw [here, there]
        · rename_i there
          exact absurd same.symm (unused second also there)
      · rename_i here
        split at same
        · exact absurd same (unused first present here)
        · exact same

theorem nodup_limit (distinct : table.columns.Nodup) (count offset : Int64) :
    Gives (fun made => made.columns.Nodup) (table.limit count offset) := by
  unfold limit
  repeat' split
  · exact gives_error _
  · exact gives_error _
  · exact gives_ok.mpr distinct

theorem nodup_dropColumns (distinct : table.columns.Nodup) (names : List String) :
    Gives (fun made => made.columns.Nodup) (table.dropColumns names) := by
  unfold dropColumns
  split
  · exact gives_error _
  · exact gives_ok.mpr (distinct.filter _)

theorem nodup_fitRow (distinct : table.columns.Nodup) {row : Row} (keyed : row.keys.Nodup) :
    Gives (fun fitted => fitted.1.Nodup) (table.fitRow row) := by
  unfold fitRow
  repeat' split
  · exact gives_ok.mpr distinct
  · exact gives_ok.mpr keyed
  · exact gives_ok.mpr distinct
  · exact gives_error _

theorem nodup_appendRow (distinct : table.columns.Nodup) {row : Row} (keyed : row.keys.Nodup) :
    Gives (fun made => made.columns.Nodup) (table.appendRow row) :=
  (nodup_fitRow distinct keyed).bind fun _ fitted => gives_pure.mpr fitted

theorem nodup_insertRow (distinct : table.columns.Nodup) (slot : Nat) {row : Row} (keyed : row.keys.Nodup) :
    Gives (fun made => made.columns.Nodup) (table.insertRow slot row) :=
  (nodup_fitRow distinct keyed).bind fun _ fitted => gives_pure.mpr fitted

/-- As many keys as columns, and every column among them: the keys are the columns. -/
theorem fits_iff (distinct : table.columns.Nodup) {row : Row} (keyed : row.keys.Nodup) :
    (row.size = table.columns.length ∧ table.columns.all row.contains) ↔
      ∀ name, name ∈ row.keys ↔ name ∈ table.columns := by
  have length : row.keys.length = row.size := List.length_map _
  simp only [List.all_eq_true, Dictionary.contains_iff]
  constructor
  · rintro ⟨size, covered⟩
    have same : table.columns.Perm row.keys :=
      (distinct.subperm covered).perm_of_length_le (by omega)
    exact fun name => same.mem_iff.symm
  · intro same
    have ordered := (List.perm_ext_iff_of_nodup keyed distinct).mpr same
    exact ⟨by rw [← length, ordered.length_eq], fun name member => (same name).mpr member⟩

/-- A row is added to a table with rows and without a schema where it has exactly the columns. -/
theorem appendRow_ok_iff (distinct : table.columns.Nodup) (unbound : table.schema = none)
    (filled : table.rows ≠ []) {row : Row} (keyed : row.keys.Nodup) :
    (∃ made, table.appendRow row = .ok made) ↔ ∀ name, name ∈ row.keys ↔ name ∈ table.columns := by
  have occupied : (table.rows.isEmpty && table.columns.isEmpty) = false := by
    rw [Bool.and_eq_false_iff]
    exact .inl (List.isEmpty_eq_false_iff.mpr filled)
  rw [← fits_iff distinct keyed]
  simp only [appendRow, fitRow, unbound, occupied]
  by_cases fits : row.size = table.columns.length ∧ table.columns.all row.contains
  · simp only [fits, and_self, Bool.false_eq_true, ↓reduceIte, iff_true]
    exact ⟨_, rfl⟩
  · simp only [fits, Bool.false_eq_true, ↓reduceIte, iff_false]
    rintro ⟨made, added⟩
    cases added

end Table

/-- Some declaration made the schema. -/
def Schema.Made (binding : Schema Value) : Prop := ∃ id name decls, declare id name decls = .ok binding

theorem Schema.Made.nodup {binding : Schema Value} (made : binding.Made) : binding.fieldNames.Nodup := by
  obtain ⟨id, name, decls, declared⟩ := made
  exact (declare_declared id name decls binding declared).nodup

/-- No column of a table stands twice. Nothing is asked of other values. -/
def Value.Columned : Value → Prop
  | .table _ held => held.columns.Nodup
  | _ => True

theorem Value.Scalar.columned {value : Value} (scalar : value.Scalar) : value.Columned := by
  cases scalar <;> trivial

/-- A row is read as a dictionary or a record. -/
theorem Table.rowValue_columned (table : Table Value) (row : Row) : (table.rowValue row).Columned := by
  unfold Table.rowValue
  split <;> trivial

namespace Method

/-- Whether the arguments list no name of a projection twice, and no dictionary among them has a key twice. -/
structure Apart (name : String) (args : List Value) : Prop where
  names : name = "select" → ∀ handle items, args = [.array handle items] → items.Nodup
  keys : ∀ handle entries, .dict handle entries ∈ args → entries.keys.Nodup

/-- The methods of a table that give a cell, which may hold anything. -/
def choosing : List String := ["min", "max"]

theorem texts_written (method : String) (items : List Value) :
    Gives (fun names => items = names.map .text) (Argument.texts method items) := by
  unfold Argument.texts
  induction items with
  | nil => exact gives_pure.mpr rfl
  | cons item rest ih =>
      rw [List.mapM_cons]
      refine gives_bind fun name read => ih.bind fun names others => gives_pure.mpr ?_
      cases item with
      | text value =>
          cases read
          rw [others, List.map_cons]
      | null | bool | int | float | quantity | money | array | dict | table | record | schema | function
        | error => cases read

variable {table : Table Value} {name : String} {args : List Value}

theorem select_columned (apart : Apart "select" args) : Gives Value.Columned (tableView table "select" args) := by
  refine gives_bind fun _ single => ?_
  split
  · rename_i handle items first
    refine (texts_written "select" items).bind fun names written => gives_pure.mpr ?_
    have given : args = [.array handle items] := by
      obtain ⟨arg, rfl⟩ := List.length_eq_one_iff.mp (Argument.length_of_count single)
      rw [show arg = .array handle items from first]
    have distinct := apart.names rfl handle items given
    rw [written] at distinct
    exact List.Nodup.of_map _ distinct
  · exact gives_error _

theorem tableView_columned (distinct : table.columns.Nodup) (apart : Apart name args)
    (makes : name ∉ choosing) : Gives Value.Columned (tableView table name args) := by
  have same : ∀ rows, (Value.ofTable (table.withRows rows)).Columned := fun _ => distinct
  unfold tableView
  split
  case h_1 => exact select_columned apart
  case h_2 =>
    have limited : ∀ count offset, Gives Value.Columned (Value.ofTable <$> table.limit count offset) :=
      fun count offset => Gives.map (Table.nodup_limit distinct count offset)
    refine gives_bind fun _ _ => gives_bind fun count _ => ?_
    split
    · exact gives_bind fun offset _ => limited count offset
    · exact limited count 0
  case h_9 =>
    refine gives_bind fun _ _ => gives_bind fun old _ => gives_bind fun new _ => ?_
    exact (Table.nodup_renameColumn distinct old new).bind fun made named => gives_pure.mpr named
  case h_10 =>
    have dropped : ∀ names, Gives Value.Columned (Value.ofTable <$> table.dropColumns names) :=
      fun names => Gives.map (Table.nodup_dropColumns distinct names)
    split
    · exact gives_bind fun _ _ => gives_bind fun names _ => dropped names
    · exact gives_bind fun names _ => dropped names
  case h_11 =>
    refine gives_bind fun _ _ => ?_
    split
    · exact gives_pure.mpr (same _)
    · exact gives_bind fun _ _ => gives_bind fun _ _ => gives_pure.mpr trivial
  case h_12 => exact gives_bind fun _ _ => gives_bind fun _ _ => gives_pure.mpr trivial
  case h_13 => exact gives_bind fun column _ => (Aggregate.sum_scalar table column).imp fun _ => Value.Scalar.columned
  case h_14 =>
    exact gives_bind fun column _ => (Aggregate.average_scalar table column).imp fun _ => Value.Scalar.columned
  case h_15 | h_16 => exact absurd (by decide) makes
  case h_21 => exact gives_error _
  case h_7 => exact gives_bind fun _ _ => gives_bind fun _ _ => gives_pure.mpr trivial
  case h_3 | h_4 | h_5 | h_6 | h_8 | h_17 | h_18 | h_19 | h_20 =>
    exact gives_bind fun _ _ => gives_pure.mpr trivial

theorem nth_mem {place : Nat} {arg : Value} (given : Argument.nth args place = arg) (present : arg ≠ .null) :
    arg ∈ args := by
  unfold Argument.nth at given
  cases found : args[place]? with
  | none =>
      rw [found] at given
      exact absurd given.symm present
  | some value =>
      rw [found] at given
      rw [← show value = arg from given]
      exact List.mem_of_getElem? found

/-- A dictionary among the arguments is read as a row with different keys. -/
theorem forceRow_keyed (run : Evaluator) (apart : Apart name args) {place : Nat}
    {row : Handle × Dictionary (Entry Value)}
    (keyed : Argument.dictionary name (Argument.nth args place) = .ok row) :
    Makes (fun forced : Row => forced.keys.Nodup) (run.forceRow row.1 row.2) := by
  have given := nth_mem (Argument.eq_of_dictionary keyed) nofun
  refine (run.forceRow_keys row.1 row.2).imp fun forced keys => ?_
  rw [keys]
  exact apart.keys row.1 row.2 given

theorem addColumn_columned (run : Evaluator) (distinct : table.columns.Nodup) (column : String)
    (place : Table.Place) (source : ColumnSource) :
    Makes Value.Columned (addColumn run table column place source) := by
  refine Eval.check_yields fun slot free => (makes_any _).bind fun values _ => yields_pure ?_
  exact Table.nodup_insertIdx distinct (Table.columnSlot_new free) slot

theorem addBeside_columned (run : Evaluator) (distinct : table.columns.Nodup) (method : String)
    (place : String → Table.Place) : Makes Value.Columned (addBeside run table method place args) := by
  refine Eval.check_yields fun _ _ => Eval.check_yields fun anchor _ => ?_
  refine Eval.check_yields fun column _ => Eval.check_yields fun source _ => ?_
  exact addColumn_columned run distinct column _ source

/-- One method call: a table that it makes has no column twice if the receiver has none. -/
theorem invoke_columned (run : Evaluator) (handle : Handle) (distinct : table.columns.Nodup)
    (apart : Apart name args) (makes : name ∉ choosing) :
    Makes Value.Columned (invoke run (.table handle table) name args) := by
  have same : ∀ rows, (Value.ofTable (table.withRows rows)).Columned := fun _ => distinct
  change Makes Value.Columned (Method.table run table name args)
  unfold Method.table
  split
  case h_1 =>
    refine Eval.check_yields fun _ _ => Eval.check_yields fun keys _ => (orderBy_yields table keys).imp ?_
    rintro _ ⟨rows, -, rfl⟩
    exact same rows
  case h_2 => exact Eval.check_yields fun _ _ => (makes_any _).bind fun _ _ => yields_pure (same _)
  case h_3 =>
    refine Eval.check_yields fun _ _ => Eval.check_yields fun row keyed => ?_
    refine (forceRow_keyed run apart keyed).bind fun forced keys => ?_
    exact (Eval.outcome_yields (Table.nodup_appendRow distinct keys)).bind fun made grown => yields_pure grown
  case h_4 =>
    refine Eval.check_yields fun _ _ => Eval.check_yields fun index _ => Eval.check_yields fun row keyed => ?_
    refine Eval.check_yields fun slot _ => (forceRow_keyed run apart keyed).bind fun forced keys => ?_
    exact (Eval.outcome_yields (Table.nodup_insertRow distinct slot keys)).bind fun made grown => yields_pure grown
  case h_5 =>
    refine Eval.check_yields fun _ _ => Eval.check_yields fun column _ => Eval.check_yields fun source _ => ?_
    exact addColumn_columned run distinct column _ source
  case h_6 | h_7 => exact addBeside_columned run distinct _ _
  case h_8 => exact Eval.check_yields fun _ _ => (makes_any _).bind fun _ _ => yields_pure trivial
  case h_9 =>
    refine Eval.check_yields fun _ _ => (makes_any _).bind fun found _ => yields_pure ?_
    cases found with
    | none => trivial
    | some row => exact table.rowValue_columned row
  case h_10 | h_11 => exact Eval.check_yields fun _ _ => (makes_any _).bind fun _ _ => yields_pure trivial
  case h_12 => exact Eval.lift_yields (tableView_columned distinct apart makes)

/-- Every group of a table has the columns of the table. -/
theorem groupBy_columned (run : Evaluator) (handle : Handle) (distinct : table.columns.Nodup) :
    Makes (fun value => ∀ holder entries, value = .dict holder entries →
      entries.All fun entry => ∀ made, entry = .ready made → made.Columned)
      (invoke run (.table handle table) "groupBy" args) := by
  refine Eval.lift_yields (gives_bind fun column _ => gives_bind fun groups grouped => gives_pure.mpr ?_)
  rintro holder entries ⟨⟩
  refine Dictionary.All.map (Dictionary.All.map ?_)
  rintro group member made ⟨⟩
  unfold Table.groupBy at grouped
  split at grouped
  · cases grouped
    obtain ⟨pair, held, rfl⟩ := List.mem_map.mp member
    obtain ⟨rows, -, rfl⟩ := List.mem_map.mp held
    exact distinct
  · cases grouped

end Method

/-- The tables that come about from rows, queries and schemas by method calls, where no projection lists a name
twice and no query gives a column twice. Whatever evaluates the arguments and functions, on whatever machine, is
of no concern. -/
inductive Table.Reached : Table Value → Prop
  | ofRows {rows : List Row} (keyed : ∀ row ∈ rows, row.keys.Nodup) : Reached (.ofRows rows)
  | query {columns : List String} {rows : List (List TableScript.Scalar)} {binding : Option (Schema Value)}
      (apart : binding = none → columns.Nodup) (declared : ∀ schema ∈ binding, schema.Made) :
      Reached (Query.table columns rows binding)
  | bound {run : Evaluator} {binding : Schema Value} {args : List Value} {machine final : Machine}
      {handle : Handle} {made : Table Value} (declared : binding.Made)
      (called : run.call (.schema binding) args machine = .ok (.table handle made) final) : Reached made
  | method {run : Evaluator} {handle holder : Handle} {table made : Table Value} {name : String}
      {args : List Value} {machine final : Machine} (before : Reached table) (apart : Method.Apart name args)
      (makes : name ∉ Method.choosing)
      (called : Method.invoke run (.table handle table) name args machine = .ok (.table holder made) final) :
      Reached made
  | group {run : Evaluator} {handle holder inner : Handle} {table made : Table Value} {args : List Value}
      {entries : Dictionary (Entry Value)} {machine final : Machine} (before : Reached table)
      (called : Method.invoke run (.table handle table) "groupBy" args machine =
        .ok (.dict holder entries) final)
      (listed : .ready (.table inner made) ∈ entries.values) : Reached made
  | numbered {table : Table Value} {rows : List Row} (before : Reached table)
      (settled : List.Forall₂ Row.Settles table.rows rows) : Reached (table.withRows rows)

namespace Table

theorem nodup_ofRows {rows : List Row} (keyed : ∀ row ∈ rows, row.keys.Nodup) :
    (ofRows rows).columns.Nodup := by
  cases rows with
  | nil => exact List.nodup_nil
  | cons first rest => exact (keyed first List.mem_cons_self).filter _

theorem columned_call (run : Evaluator) {binding : Schema Value} (distinct : binding.fieldNames.Nodup)
    (args : List Value) : Method.Makes Value.Columned (run.call (.schema binding) args) := by
  match args with
  | [arg] =>
    cases arg with
    | dict => exact (Method.makes_any _).bind fun _ _ => yields_pure trivial
    | array => exact (Method.makes_any _).bind fun _ _ => yields_pure distinct
    | record => exact yields_pure trivial
    | table => exact yields_pure distinct
    | null | bool | int | float | quantity | text | money | schema | function | error =>
        exact Eval.fail_yields _
  | [] | _ :: _ :: _ => exact Eval.fail_yields _

theorem Reached.nodup {table : Table Value} (reached : table.Reached) : table.columns.Nodup := by
  induction reached with
  | ofRows keyed => exact nodup_ofRows keyed
  | @query columns rows binding apart declared =>
      cases binding with
      | none => exact apart rfl
      | some schema => exact (declared schema rfl).nodup
  | bound declared called =>
      have made := Method.Makes.result (columned_call _ declared.nodup _) called
      exact made
  | method _ apart makes called distinct =>
      have made := Method.Makes.result (Method.invoke_columned _ _ distinct apart makes) called
      exact made
  | group _ called listed distinct =>
      have grouped := Method.Makes.result (Method.groupBy_columned _ _ distinct) called
      exact grouped _ _ rfl _ listed _ rfl
  | numbered _ _ distinct => exact distinct

theorem invoke_appendRow {run : Evaluator} {table : Table Value} {holder : Handle}
    {entries : Dictionary (Entry Value)} {machine middle : Machine} {row : Row}
    (forced : run.forceRow holder entries machine = .ok row middle) (handle : Handle) :
    Method.invoke run (.table handle table) "appendRow" [.dict holder entries] machine =
      match table.appendRow row with
      | .ok made => .ok (.ofTable made) middle
      | .error error => .error (.error error) middle := by
  change (run.forceRow holder entries >>= fun row =>
    (liftM (table.appendRow row) : Eval (Table Value)) >>= fun made => pure (Value.ofTable made)) machine = _
  rw [bind_of_ok forced]
  cases table.appendRow row <;> rfl

/-- No column stands twice in a table that is reached. So a row whose entries can be evaluated is appended to
a table with rows and without a schema exactly if its keys are the columns. -/
theorem columns_unique {table : Table Value} (reached : table.Reached) :
    table.columns.Nodup ∧ (table.schema = none → table.rows ≠ [] →
      ∀ run handle holder entries machine row middle, entries.keys.Nodup →
        run.forceRow holder entries machine = .ok row middle →
        ((∃ value final, Method.invoke run (.table handle table) "appendRow" [.dict holder entries] machine =
            .ok value final) ↔
          ∀ name, name ∈ entries.keys ↔ name ∈ table.columns)) := by
  have distinct := reached.nodup
  refine ⟨distinct, fun unbound filled run handle holder entries machine row middle keyed forced => ?_⟩
  have keys := Method.Makes.result (run.forceRow_keys holder entries) forced
  rw [invoke_appendRow forced handle, ← keys,
    ← appendRow_ok_iff distinct unbound filled (keys ▸ keyed)]
  constructor
  · rintro ⟨value, final, added⟩
    cases grown : table.appendRow row with
    | ok made => exact ⟨made, rfl⟩
    | error error =>
        rw [grown] at added
        cases added
  · rintro ⟨made, grown⟩
    rw [grown]
    exact ⟨.ofTable made, middle, rfl⟩

/-- A row with `a` and `b`, projected to `b` and `a`. -/
def swapped : Table Value :=
  select (ofRows [⟨[("a", .int 1), ("b", .int 2)]⟩]) ["b", "a"]

/-- The projection takes a row with the same names in another order and none with a name of its own. -/
theorem columns_unique_when_swapped :
    swapped.Reached ∧ swapped.columns.Nodup ∧
    (∃ value final, Method.invoke (.withFuel .default 1) (.table none swapped) "appendRow"
      [.dict none ⟨[("a", .ready (.int 3)), ("b", .ready .null)]⟩] ⟨.empty, 0, 0⟩ = .ok value final) ∧
    ¬ ∃ value final, Method.invoke (.withFuel .default 1) (.table none swapped) "appendRow"
      [.dict none ⟨[("a", .ready (.int 3)), ("c", .ready .null)]⟩] ⟨.empty, 0, 0⟩ = .ok value final := by
  have reached : swapped.Reached := by
    have start : Table.Reached (.ofRows [⟨[("a", .int 1), ("b", .int 2)]⟩]) :=
      .ofRows (List.forall_mem_singleton.mpr (by decide))
    refine @Reached.method (.withFuel .default 1) none none _ _ "select" [.array none [.text "b", .text "a"]]
      ⟨.empty, 0, 0⟩ ⟨.empty, 0, 0⟩ start ⟨?_, ?_⟩ (by decide) rfl
    · rintro - handle items ⟨⟩
      simp
    · intro handle entries member
      simp at member
  obtain ⟨distinct, accepts⟩ := columns_unique reached
  have fits := accepts rfl nofun (.withFuel .default 1) none none
  refine ⟨reached, distinct, (fits _ _ _ _ (by decide) rfl).mpr ?_, fun added => ?_⟩
  · intro name
    simp [Dictionary.keys, swapped, select, plain, or_comm]
  · have absent := ((fits _ _ _ _ (by decide) rfl).mp added "c").mp (by simp [Dictionary.keys])
    simp [swapped, select, plain] at absent

end Table

namespace Session

/-- A table with the column `a` projected to `a` and `a`; to the projection a row with `a` is added, and a row
with `a` and `b`. -/
def projectTwice : List Command :=
  let projected : Expr := .method (.ident "t") "select" [.array [.text "a", .text "a"]]
  [.table "t" (.array [.dict 1 [("a", .int 1)]]), .eval projected,
    .eval (.method projected "appendRow" [.dict 2 [("a", .int 3)]]),
    .eval (.method projected "appendRow" [.dict 3 [("a", .int 3), ("b", .int 4)]])]

/-- The columns of a table that a reply shows, and the keys of its rows. -/
def shapeShown? : Except CommandError Reply → Option (List String × List (List String))
  | .ok (.value (.table _ made)) => some (made.columns, made.rows.map (·.keys))
  | _ => none

def errorShown? : Except CommandError Reply → Option CommandError
  | .ok _ => none
  | .error error => some error

/-- The projection has `a` twice. The row with `a` alone is refused, and of the row with `a` and `b` only the
first is kept. -/
theorem repeated_projection_misfits :
    (((start .default).steps projectTwice).1.map shapeShown?) =
      [some (["a"], [["a"]]), some (["a", "a"], [["a"]]), none, some (["a", "a"], [["a"], ["a"]])] ∧
    (((start .default).steps projectTwice).1.map errorShown?) =
      [none, none, some (.eval (.rowShape ["a", "a"] ["a"])), none] := by
  decide +kernel

end Session

end TableScript
