import TableScript.Proofs.Eval.Resolving
import TableScript.Proofs.Table.Columns

set_option autoImplicit false

namespace TableScript

open List (Forall₂)
open Eval (Numbers numbers_mapM numbers_pure)

/-- A dictionary as a program writes it for a row. -/
abbrev RowSource := Handle × Dictionary (Entry Value)

def RowSource.value (source : RowSource) : Value := .dict source.1 source.2

/-- Evaluates the dictionaries one after the other. -/
def Evaluator.forceEach (run : Evaluator) (sources : List RowSource) : Eval (List Row) :=
  sources.mapM fun source => run.forceRow source.1 source.2

/-- A table of all rows at once. -/
def Evaluator.tableAtOnce (run : Evaluator) (sources : List RowSource) : Eval (Table Value) := do
  return .ofRows (← run.forceEach sources)

/-- Appends the rows one after the other by calls of the method. -/
def Method.appendEach (run : Evaluator) (sources : List RowSource) (table : Table Value) : Eval Value :=
  sources.foldlM (fun receiver source => invoke run receiver "appendRow" [source.value]) (.ofTable table)

/-- The dictionaries have different keys each, and all of them the same ones as the columns. -/
structure Alike (columns : List String) (sources : List RowSource) : Prop where
  distinct : ∀ source ∈ sources, source.2.keys.Nodup
  same : ∀ source ∈ sources, ∀ name, name ∈ source.2.keys ↔ name ∈ columns

theorem Alike.tail {columns : List String} {source : RowSource} {rest : List RowSource}
    (alike : Alike columns (source :: rest)) : Alike columns rest where
  distinct other member := alike.distinct other (List.mem_cons_of_mem source member)
  same other member := alike.same other (List.mem_cons_of_mem source member)

namespace Table

variable {table : Table Value} {row : Row} {columns : List String}

theorem entries_project (distinct : columns.Nodup) (row : Row) :
    (project columns row).entries = columns.map fun column => (column, Row.cell row column) := by
  apply Dictionary.entries_ofList
  rw [List.map_map]
  exact (List.map_id columns).symm ▸ distinct

theorem keys_project (distinct : columns.Nodup) (row : Row) : (project columns row).keys = columns := by
  rw [Dictionary.keys, entries_project distinct, List.map_map]
  exact List.map_id columns

/-- A row projected to its own keys is the row. -/
theorem project_keys (keyed : row.keys.Nodup) : project row.keys row = row := by
  have pairs : ∀ pair ∈ row.entries, (pair.1, Row.cell row pair.1) = id pair := by
    intro pair member
    simp [Row.cell, Dictionary.get?_of_mem keyed member]
  have same : (project row.keys row).entries = row.entries := by
    rw [entries_project keyed, Dictionary.keys, List.map_map]
    exact (List.map_congr_left pairs).trans (List.map_id _)
  exact congrArg Dictionary.mk same

/-- A projection to all the keys of a row reads as the row. -/
theorem cell_project (distinct : columns.Nodup) (same : ∀ name, name ∈ row.keys ↔ name ∈ columns) (name : String) :
    Row.cell (project columns row) name = Row.cell row name := by
  have keys := keys_project distinct row
  by_cases declared : name ∈ columns
  · have stored : (name, Row.cell row name) ∈ (project columns row).entries := by
      rw [entries_project distinct]
      exact List.mem_map_of_mem declared
    rw [Row.cell, Dictionary.get?_of_mem (keys.symm ▸ distinct) stored]
    rfl
  · have absent : row.get? name = none := Dictionary.get?_eq_none_iff.mpr fun held => declared ((same name).mp held)
    have missing : (project columns row).get? name = none := by
      rwa [Dictionary.get?_eq_none_iff, keys]
    rw [Row.cell, Row.cell, absent, missing]

/-- A row with the columns of a table as its keys is stored in their order. -/
theorem appendRow_projects (distinct : table.columns.Nodup) (unbound : table.schema = none)
    (filled : table.rows ≠ []) (keyed : row.keys.Nodup) (same : ∀ name, name ∈ row.keys ↔ name ∈ table.columns) :
    table.appendRow row =
      .ok (table.derive table.columns (table.rows ++ [project table.columns row])) := by
  have occupied : table.rows.isEmpty = false := List.isEmpty_eq_false_iff.mpr filled
  have fits := (fits_iff distinct keyed).mpr same
  simp only [appendRow, fitRow, unbound, occupied, Bool.false_and, Bool.false_eq_true, ↓reduceIte]
  rw [if_pos fits]
  rfl

/-- The number of rows is the place after the last one. -/
theorem insertRow_size (table : Table Value) (row : Row) : table.insertRow table.size row = table.appendRow row := by
  have last : table.rows.insertIdx table.size = fun row => table.rows ++ [row] :=
    funext fun row => List.insertIdx_length_self
  rw [insertRow, appendRow, last]

theorem rowSlot_size {table : Table Value} {index : Int64} (last : index.toInt = table.size) :
    table.rowSlot index = .ok table.size := by
  have inside : ¬ (table.size : Int) < 0 := by omega
  simp [rowSlot, last, inside]

end Table

namespace Method

variable {run : Evaluator} {source : RowSource} {rest : List RowSource} {table : Table Value}

/-- One call of the method, if every row with the keys of the dictionary is taken by the table. -/
theorem appendEach_cons {grow : Row → Table Value}
    (grows : ∀ row : Row, row.keys = source.2.keys → table.appendRow row = .ok (grow row)) :
    appendEach run (source :: rest) table =
      run.forceRow source.1 source.2 >>= fun row => appendEach run rest (grow row) := by
  funext machine
  rw [appendEach, List.foldlM_cons]
  cases forced : run.forceRow source.1 source.2 machine with
  | error failure final =>
      have refused : invoke run (.ofTable table) "appendRow" [source.value] machine = .error failure final :=
        bind_of_error forced _
      rw [bind_of_error refused, bind_of_error forced]
  | ok row middle =>
      have keys := Makes.result (run.forceRow_keys source.1 source.2) forced
      have taken : invoke run (.ofTable table) "appendRow" [source.value] machine = _ :=
        Table.invoke_appendRow forced none
      rw [grows row keys] at taken
      rw [bind_of_ok forced]
      exact bind_of_ok taken _

/-- Rows appended to a table with rows are those that a single evaluation of all of them gives, in the order of
the columns. -/
theorem appendEach_filled {columns : List String} (distinct : columns.Nodup) {sources : List RowSource}
    (alike : Alike columns sources) {stored : List Row} (filled : stored ≠ []) :
    appendEach run sources (.plain columns stored) =
      run.forceEach sources >>= fun rows =>
        pure (.ofTable (.plain columns (stored ++ rows.map (Table.project columns)))) := by
  induction sources generalizing stored with
  | nil => simp [appendEach, Evaluator.forceEach]
  | cons source rest ih =>
      have grows : ∀ row : Row, row.keys = source.2.keys →
          Table.appendRow (.plain columns stored) row =
            .ok (.plain columns (stored ++ [Table.project columns row])) := by
        intro row keys
        apply Table.appendRow_projects distinct rfl filled
        · rw [keys]
          exact alike.distinct source List.mem_cons_self
        · rw [keys]
          exact alike.same source List.mem_cons_self
      rw [appendEach_cons grows]
      simp only [ih alike.tail (List.append_ne_nil_of_right_ne_nil _ (List.cons_ne_nil _ _)), Evaluator.forceEach,
        List.mapM_cons, bind_assoc, pure_bind, List.map_cons, List.append_assoc, List.singleton_append]

/-- The first row gives an empty table its columns. -/
theorem appendEach_empty (run : Evaluator) (first : RowSource) (rest : List RowSource)
    (alike : Alike first.2.keys (first :: rest)) :
    appendEach run (first :: rest) (.plain [] []) =
      run.forceEach (first :: rest) >>= fun rows =>
        pure (.ofTable (.plain first.2.keys (rows.map (Table.project first.2.keys)))) := by
  have distinct := alike.distinct first List.mem_cons_self
  have grows : ∀ row : Row, row.keys = first.2.keys →
      Table.appendRow (.plain [] []) row = .ok (.plain first.2.keys [Table.project first.2.keys row]) := by
    intro row keys
    rw [← keys, Table.project_keys (keys ▸ distinct)]
    rfl
  rw [appendEach_cons grows]
  simp only [appendEach_filled distinct alike.tail (List.cons_ne_nil _ _), Evaluator.forceEach, List.mapM_cons, bind_assoc,
    pure_bind, List.map_cons, List.singleton_append]

/-- A row inserted at the number of rows is appended. -/
theorem insertRowAt_size {index : Int64} (last : index.toInt = table.size) (run : Evaluator) (handle : Handle)
    (source : RowSource) :
    invoke run (.table handle table) "insertRowAt" [.int index, source.value] =
      invoke run (.table handle table) "appendRow" [source.value] := by
  change ((liftM (table.rowSlot index) : Eval Nat) >>= fun slot => run.forceRow source.1 source.2 >>= fun row =>
    (liftM (table.insertRow slot row) : Eval (Table Value)) >>= fun made => pure (Value.ofTable made)) = _
  rw [Table.rowSlot_size last]
  change (run.forceRow source.1 source.2 >>= fun row =>
    (liftM (table.insertRow table.size row) : Eval (Table Value)) >>= fun made => pure (Value.ofTable made)) = _
  simp only [Table.insertRow_size]
  rfl

end Method

namespace Evaluator

variable {run : Evaluator} {sources : List RowSource}

theorem forceEach_keys (run : Evaluator) (sources : List RowSource) :
    Method.Makes (Forall₂ (fun (source : RowSource) (row : Row) => row.keys = source.2.keys) sources)
      (run.forceEach sources) :=
  Yields.mapM_each fun source _ => run.forceRow_keys source.1 source.2

theorem forceEach_numbers (options : Options) (complete : ∀ source ∈ sources, source.value.Complete) {fuel : Nat}
    (enough : sizeOf (sources.map fun source => source.value.unnumbered) < fuel) :
    Numbers (Forall₂ (fun (source : RowSource) (row : Row) =>
      (Value.ofRow row).unnumbered = source.value.unnumbered) sources)
      ((withFuel options fuel).forceEach sources) := by
  apply numbers_mapM
  intro source member
  obtain ⟨handle, entries⟩ := source
  obtain ⟨row, rfl, each⟩ := Value.exists_row_of_complete (complete _ member)
  have shown : (RowSource.value (handle, row.map .ready)).unnumbered = .ofRow row.unnumbered :=
    Value.unnumbered_row handle row
  have smaller := List.sizeOf_lt_of_mem
    (List.mem_map_of_mem (f := fun source : RowSource => source.value.unnumbered) member)
  rw [shown] at smaller
  apply (withFuel_forceRow options each handle (Nat.lt_trans smaller enough)).imp
  intro forced same
  rw [Value.unnumbered_ofRow, same, shown]

end Evaluator

namespace Session

theorem run_ok {α : Type} {action : Eval α} {session : Session} {value : α} {machine : Machine}
    (ran : action session.machine = .ok value machine) :
    run action session = .ok value { session with machine := machine } := by
  simp only [run, ran]

theorem run_error {α : Type} {action : Eval α} {session : Session} {error : Failure} {machine : Machine}
    (failed : action session.machine = .error error machine) :
    run action session = .error (failure error) { session with machine := machine } := by
  simp only [run, failed]

theorem mapM_rowOf (sources : List RowSource) (session : Session) :
    (sources.map RowSource.value).mapM rowOf session =
      run ((Evaluator.standard session.options).forceEach sources) session := by
  induction sources generalizing session with
  | nil => rfl
  | cons source rest ih =>
      rw [List.map_cons, List.mapM_cons, Evaluator.forceEach, List.mapM_cons]
      have here : rowOf source.value session =
          run ((Evaluator.standard session.options).forceRow source.1 source.2) session := rfl
      cases forced : (Evaluator.standard session.options).forceRow source.1 source.2 session.machine with
      | error error machine =>
          rw [run_error forced] at here
          rw [bind_of_error here, run_error (bind_of_error forced _)]
      | ok row machine =>
          rw [run_ok forced] at here
          have later := ih { session with machine := machine }
          rw [bind_of_ok here]
          cases others : (Evaluator.standard session.options).forceEach rest machine with
          | error error final =>
              rw [run_error others] at later
              rw [bind_of_error later, run_error ((bind_of_ok forced _).trans (bind_of_error others _))]
          | ok rows final =>
              rw [run_ok others] at later
              rw [bind_of_ok later, run_ok ((bind_of_ok forced _).trans (bind_of_ok others _))]
              rfl

/-- The constructor of tables, given dictionaries, makes a table at once. -/
theorem tableOf_array (sources : List RowSource) (owner : Handle) (session : Session) :
    tableOf (.array owner (sources.map RowSource.value)) session =
      run ((Evaluator.standard session.options).tableAtOnce sources) session := by
  have rows := mapM_rowOf sources session
  change ((sources.map RowSource.value).mapM rowOf >>= fun rows => pure (Table.ofRows rows)) session = _
  cases forced : (Evaluator.standard session.options).forceEach sources session.machine with
  | error error machine =>
      have failed : (Evaluator.standard session.options).tableAtOnce sources session.machine = .error error machine :=
        bind_of_error forced _
      rw [run_error forced] at rows
      rw [bind_of_error rows, run_error failed]
  | ok made machine =>
      have ran : (Evaluator.standard session.options).tableAtOnce sources session.machine =
          .ok (.ofRows made) machine := bind_of_ok forced _
      rw [run_ok forced] at rows
      rw [bind_of_ok rows, run_ok ran]
      rfl

end Session

namespace Table

/-- A table made row by row and one made at once, of rows with the keys: the same cells in every row, under any
name, and the keys as columns, of which the second table leaves out the internal ones. -/
structure Matches (keys : List String) (made whole : Table Value) : Prop where
  columns : made.columns = keys
  external : whole.columns = keys.filter fun key => !isInternal key
  cells : ∀ name, (made.rows.map fun row => Row.cell row name) = whole.rows.map fun row => Row.cell row name

theorem Matches.columns_eq_iff {keys : List String} {made whole : Table Value} (agree : Matches keys made whole) :
    made.columns = whole.columns ↔ ∀ key ∈ keys, isInternal key = false := by
  rw [agree.columns, agree.external, eq_comm, List.filter_eq_self]
  simp

theorem matches_of_keys {first : RowSource} {rest : List RowSource} (alike : Alike first.2.keys (first :: rest))
    {rows : List Row}
    (keys : Forall₂ (fun (source : RowSource) (row : Row) => row.keys = source.2.keys) (first :: rest) rows) :
    Matches first.2.keys (.plain first.2.keys (rows.map (project first.2.keys))) (.ofRows rows) := by
  have distinct := alike.distinct first List.mem_cons_self
  have read : ∀ row ∈ rows, ∀ name, Row.cell (project first.2.keys row) name = Row.cell row name := by
    intro row member name
    obtain ⟨source, held, same⟩ := source_of_mem keys member
    apply cell_project distinct
    rw [same]
    exact alike.same source held
  cases keys with
  | cons here others =>
      refine ⟨rfl, ?_, ?_⟩
      · exact congrArg (List.filter _) here
      · intro name
        rw [plain, List.map_map]
        exact List.map_congr_left fun row member => read row member name

/-- Appending the rows does what making the table at once does: it evaluates the same, fails as that does, and
the tables match. -/
theorem appendEach_matches (run : Evaluator) {first : RowSource} {rest : List RowSource}
    (alike : Alike first.2.keys (first :: rest)) (machine : Machine) :
    (∃ made whole final,
        Method.appendEach run (first :: rest) (.plain [] []) machine = .ok (.ofTable made) final ∧
        run.tableAtOnce (first :: rest) machine = .ok whole final ∧ Matches first.2.keys made whole) ∨
      ∃ failure final, Method.appendEach run (first :: rest) (.plain [] []) machine = .error failure final ∧
        run.tableAtOnce (first :: rest) machine = .error failure final := by
  rw [Method.appendEach_empty run first rest alike, Evaluator.tableAtOnce]
  cases forced : run.forceEach (first :: rest) machine with
  | error failure final => exact .inr ⟨failure, final, bind_of_error forced _, bind_of_error forced _⟩
  | ok rows final =>
      have keys := Method.Makes.result (run.forceEach_keys (first :: rest)) forced
      exact .inl ⟨_, _, final, bind_of_ok forced _, bind_of_ok forced _, matches_of_keys alike keys⟩

/-- Dictionaries with the same keys make the same table row by row and at once, but that the first row of an
empty table makes internal keys columns, too: the columns are the same exactly if no key is internal. Evaluated
dictionaries are taken in both ways and give their values. The constructor makes a table at once, and a row that
is inserted at the number of rows is appended. -/
theorem rowByRow_agrees (first : RowSource) (rest : List RowSource) (alike : Alike first.2.keys (first :: rest)) :
    ((∀ source ∈ first :: rest, source.value.Complete) → ∃ enough, ∀ fuel ≥ enough, ∀ options machine,
      ∃ made whole collections,
        Method.appendEach (.withFuel options fuel) (first :: rest) (.plain [] []) machine =
          .ok (.ofTable made) ⟨machine.store, machine.depth, collections⟩ ∧
        Evaluator.tableAtOnce (.withFuel options fuel) (first :: rest) machine =
          .ok whole ⟨machine.store, machine.depth, collections⟩ ∧
        Matches first.2.keys made whole ∧
        (made.columns = whole.columns ↔ ∀ key ∈ first.2.keys, isInternal key = false) ∧
        Forall₂ (fun (source : RowSource) (row : Row) => (Value.ofRow row).unnumbered = source.value.unnumbered)
          (first :: rest) whole.rows) ∧
    (∀ run machine,
      (∃ made whole final,
          Method.appendEach run (first :: rest) (.plain [] []) machine = .ok (.ofTable made) final ∧
          run.tableAtOnce (first :: rest) machine = .ok whole final ∧ Matches first.2.keys made whole) ∨
        ∃ failure final, Method.appendEach run (first :: rest) (.plain [] []) machine = .error failure final ∧
          run.tableAtOnce (first :: rest) machine = .error failure final) ∧
    (∀ owner session, Session.tableOf (.array owner ((first :: rest).map RowSource.value)) session =
      Session.run ((Evaluator.standard session.options).tableAtOnce (first :: rest)) session) ∧
    ∀ run handle (table : Table Value) (index : Int64) (source : RowSource), index.toInt = table.size →
      Method.invoke run (.table handle table) "insertRowAt" [.int index, source.value] =
        Method.invoke run (.table handle table) "appendRow" [source.value] := by
  have agree := fun run machine => appendEach_matches run alike machine
  refine ⟨?_, agree, fun owner session => Session.tableOf_array _ owner session,
    fun run handle table index source last => Method.insertRowAt_size last run handle source⟩
  intro complete
  refine ⟨sizeOf ((first :: rest).map fun source => source.value.unnumbered) + 1, ?_⟩
  intro fuel enough options machine
  obtain ⟨rows, collections, forced, same⟩ := Evaluator.forceEach_numbers options complete enough machine
  have whole : Evaluator.tableAtOnce (.withFuel options fuel) (first :: rest) machine =
      .ok (.ofRows rows) ⟨machine.store, machine.depth, collections⟩ := bind_of_ok forced _
  rcases agree (.withFuel options fuel) machine with
    ⟨made, other, final, appended, ran, alikeTables⟩ | ⟨failure, final, -, failed⟩
  · rw [whole] at ran
    cases ran
    refine ⟨made, _, collections, appended, whole, alikeTables, alikeTables.columns_eq_iff, ?_⟩
    cases rows <;> exact same
  · rw [whole] at failed
    cases failed

/-- Two rows with the same keys, the second one in another order, and an insertion after the last of two rows. -/
theorem rowByRow_agrees_in_other_order :
    let first : RowSource := (none, Dictionary.map .ready ⟨[("b", .int 1), ("a", .text "x")]⟩)
    let second : RowSource := (none, Dictionary.map .ready ⟨[("a", .null), ("b", .ofItems [.int 2])]⟩)
    let pair : Table Value := .plain ["b"] [⟨[("b", .int 1)]⟩, ⟨[("b", .int 2)]⟩]
    Alike first.2.keys [first, second] ∧ (∀ source ∈ [first, second], source.value.Complete) ∧
    (2 : Int64).toInt = pair.size ∧
    (∃ enough, ∀ fuel ≥ enough, ∀ machine, ∃ made whole final,
      Method.appendEach (.withFuel .default fuel) [first, second] (.plain [] []) machine =
        .ok (.ofTable made) final ∧
      Evaluator.tableAtOnce (.withFuel .default fuel) [first, second] machine = .ok whole final ∧
      made.columns = ["b", "a"] ∧ whole.columns = ["b", "a"] ∧
      (made.rows.map fun row => Row.cell row "a") = whole.rows.map fun row => Row.cell row "a") ∧
    ∀ run, Method.invoke run (.table none pair) "insertRowAt" [.int 2, first.value] =
      Method.invoke run (.table none pair) "appendRow" [first.value] := by
  intro first second pair
  have alike : Alike first.2.keys [first, second] := by
    refine ⟨by decide, ?_⟩
    intro source member name
    simp only [List.mem_cons, List.not_mem_nil, or_false] at member
    rcases member with rfl | rfl
    · rfl
    · change name ∈ ["a", "b"] ↔ name ∈ ["b", "a"]
      simp [or_comm]
  have complete : ∀ source ∈ [first, second], source.value.Complete := by
    intro source member
    simp only [List.mem_cons, List.not_mem_nil, or_false] at member
    rcases member with rfl | rfl
    · apply Value.complete_ofRow
      simp [Dictionary.values, Value.Scalar.complete]
    · apply Value.complete_ofRow
      simp [Dictionary.values, Value.ofItems, Value.complete_array, Value.Scalar.complete]
  have last : (2 : Int64).toInt = pair.size := by decide
  obtain ⟨evaluated, -, -, inserted⟩ := rowByRow_agrees first [second] alike
  refine ⟨alike, complete, last, ?_, fun run => inserted run none pair 2 first last⟩
  obtain ⟨enough, both⟩ := evaluated complete
  refine ⟨enough, ?_⟩
  intro fuel large machine
  obtain ⟨made, whole, collections, appended, ran, agree, same, -⟩ := both fuel large .default machine
  have columns : made.columns = ["b", "a"] := agree.columns
  have plain : ∀ key ∈ first.2.keys, isInternal key = false := by decide
  exact ⟨made, whole, _, appended, ran, columns, (same.mpr plain) ▸ columns, agree.cells "a"⟩

end Table

namespace Session

/-- A row with an internal key, appended to an empty table and made a table at once. -/
def internalKey : List Command :=
  [.table "t" (.array []), .eval (.method (.ident "t") "appendRow" [.dict 1 [("__id", .int 1), ("a", .int 2)]]),
    .table "u" (.array [.dict 2 [("__id", .int 1), ("a", .int 2)]])]

/-- Only the row that is appended makes the internal key a column. -/
theorem internal_key_becomes_column :
    ((start .default).steps internalKey).1.map shapeShown? =
      [some ([], []), some (["__id", "a"], [["__id", "a"]]), some (["a"], [["__id", "a"]])] := by
  decide +kernel

end Session

end TableScript
