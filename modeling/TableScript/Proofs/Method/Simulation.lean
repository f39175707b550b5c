import TableScript.Proofs.Eval.Simulation
import TableScript.Proofs.Method.Miss

set_option autoImplicit false

namespace TableScript

/-- The miss that a call of the method that inserts a row ends in. -/
def Method.insertRefusal? : Value → String → List Value → Option EvalError
  | .table _ table, "insertRowAt", [.int index, .dict ..] =>
    match table.rowSlot index with
    | .error error => some error
    | .ok _ => none
  | _, _, _ => none

namespace Argument

/-- Two arguments that were counted are there by name. -/
theorem eq_of_count_two {method : String} {args : List Value} {done : Unit}
    (counted : count method 2 args = .ok done) : ∃ first second, args = [first, second] := by
  unfold count at counted
  match args with
  | [first, second] => exact ⟨first, second, rfl⟩
  | [] | [_] => simp at counted
  | _ :: _ :: _ :: _ => simp at counted

theorem length_of_count {method : String} {expected : Nat} {args : List Value} {done : Unit}
    (counted : count method expected args = .ok done) : args.length = expected := by
  unfold count at counted
  split at counted
  · rename_i enough
    exact enough
  · cases counted

theorem eq_of_integer {method : String} {value : Value} {index : Int64}
    (numbered : integer method value = .ok index) : value = .int index := by
  unfold integer at numbered
  split at numbered
  · cases numbered
    rfl
  · cases numbered

theorem eq_of_dictionary {method : String} {value : Value} {row : Handle × Dictionary (Entry Value)}
    (keyed : dictionary method value = .ok row) : value = .dict row.1 row.2 := by
  unfold dictionary at keyed
  split at keyed
  · cases keyed
    rfl
  · cases keyed

end Argument

namespace Simulation.Follows

variable {sim : Simulation} {run other : Evaluator} (follows : sim.Follows run other)
include follows

theorem dictionary (handle : Handle) (entries : Dictionary (Entry Value)) (name : String)
    (args : List Value) :
    sim.relates (Method.dictionary run handle entries name args)
      (Method.dictionary other handle entries name args) := by
  unfold Method.dictionary
  split
  · refine sim.sequence (outcome (Argument.count_neverMisses _ _ _)) fun _ => ?_
    exact sim.sequence (mapM (follows.force _) _) fun values => sim.returns _
  · exact lift (Method.dictionaryView_neverMisses _ _ _)

theorem keepItems {α : Type} (f : Value) (toArg : α → Value) (items : List α) :
    sim.relates (Method.keepItems run f toArg items) (Method.keepItems other f toArg items) := by
  induction items with
  | nil => exact sim.returns []
  | cons item rest ih =>
      refine sim.sequence (follows.call f [toArg item]) fun kept => ?_
      exact sim.sequence ih fun others => sim.returns _

theorem array (items : List Value) (name : String) (args : List Value) :
    sim.relates (Method.array run items name args) (Method.array other items name args) := by
  unfold Method.array
  split
  · exact lift (Argument.none_neverMisses _ _ _)
  · exact lift (Argument.none_neverMisses _ _ _)
  · refine sim.sequence (outcome (Argument.oneFunction_neverMisses _ _)) fun f => ?_
    exact sim.sequence (mapM (fun item => follows.call f [item]) _) fun results => sim.returns _
  · refine sim.sequence (outcome (Argument.oneFunction_neverMisses _ _)) fun f => ?_
    exact sim.sequence (follows.keepItems f id _) fun kept => sim.returns _
  · exact sim.fails _ rfl

theorem record (record : Record Value) (name : String) (args : List Value) :
    sim.relates (Method.record run record name args) (Method.record other record name args) := by
  unfold Method.record
  split
  · refine sim.sequence (outcome (Argument.count_neverMisses _ _ _)) fun _ => ?_
    refine sim.sequence (outcome (Argument.text_neverMisses _ _)) fun field => ?_
    split
    · exact sim.fails _ rfl
    · refine sim.sequence (follows.resolve _) fun value => ?_
      exact sim.sequence (outcome (Record.setField_neverMisses _ _ _)) fun changed => sim.returns _
  · refine sim.sequence (outcome (Argument.count_neverMisses _ _ _)) fun _ => ?_
    refine sim.sequence (outcome (Argument.dictionary_neverMisses _ _)) fun changes => ?_
    exact sim.sequence (follows.forceRow _ _) fun row => sim.returns _
  · exact lift (Method.recordView_neverMisses _ _ _)

theorem columnValues (table : Table Value) (source : Method.ColumnSource) :
    sim.relates (Method.columnValues run table source) (Method.columnValues other table source) := by
  unfold Method.columnValues
  split
  · split
    · exact mapM follows.resolve _
    · exact sim.fails _ rfl
  · refine mapM (fun row => ?_) _
    exact sim.sequence (follows.call _ _) fun value => follows.resolve value

theorem addColumn (table : Table Value) (name : String) (place : Table.Place)
    (source : Method.ColumnSource) :
    sim.relates (Method.addColumn run table name place source)
      (Method.addColumn other table name place source) := by
  refine sim.sequence (outcome (table.columnSlot_neverMisses name place)) fun slot => ?_
  exact sim.sequence (follows.columnValues table source) fun values => sim.returns _

theorem addBeside (table : Table Value) (method : String) (place : String → Table.Place)
    (args : List Value) :
    sim.relates (Method.addBeside run table method place args)
      (Method.addBeside other table method place args) := by
  refine sim.sequence (outcome (Argument.count_neverMisses _ _ _)) fun _ => ?_
  refine sim.sequence (outcome (Argument.text_neverMisses _ _)) fun anchor => ?_
  refine sim.sequence (outcome (Argument.text_neverMisses _ _)) fun name => ?_
  refine sim.sequence (outcome (Method.columnSource_neverMisses _ _)) fun source => ?_
  exact follows.addColumn table name (place anchor) source

theorem findRow (table : Table Value) (f : Value) (wanted : Bool) (rows : List Row) :
    sim.relates (Method.findRow run table f wanted rows) (Method.findRow other table f wanted rows) := by
  induction rows with
  | nil => exact sim.returns none
  | cons row rest ih =>
      refine sim.sequence (follows.call f [table.rowValue row]) fun found => ?_
      split
      · exact sim.returns (some row)
      · exact ih

/-- Inserting a row. The position is checked before any entry of the row is evaluated. -/
theorem insertRowAt (handle : Handle) (table : Table Value) (args : List Value)
    (refused : ∀ error, Method.insertRefusal? (.table handle table) "insertRowAt" args = some error →
      sim.relates (Eval.fail error : Eval Value) (Eval.fail error)) :
    sim.relates (Method.table run table "insertRowAt" args)
      (Method.table other table "insertRowAt" args) := by
  unfold Method.table
  refine check (Argument.count_neverMisses _ _ _) fun _ counted => ?_
  refine check (Argument.integer_neverMisses _ _) fun index numbered => ?_
  refine check (Argument.dictionary_neverMisses _ _) fun row keyed => ?_
  obtain ⟨first, second, rfl⟩ := Argument.eq_of_count_two counted
  obtain rfl : first = .int index := Argument.eq_of_integer numbered
  obtain rfl : second = .dict row.1 row.2 := Argument.eq_of_dictionary keyed
  cases placed : table.rowSlot index with
  | error error =>
      have named : Method.insertRefusal? (.table handle table) "insertRowAt"
          [.int index, .dict row.1 row.2] = some error := by
        simp only [Method.insertRefusal?, placed]
      exact refused error named
  | ok slot =>
      refine sim.sequence (sim.returns slot) fun slot => ?_
      refine sim.sequence (follows.forceRow row.1 row.2) fun forced => ?_
      exact sim.sequence (outcome (table.insertRow_neverMisses slot forced)) fun grown => sim.returns _

omit follows in
theorem orderBy (table : Table Value) (keys : List SortKey) :
    sim.relates (Method.orderBy table keys) (Method.orderBy table keys) := by
  unfold Method.orderBy
  split
  · exact sim.returns _
  · exact sim.disorders keys table.rows

theorem table (handle : Handle) (table : Table Value) (name : String) (args : List Value)
    (refused : ∀ error, Method.insertRefusal? (.table handle table) name args = some error →
      sim.relates (Eval.fail error : Eval Value) (Eval.fail error)) :
    sim.relates (Method.table run table name args) (Method.table other table name args) := by
  by_cases inserting : name = "insertRowAt"
  · subst name
    exact follows.insertRowAt handle table args refused
  · unfold Method.table
    split
    · refine sim.sequence (outcome (Argument.countIn_neverMisses _ _ _ _)) fun _ => ?_
      exact sim.sequence (outcome (Method.sortKeys_neverMisses args)) fun keys => orderBy table keys
    · refine sim.sequence (outcome (Argument.oneFunction_neverMisses _ _)) fun f => ?_
      exact sim.sequence (follows.keepItems f table.rowValue _) fun kept => sim.returns _
    · refine sim.sequence (outcome (Argument.count_neverMisses _ _ _)) fun _ => ?_
      refine sim.sequence (outcome (Argument.dictionary_neverMisses _ _)) fun row => ?_
      refine sim.sequence (follows.forceRow _ _) fun forced => ?_
      exact sim.sequence (outcome (table.appendRow_neverMisses forced)) fun grown => sim.returns _
    · exact absurd rfl inserting
    · refine sim.sequence (outcome (Argument.count_neverMisses _ _ _)) fun _ => ?_
      refine sim.sequence (outcome (Argument.text_neverMisses _ _)) fun column => ?_
      refine sim.sequence (outcome (Method.columnSource_neverMisses _ _)) fun source => ?_
      exact follows.addColumn table column .last source
    · exact follows.addBeside table _ .after args
    · exact follows.addBeside table _ .before args
    · refine sim.sequence (outcome (Argument.oneFunction_neverMisses _ _)) fun f => ?_
      exact sim.sequence (mapM (fun row => follows.call f [table.rowValue row]) _) fun results =>
        sim.returns _
    · refine sim.sequence (outcome (Argument.oneFunction_neverMisses _ _)) fun f => ?_
      exact sim.sequence (follows.findRow table f true _) fun found => sim.returns _
    · refine sim.sequence (outcome (Argument.oneFunction_neverMisses _ _)) fun f => ?_
      exact sim.sequence (follows.findRow table f true _) fun found => sim.returns _
    · refine sim.sequence (outcome (Argument.oneFunction_neverMisses _ _)) fun f => ?_
      exact sim.sequence (follows.findRow table f false _) fun found => sim.returns _
    · exact lift (Method.tableView_neverMisses _ _ _)

theorem invoke (receiver : Value) (name : String) (args : List Value)
    (refused : ∀ error, Method.insertRefusal? receiver name args = some error →
      sim.relates (Eval.fail error : Eval Value) (Eval.fail error)) :
    sim.relates (Method.invoke run receiver name args) (Method.invoke other receiver name args) := by
  unfold Method.invoke
  split
  · exact follows.dictionary _ _ name args
  · exact follows.array _ name args
  · exact lift (Method.text_neverMisses _ _ _)
  · exact follows.record _ name args
  · exact lift (Method.schema_neverMisses _ _ _)
  · exact follows.table _ _ name args refused
  · exact sim.fails _ rfl

/-- A method without arguments inserts no row. -/
theorem invoke_nil (receiver : Value) (name : String) :
    sim.relates (Method.invoke run receiver name []) (Method.invoke other receiver name []) := by
  apply follows.invoke
  intro error named
  unfold Method.insertRefusal? at named
  split at named
  · contradiction
  · cases named

end Simulation.Follows

end TableScript
