import TableScript.Method.Basic
import TableScript.Proofs.Operation.Miss

set_option autoImplicit false

namespace TableScript

namespace Argument

theorem count_neverMisses (method : String) (expected : Nat) (args : List Value) :
    NeverMisses (count method expected args) := by
  unfold count
  split <;> simp [EvalError.isMiss]

theorem countIn_neverMisses (method : String) (least most : Nat) (args : List Value) :
    NeverMisses (countIn method least most args) := by
  unfold countIn
  split <;> simp [EvalError.isMiss]

theorem text_neverMisses (method : String) (value : Value) : NeverMisses (text method value) := by
  unfold text
  split <;> simp [EvalError.isMiss]

theorem integer_neverMisses (method : String) (value : Value) : NeverMisses (integer method value) := by
  unfold integer
  split <;> simp [EvalError.isMiss]

theorem dictionary_neverMisses (method : String) (value : Value) :
    NeverMisses (dictionary method value) := by
  unfold dictionary
  split <;> simp [EvalError.isMiss]

theorem function_neverMisses (method : String) (value : Value) :
    NeverMisses (function method value) := by
  unfold function
  split <;> simp [EvalError.isMiss]

theorem texts_neverMisses (method : String) (args : List Value) : NeverMisses (texts method args) :=
  .mapM (text_neverMisses method) args

theorem none_neverMisses (method : String) (args : List Value) (result : Value) :
    NeverMisses (none method args result) :=
  (count_neverMisses method 0 args).bind fun _ => neverMisses_ok result

theorem oneText_neverMisses (method : String) (args : List Value) : NeverMisses (oneText method args) :=
  (count_neverMisses method 1 args).bind fun _ => text_neverMisses method _

theorem oneFunction_neverMisses (method : String) (args : List Value) :
    NeverMisses (oneFunction method args) :=
  (count_neverMisses method 1 args).bind fun _ => function_neverMisses method _

end Argument

namespace Aggregate

theorem accept_neverMisses (method column : String) (seen : Seen) (value : Value) :
    NeverMisses (accept method column seen value) := by
  unfold accept
  extract_lets verdict
  have harmless : ∀ seen, NeverMisses (verdict seen) := by
    intro seen
    simp only [verdict]
    split
    · exact NeverMisses.bind (by simp [EvalError.isMiss]) fun _ => neverMisses_ok seen
    · exact neverMisses_ok seen
  repeat' split
  all_goals exact NeverMisses.bind (by simp [EvalError.isMiss]) harmless

theorem gather_neverMisses (table : Table Value) (column method : String) (keepOther : Bool) :
    NeverMisses (gather table column method keepOther) :=
  (NeverMisses.foldlM (accept_neverMisses method column) _ _).bind fun _ => neverMisses_ok _

theorem addAll_neverMisses (amounts : List (Option Int64)) : NeverMisses (addAll amounts) := by
  apply NeverMisses.foldlM
  intro total amount
  split <;> simp [EvalError.isMiss]

theorem moneyTotal?_neverMisses (values : List Value) : NeverMisses (moneyTotal? values) := by
  unfold moneyTotal?
  split
  · exact neverMisses_ok _
  · exact (addAll_neverMisses _).bind fun _ => neverMisses_ok _

theorem numberTotal_neverMisses (values : List Value) : NeverMisses (numberTotal values) := by
  unfold numberTotal
  split
  · exact neverMisses_ok _
  · exact (addAll_neverMisses _).map _

theorem sum_neverMisses (table : Table Value) (column : String) : NeverMisses (sum table column) := by
  refine (gather_neverMisses table column "sum" false).bind fun values => ?_
  refine (moneyTotal?_neverMisses values).bind fun total => ?_
  cases total with
  | some total => exact neverMisses_ok _
  | none => exact numberTotal_neverMisses values

theorem average_neverMisses (table : Table Value) (column : String) :
    NeverMisses (average table column) := by
  refine (gather_neverMisses table column "avg" false).bind fun values => ?_
  split
  · exact neverMisses_ok _
  · refine (moneyTotal?_neverMisses values).bind fun total => ?_
    repeat' split
    all_goals simp [EvalError.isMiss]

theorem least_neverMisses (table : Table Value) (column : String) : NeverMisses (least table column) :=
  (gather_neverMisses table column "min" true).map _

theorem greatest_neverMisses (table : Table Value) (column : String) :
    NeverMisses (greatest table column) :=
  (gather_neverMisses table column "max" true).map _

end Aggregate

namespace Table

theorem limit_neverMisses (table : Table Value) (count offset : Int64) :
    NeverMisses (table.limit count offset) := by
  unfold limit
  repeat' split
  all_goals simp [EvalError.isMiss]

theorem fitRow_neverMisses (table : Table Value) (row : Row) : NeverMisses (table.fitRow row) := by
  unfold fitRow
  repeat' split
  all_goals simp [EvalError.isMiss]

theorem appendRow_neverMisses (table : Table Value) (row : Row) : NeverMisses (table.appendRow row) :=
  (table.fitRow_neverMisses row).bind fun _ => neverMisses_ok _

theorem insertRow_neverMisses (table : Table Value) (slot : Nat) (row : Row) :
    NeverMisses (table.insertRow slot row) :=
  (table.fitRow_neverMisses row).bind fun _ => neverMisses_ok _

theorem columnIndex_neverMisses (table : Table Value) (column : String) :
    NeverMisses (table.columnIndex column) := by
  unfold columnIndex
  split <;> simp [EvalError.isMiss]

theorem columnSlot_neverMisses (table : Table Value) (name : String) (place : Place) :
    NeverMisses (table.columnSlot name place) := by
  unfold columnSlot
  split
  · simp [EvalError.isMiss]
  · cases place with
    | last => exact neverMisses_ok _
    | after anchor => exact (table.columnIndex_neverMisses anchor).map _
    | before anchor => exact table.columnIndex_neverMisses anchor

theorem renameColumn_neverMisses (table : Table Value) (old new : String) :
    NeverMisses (table.renameColumn old new) := by
  unfold renameColumn
  repeat' split
  all_goals simp [EvalError.isMiss]

theorem dropColumns_neverMisses (table : Table Value) (names : List String) :
    NeverMisses (table.dropColumns names) := by
  unfold dropColumns
  split <;> simp [EvalError.isMiss]

theorem column_neverMisses (table : Table Value) (name : String) : NeverMisses (table.column name) := by
  unfold column
  split <;> simp [EvalError.isMiss]

theorem uniqueValues_neverMisses (table : Table Value) (name : String) :
    NeverMisses (table.uniqueValues name) := (table.column_neverMisses name).map _

theorem groupBy_neverMisses (table : Table Value) (column : String) :
    NeverMisses (table.groupBy column) := by
  unfold groupBy
  split <;> simp [EvalError.isMiss]

end Table

theorem Record.setField_neverMisses (record : Record Value) (field : String) (value : Value) :
    NeverMisses (record.setField field value) := by
  unfold setField
  split <;> simp [EvalError.isMiss]

theorem SortKey.withDirection_neverMisses (column direction : String) :
    NeverMisses (withDirection column direction) := by
  unfold withDirection
  split <;> simp [EvalError.isMiss]

namespace Method

theorem dictionaryView_neverMisses (entries : Dictionary (Entry Value)) (name : String)
    (args : List Value) : NeverMisses (dictionaryView entries name args) := by
  unfold dictionaryView
  split
  · exact Argument.none_neverMisses _ _ _
  · exact (Argument.oneText_neverMisses _ _).bind fun _ => neverMisses_ok _
  · exact Argument.none_neverMisses _ _ _
  · exact (Argument.oneText_neverMisses _ _).bind fun _ => neverMisses_ok _
  · exact (Argument.count_neverMisses _ _ _).bind fun _ =>
      (Argument.text_neverMisses _ _).bind fun _ => neverMisses_ok _
  · simp [EvalError.isMiss]

theorem text_neverMisses (value name : String) (args : List Value) :
    NeverMisses (text value name args) := by
  unfold text
  split
  case h_5 => simp [EvalError.isMiss]
  all_goals exact Argument.none_neverMisses _ _ _

theorem fieldView_neverMisses (schema : Schema Value) (name : String) (args : List Value) :
    NeverMisses (fieldView schema name args) := by
  unfold fieldView
  split
  · exact (Argument.oneText_neverMisses _ _).bind fun _ => neverMisses_ok _
  · exact (Argument.oneText_neverMisses _ _).bind fun _ => neverMisses_ok _
  · exact (Argument.count_neverMisses _ _ _).bind fun _ =>
      (Argument.text_neverMisses _ _).bind fun _ =>
        (Argument.text_neverMisses _ _).bind fun _ => neverMisses_ok _
  · exact (Argument.oneText_neverMisses _ _).bind fun _ => neverMisses_ok _
  · simp [EvalError.isMiss]

theorem schema_neverMisses (binding : Schema Value) (name : String) (args : List Value) :
    NeverMisses (schema binding name args) := by
  unfold schema
  split
  case h_5 => exact fieldView_neverMisses _ _ _
  all_goals exact Argument.none_neverMisses _ _ _

theorem recordView_neverMisses (record : Record Value) (name : String) (args : List Value) :
    NeverMisses (recordView record name args) := by
  unfold recordView
  split
  case h_1 =>
    refine (Argument.oneText_neverMisses _ _).bind fun field => ?_
    split <;> simp [EvalError.isMiss]
  case h_9 =>
    refine (Argument.countIn_neverMisses _ _ _ _).bind fun _ => ?_
    refine (Argument.text_neverMisses _ _).bind fun field => ?_
    refine (Argument.text_neverMisses _ _).bind fun first => ?_
    split
    · exact neverMisses_ok _
    · exact (Argument.text_neverMisses _ _).bind fun _ => neverMisses_ok _
  case h_5 | h_6 | h_7 => exact (Argument.oneText_neverMisses _ _).bind fun _ => neverMisses_ok _
  case h_15 | h_16 | h_17 | h_18 => exact fieldView_neverMisses _ _ _
  case h_19 => simp [EvalError.isMiss]
  all_goals exact Argument.none_neverMisses _ _ _

theorem sortKey_neverMisses (value : Value) : NeverMisses (sortKey value) := by
  unfold sortKey
  split
  all_goals first
    | exact SortKey.withDirection_neverMisses _ _
    | simp [EvalError.isMiss]

theorem sortKeys_neverMisses (args : List Value) : NeverMisses (sortKeys args) := by
  unfold sortKeys
  split
  · exact neverMisses_ok _
  · exact (SortKey.withDirection_neverMisses _ _).bind fun _ => neverMisses_ok _
  · exact .mapM sortKey_neverMisses _
  · simp [EvalError.isMiss]

theorem tableView_neverMisses (table : Table Value) (name : String) (args : List Value) :
    NeverMisses (tableView table name args) := by
  unfold tableView
  split
  case h_1 =>
    refine (Argument.count_neverMisses _ _ _).bind fun _ => ?_
    split
    · exact (Argument.texts_neverMisses _ _).bind fun _ => neverMisses_ok _
    · simp [EvalError.isMiss]
  case h_2 =>
    refine (Argument.countIn_neverMisses _ _ _ _).bind fun _ => ?_
    refine (Argument.integer_neverMisses _ _).bind fun count => ?_
    split
    · exact (Argument.integer_neverMisses _ _).bind fun offset =>
        (table.limit_neverMisses count offset).bind fun _ => neverMisses_ok _
    · exact (table.limit_neverMisses count 0).bind fun _ => neverMisses_ok _
  case h_7 =>
    exact (Argument.oneText_neverMisses _ _).bind fun column =>
      (table.column_neverMisses column).bind fun _ => neverMisses_ok _
  case h_9 =>
    exact (Argument.count_neverMisses _ _ _).bind fun _ =>
      (Argument.text_neverMisses _ _).bind fun old =>
        (Argument.text_neverMisses _ _).bind fun new =>
          (table.renameColumn_neverMisses old new).bind fun _ => neverMisses_ok _
  case h_10 =>
    have dropped : ∀ names, NeverMisses (Value.ofTable <$> table.dropColumns names) := fun names =>
      (table.dropColumns_neverMisses names).map _
    split
    · exact NeverMisses.bind (by simp [EvalError.isMiss]) fun _ =>
        (Argument.texts_neverMisses _ _).bind dropped
    · exact (Argument.texts_neverMisses _ _).bind dropped
  case h_11 =>
    refine (Argument.countIn_neverMisses _ _ _ _).bind fun _ => ?_
    split
    · exact neverMisses_ok _
    · exact (Argument.text_neverMisses _ _).bind fun column =>
        (table.uniqueValues_neverMisses column).bind fun _ => neverMisses_ok _
  case h_12 =>
    exact (Argument.oneText_neverMisses _ _).bind fun column =>
      (table.groupBy_neverMisses column).bind fun _ => neverMisses_ok _
  case h_13 => exact (Argument.oneText_neverMisses _ _).bind (Aggregate.sum_neverMisses table)
  case h_14 => exact (Argument.oneText_neverMisses _ _).bind (Aggregate.average_neverMisses table)
  case h_15 => exact (Argument.oneText_neverMisses _ _).bind (Aggregate.least_neverMisses table)
  case h_16 => exact (Argument.oneText_neverMisses _ _).bind (Aggregate.greatest_neverMisses table)
  case h_21 => simp [EvalError.isMiss]
  all_goals exact Argument.none_neverMisses _ _ _

theorem columnSource_neverMisses (method : String) (value : Value) :
    NeverMisses (columnSource method value) := by
  unfold columnSource
  split <;> simp [EvalError.isMiss]

end Method

end TableScript
