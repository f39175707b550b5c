import TableScript.Method.Collection
import TableScript.Table.Aggregate
import TableScript.Table.Export
import TableScript.Table.Transform

set_option autoImplicit false

namespace TableScript.Method

/-- One element of an array of sort keys: a column, or a column with a direction. -/
def sortKey : Value → Except EvalError SortKey
  | .text column => .ok (.ascending column)
  | .array _ [.text column] => .ok (.ascending column)
  | .array _ [.text column, .text direction] => SortKey.withDirection column direction
  | .array .. => .error (.argument "orderBy" "[column, direction] pairs")
  | _ => .error (.argument "orderBy" "column names or [column, direction] pairs")

def sortKeys : List Value → Except EvalError (List SortKey)
  | [.text column] => .ok [.ascending column]
  | [.text column, .text direction] => do return [← SortKey.withDirection column direction]
  | [.array _ (first :: rest)] => (first :: rest).mapM sortKey
  | _ => .error (.argument "orderBy" "a column name or an array of columns")

/-- The methods of a table that evaluate nothing and end in a value or an error. -/
def tableView (table : Table Value) (name : String) (args : List Value) : Except EvalError Value :=
  match name with
  | "select" => do
    Argument.count name 1 args
    match Argument.nth args 0 with
    | .array _ names => return .ofTable (table.select (← Argument.texts name names))
    | _ => throw (.argument name "an array of column names")
  | "limit" => do
    Argument.countIn name 1 2 args
    let count ← Argument.integer name (Argument.nth args 0)
    let offset ← if args.length = 2 then Argument.integer name (Argument.nth args 1) else pure 0
    return .ofTable (← table.limit count offset)
  | "count" => Argument.none name args (Argument.size table.size)
  | "rowCount" => Argument.none name args (Argument.size table.size)
  | "columnCount" => Argument.none name args (Argument.size table.columns.length)
  | "columns" => Argument.none name args (.texts table.columns)
  | "column" => do return .ofItems (← table.column (← Argument.oneText name args))
  | "rows" => Argument.none name args (.ofItems table.rowValues)
  | "renameCol" => do
    Argument.count name 2 args
    let old ← Argument.text name (Argument.nth args 0)
    let new ← Argument.text name (Argument.nth args 1)
    return .ofTable (← table.renameColumn old new)
  | "dropCol" => do
    if args.isEmpty then throw (.arity name 1 0)
    return .ofTable (← table.dropColumns (← Argument.texts name args))
  | "unique" => do
    Argument.countIn name 0 1 args
    if args.isEmpty then return .ofTable table.uniqueRows
    else return .ofItems (← table.uniqueValues (← Argument.text name (Argument.nth args 0)))
  | "groupBy" => do
    let groups ← table.groupBy (← Argument.oneText name args)
    return .ofRow (groups.map .ofTable)
  | "sum" => do Aggregate.sum table (← Argument.oneText name args)
  | "avg" => do Aggregate.average table (← Argument.oneText name args)
  | "min" => do Aggregate.least table (← Argument.oneText name args)
  | "max" => do Aggregate.greatest table (← Argument.oneText name args)
  | "toHTML" => Argument.none name args (.text (Export.html table))
  | "toCSV" => Argument.none name args (.text (Export.csv table))
  | "toMarkdown" => Argument.none name args (.text (Export.markdown table))
  | "toJSON" => Argument.none name args (.text (Export.json table))
  | _ => .error (.noMethod name "table")

/-- The values of a new column: given ones, one for each row, or the results of a function on the rows. -/
inductive ColumnSource where
  | values (items : List Value)
  | compute (f : Value)

def columnSource (method : String) : Value → Except EvalError ColumnSource
  | .array _ items => .ok (.values items)
  | .function f => .ok (.compute (.function f))
  | _ => .error (.argument method "an array or function")

def columnValues (run : Evaluator) (table : Table Value) : ColumnSource → Eval (List Value)
  | .values items =>
    if items.length = table.size then items.mapM run.resolve
    else Eval.fail (.columnLength table.size items.length)
  | .compute f => table.rows.mapM fun row => do run.resolve (← run.call f [table.rowValue row])

def addColumn (run : Evaluator) (table : Table Value) (name : String) (place : Table.Place)
    (source : ColumnSource) : Eval Value := do
  let slot ← table.columnSlot name place
  let values ← columnValues run table source
  return .ofTable (table.withColumn name place slot values)

def addBeside (run : Evaluator) (table : Table Value) (method : String) (place : String → Table.Place)
    (args : List Value) : Eval Value := do
  Argument.count method 3 args
  let anchor ← Argument.text method (Argument.nth args 0)
  let name ← Argument.text method (Argument.nth args 1)
  let source ← columnSource method (Argument.nth args 2)
  addColumn run table name (place anchor) source

def findRow (run : Evaluator) (table : Table Value) (f : Value) (wanted : Bool) :
    List Row → Eval (Option Row)
  | [] => pure none
  | row :: rest => do
    let found ← run.call f [table.rowValue row]
    if found.truthy = wanted then return some row else findRow run table f wanted rest

/-- Where the sort gives up, so does the evaluation. -/
def orderBy (table : Table Value) (keys : List SortKey) : Eval Value :=
  match table.orderBy? keys with
  | some ordered => pure (.ofTable ordered)
  | none => throw (.disorder keys table.rows)

def table (run : Evaluator) (table : Table Value) (name : String) (args : List Value) : Eval Value :=
  match name with
  | "orderBy" => do
    Argument.countIn name 1 2 args
    orderBy table (← sortKeys args)
  | "where" => do
    let f ← Argument.oneFunction name args
    return .ofTable (table.withRows (← keepItems run f table.rowValue table.rows))
  | "appendRow" => do
    Argument.count name 1 args
    let (handle, entries) ← Argument.dictionary name (Argument.nth args 0)
    return .ofTable (← table.appendRow (← run.forceRow handle entries))
  | "insertRowAt" => do
    Argument.count name 2 args
    let index ← Argument.integer name (Argument.nth args 0)
    let (handle, entries) ← Argument.dictionary name (Argument.nth args 1)
    let slot ← table.rowSlot index
    return .ofTable (← table.insertRow slot (← run.forceRow handle entries))
  | "appendCol" => do
    Argument.count name 2 args
    let column ← Argument.text name (Argument.nth args 0)
    let source ← columnSource name (Argument.nth args 1)
    addColumn run table column .last source
  | "insertColAfter" => addBeside run table name .after args
  | "insertColBefore" => addBeside run table name .before args
  | "map" => do
    let f ← Argument.oneFunction name args
    return .ofItems (← table.rows.mapM fun row => run.call f [table.rowValue row])
  | "find" => do
    let f ← Argument.oneFunction name args
    return ((← findRow run table f true table.rows).map table.rowValue).getD .null
  | "any" => do
    let f ← Argument.oneFunction name args
    return .bool (← findRow run table f true table.rows).isSome
  | "all" => do
    let f ← Argument.oneFunction name args
    return .bool (← findRow run table f false table.rows).isNone
  | _ => Eval.lift (tableView table name args)

end TableScript.Method
