import TableScript.Cache.Basic
import TableScript.Cache.Timeline
import TableScript.Dictionary.Basic
import TableScript.Dictionary.Ordered
import TableScript.Error
import TableScript.Eval.Basic
import TableScript.Eval.Evaluator
import TableScript.Eval.Monad
import TableScript.Expr.Basic
import TableScript.Expr.Printer
import TableScript.Json.Basic
import TableScript.Method.Argument
import TableScript.Method.Basic
import TableScript.Method.Collection
import TableScript.Method.Record
import TableScript.Method.Table
import TableScript.Money.Basic
import TableScript.Number.Binary
import TableScript.Number.Double
import TableScript.Number.Layout
import TableScript.Number.Reader
import TableScript.Number.Rounding
import TableScript.Number.Shortest
import TableScript.Number.Word
import TableScript.Operation.Binary
import TableScript.Operation.Money
import TableScript.Operation.Number
import TableScript.Operation.Position
import TableScript.Operation.Quantity
import TableScript.Operator
import TableScript.Pattern.Basic
import TableScript.Pattern.Bracket
import TableScript.Pattern.ByteRange
import TableScript.Pattern.CharSet
import TableScript.Pattern.Compile
import TableScript.Pattern.Engine
import TableScript.Pattern.Escape
import TableScript.Pattern.Extent
import TableScript.Pattern.Footprint.Backward
import TableScript.Pattern.Footprint.Basic
import TableScript.Pattern.Footprint.Forward
import TableScript.Pattern.Footprint.WordTree
import TableScript.Pattern.Program
import TableScript.Pattern.Reader
import TableScript.Pattern.Token
import TableScript.Proofs.Cache.Closing
import TableScript.Proofs.Cache.Conservation
import TableScript.Proofs.Cache.Eviction
import TableScript.Proofs.Cache.Freshness
import TableScript.Proofs.Cache.Life
import TableScript.Proofs.Cache.Recency
import TableScript.Proofs.Cache.Sweep
import TableScript.Proofs.Cache.Turn
import TableScript.Proofs.Dictionary.All
import TableScript.Proofs.Dictionary.Distinct
import TableScript.Proofs.Dictionary.Lookup
import TableScript.Proofs.Dictionary.Merge
import TableScript.Proofs.Dictionary.Ordered
import TableScript.Proofs.Dictionary.Refinement
import TableScript.Proofs.Eval.Depth
import TableScript.Proofs.Eval.Forcing
import TableScript.Proofs.Eval.Frame
import TableScript.Proofs.Eval.Fuel
import TableScript.Proofs.Eval.Law
import TableScript.Proofs.Eval.Lawful
import TableScript.Proofs.Eval.Lenient
import TableScript.Proofs.Eval.Logic
import TableScript.Proofs.Eval.Simulation
import TableScript.Proofs.Eval.Step
import TableScript.Proofs.Eval.Termination
import TableScript.Proofs.Eval.Verdict
import TableScript.Proofs.Eval.Yields
import TableScript.Proofs.Expr.Parts
import TableScript.Proofs.Method.Law
import TableScript.Proofs.Method.Miss
import TableScript.Proofs.Method.Simulation
import TableScript.Proofs.Money.Display
import TableScript.Proofs.Money.Value
import TableScript.Proofs.Money.Worth
import TableScript.Proofs.Number.Decimal
import TableScript.Proofs.Number.Whole
import TableScript.Proofs.Number.Word
import TableScript.Proofs.Operation.Concat
import TableScript.Proofs.Operation.Division
import TableScript.Proofs.Operation.Integer
import TableScript.Proofs.Operation.Law
import TableScript.Proofs.Operation.Miss
import TableScript.Proofs.Operation.Money
import TableScript.Proofs.Operation.Order
import TableScript.Proofs.Operation.Slice
import TableScript.Proofs.Operation.Symmetry
import TableScript.Proofs.Quantity.Conversion
import TableScript.Proofs.Quantity.Measure
import TableScript.Proofs.Query.Cells
import TableScript.Proofs.Query.Rows
import TableScript.Proofs.Record.Assignment
import TableScript.Proofs.Record.Bounds
import TableScript.Proofs.Record.Casting
import TableScript.Proofs.Record.Identifier
import TableScript.Proofs.Record.Law
import TableScript.Proofs.Record.Length
import TableScript.Proofs.Record.Validation
import TableScript.Proofs.Record.Validity
import TableScript.Proofs.Schema.Consistency
import TableScript.Proofs.Schema.Declare
import TableScript.Proofs.Schema.Index
import TableScript.Proofs.Schema.Resolved
import TableScript.Proofs.Schema.Shape
import TableScript.Proofs.Schema.TypeName
import TableScript.Proofs.Scope.Chain
import TableScript.Proofs.Scope.Frame
import TableScript.Proofs.Scope.Reached
import TableScript.Proofs.Session.Evaluated
import TableScript.Proofs.Session.Law
import TableScript.Proofs.Sorting.Arrangement
import TableScript.Proofs.Sorting.Merging
import TableScript.Proofs.Sorting.Permutation
import TableScript.Proofs.Sorting.Preorder
import TableScript.Proofs.Sorting.Stability
import TableScript.Proofs.Table.Aggregate
import TableScript.Proofs.Table.Basic
import TableScript.Proofs.Table.Columns
import TableScript.Proofs.Table.Csv
import TableScript.Proofs.Table.Distinct
import TableScript.Proofs.Table.Extreme
import TableScript.Proofs.Table.Grouping
import TableScript.Proofs.Table.Html
import TableScript.Proofs.Table.Insertion
import TableScript.Proofs.Table.Law
import TableScript.Proofs.Table.Markdown
import TableScript.Proofs.Table.OrderBy
import TableScript.Proofs.Table.Rename
import TableScript.Proofs.Table.RowByRow
import TableScript.Proofs.Table.Summation
import TableScript.Proofs.Text.Ascii
import TableScript.Proofs.Text.Linear
import TableScript.Proofs.Text.Natural
import TableScript.Proofs.Text.Title
import TableScript.Proofs.Value.Equality
import TableScript.Proofs.Value.Law
import TableScript.Proofs.Value.Occurs
import TableScript.Proofs.Value.Order
import TableScript.Quantity.Basic
import TableScript.Query.Basic
import TableScript.Record.Basic
import TableScript.Record.Cast
import TableScript.Record.Format
import TableScript.Record.Validate
import TableScript.Schema.Basic
import TableScript.Schema.Declare
import TableScript.Schema.FieldType
import TableScript.Schema.Title
import TableScript.Scope.Basic
import TableScript.Session.Basic
import TableScript.Sorting.Insertion
import TableScript.Sorting.Merge
import TableScript.Sorting.Quick
import TableScript.Sorting.Small
import TableScript.Sorting.Stable
import TableScript.Table.Aggregate
import TableScript.Table.Basic
import TableScript.Table.Export
import TableScript.Table.Sort
import TableScript.Table.Transform
import TableScript.Text.Ascii
import TableScript.Text.Blank
import TableScript.Text.CaseMap
import TableScript.Text.CharRun
import TableScript.Text.Letter
import TableScript.Text.LetterCase
import TableScript.Text.Natural
import TableScript.Text.Printable
import TableScript.Text.Quoted
import TableScript.Text.Title
import TableScript.Text.Utf8
import TableScript.Text.WordChar
import TableScript.Value.Basic
import TableScript.Value.Debug
import TableScript.Value.Equality
import TableScript.Value.Inspect
import TableScript.Value.Order
import TableScript.Value.Render
import TableScript.Value.Settle
