set_option autoImplicit false

namespace TableScript

/-- The arithmetic that left the range of 64-bit integers. -/
inductive Arithmetic where
  | addition
  | subtraction
  | multiplication
  | division
  | remainder
  | negation
  | currencyScaling
  | sum
  | average
deriving DecidableEq, Repr

def Arithmetic.name : Arithmetic → String
  | .addition => "addition"
  | .subtraction => "subtraction"
  | .multiplication => "multiplication"
  | .division => "division"
  | .remainder => "remainder"
  | .negation => "negation"
  | .currencyScaling => "currency scaling"
  | .sum => "sum"
  | .average => "average"

inductive EvalError where
  | divisionByZero
  | moduloByZero
  | overflow (operation : Arithmetic)
  | operands (left op right : String)
  | operand (op kind : String)
  | notContainer (kind : String)
  | dictionaryKey (got : String)
  | textPart (got : String)
  | currencies (left right : String)
  | moneyOperator (op : String)
  | families (op left right : String)
  | quantityOperator (op left right : String)
  | indexRange (index : Int64) (length : Nat)
  | indexKind (target index : String)
  | sliceOrder (start stop : Int64)
  | sliceTarget (kind : String)
  | sliceBound (which got : String)
  | undefined (name : String)
  | immutable (name : String)
  | protectedName (name : String)
  | notCallable (kind : String)
  | arity (name : String) (expected got : Nat)
  | arityRange (name : String) (least most got : Nat)
  | argument (name expected : String)
  | noMethod (method kind : String)
  | unknownField (field schema : String)
  | callDepth (limit : Nat)
  | negativeLimit (which : String) (value : Int64)
  | rowShape (expected got : List String)
  | columnLength (expected got : Nat)
  | unknownColumn (column : String)
  | mixedAggregate (method column : String)
  | sortDirection (direction : String)
  | duplicateColumn (column : String)
  | unknownSuffix (suffix : String)
deriving DecidableEq, Repr

namespace EvalError

def code : EvalError → String
  | .operands .. => "OP-0001"
  | .divisionByZero => "OP-0002"
  | .moduloByZero => "OP-0002"
  | .overflow _ => "OP-0003"
  | .operand .. => "OP-0004"
  | .notContainer _ => "OP-0016"
  | .dictionaryKey _ => "OP-0017"
  | .textPart _ => "OP-0018"
  | .currencies .. => "OP-0019"
  | .moneyOperator _ => "OP-0020"
  | .families .. => "UNIT-0001"
  | .quantityOperator .. => "UNIT-0002"
  | .indexRange .. => "INDEX-0001"
  | .indexKind .. => "INDEX-0002"
  | .sliceOrder .. => "INDEX-0003"
  | .sliceTarget _ => "INDEX-0004"
  | .sliceBound .. => "INDEX-0005"
  | .undefined _ => "NAME-0001"
  | .immutable _ => "NAME-0002"
  | .protectedName _ => "NAME-0003"
  | .notCallable _ => "CALL-0001"
  | .arity .. => "CALL-0002"
  | .arityRange .. => "CALL-0002"
  | .argument .. => "CALL-0003"
  | .noMethod .. => "CALL-0004"
  | .callDepth _ => "CALL-0005"
  | .unknownField .. => "RECORD-0001"
  | .negativeLimit .. => "TABLE-0001"
  | .rowShape .. => "TABLE-0002"
  | .columnLength .. => "TABLE-0003"
  | .unknownColumn _ => "TABLE-0004"
  | .mixedAggregate .. => "TABLE-0005"
  | .sortDirection _ => "TABLE-0006"
  | .duplicateColumn _ => "TABLE-0007"
  | .unknownSuffix _ => "ERROR-0000"

def commas (names : List String) : String := ", ".intercalate names

def message : EvalError → String
  | .divisionByZero => "division by zero"
  | .moduloByZero => "modulo by zero"
  | .overflow operation => s!"integer overflow in {operation.name}"
  | .operands left op right => s!"operator `{op}` cannot be applied to {left} and {right}"
  | .operand op kind => s!"operator `{op}` cannot be applied to {kind}"
  | .notContainer kind => s!"`in` requires an array, dictionary, or string, got {kind}"
  | .dictionaryKey got => s!"`in` on a dictionary requires a string, got {got}"
  | .textPart got => s!"`in` on a string requires a string, got {got}"
  | .currencies left right => s!"cannot combine {left} and {right} amounts"
  | .moneyOperator op => s!"operator `{op}` is not supported for money"
  | .families op left right => s!"cannot apply `{op}` to {left} and {right} units"
  | .quantityOperator op left right => s!"operator `{op}` cannot be applied to {left} and {right}"
  | .indexRange index length => s!"index {index.toInt} out of range for length {length}"
  | .indexKind target index => s!"cannot index {target} with {index}"
  | .sliceOrder start stop => s!"slice start {start.toInt} is greater than end {stop.toInt}"
  | .sliceTarget kind => s!"cannot slice {kind}"
  | .sliceBound which got => s!"slice {which} must be an integer, got {got}"
  | .undefined name => s!"undefined variable: {name}"
  | .immutable name => s!"cannot assign to immutable variable: {name}"
  | .protectedName name => s!"cannot redefine protected name: {name}"
  | .notCallable kind => s!"{kind} is not callable"
  | .arity name expected got =>
    let noun := if expected = 1 then "argument" else "arguments"
    s!"{name} expects {expected} {noun}, got {got}"
  | .arityRange name least most got => s!"{name} expects {least} to {most} arguments, got {got}"
  | .argument name expected => s!"{name} expects {expected}"
  | .noMethod method kind => s!"no method '{method}' on type {kind}"
  | .unknownField field schema => s!"field '{field}' is not declared in schema {schema}"
  | .callDepth limit => s!"maximum call depth of {limit} exceeded"
  | .negativeLimit which value => s!"limit {which} must not be negative, got {value.toInt}"
  | .rowShape expected got =>
    s!"row columns [{commas got}] do not match table columns [{commas expected}]"
  | .columnLength expected got => s!"column has {got} values but table has {expected} rows"
  | .unknownColumn column => s!"unknown column: {column}"
  | .mixedAggregate method column =>
    s!"{method}() cannot mix money and plain numbers in column '{column}'"
  | .sortDirection direction => s!"sort direction must be \"asc\" or \"desc\", got \"{direction}\""
  | .duplicateColumn column => s!"column already exists: {column}"
  | .unknownSuffix suffix => s!"unknown unit suffix: {suffix}"

def describe (error : EvalError) : String := "[" ++ error.code ++ "] " ++ error.message

end EvalError

end TableScript
