import TableScript.Proofs.Dictionary.All
import TableScript.Proofs.Expr.Parts
import TableScript.Proofs.Value.Occurs
import TableScript.Record.Validate
import TableScript.Schema.Declare

set_option autoImplicit false

namespace TableScript

/-- Values that are neither functions nor hold other values. -/
inductive Value.Scalar : Value → Prop
  | null : Scalar .null
  | bool (value : Bool) : Scalar (.bool value)
  | int (value : Int64) : Scalar (.int value)
  | float (value : Double) : Scalar (.float value)
  | quantity (value : Quantity) : Scalar (.quantity value)
  | text (value : String) : Scalar (.text value)
  | money (value : Money) : Scalar (.money value)
  | error (value : EvalError) : Scalar (.error value)

attribute [simp] Value.Scalar.null Value.Scalar.bool Value.Scalar.int Value.Scalar.float
  Value.Scalar.quantity Value.Scalar.text Value.Scalar.money Value.Scalar.error

theorem Value.Scalar.complete {value : Value} (scalar : value.Scalar) : value.Complete := by
  intro defers
  cases defers <;> cases scalar

structure Law where
  /-- What rows and fallbacks may hold. -/
  cell : Value → Prop
  schema : Schema Value → Prop
  record : Record Value → Prop
  table : Table Value → Prop
  /-- What may be evaluated, also later as the body of a function. -/
  expr : Expr → Prop := fun _ => True
  /-- What a dictionary may leave unevaluated. -/
  entry : Expr → Prop := fun _ => True

namespace Law

/-- The law at one place, whatever stands further inside. -/
def admits (law : Law) : Value → Prop
  | .schema binding =>
    law.schema binding ∧ ∀ field ∈ binding.fields, ∀ value, field.fallback = some value → law.cell value
  | .record _ record => law.record record ∧ record.data.All law.cell
  | .table _ table => law.table table ∧ ∀ row ∈ table.rows, row.All law.cell
  | .dict _ entries =>
    ∀ origin expr scope, .deferred origin expr scope ∈ entries.values → law.entry expr
  | .function f => law.expr f.body
  | _ => True

/-- The law at every part of a value. -/
def Throughout (law : Law) (value : Value) : Prop := ∀ part : Value, part.Occurs value → law.admits part

/-- What may be put into a row. -/
def Stored (law : Law) (value : Value) : Prop := law.cell value ∧ law.Throughout value

/-- An entry may hold what obeys the law. What an unevaluated one will give is left to evaluation. -/
def Entered (law : Law) : Entry Value → Prop
  | .ready value => law.Throughout value
  | .deferred _ expr _ => law.entry expr

/-- The ways in which programs make schemas, records and tables keep the law. -/
structure Kept (law : Law) : Prop where
  declare : ∀ {id : Nat} {name : String} {decls : List FieldDecl} {binding : Schema Value},
    Schema.declare id name decls = .ok binding → law.schema binding
  complete : ∀ {value : Value}, value.Complete → law.cell value
  cellSettles : ∀ {old new : Value}, old.Settles new → law.cell old → law.cell new
  recordSettles : ∀ {record : Record Value} {data : Row}, Row.Settles record.data data → law.record record →
    law.record { record with data := data }
  tableSettles : ∀ {table : Table Value} {rows : List Row}, List.Forall₂ Row.Settles table.rows rows →
    law.table table → law.table (table.withRows rows)
  create : ∀ {binding : Schema Value} (data : Row), law.schema binding →
    law.record (Record.create binding data)
  refresh : ∀ {record : Record Value}, law.record record → law.record (.fresh record.schema record.data)
  assign : ∀ {binding : Schema Value} {data : Row} {key : String} (value : Value),
    binding.hasField key = true → law.record (.fresh binding data) →
    law.record (.fresh binding (data.insert key value))
  validate : ∀ {record : Record Value}, law.record record → law.record record.validate
  withError : ∀ {record : Record Value} (field : String) (error : FieldError), law.record record →
    law.record (record.withError field error)
  row : ∀ {table : Table Value} {binding : Schema Value} {row : Row}, table.schema = some binding →
    row ∈ table.rows → law.table table → law.record (.fresh binding row)
  unbound : ∀ {table : Table Value}, table.schema = none → law.table table
  bound : ∀ {table : Table Value} {binding : Schema Value}, table.schema = some binding →
    table.columns = binding.fieldNames → (∀ row ∈ table.rows, ∃ data, row = Record.bindData binding data) →
    law.schema binding → law.table table
  grow : ∀ {table : Table Value} {binding : Schema Value} {rows : List Row},
    table.schema = some binding →
    (∀ row ∈ rows, row ∈ table.rows ∨ ∃ data, row = Record.bindData binding data) →
    law.schema binding → law.table table → law.table (table.withRows rows)
  parts : ∀ {expr : Expr}, law.expr expr → ∀ part ∈ expr.parts, law.expr part := by exact fun _ _ _ => trivial
  literal : ∀ {site : Site} {entries : List (String × Expr)}, law.expr (.dict site entries) →
    ∀ pair ∈ entries, law.entry pair.2 := by exact fun _ _ _ => trivial

/-- A law that is kept and allows every expression. -/
structure Upheld (law : Law) : Prop extends law.Kept where
  any : ∀ expr : Expr, law.expr expr := by exact fun _ => trivial

section Throughout

variable {law : Law}

theorem throughout_iff {value : Value} :
    law.Throughout value ↔ law.admits value ∧ ∀ part ∈ value.parts, law.Throughout part := by
  constructor
  · intro lawful
    refine ⟨lawful value .self, ?_⟩
    intro part held inner deep
    exact lawful inner (.inside held deep)
  · rintro ⟨here, below⟩ part deep
    cases deep with
    | self => exact here
    | inside held deep => exact below _ held part deep

@[simp] theorem throughout_scalar {value : Value} (scalar : value.Scalar) : law.Throughout value := by
  rw [throughout_iff]
  cases scalar <;> exact ⟨trivial, fun part held => nomatch held⟩

theorem throughout_function {f : Function} : law.Throughout (.function f) ↔ law.expr f.body := by
  rw [throughout_iff]
  exact and_iff_left fun part held => nomatch held

@[simp] theorem throughout_array {handle : Handle} {items : List Value} :
    law.Throughout (.array handle items) ↔ ∀ item ∈ items, law.Throughout item := by
  rw [throughout_iff]
  exact and_iff_right trivial

@[simp] theorem throughout_ofItems {items : List Value} :
    law.Throughout (.ofItems items) ↔ ∀ item ∈ items, law.Throughout item := throughout_array

@[simp] theorem throughout_dict {handle : Handle} {entries : Dictionary (Entry Value)} :
    law.Throughout (.dict handle entries) ↔ entries.All law.Entered := by
  rw [throughout_iff]
  constructor
  · rintro ⟨here, below⟩ entry held
    cases entry with
    | ready value => exact below value (Value.mem_parts_dict.mpr held)
    | deferred origin expr scope => exact here origin expr scope held
  · intro each
    exact ⟨fun _ _ _ held => each _ held, fun part held => each _ (Value.mem_parts_dict.mp held)⟩

@[simp] theorem throughout_ofEntries {entries : Dictionary (Entry Value)} :
    law.Throughout (.ofEntries entries) ↔ entries.All law.Entered := throughout_dict

theorem throughout_ofRow {row : Row} (each : row.All law.Throughout) : law.Throughout (.ofRow row) :=
  throughout_dict.mpr (Dictionary.All.map each)

@[simp] theorem throughout_texts (texts : List String) : law.Throughout (.texts texts) := by
  simp [Value.texts]

theorem throughout_schema {binding : Schema Value} :
    law.Throughout (.schema binding) ↔ law.schema binding ∧ ∀ field ∈ binding.fields,
      (∀ value, field.fallback = some value → law.Stored value) ∧ field.metadata.All law.Throughout := by
  rw [throughout_iff]
  simp only [Value.mem_parts_schema, admits]
  constructor
  · rintro ⟨⟨here, cells⟩, below⟩
    refine ⟨here, fun field declared => ⟨fun value given => ⟨cells field declared value given, ?_⟩, ?_⟩⟩
    · exact below value ⟨field, declared, .inl given⟩
    · exact fun value held => below value ⟨field, declared, .inr held⟩
  · rintro ⟨here, each⟩
    refine ⟨⟨here, fun field declared value given => ((each field declared).1 value given).1⟩, ?_⟩
    rintro part ⟨field, declared, given | held⟩
    · exact ((each field declared).1 part given).2
    · exact (each field declared).2 part held

theorem throughout_record {handle : Handle} {record : Record Value} :
    law.Throughout (.record handle record) ↔
      law.record record ∧ law.Throughout (.schema record.schema) ∧ record.data.All law.Stored := by
  rw [throughout_iff]
  simp only [Value.parts, List.forall_mem_cons, admits]
  constructor
  · rintro ⟨⟨here, cells⟩, binding, below⟩
    exact ⟨here, binding, fun value held => ⟨cells value held, below value held⟩⟩
  · rintro ⟨here, binding, each⟩
    exact ⟨⟨here, fun value held => (each value held).1⟩, binding, fun value held => (each value held).2⟩

theorem throughout_table {handle : Handle} {table : Table Value} :
    law.Throughout (.table handle table) ↔
      law.table table ∧ (∀ binding, table.schema = some binding → law.Throughout (.schema binding)) ∧
        ∀ row ∈ table.rows, row.All law.Stored := by
  rw [throughout_iff]
  simp only [Value.mem_parts_table, admits]
  constructor
  · rintro ⟨⟨here, cells⟩, below⟩
    refine ⟨here, fun binding bound => below _ (.inl ⟨binding, bound, rfl⟩), ?_⟩
    intro row member value held
    exact ⟨cells row member value held, below value (.inr ⟨row, member, held⟩)⟩
  · rintro ⟨here, bindings, each⟩
    refine ⟨⟨here, fun row member value held => (each row member value held).1⟩, ?_⟩
    rintro part (⟨binding, bound, rfl⟩ | ⟨row, member, held⟩)
    · exact bindings binding bound
    · exact (each row member part held).2

end Throughout

namespace Kept

variable {law : Law} (kept : law.Kept)
include kept

theorem admits_settles {old new : Value} (settled : old.Settles new) (here : law.admits old) :
    law.admits new := by
  cases settled.numbered with
  | same => exact here
  | array => trivial
  | dict next each =>
      intro origin expr scope held
      obtain ⟨entry, earlier, numbered⟩ := Entry.source each held
      cases numbered
      exact here origin expr scope earlier
  | table next each =>
      refine ⟨kept.tableSettles each here.1, fun row member value held => ?_⟩
      obtain ⟨before, earlier, numbered⟩ := source_of_mem each member
      obtain ⟨source, origin, settled⟩ := numbered.source held
      exact kept.cellSettles settled (here.2 before earlier source origin)
  | record next each =>
      refine ⟨kept.recordSettles each here.1, fun value held => ?_⟩
      obtain ⟨source, origin, settled⟩ := each.source held
      exact kept.cellSettles settled (here.2 source origin)

theorem throughout_settles {old new : Value} (settled : old.Settles new) (lawful : law.Throughout old) :
    law.Throughout new := by
  intro part deep
  rcases deep.of_settles settled with same | ⟨origin, earlier, numbered⟩
  · exact lawful part same
  · exact kept.admits_settles numbered (lawful origin earlier)

end Kept

end Law

end TableScript
