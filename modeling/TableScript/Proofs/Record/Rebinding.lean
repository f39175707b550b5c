import TableScript.Proofs.Eval.Resolving
import TableScript.Proofs.Record.Validity

set_option autoImplicit false

namespace TableScript

theorem Value.Scalar.unnumbered {value : Value} (scalar : value.Scalar) : value.unnumbered = value := by
  cases scalar <;> rfl

namespace Record

/-- The values of a family, as the cast makes them. -/
inductive Native : TypeFamily → Value → Prop
  | integer (n : Int64) : Native .integer (.int n)
  | float (x : Double) : Native .float (.float x)
  | boolean (b : Bool) : Native .boolean (.bool b)
  | text (kind : TextKind) (text : String) : Native (.text kind) (.text text)

theorem castTo_of_native {family : TypeFamily} {value : Value} (native : Native family value) :
    castTo family value = value := by
  cases native <;> rfl

theorem castTo_eq_or_native (family : TypeFamily) (value : Value) :
    castTo family value = value ∨ Native family (castTo family value) := by
  unfold castTo
  repeat' split
  all_goals first | exact .inl rfl | exact .inr (by constructor)

theorem castTo_castTo (family : TypeFamily) (value : Value) :
    castTo family (castTo family value) = castTo family value := by
  rcases castTo_eq_or_native family value with kept | native
  · rw [kept, kept]
  · exact castTo_of_native native

theorem cast_cast (value : Value) (typeName : String) :
    cast (cast value typeName) typeName = cast value typeName :=
  castTo_castTo _ value

theorem cast_null (typeName : String) : cast .null typeName = .null := by
  unfold cast
  cases TypeFamily.ofName typeName <;> rfl

theorem unnumbered_cast (value : Value) (typeName : String) :
    (cast value typeName).unnumbered = cast value.unnumbered typeName := by
  have scalar (same : value.unnumbered = value) :
      (cast value typeName).unnumbered = cast value.unnumbered typeName := by
    rw [same]
    rcases cast_eq_or_scalar value typeName with kept | scalar
    · rw [kept, same]
    · exact scalar.unnumbered
  cases value with
  | array | dict | table | record =>
    unfold cast
    cases TypeFamily.ofName typeName <;> rfl
  | _ => exact scalar rfl

theorem unnumbered_fieldValue (field : Field Value) {first second : Row}
    (same : Row.unnumbered first = Row.unnumbered second) :
    (fieldValue field first).unnumbered = (fieldValue field second).unnumbered := by
  have found :
      (first.get? field.name).map Value.unnumbered = (second.get? field.name).map Value.unnumbered := by
    rw [← Dictionary.get?_map, ← Dictionary.get?_map]
    exact congrArg (·.get? field.name) same
  unfold fieldValue
  cases heldFirst : first.get? field.name with
  | none =>
    rw [heldFirst, Option.map_none, eq_comm, Option.map_eq_none_iff] at found
    rw [found]
  | some value =>
    rw [heldFirst, Option.map_some, eq_comm, Option.map_eq_some_iff] at found
    obtain ⟨other, heldSecond, equal⟩ := found
    rw [heldSecond]
    change (cast value _).unnumbered = (cast other _).unnumbered
    rw [unnumbered_cast, unnumbered_cast, equal]

section Binding

variable {binding : Schema Value} (distinct : binding.fieldNames.Nodup)
include distinct

theorem get?_bindData (data : Row) {field : Field Value} (declared : field ∈ binding.fields) :
    (bindData binding data).get? field.name = some (fieldValue field data) := by
  refine Dictionary.get?_of_mem (by rw [keys_bindData distinct]; exact distinct) ?_
  rw [entries_bindData distinct]
  exact List.mem_map_of_mem declared

/-- Bound data bound again: every field is cast. -/
theorem fieldValue_bindData (data : Row) {field : Field Value} (declared : field ∈ binding.fields) :
    fieldValue field (bindData binding data) = cast (fieldValue field data) field.typeName := by
  rw [fieldValue, get?_bindData distinct data declared]

theorem unnumbered_bindData {first second : Row} (same : Row.unnumbered first = Row.unnumbered second) :
    Row.unnumbered (bindData binding first) = Row.unnumbered (bindData binding second) := by
  unfold Row.unnumbered Dictionary.map
  rw [entries_bindData distinct, entries_bindData distinct, List.map_map, List.map_map]
  refine congrArg Dictionary.mk (List.map_congr_left fun field _ => ?_)
  exact congrArg (Prod.mk field.name) (unnumbered_fieldValue field same)

theorem bindData_eq_iff (first second : Row) :
    bindData binding first = bindData binding second ↔
      ∀ field ∈ binding.fields, fieldValue field first = fieldValue field second := by
  constructor
  · intro same field declared
    have found := get?_bindData distinct first declared
    rw [same, get?_bindData distinct second declared] at found
    exact (Option.some.inj found).symm
  · intro same
    have entries : (bindData binding first).entries = (bindData binding second).entries := by
      rw [entries_bindData distinct, entries_bindData distinct]
      exact List.map_congr_left fun field declared => congrArg (Prod.mk field.name) (same field declared)
    exact congrArg Dictionary.mk entries

end Binding

theorem fieldValue_of_fallback {field : Field Value} {data : Row} {value : Value}
    (missing : data.get? field.name = none) (fallback : field.fallback = some value) :
    fieldValue field data = value := by
  rw [fieldValue, missing, fallback]
  rfl

/-- The cast changes no value of a field but a fallback. -/
theorem cast_fieldValue_of_given {field : Field Value} {data : Row}
    (given : data.get? field.name ≠ none ∨ field.fallback = none) :
    cast (fieldValue field data) field.typeName = fieldValue field data := by
  unfold fieldValue
  cases found : data.get? field.name with
  | some value => exact cast_cast value field.typeName
  | none =>
    rw [given.resolve_left (absurd found)]
    exact cast_null field.typeName

/-- What is given, or has no fallback, is the same when the data of a record is bound again; a fallback that
was filled in is cast. -/
structure Rebinds (binding : Schema Value) (data bound rebound : Row) : Prop where
  keys : rebound.keys = bound.keys
  given : ∀ field ∈ binding.fields, data.get? field.name ≠ none ∨ field.fallback = none →
    rebound.get? field.name = bound.get? field.name
  filled : ∀ field ∈ binding.fields, data.get? field.name = none → ∀ value, field.fallback = some value →
    bound.get? field.name = some value ∧ rebound.get? field.name = some (cast value field.typeName)

theorem rebinds_bindData {binding : Schema Value} (distinct : binding.fieldNames.Nodup) (data : Row) :
    Rebinds binding data (bindData binding data) (bindData binding (bindData binding data)) where
  keys := by rw [keys_bindData distinct, keys_bindData distinct]
  given field declared given := by
    rw [get?_bindData distinct _ declared, get?_bindData distinct _ declared,
      fieldValue_bindData distinct data declared, cast_fieldValue_of_given given]
  filled field declared missing value fallback := by
    rw [get?_bindData distinct _ declared, get?_bindData distinct _ declared,
      fieldValue_bindData distinct data declared, fieldValue_of_fallback missing fallback]
    exact ⟨rfl, rfl⟩

/-- Data bound twice is the data bound once if and only if the cast changes no fallback that was filled in. -/
theorem bindData_bindData_iff {binding : Schema Value} (distinct : binding.fieldNames.Nodup) (data : Row) :
    bindData binding (bindData binding data) = bindData binding data ↔
      ∀ field ∈ binding.fields, data.get? field.name = none → ∀ value, field.fallback = some value →
        cast value field.typeName = value := by
  rw [bindData_eq_iff distinct]
  refine forall₂_congr fun field declared => ?_
  rw [fieldValue_bindData distinct data declared]
  constructor
  · intro same missing value fallback
    rw [← fieldValue_of_fallback missing fallback]
    exact same
  · intro kept
    by_cases given : data.get? field.name ≠ none ∨ field.fallback = none
    · exact cast_fieldValue_of_given given
    · obtain ⟨missing, filled⟩ := not_or.mp given
      obtain ⟨value, fallback⟩ := Option.ne_none_iff_exists'.mp filled
      rw [fieldValue_of_fallback (not_not.mp missing) fallback]
      exact kept (not_not.mp missing) value fallback

theorem bindData_thrice {binding : Schema Value} (distinct : binding.fieldNames.Nodup) (data : Row) :
    bindData binding (bindData binding (bindData binding data)) =
      bindData binding (bindData binding data) := by
  refine (bindData_eq_iff distinct _ _).mpr fun field declared => ?_
  rw [fieldValue_bindData distinct _ declared, fieldValue_bindData distinct _ declared, cast_cast]

end Record

open Eval (Numbers numbers_pure numbers_settle)

/-- The schema called on the dictionary of a record. -/
def Evaluator.callOnDictionary (run : Evaluator) (binding : Schema Value) (record : Value) : Eval Value := do
  let dict ← Eval.settle (← Method.invoke run record "toDictionary" [])
  run.call (.schema binding) [dict]

theorem Value.unnumbered_ofRecord_create {binding : Schema Value} (distinct : binding.fieldNames.Nodup)
    {first second : Row} (same : Row.unnumbered first = Row.unnumbered second) :
    (Value.ofRecord (Record.create binding first)).unnumbered =
      (Value.ofRecord (Record.create binding second)).unnumbered := by
  rw [Value.ofRecord, Value.ofRecord, Value.unnumbered_record, Value.unnumbered_record]
  change Value.record none { Record.create binding first with
    data := Row.unnumbered (Record.bindData binding first) } = _
  rw [Record.unnumbered_bindData distinct same]
  rfl

/-- A dictionary of evaluated values, which has numbers of its own, is bound as the row it is made from. -/
theorem Evaluator.callOnDictionary_numbers {binding : Schema Value} (distinct : binding.fieldNames.Nodup)
    (options : Options) (own : Handle) {record : Record Value} (complete : record.data.All Value.Complete)
    {fuel : Nat} (enough : sizeOf (Value.ofRow (Row.unnumbered record.data)) < fuel) :
    Numbers (fun made => made.unnumbered = (Value.ofRecord (Record.create binding record.data)).unnumbered)
      ((withFuel options fuel).callOnDictionary binding (.record own record)) := by
  change Numbers _ (Eval.settle (.ofRow record.data) >>= fun dict =>
    (withFuel options fuel).bindTo binding dict)
  refine (numbers_settle (.ofRow record.data)).bind fun dict settled => ?_
  obtain ⟨handle, held, rfl, each, same⟩ := Value.exists_row_of_settles complete settled
  rw [← same] at enough
  refine (withFuel_forceRow options each handle enough).bind fun forced alike => numbers_pure ?_
  exact Value.unnumbered_ofRecord_create distinct (alike.trans same)

namespace Record

/-- What a record of a declared schema holds when it is bound to the schema again, as its data, as the record
itself or as its dictionary. It holds the same data if and only if the cast changes no fallback that was
filled in, and nothing changes any more after that. -/
theorem rebinding {id : Nat} {name : String} {decls : List FieldDecl} {binding : Schema Value}
    (declared : Schema.declare id name decls = .ok binding) (data : Row) :
    let bound := (create binding data).data
    let rebound := (create binding bound).data
    Rebinds binding data bound rebound ∧
    (rebound = bound ↔ ∀ field ∈ binding.fields, data.get? field.name = none → ∀ value,
      field.fallback = some value → cast value field.typeName = value) ∧
    (create binding rebound).data = rebound ∧
    (∀ run own held, held.data = bound →
      Evaluator.call run (.schema binding) [.record own held] = pure (.ofRecord (create binding bound))) ∧
    (bound.All Value.Complete → ∃ enough, ∀ fuel ≥ enough, ∀ options own held, held.data = bound →
      Numbers (fun made => made.unnumbered = (Value.ofRecord (create binding bound)).unnumbered)
        ((Evaluator.withFuel options fuel).callOnDictionary binding (.record own held))) := by
  have distinct : binding.fieldNames.Nodup := (Schema.declare_declared id name decls binding declared).nodup
  intro bound rebound
  refine ⟨rebinds_bindData distinct data, bindData_bindData_iff distinct data, bindData_thrice distinct data,
    fun run own held same => ?_, fun complete => ?_⟩
  · rw [← same]
    rfl
  · refine ⟨sizeOf (Value.ofRow (Row.unnumbered bound)) + 1, fun fuel enough options own held same => ?_⟩
    rw [← same] at complete enough ⊢
    exact Evaluator.callOnDictionary_numbers distinct options own complete enough

/-- A name that is written as a number, and a fallback of the declared type. -/
theorem rebinding_of_booking :
    let decls :=
      [{ FieldDecl.new "guests" "int" with fallback := some (.int 1) }, FieldDecl.new "name" "string"]
    let data : Row := ⟨[("name", .int 7), ("unknown", .null)]⟩
    let bound : Row := ⟨[("guests", .int 1), ("name", .text "7")]⟩
    ∃ binding, (Schema.declare 0 "Booking" decls = .ok binding ∧ bound.All Value.Complete) ∧
      (create binding data).data = bound ∧ (create binding bound).data = bound ∧
      ∃ enough, ∀ fuel ≥ enough, Numbers (fun made => made.unnumbered = .ofRecord (create binding data))
        ((Evaluator.withFuel .default fuel).callOnDictionary binding (.ofRecord (create binding data))) := by
  intro decls data bound
  have declared : Schema.declare 0 "Booking" decls = .ok
      ⟨0, "Booking",
        [{ (FieldDecl.new "guests" "int").draft.field with fallback := some (.int 1), required := true },
          { (FieldDecl.new "name" "string").draft.field with required := true }]⟩ := by rfl
  have complete : bound.All Value.Complete := by
    rw [Dictionary.all_iff]
    simp [bound, Value.Scalar.complete]
  obtain ⟨-, -, again, -, dictionary⟩ := rebinding declared data
  obtain ⟨enough, numbers⟩ := dictionary complete
  exact ⟨_, ⟨declared, complete⟩, rfl, again, enough, fun fuel large =>
    numbers fuel large .default none _ rfl⟩

/-- A text that writes a number, as the fallback of a field of numbers, is a text when it is filled in and a
number when the data is bound again. -/
theorem text_fallback_cast_later :
    let decls := [{ FieldDecl.new "guests" "int" with fallback := some (.text "5") }]
    ∃ binding, Schema.declare 0 "Booking" decls = .ok binding ∧
      (create binding .empty).data = ⟨[("guests", .text "5")]⟩ ∧
      (create binding (create binding .empty).data).data = ⟨[("guests", .int 5)]⟩ ∧
      (create binding (create binding .empty).data).data ≠ (create binding .empty).data := by
  intro decls
  refine ⟨⟨0, "Booking", [{ (FieldDecl.new "guests" "int").draft.field with
    fallback := some (.text "5"), required := true }]⟩, by rfl, by rfl, by rfl, fun same => ?_⟩
  have texts : (Value.int 5) = .text "5" :=
    (Prod.mk.inj (List.cons.inj (Dictionary.mk.inj same)).1).2
  exact nomatch texts

end Record

end TableScript
