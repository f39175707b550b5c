import TableScript.Method.Record
import TableScript.Proofs.Operation.Law

set_option autoImplicit false

namespace TableScript

variable {law : Law}

theorem Row.cell_of_all {holds : Value → Prop} {row : Row} (each : row.All holds) (absent : holds .null)
    (column : String) : holds (Row.cell row column) := by
  unfold Row.cell
  cases found : row.get? column with
  | none => exact absent
  | some value => exact each.get? found

/-- A cast gives the value itself, a number, a text or a truth value. -/
theorem Record.cast_eq_or_scalar (value : Value) (typeName : String) :
    Record.cast value typeName = value ∨ (Record.cast value typeName).Scalar := by
  unfold Record.cast Record.castTo
  repeat' split
  all_goals simp

theorem Record.cast_lawful {value : Value} (lawful : law.Throughout value) (typeName : String) :
    law.Throughout (Record.cast value typeName) := by
  rcases Record.cast_eq_or_scalar value typeName with same | scalar
  · rw [same]
    exact lawful
  · exact Law.throughout_scalar scalar

namespace Law.Kept

variable (kept : law.Kept)
include kept

theorem stored_of_complete {value : Value} (complete : value.Complete) (lawful : law.Throughout value) :
    law.Stored value := ⟨kept.complete complete, lawful⟩

theorem stored_scalar {value : Value} (scalar : value.Scalar) : law.Stored value :=
  kept.stored_of_complete scalar.complete (throughout_scalar scalar)

theorem stored_cast {value : Value} (stored : law.Stored value) (typeName : String) :
    law.Stored (Record.cast value typeName) := by
  rcases Record.cast_eq_or_scalar value typeName with same | scalar
  · rw [same]
    exact stored
  · exact kept.stored_scalar scalar

theorem stored_fieldValue {binding : Schema Value} {field : Field Value} {data : Row}
    (lawful : law.Throughout (.schema binding)) (declared : field ∈ binding.fields)
    (each : data.All law.Stored) : law.Stored (Record.fieldValue field data) := by
  unfold Record.fieldValue
  split
  · rename_i found
    exact kept.stored_cast (each.get? found) field.typeName
  · cases given : field.fallback with
    | none => exact kept.stored_scalar .null
    | some value => exact ((throughout_schema.mp lawful).2 field declared).1 value given

theorem stored_bindData {binding : Schema Value} {data : Row} (lawful : law.Throughout (.schema binding))
    (each : data.All law.Stored) : (Record.bindData binding data).All law.Stored := by
  apply Dictionary.All.ofList
  intro pair member
  obtain ⟨field, declared, rfl⟩ := List.mem_map.mp member
  exact kept.stored_fieldValue lawful declared each

theorem create_lawful {binding : Schema Value} {data : Row} (lawful : law.Throughout (.schema binding))
    (each : data.All law.Stored) : law.Throughout (.ofRecord (Record.create binding data)) := by
  refine throughout_record.mpr ⟨kept.create data (throughout_schema.mp lawful).1, lawful, ?_⟩
  exact kept.stored_bindData lawful each

theorem setField_lawful {handle : Handle} {record : Record Value} {value : Value}
    (lawful : law.Throughout (.record handle record)) (field : String) (stored : law.Stored value) :
    Gives (fun changed => law.Throughout (.ofRecord changed)) (record.setField field value) := by
  obtain ⟨here, binding, each⟩ := throughout_record.mp lawful
  unfold Record.setField
  split
  · rename_i declared
    rw [gives_ok]
    refine throughout_record.mpr ⟨?_, binding, each.insert field stored⟩
    exact kept.assign value declared (kept.refresh here)
  · exact gives_error _

theorem update_lawful {handle : Handle} {record : Record Value} {changes : Row}
    (lawful : law.Throughout (.record handle record)) (new : changes.All law.Stored) :
    law.Throughout (.ofRecord (record.update changes)) := by
  obtain ⟨here, binding, each⟩ := throughout_record.mp lawful
  -- The invariant of the changes: the data so far make a record that obeys the law.
  let Good (data : Row) : Prop := law.record (.fresh record.schema data) ∧ data.All law.Stored
  have changed : Good (record.update changes).data := by
    refine List.foldlRecOn changes.entries _ ⟨kept.refresh here, each⟩ ?_
    rintro data ⟨fresh, held⟩ ⟨key, value⟩ member
    dsimp only
    cases found : record.schema.field? key with
    | none => exact ⟨fresh, held⟩
    | some field =>
        have stored := kept.stored_cast (Dictionary.all_iff.mp new (key, value) member) field.typeName
        have declared : record.schema.hasField key = true := by
          have named := List.find?_some found
          simp only [Schema.hasField, List.any_eq_true]
          exact ⟨field, List.mem_of_find?_eq_some found, named⟩
        exact ⟨kept.assign _ declared fresh, held.insert key stored⟩
  exact throughout_record.mpr ⟨changed.1, binding, changed.2⟩

theorem validate_lawful {handle : Handle} {record : Record Value}
    (lawful : law.Throughout (.record handle record)) : law.Throughout (.ofRecord record.validate) := by
  obtain ⟨here, binding, each⟩ := throughout_record.mp lawful
  exact throughout_record.mpr ⟨kept.validate here, binding, each⟩

theorem withError_lawful {handle : Handle} {record : Record Value} (field : String) (error : FieldError)
    (lawful : law.Throughout (.record handle record)) :
    law.Throughout (.ofRecord (record.withError field error)) := by
  obtain ⟨here, binding, each⟩ := throughout_record.mp lawful
  exact throughout_record.mpr ⟨kept.withError field error here, binding, each⟩

end Law.Kept

end TableScript
