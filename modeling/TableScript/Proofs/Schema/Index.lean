import TableScript.Proofs.Dictionary.Distinct
import TableScript.Proofs.Schema.Shape

set_option autoImplicit false

namespace TableScript

namespace Schema

/-- Fields, and the place of each name among them. -/
structure Indexed where
  fields : List (Field Value)
  places : Dictionary Nat

namespace Indexed

def empty : Indexed := ⟨[], .empty⟩

/-- The next field goes last, and its place is noted under its name. -/
def add (indexed : Indexed) (field : Field Value) : Indexed :=
  ⟨indexed.fields ++ [field], indexed.places.insert field.name indexed.fields.length⟩

/-- Adds the field of one more declaration. The index says whether its name is taken. -/
def declareField [RegexEngine] (indexed : Indexed) (decl : FieldDecl) : Except SchemaError Indexed := do
  let field ← decl.build
  if indexed.places.contains field.name then throw (.duplicateField field.name)
  return indexed.add field

/-- What is at the place of a name. A place outside of the fields would give nothing there. -/
def lookup (indexed : Indexed) (name : String) : Option (Option (Field Value)) :=
  (indexed.places.get? name).map fun place => indexed.fields[place]?

/-- A name has a place if and only if a field has the name, and it is the place of that field. -/
structure InStep (indexed : Indexed) : Prop where
  distinct : (indexed.fields.map (·.name)).Nodup
  placed : ∀ name place, indexed.places.get? name = some place ↔
    ∃ field, indexed.fields[place]? = some field ∧ field.name = name

theorem InStep.empty : InStep empty where
  distinct := List.nodup_nil
  placed name place := by
    constructor
    · intro found
      cases found
    · rintro ⟨field, found, -⟩
      cases found

variable {indexed : Indexed}

theorem InStep.contains_iff (inStep : indexed.InStep) (name : String) :
    indexed.places.contains name = true ↔ name ∈ indexed.fields.map (·.name) := by
  rw [Dictionary.contains_iff, ← Dictionary.isSome_get?, Option.isSome_iff_exists, List.mem_map]
  constructor
  · rintro ⟨place, found⟩
    obtain ⟨field, here, same⟩ := (inStep.placed name place).mp found
    exact ⟨field, List.mem_of_getElem? here, same⟩
  · rintro ⟨field, member, same⟩
    obtain ⟨place, here⟩ := List.mem_iff_getElem?.mp member
    exact ⟨place, (inStep.placed name place).mpr ⟨field, here, same⟩⟩

theorem InStep.add (inStep : indexed.InStep) {field : Field Value}
    (fresh : field.name ∉ indexed.fields.map (·.name)) : (indexed.add field).InStep where
  distinct := by
    rw [Indexed.add, List.map_append]
    exact (List.perm_append_singleton field.name _).nodup_iff.mpr (List.nodup_cons.mpr ⟨fresh, inStep.distinct⟩)
  placed name place := by
    have before : (∃ other, indexed.fields[place]? = some other ∧ other.name = name) →
        name ∈ indexed.fields.map (·.name) := fun ⟨other, here, same⟩ =>
      List.mem_map.mpr ⟨other, List.mem_of_getElem? here, same⟩
    rw [Indexed.add]
    by_cases named : name = field.name
    · subst named
      rw [Dictionary.get?_insert_self, Option.some_inj]
      constructor
      · rintro rfl
        exact ⟨field, List.getElem?_concat_length, rfl⟩
      · rintro ⟨other, here, same⟩
        rcases Nat.lt_trichotomy place indexed.fields.length with old | last | outside
        · rw [List.getElem?_append_left old] at here
          exact absurd (before ⟨other, here, same⟩) fresh
        · exact last.symm
        · rw [List.getElem?_eq_none (by rw [List.length_append]; exact outside)] at here
          cases here
    · rw [Dictionary.get?_insert_of_ne _ _ named, inStep.placed]
      refine exists_congr fun other => and_congr_left fun same => ?_
      rw [List.getElem?_append]
      split
      next => rfl
      next old =>
        rw [List.getElem?_eq_none (Nat.le_of_not_lt old), List.getElem?_singleton]
        split
        next =>
          refine iff_of_false (nomatch ·) fun added => ?_
          cases added
          exact named same.symm
        next => rfl

section Declaring

variable [RegexEngine]

theorem declareField_inStep (inStep : indexed.InStep) (decl : FieldDecl) :
    Gives InStep (indexed.declareField decl) := by
  refine gives_bind fun field _ => ?_
  dsimp only
  split
  · exact gives_bind fun _ failed => nomatch failed
  · rename_i fresh
    exact gives_pure.mpr (inStep.add (mt (inStep.contains_iff field.name).mpr fresh))

/-- The fields are added as without an index, and what fails is the same. -/
theorem fields_declareField (inStep : indexed.InStep) (decl : FieldDecl) :
    (indexed.declareField decl).map (·.fields) = Schema.declareField indexed.fields decl := by
  rw [declareField, Schema.declareField]
  cases decl.build with
  | error error => rfl
  | ok field =>
    have taken : indexed.places.contains field.name = indexed.fields.any (·.name == field.name) := by
      rw [Bool.eq_iff_iff, inStep.contains_iff, List.mem_map, List.any_eq_true]
      exact exists_congr fun other => and_congr_right fun _ => beq_iff_eq.symm
    change Except.map _ (if indexed.places.contains field.name then
      (throw (SchemaError.duplicateField field.name) >>= fun _ : Unit => pure _) else pure _) =
      if indexed.fields.any (·.name == field.name) then
        (throw (SchemaError.duplicateField field.name) >>= fun _ : Unit => pure _) else pure _
    rw [taken]
    split <;> rfl

theorem foldlM_inStep (inStep : indexed.InStep) (decls : List FieldDecl) :
    Gives InStep (decls.foldlM declareField indexed) :=
  Gives.foldlM inStep fun _ decl _ inStep => declareField_inStep inStep decl

theorem fields_foldlM (inStep : indexed.InStep) (decls : List FieldDecl) :
    (decls.foldlM declareField indexed).map (·.fields) = decls.foldlM Schema.declareField indexed.fields := by
  induction decls generalizing indexed with
  | nil => rfl
  | cons decl rest ih =>
    rw [List.foldlM_cons, List.foldlM_cons, ← fields_declareField inStep]
    cases made : indexed.declareField decl with
    | error error => rfl
    | ok next => exact ih (declareField_inStep inStep decl next made)

end Declaring

/-- A name leads to the field that has it, and to none if no field has it. -/
theorem InStep.lookup_eq (inStep : indexed.InStep) {schema : Schema Value}
    (same : indexed.fields = schema.fields) (name : String) :
    indexed.lookup name = (schema.field? name).map some := by
  have distinct : schema.fieldNames.Nodup := by
    rw [fieldNames, ← same]
    exact inStep.distinct
  rw [lookup]
  cases found : indexed.places.get? name with
  | none =>
    have absent : schema.field? name = none := by
      refine Option.eq_none_iff_forall_ne_some.mpr fun field held => ?_
      obtain ⟨member, named⟩ := schema.mem_of_field? held
      rw [← same] at member
      obtain ⟨place, here⟩ := List.mem_iff_getElem?.mp member
      have placed := (inStep.placed name place).mpr ⟨field, here, named⟩
      rw [found] at placed
      cases placed
    rw [absent]
    rfl
  | some place =>
    obtain ⟨field, here, rfl⟩ := (inStep.placed name place).mp found
    have member : field ∈ schema.fields := same ▸ List.mem_of_getElem? here
    rw [schema.field?_of_mem distinct member, Option.map_some, here, Option.map_some]

end Indexed

end Schema

end TableScript
