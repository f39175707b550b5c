import TableScript.Proofs.Dictionary.Refinement
import TableScript.Proofs.Record.Rebinding

set_option autoImplicit false

namespace TableScript

namespace Record

/-- The data after one change: a declared field takes the new value, cast. -/
def assign (binding : Schema Value) (data : Row) (change : String × Value) : Row :=
  match binding.field? change.1 with
  | some field => data.insert change.1 (cast change.2 field.typeName)
  | none => data

theorem update_eq (record : Record Value) (changes : Row) :
    record.update changes = record.withData (changes.entries.foldl (assign record.schema) record.data) := rfl

/-- Exactly the declared fields among the changes have changed. The order of the changes plays no part. -/
structure Assigned (binding : Schema Value) (changes : List (String × Value)) (before after : Row) :
    Prop where
  keys : after.keys = before.keys
  changed : ∀ key value, (key, value) ∈ changes → ∀ field, binding.field? key = some field →
    after.get? key = some (cast value field.typeName)
  kept : ∀ key, key ∉ changes.map Prod.fst ∨ binding.field? key = none → after.get? key = before.get? key

section Changes

variable {binding : Schema Value} {changes order : List (String × Value)} {before after : Row}

theorem keys_assign (declared : binding.fieldNames ⊆ before.keys) (change : String × Value) :
    (assign binding before change).keys = before.keys := by
  unfold assign
  cases found : binding.field? change.1 with
  | none => rfl
  | some field =>
    exact Dictionary.keys_insert_of_contains _
      ((Dictionary.contains_iff _ _).mpr (declared (Schema.mem_fieldNames_of_field? found)))

theorem get?_assign_self {key : String} {field : Field Value} (found : binding.field? key = some field)
    (value : Value) : (assign binding before (key, value)).get? key = some (cast value field.typeName) := by
  unfold assign
  rw [found]
  exact Dictionary.get?_insert_self before key _

theorem get?_assign_of_kept {key : String} {change : String × Value}
    (kept : key ≠ change.1 ∨ binding.field? key = none) :
    (assign binding before change).get? key = before.get? key := by
  unfold assign
  cases found : binding.field? change.1 with
  | none => rfl
  | some field =>
    refine Dictionary.get?_insert_of_ne before _ (kept.elim id fun undeclared same => ?_)
    rw [same, found] at undeclared
    cases undeclared

/-- One change more, before the others. -/
theorem Assigned.cons {change : String × Value} (declared : binding.fieldNames ⊆ before.keys)
    (absent : change.1 ∉ changes.map Prod.fst)
    (rest : Assigned binding changes (assign binding before change) after) :
    Assigned binding (change :: changes) before after where
  keys := rest.keys.trans (keys_assign declared change)
  changed key value member field found := by
    rcases List.mem_cons.mp member with rfl | later
    · rw [rest.kept key (.inl absent), get?_assign_self found]
    · exact rest.changed key value later field found
  kept key kept := by
    rw [List.map_cons, List.mem_cons, not_or] at kept
    rw [rest.kept key (kept.imp_left And.right), get?_assign_of_kept (kept.imp_left And.left)]

theorem assigned_foldl (declared : binding.fieldNames ⊆ before.keys)
    (distinct : (changes.map Prod.fst).Nodup) :
    Assigned binding changes before (changes.foldl (assign binding) before) := by
  induction changes generalizing before with
  | nil => exact ⟨rfl, fun _ _ member => (nomatch member), fun _ _ => rfl⟩
  | cons change rest ih =>
    obtain ⟨absent, apart⟩ := List.nodup_cons.mp distinct
    exact (ih (keys_assign declared change ▸ declared) apart).cons declared absent

theorem Assigned.unique {other : Row} (distinct : before.keys.Nodup)
    (first : Assigned binding changes before after) (second : Assigned binding changes before other) :
    after = other := by
  refine Dictionary.ext_get? (second.keys ▸ distinct) (first.keys.trans second.keys.symm) fun key => ?_
  by_cases changed : key ∈ changes.map Prod.fst
  · cases found : binding.field? key with
    | none => rw [first.kept key (.inr found), second.kept key (.inr found)]
    | some field =>
      obtain ⟨⟨_, value⟩, member, rfl⟩ := List.mem_map.mp changed
      rw [first.changed _ value member field found, second.changed _ value member field found]
  · rw [first.kept key (.inl changed), second.kept key (.inl changed)]

/-- The changes of undeclared fields are none. -/
theorem Assigned.of_declared (perm : order.Perm (changes.filter fun change => binding.hasField change.1))
    (assigned : Assigned binding order before after) : Assigned binding changes before after where
  keys := assigned.keys
  changed key value member field found := by
    refine assigned.changed key value (perm.mem_iff.mpr (List.mem_filter.mpr ⟨member, ?_⟩)) field found
    rw [← binding.isSome_field?, found]
    rfl
  kept key kept := by
    refine assigned.kept key (kept.imp_left fun absent member => absent ?_)
    obtain ⟨change, listed, rfl⟩ := List.mem_map.mp member
    exact List.mem_map_of_mem (List.mem_of_mem_filter (perm.mem_iff.mp listed))

/-- Setting the declared fields in any order makes all the changes. -/
theorem foldl_assign_perm (declared : binding.fieldNames ⊆ before.keys) (names : before.keys.Nodup)
    (distinct : (changes.map Prod.fst).Nodup)
    (perm : order.Perm (changes.filter fun change => binding.hasField change.1)) :
    order.foldl (assign binding) before = changes.foldl (assign binding) before := by
  have apart : (order.map Prod.fst).Nodup :=
    (perm.map Prod.fst).nodup_iff.mpr (distinct.sublist (List.filter_sublist.map Prod.fst))
  exact ((assigned_foldl declared apart).of_declared perm).unique names (assigned_foldl declared distinct)

theorem unnumbered_assign (data : Row) (change : String × Value) :
    Row.unnumbered (assign binding data change) =
      assign binding (Row.unnumbered data) (change.1, change.2.unnumbered) := by
  unfold assign
  cases binding.field? change.1 with
  | none => rfl
  | some field => rw [Row.unnumbered, Dictionary.map_insert, unnumbered_cast]; rfl

theorem unnumbered_foldl_assign (changes : List (String × Value)) (data : Row) :
    Row.unnumbered (changes.foldl (assign binding) data) =
      (changes.map fun change => (change.1, change.2.unnumbered)).foldl (assign binding)
        (Row.unnumbered data) := by
  induction changes generalizing data with
  | nil => rfl
  | cons change rest ih => rw [List.foldl_cons, ih, unnumbered_assign, List.map_cons, List.foldl_cons]

end Changes

end Record

open Eval (Numbers numbers_pure numbers_settle)

namespace Value

/-- A record of the schema with this data, up to numbers. -/
def Holds (binding : Schema Value) (data : Row) (value : Value) : Prop :=
  ∃ own held, value = .record own held ∧ held.schema = binding ∧
    Row.unnumbered held.data = Row.unnumbered data

theorem holds_of_unnumbered {binding : Schema Value} {data : Row} {value : Value}
    (same : value.unnumbered = (Value.ofRecord (.fresh binding data)).unnumbered) :
    value.Holds binding data := by
  rw [ofRecord, unnumbered_record] at same
  cases value with
  | record own held =>
    rw [unnumbered_record] at same
    obtain ⟨schema, rows, -, -⟩ := Record.mk.inj (Value.record.inj same).2
    exact ⟨own, held, rfl, schema, rows⟩
  | array => rw [unnumbered_array] at same; cases same
  | dict => rw [unnumbered_dict] at same; cases same
  | table => rw [unnumbered_table] at same; cases same
  | _ => cases same

theorem unnumbered_fresh {binding : Schema Value} {first second : Row}
    (same : Row.unnumbered first = Row.unnumbered second) :
    (Value.ofRecord (.fresh binding first)).unnumbered =
      (Value.ofRecord (.fresh binding second)).unnumbered := by
  rw [ofRecord, ofRecord, unnumbered_record, unnumbered_record]
  exact congrArg (fun data => Value.record none (.fresh binding data)) same

end Value

namespace Evaluator

/-- The method called for each pair of a field and a value, on what the call before it gives. -/
def setAll (run : Evaluator) (receiver : Value) (changes : List (String × Value)) : Eval Value :=
  changes.foldlM (fun receiver change => do
    Eval.settle (← Method.invoke run receiver "set" [.text change.1, change.2])) receiver

theorem invoke_set (run : Evaluator) (own : Handle) (record : Record Value) (field : String) (value : Value) :
    Method.invoke run (.record own record) "set" [.text field, value] =
      match record.schema.field? field with
      | none => Eval.fail (.unknownField field record.schema.name)
      | some declared => do
        let value ← run.resolve value
        return Value.ofRecord (← record.setField field (Record.cast value declared.typeName)) := rfl

theorem set_numbers {run : Evaluator} {binding : Schema Value} {data : Row} {receiver : Value}
    (holds : receiver.Holds binding data) {change : String × Value}
    (declared : binding.hasField change.1 = true) (resolves : run.Resolves change.2) :
    Numbers (fun made => made.unnumbered =
        (Value.ofRecord (.fresh binding (Record.assign binding data change))).unnumbered)
      (Method.invoke run receiver "set" [.text change.1, change.2] >>= Eval.settle) := by
  obtain ⟨own, held, rfl, rfl, same⟩ := holds
  obtain ⟨field, found⟩ := Option.isSome_iff_exists.mp ((held.schema.isSome_field? change.1).trans declared)
  have invoked : Method.invoke run (.record own held) "set" [.text change.1, change.2] =
      run.resolve change.2 >>= fun value =>
        pure (.ofRecord (.fresh held.schema (Record.assign held.schema held.data (change.1, value)))) := by
    simp only [invoke_set, found, Record.setField, declared, if_true, Record.assign]
    rfl
  rw [invoked]
  refine (resolves.bind fun value alike => numbers_pure ?_).settled
  refine Value.unnumbered_fresh ?_
  rw [Record.unnumbered_assign, Record.unnumbered_assign, same, alike]

/-- One call or more makes the record fresh. -/
theorem setAll_numbers {run : Evaluator} {binding : Schema Value} {changes : List (String × Value)}
    (some_change : changes ≠ []) (declared : ∀ change ∈ changes, binding.hasField change.1 = true)
    (resolves : ∀ change ∈ changes, run.Resolves change.2) {data : Row} {receiver : Value}
    (holds : receiver.Holds binding data) :
    Numbers (fun made => made.unnumbered =
        (Value.ofRecord (.fresh binding (changes.foldl (Record.assign binding) data))).unnumbered)
      (run.setAll receiver changes) := by
  -- The record after each call is known up to numbers, which is all that the next call asks of its receiver.
  induction changes generalizing data receiver with
  | nil => exact absurd rfl some_change
  | cons change rest ih =>
    obtain ⟨named, declared⟩ := List.forall_mem_cons.mp declared
    obtain ⟨first, resolves⟩ := List.forall_mem_cons.mp resolves
    rw [setAll, List.foldlM_cons]
    refine (set_numbers holds named first).bind fun made shown => ?_
    cases rest with
    | nil => exact numbers_pure shown
    | cons => exact ih (List.cons_ne_nil _ _) declared resolves (Value.holds_of_unnumbered shown)

theorem update_numbers {run : Evaluator} (own : Handle) (record : Record Value) (handle : Handle)
    {changes : Row} (resolves : ∀ value ∈ changes.values, run.Resolves value) :
    Numbers (fun made => made.unnumbered = (Value.ofRecord (record.update changes)).unnumbered)
      (Method.invoke run (.record own record) "update" [.dict handle (changes.map .ready)] >>=
        Eval.settle) := by
  have invoked : Method.invoke run (.record own record) "update" [.dict handle (changes.map .ready)] =
      run.forceRow handle (changes.map .ready) >>= fun forced =>
        pure (.ofRecord (record.update forced)) := rfl
  rw [invoked]
  refine ((forceRow_numbers handle resolves).bind fun forced same => numbers_pure ?_).settled
  rw [Record.update_eq, Record.update_eq]
  refine Value.unnumbered_fresh ?_
  rw [Record.unnumbered_foldl_assign, Record.unnumbered_foldl_assign]
  exact congrArg (List.foldl _ _) (congrArg Dictionary.entries same)

theorem set_undeclared (run : Evaluator) (own : Handle) {record : Record Value} {field : String}
    (undeclared : record.schema.hasField field = false) (value : Value) :
    Method.invoke run (.record own record) "set" [.text field, value] =
      Eval.fail (.unknownField field record.schema.name) := by
  rw [← record.schema.isSome_field?, Option.isSome_eq_false_iff, Option.isNone_iff_eq_none] at undeclared
  rw [invoke_set, undeclared]

end Evaluator

namespace Record

/-- What an update makes of a record that has the fields of its schema. Exactly the declared fields among the
changes have other values, which are the changes cast to their types, and nothing is known of the new record.
Setting the declared fields among the changes, one after the other and in any order, makes the same record if
there is one. Setting another field fails. -/
theorem update_eq_sets {record : Record Value} (shaped : record.Shaped)
    (fields : record.schema.fieldNames.Nodup) {changes : Row} (distinct : changes.keys.Nodup)
    (complete : changes.All Value.Complete)
    (declares : ∃ key ∈ changes.keys, record.schema.hasField key = true) :
    Assigned record.schema changes.entries record.data (record.update changes).data ∧
    ((record.update changes).schema = record.schema ∧ (record.update changes).validated = false ∧
      (record.update changes).errors = .empty) ∧
    (∃ enough, ∀ fuel ≥ enough, ∀ options own,
      (∀ handle, Numbers (fun made => made.unnumbered = (Value.ofRecord (record.update changes)).unnumbered)
        (Method.invoke (Evaluator.withFuel options fuel) (.record own record) "update"
          [.dict handle (changes.map .ready)] >>= Eval.settle)) ∧
      ∀ order, order.Perm (changes.entries.filter fun change => record.schema.hasField change.1) →
        Numbers (fun made => made.unnumbered = (Value.ofRecord (record.update changes)).unnumbered)
          ((Evaluator.withFuel options fuel).setAll (.record own record) order)) ∧
    ∀ run own field value, record.schema.hasField field = false →
      Method.invoke run (.record own record) "set" [.text field, value] =
          Eval.fail (.unknownField field record.schema.name) ∧
        (EvalError.unknownField field record.schema.name).code = "RECORD-0001" := by
  have held : record.schema.fieldNames ⊆ record.data.keys := fun name member => shaped ▸ member
  have names : record.data.keys.Nodup := shaped ▸ fields
  refine ⟨assigned_foldl held distinct, ⟨rfl, rfl, rfl⟩, ?_, fun run own field value undeclared =>
    ⟨run.set_undeclared own undeclared value, rfl⟩⟩
  refine ⟨sizeOf (Value.ofRow (Row.unnumbered changes)), fun fuel enough options own => ?_⟩
  have resolves (value : Value) (member : value ∈ changes.values) :
      (Evaluator.withFuel options fuel).Resolves value :=
    Evaluator.withFuel_resolves options (complete value member)
      (Nat.lt_of_lt_of_le (Value.sizeOf_ofRow_unnumbered member) enough)
  refine ⟨fun handle => Evaluator.update_numbers own record handle resolves, fun order perm => ?_⟩
  have listed (change : String × Value) (member : change ∈ order) :
      change ∈ changes.entries ∧ record.schema.hasField change.1 = true :=
    List.mem_filter.mp (perm.mem_iff.mp member)
  have filled : order ≠ [] := by
    rintro rfl
    obtain ⟨_, key, named⟩ := declares
    obtain ⟨change, member, rfl⟩ := List.mem_map.mp key
    exact List.not_mem_nil (perm.mem_iff.mpr (List.mem_filter.mpr ⟨member, named⟩))
  have sets := @Evaluator.setAll_numbers (Evaluator.withFuel options fuel) record.schema order filled
    (fun change member => (listed change member).2)
    (fun change member => resolves change.2 (List.mem_map_of_mem (listed change member).1))
    record.data (.record own record) ⟨own, record, rfl, rfl, rfl⟩
  rwa [foldl_assign_perm held names distinct perm] at sets

/-- A number that is written as a text and a name that is written as a number, set in the other order. -/
theorem update_eq_sets_of_booking :
    let binding : Schema Value := ⟨0, "Booking",
      [(FieldDecl.new "guests" "int").draft.field, (FieldDecl.new "name" "string").draft.field]⟩
    let record : Record Value :=
      (fresh binding ⟨[("guests", .int 1), ("name", .text "Ann")]⟩).withError "name" ⟨"CUSTOM", "unknown"⟩
    let changes : Row := ⟨[("name", .int 7), ("note", .null), ("guests", .text " 3")]⟩
    let changed : Record Value := fresh binding ⟨[("guests", .int 3), ("name", .text "7")]⟩
    (record.Shaped ∧ record.schema.fieldNames.Nodup ∧ changes.keys.Nodup ∧ changes.All Value.Complete ∧
      ∃ key ∈ changes.keys, record.schema.hasField key = true) ∧
    record.update changes = changed ∧
    (∃ enough, ∀ fuel ≥ enough, Numbers (fun made => made.unnumbered = .ofRecord changed)
      ((Evaluator.withFuel .default fuel).setAll (.ofRecord record)
        [("guests", .text " 3"), ("name", .int 7)])) ∧
    ∀ run, Method.invoke run (.ofRecord record) "set" [.text "note", .null] =
      Eval.fail (.unknownField "note" "Booking") := by
  intro binding record changes changed
  have shaped : record.Shaped := by rfl
  have fields : record.schema.fieldNames.Nodup := by decide
  have distinct : changes.keys.Nodup := by decide
  have complete : changes.All Value.Complete := by
    rw [Dictionary.all_iff]
    simp [changes, Value.Scalar.complete]
  have declares : ∃ key ∈ changes.keys, record.schema.hasField key = true := ⟨"name", by decide, by rfl⟩
  obtain ⟨-, -, ⟨enough, same⟩, refused⟩ := update_eq_sets shaped fields distinct complete declares
  refine ⟨⟨shaped, fields, distinct, complete, declares⟩, by rfl, ⟨enough, fun fuel large => ?_⟩, fun run =>
    (refused run none "note" .null (by decide)).1⟩
  exact (same fuel large .default none).2 _ (List.Perm.swap _ _ _)

end Record

end TableScript
