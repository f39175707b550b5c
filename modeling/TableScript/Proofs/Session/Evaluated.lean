import TableScript.Proofs.Session.Law
import TableScript.Value.Render

set_option autoImplicit false

namespace TableScript

namespace Value

mutual

/-- The JSON form, if every entry on the way is evaluated. -/
def toJson? : Value → Option Json
  | .array _ items => (toJsonAll? items).map .array
  | .dict _ ⟨entries⟩ => (toJsonEntries? entries).map .object
  | .record _ ⟨_, ⟨data⟩, _, _⟩ => (toJsonRow? data).map .object
  | .table _ ⟨columns, rows, _, _⟩ => (toJsonRows? columns rows).map .array
  | value => some value.toJson

def toJsonAll? : List Value → Option (List Json)
  | [] => some []
  | item :: rest => do return (← toJson? item) :: (← toJsonAll? rest)

def toJsonEntries? : List (String × Entry Value) → Option (List (String × Json))
  | [] => some []
  | (key, .ready value) :: rest => do return (key, ← toJson? value) :: (← toJsonEntries? rest)
  | (_, .deferred ..) :: _ => none

def toJsonRow? : List (String × Value) → Option (List (String × Json))
  | [] => some []
  | (key, value) :: rest => do return (key, ← toJson? value) :: (← toJsonRow? rest)

/-- Each row shows the columns, a repeated one only once. -/
def toJsonRows? (columns : List String) : List (Dictionary Value) → Option (List Json)
  | [] => some []
  | ⟨row⟩ :: rest => do
    let members ← toJsonRow? row
    return .object (columns.eraseDups.map fun column => (column, (members.lookup column).getD .null))
      :: (← toJsonRows? columns rest)

end

/-- A record or a table whose cells have no unevaluated entry at any depth of arrays and dictionaries. -/
def Evaluated : Value → Prop
  | .record _ ⟨_, data, _, _⟩ => data.All Complete
  | .table _ ⟨_, rows, _, _⟩ => ∀ row ∈ rows, row.All Complete
  | _ => True

end Value

/-- What rows hold has no unevaluated entries. Nothing else is asked. -/
def Law.evaluated : Law where
  cell := Value.Complete
  schema _ := True
  record _ := True
  table _ := True

theorem Law.evaluated_kept : evaluated.Upheld where
  complete whole := whole
  cellSettles settled whole := whole.settles settled
  declare _ := trivial
  recordSettles _ _ := trivial
  tableSettles _ _ := trivial
  create _ _ := trivial
  refresh _ := trivial
  assign _ _ _ := trivial
  validate _ := trivial
  withError _ _ _ := trivial
  row _ _ _ := trivial
  unbound _ := trivial
  bound _ _ _ _ := trivial
  grow _ _ _ _ := trivial

namespace Value

mutual

theorem toJson?_eq (value : Value) (resolved : Law.evaluated.Resolved value) :
    value.toJson? = some value.toJson := by
  obtain ⟨complete, lawful⟩ := resolved
  cases value with
  | array handle items =>
      have each : ∀ item ∈ items, Law.evaluated.Resolved item := fun item member =>
        ⟨complete_array.mp complete item member, Law.throughout_array.mp lawful item member⟩
      simp only [toJson?, toJson, toJsonAll?_eq items each, Option.map_some]
  | dict handle entries =>
      have each : ∀ entry ∈ entries.entries.map (·.2), ∃ held, entry = .ready held ∧
          Law.evaluated.Resolved held := by
        intro entry member
        obtain ⟨held, rfl, whole⟩ := complete_dict.mp complete entry member
        exact ⟨held, rfl, whole, Law.throughout_dict.mp lawful _ member⟩
      simp only [toJson?, toJson, toJsonEntries?_eq entries.entries each, Option.map_some]
  | table handle table =>
      have each := (Law.throughout_table.mp lawful).2.2
      simp only [toJson?, toJson, toJsonRows?_eq table.columns table.rows each, Option.map_some]
  | record handle record =>
      have each := (Law.throughout_record.mp lawful).2.2
      simp only [toJson?, toJson, toJsonRow?_eq record.data.entries each, Option.map_some]
  | null | bool | int | float | quantity | text | money | schema | function | error => rfl

theorem toJsonAll?_eq (items : List Value) (each : ∀ item ∈ items, Law.evaluated.Resolved item) :
    toJsonAll? items = some (toJsonAll items) := by
  cases items with
  | nil => rfl
  | cons item rest =>
      obtain ⟨first, others⟩ := List.forall_mem_cons.mp each
      simp only [toJsonAll?, toJsonAll, toJson?_eq item first, toJsonAll?_eq rest others]
      rfl

theorem toJsonEntries?_eq (entries : List (String × Entry Value))
    (each : ∀ entry ∈ entries.map (·.2), ∃ held, entry = .ready held ∧ Law.evaluated.Resolved held) :
    toJsonEntries? entries = some (toJsonEntries entries) := by
  cases entries with
  | nil => rfl
  | cons pair rest =>
      obtain ⟨key, entry⟩ := pair
      obtain ⟨first, others⟩ := List.forall_mem_cons.mp each
      cases entry with
      | ready value =>
          obtain ⟨held, ⟨⟩, resolved⟩ := first
          simp only [toJsonEntries?, toJsonEntries, toJson?_eq value resolved, toJsonEntries?_eq rest others]
          rfl
      | deferred =>
          obtain ⟨held, ⟨⟩, -⟩ := first

theorem toJsonRow?_eq (row : List (String × Value)) (each : Dictionary.All Law.evaluated.Stored ⟨row⟩) :
    toJsonRow? row = some (toJsonRow row) := by
  cases row with
  | nil => rfl
  | cons pair rest =>
      obtain ⟨key, value⟩ := pair
      obtain ⟨first, others⟩ := List.forall_mem_cons.mp (Dictionary.all_iff.mp each)
      have stored : Dictionary.All Law.evaluated.Stored ⟨rest⟩ := Dictionary.all_iff.mpr others
      simp only [toJsonRow?, toJsonRow, toJson?_eq value first, toJsonRow?_eq rest stored]
      rfl

theorem toJsonRows?_eq (columns : List String) (rows : List Row)
    (each : ∀ row ∈ rows, row.All Law.evaluated.Stored) :
    toJsonRows? columns rows = some (toJsonRows columns rows) := by
  cases rows with
  | nil => rfl
  | cons row rest =>
      obtain ⟨cells⟩ := row
      obtain ⟨first, others⟩ := List.forall_mem_cons.mp each
      simp only [toJsonRows?, toJsonRows, toJsonRow?_eq cells first, toJsonRows?_eq columns rest others]
      rfl

end

end Value

/-- Evaluated cells in a record or a table, and a JSON form that shows no entry as null for want of evaluation. -/
def Value.Presents (value : Value) : Prop :=
  value.Evaluated ∧ (value.Complete → value.toJson? = some value.toJson)

theorem Law.presents_of_throughout {value : Value} (lawful : evaluated.Throughout value) :
    ∀ part : Value, part.Occurs value → part.Presents := by
  intro part deep
  have inside : evaluated.Throughout part := fun inner deeper => lawful inner (deeper.trans deep)
  refine ⟨?_, fun complete => Value.toJson?_eq part ⟨complete, inside⟩⟩
  cases part with
  | record | table => exact (inside _ .self).2
  | null | bool | int | float | quantity | text | money | array | dict | schema | function | error => trivial

/-- A dictionary with an entry that is not evaluated. -/
def Value.awaits : Value → Bool
  | .dict _ entries => entries.values.any fun entry => entry.value?.isNone
  | _ => false

theorem Value.Defers.of_awaits {value : Value} (awaits : value.awaits = true) : value.Defers := by
  unfold Value.awaits at awaits
  split at awaits
  · obtain ⟨entry, held, none⟩ := List.any_eq_true.mp awaits
    cases entry with
    | ready => cases none
    | deferred => exact .here held
  · cases awaits

namespace Session

/-- Evaluated cells, for every session from its start on whose declared schemas have evaluated fallbacks.
Whatever the commands are, no unevaluated entry stands in the data of a record or in a row of a table, at any
depth of arrays and dictionaries, wherever the record or the table occurs in a reply or under a name; and the
JSON form of it shows null only for values that are null. -/
theorem stored_values_evaluated (options : Options) (commands : List Command)
    (fallbacks : ∀ binding, .ok (.schema binding) ∈ ((start options).steps commands).1 →
      ∀ field ∈ binding.fields, ∀ value, field.fallback = some value → value.Complete) :
    (∀ reply, .ok reply ∈ ((start options).steps commands).1 → ∀ shown ∈ reply.values,
      ∀ part : Value, part.Occurs shown → part.Presents) ∧
    (∀ value, ((start options).steps commands).2.Holds value →
      ∀ part : Value, part.Occurs value → part.Presents) := by
  obtain ⟨replies, lawful⟩ := steps_lawful Law.evaluated_kept commands (start_lawful options) fallbacks
  constructor
  · intro reply given shown member
    exact Law.presents_of_throughout (replies reply given shown member)
  · intro value bound
    exact Law.presents_of_throughout (lawful value bound)

/-- Declares a schema with one field and a fallback for it, and binds an empty dictionary to it. -/
def bindEmpty (fallback : Expr) : List Command :=
  [.schema "S" "S" [⟨"f", "json", false, some fallback, [], [], []⟩],
    .eval (.call (.ident "S") [.dict 2 []])]

/-- The record that a reply shows. -/
def recordShown? : Except CommandError Reply → Option (Handle × Record Value)
  | .ok (.value (.record handle record)) => some (handle, record)
  | _ => none

theorem eq_of_recordShown? {outcome : Except CommandError Reply} {handle : Handle} {record : Record Value}
    (shown : recordShown? outcome = some (handle, record)) :
    outcome = .ok (.value (.record handle record)) := by
  unfold recordShown? at shown
  split at shown
  · cases shown
    rfl
  · cases shown

/-- Every fallback of the schema that a reply shows is an array of one integer. -/
def fallsBackToArrays : Except CommandError Reply → Bool
  | .ok (.schema binding) => binding.fields.all fun field =>
    match field.fallback with
    | some (.array _ [.int _]) => true
    | _ => false
  | _ => true

theorem stored_values_evaluated_of_array :
    (∀ binding, .ok (.schema binding) ∈ ((start .default).steps (bindEmpty (.array [.int 1]))).1 →
      ∀ field ∈ binding.fields, ∀ value, field.fallback = some value → value.Complete) ∧
    ∃ handle record,
      .ok (.value (.record handle record)) ∈ ((start .default).steps (bindEmpty (.array [.int 1]))).1 ∧
        (Value.record handle record).Presents := by
  have given : ∀ binding, .ok (.schema binding) ∈ ((start .default).steps (bindEmpty (.array [.int 1]))).1 →
      ∀ field ∈ binding.fields, ∀ value, field.fallback = some value → value.Complete := by
    have arrays : ((start .default).steps (bindEmpty (.array [.int 1]))).1.all fallsBackToArrays = true := by
      decide +kernel
    intro binding shown field member value same
    have array := List.all_eq_true.mp (List.all_eq_true.mp arrays _ shown) field member
    rw [same] at array
    split at array
    · rename_i written
      cases written
      exact Value.complete_array.mpr (List.forall_mem_singleton.mpr (Value.Scalar.int _).complete)
    · cases array
  refine ⟨given, ?_⟩
  have answered : (((start .default).steps (bindEmpty (.array [.int 1]))).1.findSome? recordShown?).isSome := by
    decide +kernel
  obtain ⟨⟨handle, record⟩, found⟩ := Option.isSome_iff_exists.mp answered
  obtain ⟨outcome, listed, shown⟩ := List.exists_of_findSome?_eq_some found
  rw [eq_of_recordShown? shown] at listed
  have presented := (stored_values_evaluated .default (bindEmpty (.array [.int 1])) given).1 _ listed
  exact ⟨handle, record, listed, presented _ List.mem_cons_self _ .self⟩

/-- A dictionary literal as a fallback comes into the record with its entry unevaluated, and the JSON form
shows null for it. -/
theorem literal_fallback_unevaluated :
    ∃ handle record, .ok (.value (.record handle record)) ∈
        ((start .default).steps (bindEmpty (.dict 1 [("a", .int 1)]))).1 ∧
      ¬ record.data.All Value.Complete ∧
      (Value.record handle record).toJson.render = "\x7b\"f\":\x7b\"a\":null\x7d\x7d" := by
  have answered :
      (((start .default).steps (bindEmpty (.dict 1 [("a", .int 1)]))).1.findSome? recordShown?).any
        (fun shown => shown.2.data.values.any Value.awaits &&
          (Value.record shown.1 shown.2).toJson.render == "\x7b\"f\":\x7b\"a\":null\x7d\x7d") = true := by
    decide +kernel
  obtain ⟨⟨handle, record⟩, found, seen⟩ := (Option.any_eq_true _ _).mp answered
  obtain ⟨outcome, listed, shown⟩ := List.exists_of_findSome?_eq_some found
  rw [eq_of_recordShown? shown] at listed
  obtain ⟨waiting, text⟩ := Bool.and_eq_true_iff.mp seen
  obtain ⟨value, held, awaits⟩ := List.any_eq_true.mp waiting
  exact ⟨handle, record, listed, fun each => each value held (.of_awaits awaits), eq_of_beq text⟩

end Session

end TableScript
