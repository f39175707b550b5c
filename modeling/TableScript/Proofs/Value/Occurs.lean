import Mathlib.Data.List.Forall2
import TableScript.Value.Settle

set_option autoImplicit false

namespace TableScript

open List (Forall₂)

/-- The value of an evaluated entry. -/
def Entry.value? {ν : Type} : Entry ν → Option ν
  | .ready value => some value
  | .deferred .. => none

namespace Value

/-- The values that a value holds directly. -/
def parts : Value → List Value
  | .array _ items => items
  | .dict _ entries => entries.values.filterMap Entry.value?
  | .table _ ⟨_, rows, binding, _⟩ => binding.toList.map .schema ++ rows.flatMap (·.values)
  | .record _ ⟨binding, data, _, _⟩ => .schema binding :: data.values
  | .schema ⟨_, _, fields⟩ => fields.flatMap fun field => field.fallback.toList ++ field.metadata.values
  | _ => []

/-- The part is the value itself or is held in it at some depth. -/
inductive Occurs (part : Value) : Value → Prop
  | self : Occurs part part
  | inside {inner whole : Value} (held : inner ∈ whole.parts) (deep : Occurs part inner) : Occurs part whole

/-- Some entry is not evaluated, at some depth of arrays and dictionaries. -/
inductive Defers : Value → Prop
  | item {handle : Handle} {items : List Value} {item : Value} (held : item ∈ items)
      (deep : Defers item) : Defers (.array handle items)
  | entry {handle : Handle} {entries : Dictionary (Entry Value)} {value : Value}
      (held : .ready value ∈ entries.values) (deep : Defers value) : Defers (.dict handle entries)
  | here {handle : Handle} {entries : Dictionary (Entry Value)} {origin : Origin} {expr : Expr}
      {scope : ScopeId} (held : .deferred origin expr scope ∈ entries.values) : Defers (.dict handle entries)

/-- Every entry is evaluated, at any depth of arrays and dictionaries. -/
def Complete (value : Value) : Prop := ¬ value.Defers

/-- The new value is the old one with its new collections numbered. -/
def Settles (old new : Value) : Prop := ∃ next, new = (old.settle next).1

end Value

def Row.Settles (old new : Row) : Prop :=
  Forall₂ (fun before after => after.1 = before.1 ∧ before.2.Settles after.2) old.entries new.entries

/-- Entries are numbered where they are evaluated. -/
inductive Entry.Settles : Entry Value → Entry Value → Prop
  | ready {old new : Value} (settled : old.Settles new) : Settles (.ready old) (.ready new)
  | deferred (origin : Origin) (expr : Expr) (scope : ScopeId) :
      Settles (.deferred origin expr scope) (.deferred origin expr scope)

namespace Value

section Loops

theorem settleAll_spec (items : List Value) (next : Nat) (done : List Value) :
    ∃ settled free, settleAll next done items = (done.reverse ++ settled, free) ∧
      Forall₂ Settles items settled := by
  induction items generalizing next done with
  | nil => exact ⟨[], next, by simp [settleAll], .nil⟩
  | cons item rest ih =>
      obtain ⟨settled, free, ran, each⟩ := ih (item.settle next).2 ((item.settle next).1 :: done)
      refine ⟨(item.settle next).1 :: settled, free, ?_, .cons ⟨next, rfl⟩ each⟩
      change settleAll (item.settle next).2 ((item.settle next).1 :: done) rest = _
      rw [ran]
      simp

theorem settleEntries_spec (entries : List (String × Entry Value)) (next : Nat)
    (done : List (String × Entry Value)) :
    ∃ settled free, settleEntries next done entries = (done.reverse ++ settled, free) ∧
      Forall₂ (fun before after => after.1 = before.1 ∧ before.2.Settles after.2) entries settled := by
  induction entries generalizing next done with
  | nil => exact ⟨[], next, by simp [settleEntries], .nil⟩
  | cons pair rest ih =>
      obtain ⟨key, entry⟩ := pair
      cases entry with
      | ready value =>
          obtain ⟨settled, free, ran, each⟩ :=
            ih (value.settle next).2 ((key, .ready (value.settle next).1) :: done)
          refine ⟨(key, .ready (value.settle next).1) :: settled, free, ?_,
            .cons ⟨rfl, .ready ⟨next, rfl⟩⟩ each⟩
          change settleEntries (value.settle next).2 ((key, .ready (value.settle next).1) :: done) rest = _
          rw [ran]
          simp
      | deferred origin expr scope =>
          obtain ⟨settled, free, ran, each⟩ := ih next ((key, .deferred origin expr scope) :: done)
          refine ⟨(key, .deferred origin expr scope) :: settled, free, ?_, .cons ⟨rfl, .deferred ..⟩ each⟩
          rw [settleEntries, ran]
          simp

theorem settleRow_spec (row : List (String × Value)) (next : Nat) (done : List (String × Value)) :
    ∃ settled free, settleRow next done row = (done.reverse ++ settled, free) ∧
      Row.Settles ⟨row⟩ ⟨settled⟩ := by
  induction row generalizing next done with
  | nil => exact ⟨[], next, by simp [settleRow], .nil⟩
  | cons pair rest ih =>
      obtain ⟨key, value⟩ := pair
      obtain ⟨settled, free, ran, each⟩ := ih (value.settle next).2 ((key, (value.settle next).1) :: done)
      refine ⟨(key, (value.settle next).1) :: settled, free, ?_, .cons ⟨rfl, next, rfl⟩ each⟩
      change settleRow (value.settle next).2 ((key, (value.settle next).1) :: done) rest = _
      rw [ran]
      simp

theorem settleRows_spec (rows : List Row) (next : Nat) (done : List Row) :
    ∃ settled free, settleRows next done rows = (done.reverse ++ settled, free) ∧
      Forall₂ Row.Settles rows settled := by
  induction rows generalizing next done with
  | nil => exact ⟨[], next, by simp [settleRows], .nil⟩
  | cons row rest ih =>
      obtain ⟨first, middle, began, numbered⟩ := settleRow_spec row.entries next []
      obtain ⟨settled, free, ran, each⟩ := ih middle (⟨first⟩ :: done)
      refine ⟨⟨first⟩ :: settled, free, ?_, .cons numbered each⟩
      rw [settleRows, began]
      simpa using ran

end Loops

/-- What one level of numbering does. -/
inductive Numbered : Value → Value → Prop
  | same (value : Value) : Numbered value value
  | array {items settled : List Value} (next : Nat) (each : Forall₂ Settles items settled) :
      Numbered (.array none items) (.array (some next) settled)
  | dict {entries settled : List (String × Entry Value)} (next : Nat)
      (each : Forall₂ (fun before after => after.1 = before.1 ∧ before.2.Settles after.2) entries settled) :
      Numbered (.dict none ⟨entries⟩) (.dict (some next) ⟨settled⟩)
  | table {table : Table Value} {settled : List Row} (next : Nat)
      (each : Forall₂ Row.Settles table.rows settled) :
      Numbered (.table none table) (.table (some next) (table.withRows settled))
  | record {record : Record Value} {settled : Row} (next : Nat) (each : Row.Settles record.data settled) :
      Numbered (.record none record) (.record (some next) { record with data := settled })

theorem Settles.numbered {old new : Value} (settled : old.Settles new) : Numbered old new := by
  obtain ⟨next, rfl⟩ := settled
  cases old with
  | array handle items =>
      cases handle with
      | some number => exact .same _
      | none =>
          obtain ⟨settled, free, ran, each⟩ := settleAll_spec items (next + 1) []
          simpa [settle, ran] using Numbered.array next each
  | dict handle entries =>
      cases handle with
      | some number => exact .same _
      | none =>
          obtain ⟨settled, free, ran, each⟩ := settleEntries_spec entries.entries (next + 1) []
          simpa [settle, ran] using Numbered.dict next each
  | table handle table =>
      cases handle with
      | some number => exact .same _
      | none =>
          obtain ⟨settled, free, ran, each⟩ := settleRows_spec table.rows (next + 1) []
          simpa [settle, ran, Table.withRows] using Numbered.table next each
  | record handle record =>
      cases handle with
      | some number => exact .same _
      | none =>
          obtain ⟨settled, free, ran, each⟩ := settleRow_spec record.data.entries (next + 1) []
          simpa [settle, ran] using Numbered.record next each
  | null | bool | int | float | quantity | text | money | schema | function | error => exact .same _

end Value

section Sources

/-- Each element on the right comes from one on the left. -/
theorem source_of_mem {α β : Type} {related : α → β → Prop} {before : List α} {after : List β} {item : β}
    (each : Forall₂ related before after) (member : item ∈ after) :
    ∃ source ∈ before, related source item := by
  induction each with
  | nil => cases member
  | cons first _ ih =>
      rcases List.mem_cons.mp member with rfl | later
      · exact ⟨_, List.mem_cons_self, first⟩
      · obtain ⟨source, held, settled⟩ := ih later
        exact ⟨source, List.mem_cons_of_mem _ held, settled⟩

theorem Row.Settles.keys {old new : Row} (settled : Row.Settles old new) : new.keys = old.keys := by
  obtain ⟨before⟩ := old
  obtain ⟨after⟩ := new
  simp only [Row.Settles, Dictionary.keys] at settled ⊢
  induction settled with
  | nil => rfl
  | cons first _ ih => rw [List.map_cons, List.map_cons, first.1, ih]

theorem Row.Settles.source {old new : Row} {value : Value} (settled : Row.Settles old new)
    (member : value ∈ new.values) : ∃ source ∈ old.values, source.Settles value := by
  obtain ⟨pair, held, rfl⟩ := List.mem_map.mp member
  obtain ⟨before, earlier, -, numbered⟩ := source_of_mem settled held
  exact ⟨before.2, List.mem_map_of_mem earlier, numbered⟩

theorem Entry.source {old new : List (String × Entry Value)} {entry : Entry Value}
    (each : Forall₂ (fun before after => after.1 = before.1 ∧ before.2.Settles after.2) old new)
    (member : entry ∈ (Dictionary.mk new).values) :
    ∃ source ∈ (Dictionary.mk old).values, source.Settles entry := by
  obtain ⟨pair, held, rfl⟩ := List.mem_map.mp member
  obtain ⟨before, earlier, -, numbered⟩ := source_of_mem each held
  exact ⟨before.2, List.mem_map_of_mem earlier, numbered⟩

end Sources

namespace Value

variable {old new part : Value}

theorem mem_parts_dict {handle : Handle} {entries : Dictionary (Entry Value)} :
    part ∈ (Value.dict handle entries).parts ↔ .ready part ∈ entries.values := by
  simp only [parts, List.mem_filterMap]
  constructor
  · rintro ⟨entry, held, evaluated⟩
    cases entry with
    | ready value =>
        cases evaluated
        exact held
    | deferred => cases evaluated
  · intro held
    exact ⟨.ready part, held, rfl⟩

theorem mem_parts_table {handle : Handle} {table : Table Value} :
    part ∈ (Value.table handle table).parts ↔
      (∃ binding, table.schema = some binding ∧ part = .schema binding) ∨
        ∃ row ∈ table.rows, part ∈ row.values := by
  simp only [parts, List.mem_append, List.mem_map, Option.mem_toList, List.mem_flatMap]
  simp only [eq_comm]

theorem mem_parts_schema {binding : Schema Value} :
    part ∈ (Value.schema binding).parts ↔
      ∃ field ∈ binding.fields, field.fallback = some part ∨ part ∈ field.metadata.values := by
  simp only [parts, List.mem_flatMap, List.mem_append, Option.mem_toList]

/-- What a numbered value holds was held before, numbered or as it is. -/
theorem Numbered.source (numbered : Numbered old new) (member : part ∈ new.parts) :
    part ∈ old.parts ∨ ∃ source ∈ old.parts, source.Settles part := by
  cases numbered with
  | same => exact .inl member
  | array next each => exact .inr (source_of_mem each member)
  | dict next each =>
      obtain ⟨entry, held, settled⟩ := Entry.source each (mem_parts_dict.mp member)
      cases settled with
      | ready settled => exact .inr ⟨_, mem_parts_dict.mpr held, settled⟩
  | table next each =>
      rcases mem_parts_table.mp member with bound | ⟨row, held, stored⟩
      · exact .inl (mem_parts_table.mpr (.inl bound))
      · obtain ⟨before, earlier, settled⟩ := source_of_mem each held
        obtain ⟨source, origin, numbered⟩ := settled.source stored
        exact .inr ⟨source, mem_parts_table.mpr (.inr ⟨before, earlier, origin⟩), numbered⟩
  | record next each =>
      rcases List.mem_cons.mp member with rfl | stored
      · exact .inl List.mem_cons_self
      · obtain ⟨source, origin, numbered⟩ := each.source stored
        exact .inr ⟨source, List.mem_cons_of_mem _ origin, numbered⟩

theorem Occurs.trans {inner whole : Value} (deep : inner.Occurs part) (outer : part.Occurs whole) :
    inner.Occurs whole := by
  induction outer with
  | self => exact deep
  | inside held _ ih => exact .inside held ih

theorem Occurs.of_settles (deep : part.Occurs new) (settled : old.Settles new) :
    part.Occurs old ∨ ∃ origin : Value, origin.Occurs old ∧ origin.Settles part := by
  induction deep generalizing old with
  | self => exact .inr ⟨old, .self, settled⟩
  | inside held deep ih =>
      rcases settled.numbered.source held with same | ⟨source, origin, numbered⟩
      · exact .inl (.inside same deep)
      · rcases ih numbered with unchanged | ⟨first, earlier, settled⟩
        · exact .inl (.inside origin unchanged)
        · exact .inr ⟨first, .inside origin earlier, settled⟩

theorem Defers.of_settles (defers : new.Defers) (settled : old.Settles new) : old.Defers := by
  induction defers generalizing old with
  | item held deep ih =>
      cases settled.numbered with
      | same => exact .item held deep
      | array next each =>
          obtain ⟨source, earlier, numbered⟩ := source_of_mem each held
          exact .item earlier (ih numbered)
  | entry held deep ih =>
      cases settled.numbered with
      | same => exact .entry held deep
      | dict next each =>
          obtain ⟨entry, earlier, numbered⟩ := Entry.source each held
          cases numbered with
          | ready settled => exact .entry earlier (ih settled)
  | here held =>
      cases settled.numbered with
      | same => exact .here held
      | dict next each =>
          obtain ⟨entry, earlier, numbered⟩ := Entry.source each held
          cases numbered with
          | deferred => exact .here earlier

theorem Complete.settles (complete : old.Complete) (settled : old.Settles new) : new.Complete :=
  fun defers => complete (defers.of_settles settled)

theorem complete_array {handle : Handle} {items : List Value} :
    (Value.array handle items).Complete ↔ ∀ item ∈ items, item.Complete := by
  constructor
  · intro complete item held defers
    exact complete (.item held defers)
  · intro each defers
    cases defers with
    | item held deep => exact each _ held deep

theorem complete_dict {handle : Handle} {entries : Dictionary (Entry Value)} :
    (Value.dict handle entries).Complete ↔
      ∀ entry ∈ entries.values, ∃ value, entry = .ready value ∧ value.Complete := by
  constructor
  · intro complete entry held
    cases entry with
    | ready value => exact ⟨value, rfl, fun deep => complete (.entry held deep)⟩
    | deferred => exact absurd (.here held) complete
  · intro each defers
    cases defers with
    | entry held deep =>
        obtain ⟨value, ⟨⟩, complete⟩ := each _ held
        exact complete deep
    | here held =>
        obtain ⟨value, ⟨⟩, -⟩ := each _ held

/-- A row makes a dictionary without unevaluated entries. -/
theorem complete_ofRow {row : Row} (each : ∀ value ∈ row.values, value.Complete) :
    (Value.ofRow row).Complete := by
  refine complete_dict.mpr fun entry held => ?_
  obtain ⟨pair, ready, rfl⟩ := List.mem_map.mp held
  obtain ⟨source, stored, rfl⟩ := List.mem_map.mp ready
  exact ⟨source.2, rfl, each source.2 (List.mem_map_of_mem stored)⟩

end Value

end TableScript
