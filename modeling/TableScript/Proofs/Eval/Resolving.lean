import TableScript.Proofs.Eval.Termination

set_option autoImplicit false

namespace TableScript

open List (Forall₂)

namespace Value

mutual

/-- The value without the numbers of its collections, at any depth. -/
def unnumbered : Value → Value
  | .array _ items => .array none (unnumberedAll items)
  | .dict _ ⟨entries⟩ => .dict none ⟨unnumberedEntries entries⟩
  | .table _ ⟨columns, rows, binding, fromDatabase⟩ =>
    .table none ⟨columns, unnumberedRows rows, binding, fromDatabase⟩
  | .record _ ⟨binding, ⟨data⟩, errors, validated⟩ =>
    .record none ⟨binding, ⟨unnumberedRow data⟩, errors, validated⟩
  | value => value
termination_by structural x => x

def unnumberedAll : List Value → List Value
  | [] => []
  | item :: rest => unnumbered item :: unnumberedAll rest
termination_by structural x => x

def unnumberedEntries : List (String × Entry Value) → List (String × Entry Value)
  | [] => []
  | (key, .ready value) :: rest => (key, .ready (unnumbered value)) :: unnumberedEntries rest
  | (key, .deferred origin expr scope) :: rest =>
    (key, .deferred origin expr scope) :: unnumberedEntries rest
termination_by structural x => x

def unnumberedRow : List (String × Value) → List (String × Value)
  | [] => []
  | (key, value) :: rest => (key, unnumbered value) :: unnumberedRow rest
termination_by structural x => x

def unnumberedRows : List (Dictionary Value) → List (Dictionary Value)
  | [] => []
  | ⟨row⟩ :: rest => ⟨unnumberedRow row⟩ :: unnumberedRows rest
termination_by structural x => x

end

end Value

/-- The row without the numbers of collections. -/
def Row.unnumbered (row : Row) : Row := row.map Value.unnumbered

def Entry.unnumbered : Entry Value → Entry Value
  | .ready value => .ready value.unnumbered
  | .deferred origin expr scope => .deferred origin expr scope

namespace Value

theorem unnumberedAll_eq (items : List Value) : unnumberedAll items = items.map unnumbered := by
  induction items with
  | nil => rfl
  | cons item rest ih => rw [unnumberedAll, ih, List.map_cons]

theorem unnumberedEntries_eq (entries : List (String × Entry Value)) :
    unnumberedEntries entries = entries.map fun pair => (pair.1, pair.2.unnumbered) := by
  induction entries with
  | nil => rfl
  | cons pair rest ih =>
    obtain ⟨key, entry⟩ := pair
    cases entry <;> rw [unnumberedEntries, ih, List.map_cons] <;> rfl

theorem unnumberedRow_eq (row : List (String × Value)) :
    unnumberedRow row = row.map fun pair => (pair.1, pair.2.unnumbered) := by
  induction row with
  | nil => rfl
  | cons pair rest ih => rw [unnumberedRow, ih, List.map_cons]

theorem unnumberedRows_eq (rows : List Row) : unnumberedRows rows = rows.map Row.unnumbered := by
  induction rows with
  | nil => rfl
  | cons row rest ih =>
    rw [unnumberedRows, ih, List.map_cons, unnumberedRow_eq]
    rfl

theorem unnumbered_array (handle : Handle) (items : List Value) :
    (array handle items).unnumbered = .array none (items.map unnumbered) := by
  rw [unnumbered, unnumberedAll_eq]

theorem unnumbered_dict (handle : Handle) (entries : Dictionary (Entry Value)) :
    (dict handle entries).unnumbered = .dict none (entries.map Entry.unnumbered) := by
  rw [unnumbered, unnumberedEntries_eq]
  rfl

theorem unnumbered_table (handle : Handle) (held : Table Value) :
    (table handle held).unnumbered = .table none (held.withRows (held.rows.map Row.unnumbered)) := by
  rw [unnumbered, unnumberedRows_eq]
  rfl

theorem unnumbered_record (handle : Handle) (held : Record Value) :
    (record handle held).unnumbered = .record none { held with data := Row.unnumbered held.data } := by
  rw [unnumbered, unnumberedRow_eq]
  rfl

theorem map_eq_of_forall₂ {α β γ : Type} {related : α → β → Prop} {f : α → γ} {g : β → γ} {before : List α}
    {after : List β} (each : Forall₂ related before after)
    (same : ∀ first ∈ before, ∀ second, related first second → g second = f first) :
    after.map g = before.map f := by
  induction each with
  | nil => rfl
  | @cons first second earlier later here _ ih =>
    rw [List.map_cons, List.map_cons, same first List.mem_cons_self second here,
      ih fun other member => same other (List.mem_cons_of_mem first member)]

theorem sizeOf_row {row : Row} {value : Value} (held : value ∈ row.values) : sizeOf value < sizeOf row := by
  obtain ⟨pairs⟩ := row
  obtain ⟨⟨key, stored⟩, member, rfl⟩ := List.mem_map.mp held
  have smaller := List.sizeOf_lt_of_mem member
  simp only [Prod.mk.sizeOf_spec, Dictionary.mk.sizeOf_spec] at smaller ⊢
  omega

theorem sizeOf_cell {handle : Handle} {held : Table Value} {row : Row} {value : Value}
    (member : row ∈ held.rows) (stored : value ∈ row.values) :
    sizeOf value < sizeOf (Value.table handle held) := by
  obtain ⟨columns, rows, binding, fromDatabase⟩ := held
  have smaller : sizeOf row < sizeOf rows := List.sizeOf_lt_of_mem member
  have inside := sizeOf_row stored
  simp only [table.sizeOf_spec, Table.mk.sizeOf_spec]
  omega

theorem sizeOf_datum {handle : Handle} {held : Record Value} {value : Value}
    (stored : value ∈ held.data.values) : sizeOf value < sizeOf (Value.record handle held) := by
  obtain ⟨binding, data, errors, validated⟩ := held
  have inside : sizeOf value < sizeOf data := sizeOf_row stored
  simp only [record.sizeOf_spec, Record.mk.sizeOf_spec]
  omega

end Value

theorem Row.Settles.unnumbered {old new : Row} (settled : Row.Settles old new)
    (same : ∀ value ∈ old.values, ∀ other, value.Settles other → other.unnumbered = value.unnumbered) :
    Row.unnumbered new = Row.unnumbered old := by
  unfold Row.unnumbered Dictionary.map
  congr 1
  refine Value.map_eq_of_forall₂ settled fun first member second related => ?_
  rw [related.1, same first.2 (List.mem_map_of_mem member) second.2 related.2]

namespace Value

/-- Numbering is not seen. -/
theorem Settles.unnumbered {old new : Value} (settled : old.Settles new) :
    new.unnumbered = old.unnumbered := by
  -- On the size of the value before: its parts stand inside lists, entries and rows.
  induction size : sizeOf old using Nat.strongRecOn generalizing old new with
  | ind size ih =>
    subst size
    cases settled.numbered with
    | same => rfl
    | array next each =>
      rw [unnumbered_array, unnumbered_array]
      exact congrArg _ (map_eq_of_forall₂ each fun item member other same =>
        ih _ (sizeOf_item member) same rfl)
    | dict next each =>
      rw [unnumbered_dict, unnumbered_dict]
      unfold Dictionary.map
      congr 2
      refine map_eq_of_forall₂ each ?_
      rintro ⟨key, entry⟩ member ⟨other, later⟩ ⟨rfl, settles⟩
      cases settles with
      | ready settles =>
        have held := @sizeOf_entry none ⟨_⟩ _ (List.mem_map_of_mem member)
        rw [Entry.unnumbered, ih _ held settles rfl]
        rfl
      | deferred => rfl
    | @table held later next each =>
      rw [unnumbered_table, unnumbered_table]
      have rows : later.map Row.unnumbered = held.rows.map Row.unnumbered :=
        map_eq_of_forall₂ each fun row member other same =>
          Row.Settles.unnumbered same fun value stored numbered settles =>
            ih _ (sizeOf_cell member stored) settles rfl
      exact congrArg (fun rows => Value.table none (held.withRows rows)) rows
    | @record held later next each =>
      rw [unnumbered_record, unnumbered_record]
      have data := Row.Settles.unnumbered each fun value stored numbered settles =>
        ih _ (sizeOf_datum stored) settles rfl
      exact congrArg (fun data => Value.record none { held with data := data }) data

end Value

theorem Dictionary.mem_values_map {α β : Type} {d : Dictionary α} {f : α → β} {image : β} :
    image ∈ (d.map f).values ↔ ∃ value ∈ d.values, f value = image := by
  rw [values, map, List.map_map, values]
  simp only [List.mem_map, exists_exists_and_eq_and]
  rfl

theorem Dictionary.keys_map {α β : Type} (d : Dictionary α) (f : α → β) : (d.map f).keys = d.keys := by
  rw [keys, map, List.map_map, keys]
  rfl

namespace Value

/-- A dictionary of the values of a row. -/
theorem unnumbered_row (handle : Handle) (row : Row) :
    (Value.dict handle (row.map .ready)).unnumbered = .ofRow row.unnumbered := by
  rw [unnumbered_dict, ofRow, ofEntries, Row.unnumbered]
  simp only [Dictionary.map, List.map_map]
  rfl

theorem unnumbered_ofRow (row : Row) : (Value.ofRow row).unnumbered = .ofRow row.unnumbered :=
  unnumbered_row none row

theorem ofRow_injective {first second : Row} (same : Value.ofRow first = .ofRow second) : first = second := by
  obtain ⟨entries⟩ := first
  obtain ⟨others⟩ := second
  have lists := congrArg Dictionary.entries (Value.dict.inj same).2
  refine congrArg Dictionary.mk (List.map_injective_iff.mpr ?_ lists)
  intro pair other pairs
  obtain ⟨keys, ready⟩ := Prod.mk.inj pairs
  exact Prod.ext keys (Entry.ready.inj ready)

theorem sizeOf_ofRow_unnumbered {row : Row} {value : Value} (member : value ∈ row.values) :
    sizeOf value.unnumbered < sizeOf (Value.ofRow row.unnumbered) := by
  have inside : value.unnumbered ∈ (Row.unnumbered row).values :=
    Dictionary.mem_values_map.mpr ⟨value, member, rfl⟩
  exact sizeOf_entry (Dictionary.mem_values_map.mpr ⟨value.unnumbered, inside, rfl⟩)

theorem exists_row_of_ready {entries : Dictionary (Entry Value)} {holds : Value → Prop}
    (ready : ∀ entry ∈ entries.values, ∃ value, entry = .ready value ∧ holds value) :
    ∃ row : Row, entries = row.map .ready ∧ row.All holds := by
  obtain ⟨pairs⟩ := entries
  induction pairs with
  | nil => exact ⟨.empty, rfl, Dictionary.All.empty⟩
  | cons pair rest ih =>
    obtain ⟨key, entry⟩ := pair
    obtain ⟨value, rfl, here⟩ := ready _ List.mem_cons_self
    obtain ⟨⟨others⟩, same, each⟩ := ih fun entry member => ready entry (List.mem_cons_of_mem _ member)
    obtain rfl := congrArg Dictionary.entries same
    exact ⟨⟨(key, value) :: others⟩, rfl, List.forall_mem_cons.mpr ⟨here, each⟩⟩

theorem exists_row_of_complete {handle : Handle} {entries : Dictionary (Entry Value)}
    (complete : (Value.dict handle entries).Complete) :
    ∃ row : Row, entries = row.map .ready ∧ row.All Complete :=
  exists_row_of_ready (complete_dict.mp complete)

/-- A row of evaluated values is a row also when it is numbered. -/
theorem exists_row_of_settles {row : Row} {dict : Value} (complete : row.All Complete)
    (settled : (Value.ofRow row).Settles dict) :
    ∃ (handle : Handle) (held : Row), dict = .dict handle (held.map .ready) ∧ held.All Complete ∧
      held.unnumbered = row.unnumbered := by
  have whole : dict.Complete := (complete_ofRow complete).settles settled
  have same : dict.unnumbered = .ofRow row.unnumbered := settled.unnumbered.trans (unnumbered_ofRow row)
  obtain ⟨handle, entries, rfl⟩ : ∃ handle entries, dict = .dict handle entries := by
    cases settled.numbered with
    | same => exact ⟨_, _, rfl⟩
    | dict next => exact ⟨_, _, rfl⟩
  obtain ⟨held, rfl, each⟩ := exists_row_of_complete whole
  rw [unnumbered_row] at same
  exact ⟨handle, held, rfl, each, ofRow_injective same⟩

/-- Every entry is evaluated, and less than so many arrays and dictionaries stand inside one another. -/
def CompleteWithin : Nat → Value → Prop
  | 0, _ => False
  | levels + 1, .array _ items => ∀ item ∈ items, CompleteWithin levels item
  | levels + 1, .dict _ entries =>
    ∀ entry ∈ entries.values, ∃ value, entry = .ready value ∧ CompleteWithin levels value
  | _ + 1, _ => True

theorem Complete.within {value : Value} (complete : value.Complete) {levels : Nat}
    (enough : sizeOf value.unnumbered < levels) : value.CompleteWithin levels := by
  induction levels generalizing value with
  | zero => exact absurd enough (Nat.not_lt_zero _)
  | succ levels ih =>
    cases value with
    | array handle items =>
      intro item held
      rw [unnumbered_array] at enough
      have smaller := @sizeOf_item none _ _ (List.mem_map_of_mem (f := unnumbered) held)
      exact ih (complete_array.mp complete item held) (by omega)
    | dict handle entries =>
      obtain ⟨row, rfl, each⟩ := exists_row_of_complete complete
      rw [unnumbered_row] at enough
      intro entry held
      obtain ⟨value, member, rfl⟩ := Dictionary.mem_values_map.mp held
      have smaller := sizeOf_ofRow_unnumbered member
      exact ⟨value, rfl, ih (each value member) (by omega)⟩
    | _ => trivial

theorem CompleteWithin.complete {levels : Nat} {value : Value} (within : value.CompleteWithin levels) :
    value.Complete := by
  induction levels generalizing value with
  | zero => exact within.elim
  | succ levels ih =>
    cases value with
    | array handle items => exact complete_array.mpr fun item held => ih (within item held)
    | dict handle entries =>
      refine complete_dict.mpr fun entry held => ?_
      obtain ⟨value, rfl, deep⟩ := within entry held
      exact ⟨value, rfl, ih deep⟩
    | _ =>
      intro defers
      cases defers

/-- Numbering does not nest anything deeper. -/
theorem CompleteWithin.settles {levels : Nat} {old new : Value} (within : old.CompleteWithin levels)
    (settled : old.Settles new) : new.CompleteWithin levels := by
  induction levels generalizing old new with
  | zero => exact within.elim
  | succ levels ih =>
    cases settled.numbered with
    | same => exact within
    | array next each =>
      intro item held
      obtain ⟨source, earlier, numbered⟩ := source_of_mem each held
      exact ih (within source earlier) numbered
    | dict next each =>
      intro entry held
      obtain ⟨source, earlier, numbered⟩ := Entry.source each held
      obtain ⟨value, rfl, deep⟩ := within source earlier
      cases numbered with
      | ready settles => exact ⟨_, rfl, ih deep settles⟩
    | table | record => trivial

end Value

/-- In every machine the action gives something with this property, and all it does to the machine is to
number collections. -/
def Eval.Numbers {α : Type} (post : α → Prop) (action : Eval α) : Prop :=
  ∀ machine, ∃ value collections,
    action machine = .ok value ⟨machine.store, machine.depth, collections⟩ ∧ post value

namespace Eval

variable {α β : Type} {post : α → Prop} {result : β → Prop}

theorem numbers_pure {value : α} (holds : post value) : Numbers post (pure value) :=
  fun machine => ⟨value, machine.collections, rfl, holds⟩

theorem Numbers.bind {action : Eval α} {next : α → Eval β} (first : Numbers post action)
    (rest : ∀ value, post value → Numbers result (next value)) : Numbers result (action >>= next) := by
  intro machine
  obtain ⟨value, collections, ran, holds⟩ := first machine
  obtain ⟨final, more, follows, last⟩ := rest value holds ⟨machine.store, machine.depth, collections⟩
  refine ⟨final, more, ?_, last⟩
  rw [bind_of_ok ran]
  exact follows

theorem Numbers.imp {weaker : α → Prop} {action : Eval α} (numbers : Numbers post action)
    (follows : ∀ value, post value → weaker value) : Numbers weaker action := by
  intro machine
  obtain ⟨value, collections, ran, holds⟩ := numbers machine
  exact ⟨value, collections, ran, follows value holds⟩

theorem numbers_mapM {items : List α} {related : α → β → Prop} {action : α → Eval β}
    (each : ∀ item ∈ items, Numbers (related item) (action item)) :
    Numbers (Forall₂ related items) (items.mapM action) := by
  induction items with
  | nil => exact numbers_pure .nil
  | cons item rest ih =>
    rw [List.mapM_cons]
    refine (each item List.mem_cons_self).bind fun made held => ?_
    refine (ih fun other member => each other (List.mem_cons_of_mem item member)).bind fun others all => ?_
    exact numbers_pure (.cons held all)

theorem numbers_settle (value : Value) : Numbers value.Settles (settle value) :=
  fun machine => ⟨_, (value.settle machine.collections).2, rfl, machine.collections, rfl⟩

theorem Numbers.settled {action : Eval Value} {shown : Value}
    (numbers : Numbers (fun value => value.unnumbered = shown) action) :
    Numbers (fun value => value.unnumbered = shown) (action >>= settle) :=
  numbers.bind fun value same => (numbers_settle value).imp fun _ settled => settled.unnumbered.trans same

end Eval

namespace Evaluator

open Eval (Numbers numbers_pure numbers_mapM numbers_settle)

/-- Resolving the value gives it back, with new numbers. -/
def Resolves (run : Evaluator) (value : Value) : Prop :=
  Numbers (fun resolved => resolved.unnumbered = value.unnumbered) (run.resolve value)

/-- A row whose values resolve to themselves is evaluated to itself. -/
theorem forceRow_numbers {run : Evaluator} {row : Row} (handle : Handle)
    (resolves : ∀ value ∈ row.values, run.Resolves value) :
    Numbers (fun forced => Row.unnumbered forced = row.unnumbered)
      (run.forceRow handle (row.map .ready)) := by
  have pairs : Numbers (Forall₂ (fun (entry : String × Entry Value) (pair : String × Value) =>
      pair.1 = entry.1 ∧ ∀ value, entry.2 = .ready value → pair.2.unnumbered = value.unnumbered)
      (row.map .ready).entries)
      ((row.map .ready).entries.mapM fun entry => do
        let value ← run.force (.dict handle (row.map .ready)) entry.2
        return (entry.1, ← run.resolve value)) := by
    refine numbers_mapM fun entry member => ?_
    obtain ⟨⟨key, value⟩, held, rfl⟩ := List.mem_map.mp member
    refine (resolves value (List.mem_map_of_mem held)).bind fun resolved same => numbers_pure ⟨rfl, ?_⟩
    rintro other ⟨⟩
    exact same
  refine pairs.bind fun forced each => numbers_pure ?_
  have parts := List.forall₂_map_left_iff.mp each
  refine congrArg Dictionary.mk (Value.map_eq_of_forall₂ parts fun first member second related => ?_)
  rw [related.1, related.2 first.2 rfl]

/-- A value whose collections nest no deeper than there is fuel resolves to itself. -/
theorem withFuel_resolves_within (options : Options) {levels fuel : Nat} {value : Value}
    (within : value.CompleteWithin levels) (enough : levels ≤ fuel) :
    (withFuel options fuel).Resolves value := by
  -- Each level of the value takes one unit of fuel.
  induction levels generalizing value fuel with
  | zero => exact within.elim
  | succ levels ih =>
    obtain ⟨fuel, rfl⟩ := Nat.exists_eq_add_one_of_ne_zero (Nat.ne_zero_of_lt enough)
    have inner : levels ≤ fuel := Nat.le_of_succ_le_succ enough
    rw [Resolves, withFuel_succ]
    change Numbers _ (resolveStep (withFuel options fuel) value)
    cases value with
    | array handle items =>
      have each : ∀ item ∈ items, (withFuel options fuel).Resolves item :=
        fun item held => ih (within item held) inner
      refine (numbers_mapM each).bind fun resolved same => (numbers_settle _).imp fun final settled => ?_
      rw [settled.unnumbered, Value.ofItems, Value.unnumbered_array, Value.unnumbered_array]
      exact congrArg _ (Value.map_eq_of_forall₂ same fun first _ second related => related)
    | dict handle entries =>
      obtain ⟨row, rfl, each⟩ := Value.exists_row_of_ready within
      have resolves : ∀ held ∈ row.values, (withFuel options fuel).Resolves held :=
        fun held member => ih (each held member) inner
      refine (forceRow_numbers handle resolves).bind fun forced same => ?_
      refine (numbers_settle _).imp fun final settled => ?_
      rw [settled.unnumbered, Value.unnumbered_ofRow, Value.unnumbered_row, same]
    | _ => exact numbers_pure rfl

/-- A value without unevaluated entries resolves to itself, given enough fuel to go down to its parts. How
much is enough does not depend on numbers. -/
theorem withFuel_resolves (options : Options) {value : Value} (complete : value.Complete) {fuel : Nat}
    (enough : sizeOf value.unnumbered < fuel) : (withFuel options fuel).Resolves value :=
  withFuel_resolves_within options (complete.within enough) (Nat.le_refl fuel)

/-- Evaluated values make a row as it is. -/
theorem withFuel_forceRow (options : Options) {row : Row} (complete : row.All Value.Complete)
    (handle : Handle) {fuel : Nat} (enough : sizeOf (Value.ofRow row.unnumbered) < fuel) :
    Numbers (fun forced => Row.unnumbered forced = row.unnumbered)
      ((withFuel options fuel).forceRow handle (row.map .ready)) :=
  forceRow_numbers handle fun value member => withFuel_resolves options (complete value member)
    (Nat.lt_trans (Value.sizeOf_ofRow_unnumbered member) enough)

end Evaluator

end TableScript
