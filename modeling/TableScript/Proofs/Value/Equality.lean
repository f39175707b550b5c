import TableScript.Proofs.Quantity.Conversion

set_option autoImplicit false

namespace TableScript

theorem Handle.shared_comm (i j : Handle) : i.shared j = j.shared i := by
  cases i with
  | none => cases j <;> rfl
  | some a =>
    cases j with
    | none => rfl
    | some b => exact Bool.beq_comm

theorem Function.same_comm (f g : Function) : f.same g = g.same f := by
  rw [Function.same, Function.same, Bool.beq_comm, @Bool.beq_comm _ _ _ f.scope]

theorem Schema.same_comm {ν : Type} (s t : Schema ν) : s.same t = t.same s := Bool.beq_comm

theorem Schema.sameOption_comm {ν : Type} (s t : Option (Schema ν)) : sameOption s t = sameOption t s := by
  cases s with
  | none => cases t <;> rfl
  | some s =>
    cases t with
    | none => rfl
    | some t => exact s.same_comm t

namespace Double

open Float.Model (UnpackedFloat)

/-- Turned around, a comparison of numbers is turned around or stays undecided. -/
theorem compare_swap (x y : UnpackedFloat) : y.compare x = (x.compare y).map Ordering.swap := by
  cases x with
  | notANumber => cases y <;> rfl
  | infinity sign =>
    cases y with
    | notANumber => rfl
    | infinity facing => cases sign <;> cases facing <;> rfl
    | zero facing => cases sign <;> cases facing <;> rfl
    | finite facing => cases sign <;> cases facing <;> rfl
  | zero sign =>
    cases y with
    | notANumber => rfl
    | infinity facing => cases sign <;> cases facing <;> rfl
    | zero facing => rfl
    | finite facing => cases facing <;> rfl
  | finite sign mantissa exponent =>
    cases y with
    | notANumber => rfl
    | infinity facing => cases sign <;> cases facing <;> rfl
    | zero facing => cases sign <;> rfl
    | finite facing mantissa' exponent' =>
      have turned : (compare exponent' exponent).then (compare mantissa' mantissa) =
          ((compare exponent exponent').then (compare mantissa mantissa')).swap := by
        rw [Ordering.swap_then, ← Std.OrientedCmp.eq_swap, ← Std.OrientedCmp.eq_swap]
      -- Among negative numbers the larger magnitude is the smaller number.
      cases sign with
      | negative =>
        cases facing with
        | negative => exact congrArg (fun order => some order.swap) turned
        | positive => rfl
      | positive =>
        cases facing with
        | negative => rfl
        | positive => exact congrArg some turned

theorem equals_comm (x y : Double) : x.equals y = y.equals x := by
  have turned := compare_swap x.toFloat.toModel.unpack y.toFloat.toModel.unpack
  show (UnpackedFloat.compare _ _ == some Ordering.eq) = (UnpackedFloat.compare _ _ == some Ordering.eq)
  rw [turned]
  cases UnpackedFloat.compare x.toFloat.toModel.unpack y.toFloat.toModel.unpack with
  | none => rfl
  | some order => cases order <;> rfl
end Double

namespace Value

/-- The two quantities stand at the same place of two values. -/
inductive Faces (p q : Quantity) : Value → Value → Prop
  | self : Faces p q (.quantity p) (.quantity q)
  | item {i j : Handle} {as bs : List Value} {a b : Value} (pair : (a, b) ∈ as.zip bs) (deep : Faces p q a b) :
      Faces p q (.array i as) (.array j bs)
  | entry {i j : Handle} {d e : Dictionary (Entry Value)} {key other : String} {a b : Value}
      (pair : ((key, .ready a), (other, .ready b)) ∈ d.entries.zip e.entries) (deep : Faces p q a b) :
      Faces p q (.dict i d) (.dict j e)
  | cell {i j : Handle} {t u : Table Value} {row facing : Row} {key other : String} {a b : Value}
      (rows : (row, facing) ∈ t.rows.zip u.rows)
      (pair : ((key, a), (other, b)) ∈ row.entries.zip facing.entries) (deep : Faces p q a b) :
      Faces p q (.table i t) (.table j u)
  | field {i j : Handle} {r s : Record Value} {key other : String} {a b : Value}
      (pair : ((key, a), (other, b)) ∈ r.data.entries.zip s.data.entries) (deep : Faces p q a b) :
      Faces p q (.record i r) (.record j s)

/-- Whatever quantities face each other in the two values, neither alone passes for the other. -/
def Even (a b : Value) : Prop := ∀ p q, Faces p q a b → p.Even q

theorem even_quantity {p q : Quantity} : Even (.quantity p) (.quantity q) ↔ p.Even q := by
  constructor
  · intro even
    exact even p q .self
  · rintro even _ _ ⟨⟩
    exact even

mutual

theorem same_comm (a b : Value) (even : Even a b) : same a b = same b a := by
  cases a with
  | null => cases b <;> rfl
  | bool x =>
    cases b with
    | bool y => exact Bool.beq_comm
    | _ => rfl
  | int n =>
    cases b with
    | int m => exact Bool.beq_comm
    | _ => rfl
  | float x =>
    cases b with
    | float y => exact x.equals_comm y
    | _ => rfl
  | quantity p =>
    cases b with
    | quantity q => exact Quantity.same_comm (even p q .self)
    | _ => rfl
  | text content =>
    cases b with
    | text other => exact Bool.beq_comm
    | _ => rfl
  | money amount =>
    cases b with
    | money other => exact Bool.beq_comm
    | _ => rfl
  | array i as =>
    cases b with
    | array j bs =>
      have items := sameAll_comm as bs fun a b member p q faces => even p q (.item member faces)
      rw [same, same, items, i.shared_comm j]
    | _ => rfl
  | dict i d =>
    obtain ⟨as⟩ := d
    cases b with
    | dict j e =>
      have entries := sameEntries_comm as e.entries fun key other a b member p q faces =>
        even p q (.entry member faces)
      rw [same, same, entries, i.shared_comm j]
    | _ => rfl
  | table i t =>
    obtain ⟨columns, as, binding, fromDatabase⟩ := t
    cases b with
    | table j u =>
      have rows := sameRows_comm as u.rows fun row facing rows key other a b member p q faces =>
        even p q (.cell rows member faces)
      rw [same, same, rows, i.shared_comm j, Schema.sameOption_comm, @Bool.beq_comm _ _ _ fromDatabase,
        @Bool.beq_comm _ _ _ columns]
    | _ => rfl
  | record i r =>
    obtain ⟨binding, ⟨as⟩, errors, validated⟩ := r
    cases b with
    | record j s =>
      have data := sameRow_comm as s.data.entries fun key other a b member p q faces =>
        even p q (.field member faces)
      rw [same, same, data, i.shared_comm j, binding.same_comm, @Bool.beq_comm _ _ _ validated,
        @Bool.beq_comm _ _ _ errors.entries]
    | _ => rfl
  | schema s =>
    cases b with
    | schema t => exact s.same_comm t
    | _ => rfl
  | function f =>
    cases b with
    | function g => exact f.same_comm g
    | _ => rfl
  | error e =>
    cases b with
    | error other => exact Bool.beq_comm
    | _ => rfl
termination_by structural a

theorem sameAll_comm (as bs : List Value) (even : ∀ a b, (a, b) ∈ as.zip bs → Even a b) :
    sameAll as bs = sameAll bs as := by
  cases as with
  | nil => cases bs <;> rfl
  | cons a as =>
    cases bs with
    | nil => rfl
    | cons b bs =>
      have first := same_comm a b (even a b List.mem_cons_self)
      have later := sameAll_comm as bs fun a b member => even a b (List.mem_cons_of_mem _ member)
      rw [sameAll, sameAll, first, later]
termination_by structural as

theorem sameEntries_comm (as bs : List (String × Entry Value))
    (even : ∀ key other a b, ((key, .ready a), (other, .ready b)) ∈ as.zip bs → Even a b) :
    sameEntries as bs = sameEntries bs as := by
  cases as with
  | nil =>
    cases bs with
    | nil => rfl
    | cons b bs =>
      obtain ⟨other, facing⟩ := b
      cases facing <;> rfl
  | cons a as =>
    obtain ⟨key, entry⟩ := a
    cases bs with
    | nil => cases entry <;> rfl
    | cons b bs =>
      obtain ⟨other, facing⟩ := b
      have later := sameEntries_comm as bs fun key other a b member =>
        even key other a b (List.mem_cons_of_mem _ member)
      cases entry with
      | ready a =>
        cases facing with
        | ready b =>
          have first := same_comm a b (even key other a b List.mem_cons_self)
          rw [sameEntries, sameEntries, first, later, @Bool.beq_comm _ _ _ key]
        | deferred => rfl
      | deferred origin expr scope =>
        cases facing with
        | ready b => rfl
        | deferred facingOrigin facingExpr facingScope =>
          rw [sameEntries, sameEntries, later, @Bool.beq_comm _ _ _ key, @Bool.beq_comm _ _ _ origin,
            @Bool.beq_comm _ _ _ scope]
termination_by structural as

theorem sameRow_comm (as bs : List (String × Value))
    (even : ∀ key other a b, ((key, a), (other, b)) ∈ as.zip bs → Even a b) : sameRow as bs = sameRow bs as := by
  cases as with
  | nil => cases bs <;> rfl
  | cons a as =>
    obtain ⟨key, a⟩ := a
    cases bs with
    | nil => rfl
    | cons b bs =>
      obtain ⟨other, b⟩ := b
      have first := same_comm a b (even key other a b List.mem_cons_self)
      have later := sameRow_comm as bs fun key other a b member =>
        even key other a b (List.mem_cons_of_mem _ member)
      rw [sameRow, sameRow, first, later, @Bool.beq_comm _ _ _ key]
termination_by structural as

theorem sameRows_comm (as bs : List Row)
    (even : ∀ row facing, (row, facing) ∈ as.zip bs → ∀ key other a b,
      ((key, a), (other, b)) ∈ row.entries.zip facing.entries → Even a b) :
    sameRows as bs = sameRows bs as := by
  cases as with
  | nil => cases bs <;> rfl
  | cons row as =>
    obtain ⟨row⟩ := row
    cases bs with
    | nil => rfl
    | cons facing bs =>
      have first := sameRow_comm row facing.entries (even ⟨row⟩ facing List.mem_cons_self)
      have later := sameRows_comm as bs fun row facing member =>
        even row facing (List.mem_cons_of_mem _ member)
      rw [sameRows, sameRows, first, later]
termination_by structural as

end

end Value

end TableScript
