import TableScript.Schema.Declare

set_option autoImplicit false

namespace TableScript

namespace FieldDecl

/-- The last value that the options give. -/
def lastGiven? {α : Type} (given? : String × Value → Option α) (options : List (String × Value)) : Option α :=
  options.reverse.findSome? given?

/-- The integer that an option gives under the name. -/
def integerUnder? (key : String) : String × Value → Option Int64
  | (name, .int n) => if name = key then some n else none
  | _ => none

/-- The last integer that is given under the name. -/
def lastInteger? (options : List (String × Value)) (key : String) : Option Int64 :=
  options.reverse.findSome? (integerUnder? key)

/-- The bound of a length that an integer makes; one below zero counts as zero. -/
def lengthBound (lengths : Bool) (bound : Option Int64) : Option Nat :=
  if lengths then bound.map fun n => n.toInt.toNat else none

/-- The bound of a number that an integer makes. -/
def valueBound (lengths : Bool) (bound : Option Int64) : Option Int64 := if lengths then none else bound

theorem lengthBound_or (lengths : Bool) (first second : Option Int64) :
    lengthBound lengths (first.or second) = (lengthBound lengths first).or (lengthBound lengths second) := by
  cases lengths <;> cases first <;> rfl

theorem valueBound_or (lengths : Bool) (first second : Option Int64) :
    valueBound lengths (first.or second) = (valueBound lengths first).or (valueBound lengths second) := by
  cases lengths <;> cases first <;> rfl

theorem lengthBound_none (lengths : Bool) : lengthBound lengths none = none := by cases lengths <;> rfl

theorem valueBound_none (lengths : Bool) : valueBound lengths none = none := by cases lengths <;> rfl

/-- The truth value that an option gives under the name. -/
def truthUnder? (key : String) : String × Value → Option Bool
  | (name, .bool b) => if name = key then some b else none
  | _ => none

def lastTruth? (options : List (String × Value)) (key : String) : Option Bool :=
  lastGiven? (truthUnder? key) options

/-- The value that an option gives under the name. -/
def valueUnder? (key : String) (option : String × Value) : Option Value :=
  if option.1 = key then some option.2 else none

/-- The pattern that an option gives. -/
def patternUnder? : String × Value → Option String
  | ("pattern", .text source) => some source
  | _ => none

/-- The draft in which the last option of each name counts. -/
def drafted (decl : FieldDecl) (options : List (String × Value)) : Draft where
  field :=
    { decl.draft.field with
      auto := (lastTruth? options "auto").getD false
      readOnly := (lastTruth? options "readOnly").getD false
      unique := (lastTruth? options "unique").getD false
      fallback := (lastGiven? (valueUnder? "default") options).or decl.fallback
      pattern := lastGiven? patternUnder? options
      minLength := lengthBound (boundsLength decl.typeName) (lastInteger? options "min")
      maxLength := lengthBound (boundsLength decl.typeName) (lastInteger? options "max")
      minValue := valueBound (boundsLength decl.typeName) (lastInteger? options "min")
      maxValue := valueBound (boundsLength decl.typeName) (lastInteger? options "max") }
  required := lastTruth? options "required"

/-- The field that a declaration stands for. It is required if the last option says so; without one, if it is
neither generated nor nullable. -/
def resolved (decl : FieldDecl) : Field Value :=
  let draft := decl.drafted decl.options
  { draft.field with required := draft.required.getD (!draft.field.auto && !draft.field.nullable) }

/-- The names that options can have. -/
def optionNames : List String := "pattern" :: "default" :: lenientOptions

/-- What is wrong with a pattern. -/
def patternFault? [RegexEngine] (decl : FieldDecl) : Value → Option SchemaError
  | .text source => if RegexEngine.compiles source then none else some (.invalidPattern decl.name)
  | other => some (.patternKind decl.name other.kind)

/-- What is wrong with an option. -/
def optionFault? [RegexEngine] (decl : FieldDecl) (option : String × Value) : Option SchemaError :=
  if option.1 = "pattern" then decl.patternFault? option.2
  else if optionNames.contains option.1 then none
  else some (.unknownOption decl.name option.1)

/-- What is wrong with a declaration: the first option at fault, or else that the field is generated and
required. -/
def fault? [RegexEngine] (decl : FieldDecl) : Option SchemaError :=
  (decl.options.findSome? decl.optionFault?).or
    (if decl.resolved.auto && decl.resolved.required then some (.autoRequired decl.name) else none)

section Readers

variable {key name : String} {value : Value}

@[simp] theorem truthUnder?_self (b : Bool) : truthUnder? key (key, .bool b) = some b := if_pos rfl

@[simp] theorem integerUnder?_self (n : Int64) : integerUnder? key (key, .int n) = some n := if_pos rfl

@[simp] theorem valueUnder?_self : valueUnder? key (key, value) = some value := if_pos rfl

theorem truthUnder?_of_other (other : ∀ b, name = key → value = .bool b → False) :
    truthUnder? key (name, value) = none := by
  cases value with
  | bool b => exact if_neg fun same => other b same rfl
  | _ => rfl

theorem integerUnder?_of_other (other : ∀ n, name = key → value = .int n → False) :
    integerUnder? key (name, value) = none := by
  cases value with
  | int n => exact if_neg fun same => other n same rfl
  | _ => rfl

@[simp] theorem truthUnder?_of_ne (apart : name ≠ key) : truthUnder? key (name, value) = none :=
  truthUnder?_of_other fun _ same => absurd same apart

@[simp] theorem integerUnder?_of_ne (apart : name ≠ key) : integerUnder? key (name, value) = none :=
  integerUnder?_of_other fun _ same => absurd same apart

@[simp] theorem valueUnder?_of_ne (apart : name ≠ key) : valueUnder? key (name, value) = none := if_neg apart

@[simp] theorem patternUnder?_of_ne (apart : name ≠ "pattern") : patternUnder? (name, value) = none := by
  unfold patternUnder?
  split
  next same => exact absurd (congrArg Prod.fst same) apart
  next => rfl

@[simp] theorem patternUnder?_text (source : String) : patternUnder? ("pattern", .text source) = some source := rfl

end Readers

section Concat

variable {α : Type}

theorem lastGiven?_concat (given? : String × Value → Option α) (options : List (String × Value))
    (option : String × Value) :
    lastGiven? given? (options ++ [option]) = (given? option).or (lastGiven? given? options) := by
  rw [lastGiven?, List.reverse_concat, List.findSome?_cons, lastGiven?]
  cases given? option <;> rfl

theorem lastInteger?_concat (options : List (String × Value)) (option : String × Value) (key : String) :
    lastInteger? (options ++ [option]) key = (integerUnder? key option).or (lastInteger? options key) :=
  lastGiven?_concat (integerUnder? key) options option

theorem lastTruth?_concat (options : List (String × Value)) (option : String × Value) (key : String) :
    lastTruth? (options ++ [option]) key = (truthUnder? key option).or (lastTruth? options key) :=
  lastGiven?_concat (truthUnder? key) options option

end Concat

theorem drafted_nil (decl : FieldDecl) : decl.drafted [] = decl.draft := by
  have least := lengthBound_none (boundsLength decl.typeName)
  have most := valueBound_none (boundsLength decl.typeName)
  simp only [drafted, lastTruth?, lastInteger?, lastGiven?, List.reverse_nil, List.findSome?_nil, least, most,
    Option.getD_none, Option.none_or]
  rfl

/-- One option more, in the terms of the draft before it. -/
theorem drafted_concat (decl : FieldDecl) (options : List (String × Value)) (option : String × Value) :
    decl.drafted (options ++ [option]) =
      let draft := decl.drafted options
      let lengths := boundsLength decl.typeName
      { field :=
          { draft.field with
            auto := (truthUnder? "auto" option).getD draft.field.auto
            readOnly := (truthUnder? "readOnly" option).getD draft.field.readOnly
            unique := (truthUnder? "unique" option).getD draft.field.unique
            fallback := (valueUnder? "default" option).or draft.field.fallback
            pattern := (patternUnder? option).or draft.field.pattern
            minLength := (lengthBound lengths (integerUnder? "min" option)).or draft.field.minLength
            maxLength := (lengthBound lengths (integerUnder? "max" option)).or draft.field.maxLength
            minValue := (valueBound lengths (integerUnder? "min" option)).or draft.field.minValue
            maxValue := (valueBound lengths (integerUnder? "max" option)).or draft.field.maxValue }
        required := (truthUnder? "required" option).or draft.required } := by
  simp only [drafted, lastTruth?_concat, lastInteger?_concat, lastGiven?_concat, lengthBound_or, valueBound_or,
    Option.getD_or, Option.or_assoc]

section Building

variable [RegexEngine]

theorem optionFault?_of_known (decl : FieldDecl) {key : String} (value : Value) (apart : key ≠ "pattern")
    (known : key ∈ optionNames) : decl.optionFault? (key, value) = none := by
  rw [optionFault?, if_neg apart, if_pos (List.contains_iff_mem.mpr known)]

theorem optionFault?_of_unknown (decl : FieldDecl) {key : String} (value : Value) (unknown : key ∉ optionNames) :
    decl.optionFault? (key, value) = some (.unknownOption decl.name key) := by
  have apart : key ≠ "pattern" := fun same => unknown (same ▸ List.mem_cons_self)
  rw [optionFault?, if_neg apart, if_neg (mt List.contains_iff_mem.mp unknown)]

theorem optionFault?_pattern (decl : FieldDecl) (value : Value) :
    decl.optionFault? ("pattern", value) = decl.patternFault? value := if_pos rfl

/-- One option more: it is at fault, or it is the last of its name from now on. -/
theorem applyOption_drafted (decl : FieldDecl) (options : List (String × Value)) (key : String) (value : Value) :
    decl.applyOption (decl.drafted options) key value =
      match decl.optionFault? (key, value) with
      | some error => .error error
      | none => .ok (decl.drafted (options ++ [(key, value)])) := by
  rw [drafted_concat]
  generalize decl.drafted options = draft
  unfold applyOption
  split
  case h_1 | h_2 =>
    rw [optionFault?_of_known decl _ (by decide) (by decide)]
    cases boundsLength decl.typeName <;> simp [lengthBound, valueBound]
  case h_7 source =>
    rw [optionFault?_pattern, patternFault?]
    split <;> simp [lengthBound_none, valueBound_none, *]
  case h_8 wrong =>
    have fault : decl.patternFault? value = some (.patternKind decl.name value.kind) := by
      cases value with
      | text source => exact absurd rfl (wrong source)
      | _ => rfl
    rw [optionFault?_pattern, fault]
  case h_10 notPattern notDefault least most unique auto required readOnly _ =>
    -- No reader gives anything here, also where the name is one of theirs: the value is of another kind.
    dsimp only
    split
    next listed =>
      have known : key ∈ optionNames :=
        List.mem_cons_of_mem _ (List.mem_cons_of_mem _ (List.contains_iff_mem.mp listed))
      rw [optionFault?_of_known decl value notPattern known, truthUnder?_of_other auto,
        truthUnder?_of_other readOnly, truthUnder?_of_other unique, truthUnder?_of_other required,
        integerUnder?_of_other least, integerUnder?_of_other most, valueUnder?_of_ne notDefault,
        patternUnder?_of_ne notPattern]
      simp only [lengthBound_none, valueBound_none, Option.none_or, Option.getD_none]
    next unlisted =>
      have unknown : key ∉ optionNames := by
        rintro (_ | ⟨_, _ | ⟨_, later⟩⟩)
        · exact notPattern rfl
        · exact notDefault rfl
        · exact unlisted (List.contains_iff_mem.mpr later)
      rw [optionFault?_of_unknown decl value unknown]
  all_goals
    rw [optionFault?_of_known decl _ (by decide) (by decide)]
    simp [lengthBound_none, valueBound_none]

/-- The options that follow some others: the first one at fault ends the draft, and without one the last of each
name counts. -/
theorem foldlM_drafted (decl : FieldDecl) (options done : List (String × Value)) :
    options.foldlM (fun draft option => applyOption decl draft option.1 option.2) (decl.drafted done) =
      match options.findSome? decl.optionFault? with
      | some error => .error error
      | none => .ok (decl.drafted (done ++ options)) := by
  induction options generalizing done with
  | nil => rw [List.append_nil]; rfl
  | cons option rest ih =>
    rw [List.foldlM_cons, applyOption_drafted, List.findSome?_cons]
    cases decl.optionFault? option with
    | some error => rfl
    | none =>
      rw [List.append_cons done option rest]
      exact ih _

/-- A declaration is at fault, or makes the field that it stands for. -/
theorem build_eq (decl : FieldDecl) :
    decl.build = match decl.fault? with
      | some error => .error error
      | none => .ok decl.resolved := by
  rw [build, ← drafted_nil, foldlM_drafted, List.nil_append, fault?]
  cases decl.options.findSome? decl.optionFault? with
  | some error => rfl
  | none =>
    rw [Option.none_or]
    change (if decl.resolved.auto && decl.resolved.required then
      (throw (SchemaError.autoRequired decl.name) >>= fun _ : Unit => pure decl.resolved) else pure decl.resolved) = _
    split <;> rfl

end Building

end FieldDecl

end TableScript
