import TableScript.Proofs.Schema.Index
import TableScript.Proofs.Schema.Resolved

set_option autoImplicit false

namespace TableScript

open List (Forall₂)

namespace FieldDecl

/-- Only an option can make a generated field required. -/
theorem auto_and_required (decl : FieldDecl) :
    (decl.resolved.auto && decl.resolved.required) = true ↔
      lastTruth? decl.options "auto" = some true ∧ lastTruth? decl.options "required" = some true := by
  rw [resolved, drafted]
  cases lastTruth? decl.options "auto" <;> cases lastTruth? decl.options "required" <;> simp
  rintro rfl ⟨⟩

variable [RegexEngine]

/-- A pattern that is a text and compiles. -/
def Compiles (pattern : Value) : Prop := ∃ source, pattern = .text source ∧ RegexEngine.compiles source = true

/-- What makes a declaration offend, if it comes after others. -/
inductive Offends (earlier : List FieldDecl) (decl : FieldDecl) : Prop where
  | unknownOption {key : String} {value : Value} (given : (key, value) ∈ decl.options) (unknown : key ∉ optionNames)
  | badPattern {value : Value} (given : ("pattern", value) ∈ decl.options) (bad : ¬ Compiles value)
  | autoRequired (auto : lastTruth? decl.options "auto" = some true)
      (required : lastTruth? decl.options "required" = some true)
  | repeatedName (repeated : decl.name ∈ earlier.map (·.name))

/-- No declaration offends after the ones before it. -/
def NoneOffends (decls : List FieldDecl) : Prop :=
  ∀ before decl after, decls = before ++ decl :: after → ¬ Offends before decl

/-- What is wrong with a declaration after the earlier ones: the fault of its own comes first. -/
def offence? (earlier : List FieldDecl) (decl : FieldDecl) : Option SchemaError :=
  decl.fault?.or (if decl.name ∈ earlier.map (·.name) then some (.duplicateField decl.name) else none)

/-- What is wrong with the first declaration that offends. -/
def firstOffence? : List FieldDecl → List FieldDecl → Option SchemaError
  | _, [] => none
  | earlier, decl :: rest => (decl.offence? earlier).or (firstOffence? (earlier ++ [decl]) rest)

theorem isSome_patternFault? (decl : FieldDecl) (value : Value) :
    (decl.patternFault? value).isSome = true ↔ ¬ Compiles value := by
  cases value with
  | text source =>
    rw [patternFault?]
    cases compiled : RegexEngine.compiles source with
    | false => simp [Compiles, compiled]
    | true => simp [Compiles, compiled]
  | _ => simp [patternFault?, Compiles]

theorem isSome_optionFault? (decl : FieldDecl) (key : String) (value : Value) :
    (decl.optionFault? (key, value)).isSome = true ↔
      key ∉ optionNames ∨ key = "pattern" ∧ ¬ Compiles value := by
  by_cases pattern : key = "pattern"
  · subst pattern
    have known : "pattern" ∈ optionNames := List.mem_cons_self
    rw [optionFault?_pattern, isSome_patternFault?]
    simp [known]
  · by_cases known : key ∈ optionNames
    · rw [optionFault?_of_known decl value pattern known]
      simp [known, pattern]
    · rw [optionFault?_of_unknown decl value known]
      simp [known]

theorem isSome_offence? (earlier : List FieldDecl) (decl : FieldDecl) :
    (decl.offence? earlier).isSome = true ↔ Offends earlier decl := by
  rw [offence?, fault?, Option.isSome_or, Option.isSome_or, Bool.or_eq_true, Bool.or_eq_true,
    List.isSome_findSome?, List.any_eq_true]
  constructor
  · rintro ((⟨⟨key, value⟩, given, fault⟩ | flags) | repeated)
    · rcases (isSome_optionFault? decl key value).mp fault with unknown | ⟨rfl, bad⟩
      · exact .unknownOption given unknown
      · exact .badPattern given bad
    · split at flags
      next both =>
        obtain ⟨auto, required⟩ := (auto_and_required decl).mp both
        exact .autoRequired auto required
      next => cases flags
    · split at repeated
      next listed => exact .repeatedName listed
      next => cases repeated
  · rintro (@⟨key, value, given, unknown⟩ | @⟨value, given, bad⟩ | ⟨auto, required⟩ | listed)
    · exact .inl (.inl ⟨_, given, (isSome_optionFault? decl key value).mpr (.inl unknown)⟩)
    · exact .inl (.inl ⟨_, given, (isSome_optionFault? decl _ value).mpr (.inr ⟨rfl, bad⟩)⟩)
    · rw [if_pos ((auto_and_required decl).mpr ⟨auto, required⟩)]
      exact .inl (.inr rfl)
    · rw [if_pos listed]
      exact .inr rfl

theorem offence?_eq_none (earlier : List FieldDecl) (decl : FieldDecl) :
    decl.offence? earlier = none ↔ ¬ Offends earlier decl := by
  rw [← isSome_offence?, Bool.not_eq_true, Option.isSome_eq_false_iff, Option.isNone_iff_eq_none]

theorem firstOffence?_append (earlier front back : List FieldDecl) :
    firstOffence? earlier (front ++ back) =
      (firstOffence? earlier front).or (firstOffence? (earlier ++ front) back) := by
  induction front generalizing earlier with
  | nil => rw [List.append_nil]; rfl
  | cons decl rest ih =>
    rw [List.cons_append, firstOffence?, firstOffence?, ih, Option.or_assoc, ← List.append_cons]

/-- The first one that offends, and the ones before it that do not. -/
theorem firstOffence?_eq_some {earlier decls : List FieldDecl} {error : SchemaError}
    (offends : firstOffence? earlier decls = some error) :
    ∃ before decl after, decls = before ++ decl :: after ∧ firstOffence? earlier before = none ∧
      decl.offence? (earlier ++ before) = some error := by
  induction decls generalizing earlier with
  | nil => cases offends
  | cons decl rest ih =>
    rw [firstOffence?, Option.or_eq_some_iff] at offends
    rcases offends with here | ⟨clean, later⟩
    · exact ⟨[], decl, rest, rfl, rfl, by rw [List.append_nil]; exact here⟩
    · obtain ⟨before, other, after, rfl, none, wrong⟩ := ih later
      refine ⟨decl :: before, other, after, rfl, ?_, ?_⟩
      · rw [firstOffence?, clean, Option.none_or, none]
      · rw [List.append_cons]
        exact wrong

theorem firstOffence?_split {before after : List FieldDecl} {decl : FieldDecl} :
    firstOffence? [] (before ++ decl :: after) =
      (firstOffence? [] before).or ((decl.offence? before).or (firstOffence? (before ++ [decl]) after)) :=
  firstOffence?_append [] before (decl :: after)

theorem firstOffence?_eq_none (decls : List FieldDecl) : firstOffence? [] decls = none ↔ NoneOffends decls := by
  constructor
  · rintro clean before decl after rfl
    rw [firstOffence?_split, Option.or_eq_none_iff, Option.or_eq_none_iff] at clean
    exact (offence?_eq_none before decl).mp clean.2.1
  · intro clean
    refine Option.eq_none_iff_forall_ne_some.mpr fun error offends => ?_
    obtain ⟨before, decl, after, split, -, wrong⟩ := firstOffence?_eq_some offends
    exact clean before decl after split ((isSome_offence? before decl).mp (Option.isSome_of_eq_some wrong))

/-- The offence that is found first is the one of the first declaration that offends. -/
theorem firstOffence?_eq_some_iff (decls : List FieldDecl) (error : SchemaError) :
    firstOffence? [] decls = some error ↔
      ∃ before decl after, decls = before ++ decl :: after ∧ NoneOffends before ∧
        decl.offence? before = some error := by
  constructor
  · intro offends
    obtain ⟨before, decl, after, split, clean, wrong⟩ := firstOffence?_eq_some offends
    exact ⟨before, decl, after, split, (firstOffence?_eq_none before).mp clean, wrong⟩
  · rintro ⟨before, decl, after, rfl, clean, wrong⟩
    rw [firstOffence?_split, (firstOffence?_eq_none before).mpr clean, Option.none_or, wrong, Option.some_or]

end FieldDecl

namespace Schema

open FieldDecl (firstOffence? lastTruth? Offends)

section Declaring

variable [RegexEngine]

/-- One declaration more, after others whose fields are made. -/
theorem declareField_resolved (earlier : List FieldDecl) (decl : FieldDecl) :
    declareField (earlier.map (·.resolved)) decl = match decl.offence? earlier with
      | some error => .error error
      | none => .ok ((earlier ++ [decl]).map (·.resolved)) := by
  have repeated : (earlier.map (·.resolved)).any (·.name == decl.resolved.name) = true ↔
      decl.name ∈ earlier.map (·.name) := by
    rw [List.any_map, List.any_eq_true, List.mem_map]
    exact exists_congr fun other => and_congr_right fun _ => beq_iff_eq
  rw [declareField, FieldDecl.build_eq, FieldDecl.offence?]
  cases decl.fault? with
  | some error => rfl
  | none =>
    rw [Option.none_or]
    change (if (earlier.map (·.resolved)).any (·.name == decl.resolved.name) then
      (throw (SchemaError.duplicateField decl.name) >>= fun _ : Unit => pure _) else pure _) = _
    by_cases listed : decl.name ∈ earlier.map (·.name)
    · rw [if_pos listed, if_pos (repeated.mpr listed)]
      rfl
    · rw [if_neg listed, if_neg (mt repeated.mp listed), List.map_append]
      rfl

theorem foldlM_resolved (decls earlier : List FieldDecl) :
    decls.foldlM declareField (earlier.map (·.resolved)) = match firstOffence? earlier decls with
      | some error => .error error
      | none => .ok ((earlier ++ decls).map (·.resolved)) := by
  induction decls generalizing earlier with
  | nil => rw [List.append_nil]; rfl
  | cons decl rest ih =>
    rw [List.foldlM_cons, declareField_resolved, FieldDecl.firstOffence?]
    cases decl.offence? earlier with
    | some error => rfl
    | none =>
      rw [List.append_cons earlier decl rest]
      exact ih _

/-- Declaring reports the first offence, or makes the fields that the declarations stand for. -/
theorem declare_eq (id : Nat) (name : String) (decls : List FieldDecl) :
    declare id name decls = match firstOffence? [] decls with
      | some error => .error error
      | none => .ok ⟨id, name, decls.map (·.resolved)⟩ := by
  rw [declare, show ([] : List (Field Value)) = ([] : List FieldDecl).map (·.resolved) from rfl,
    foldlM_resolved, List.nil_append]
  cases firstOffence? [] decls <;> rfl

end Declaring

/-- How a declared schema agrees with its declarations. -/
structure Consistent [RegexEngine] (decls : List FieldDecl) (schema : Schema Value) : Prop where
  fields : schema.fields = decls.map (·.resolved)
  names : schema.fieldNames = decls.map (·.name)
  distinct : schema.fieldNames.Nodup
  /-- Looking up a name gives the field that has the name. -/
  found : ∀ name field, schema.field? name = some field ↔ field ∈ schema.fields ∧ field.name = name
  declared : ∀ name, (schema.field? name).isSome = true ↔ name ∈ decls.map (·.name)
  /-- An index kept beside the fields comes to the same fields, and leads each name to the field found. -/
  indexed : ∃ indexed, decls.foldlM Indexed.declareField .empty = .ok indexed ∧
    indexed.fields = schema.fields ∧ ∀ name, indexed.lookup name = (schema.field? name).map some
  /-- No field is both generated and required. -/
  apart : ∀ field ∈ schema.fields, (field.auto && field.required) = false
  /-- The last truth value given for `required` counts. -/
  required : Forall₂ (fun decl field =>
    field.required = (lastTruth? decl.options "required").getD (!field.auto && !field.nullable)) decls schema.fields
  primaryKey : schema.primaryKey? = if "id" ∈ decls.map (·.name) then some "id" else none

theorem fieldNames_resolved (decls : List FieldDecl) :
    (decls.map (·.resolved)).map (·.name) = decls.map (·.name) := by
  rw [List.map_map]
  rfl

/-- The field that is primary is the one with the name `id`. -/
theorem primaryKey_resolved (id : Nat) (name : String) (decls : List FieldDecl) :
    primaryKey? ⟨id, name, decls.map (·.resolved)⟩ = if "id" ∈ decls.map (·.name) then some "id" else none := by
  rw [primaryKey?]
  induction decls with
  | nil => rfl
  | cons decl rest ih =>
    rw [List.map_cons, List.find?_cons]
    by_cases named : decl.name = "id"
    · have listed : "id" ∈ (decl :: rest).map (·.name) := List.mem_cons.mpr (.inl named.symm)
      rw [show decl.resolved.primary = true from beq_iff_eq.mpr named, if_pos listed]
      exact congrArg some named
    · have listed : "id" ∈ (decl :: rest).map (·.name) ↔ "id" ∈ rest.map (·.name) :=
        List.mem_cons.trans (or_iff_right (Ne.symm named))
      rw [show decl.resolved.primary = false from beq_false_of_ne named, ih]
      exact ite_congr (propext listed.symm) (fun _ => rfl) fun _ => rfl

section Declared

variable [RegexEngine]

theorem firstOffence?_of_declared {id : Nat} {name : String} {decls : List FieldDecl} {schema : Schema Value}
    (made : declare id name decls = .ok schema) :
    firstOffence? [] decls = none ∧ schema = ⟨id, name, decls.map (·.resolved)⟩ := by
  rw [declare_eq] at made
  cases clean : firstOffence? [] decls with
  | some error => rw [clean] at made; cases made
  | none => rw [clean] at made; cases made; exact ⟨rfl, rfl⟩

theorem indexed_of_declared {id : Nat} {name : String} {decls : List FieldDecl} {schema : Schema Value}
    (made : declare id name decls = .ok schema) :
    ∃ indexed, decls.foldlM Indexed.declareField .empty = .ok indexed ∧
      indexed.fields = schema.fields ∧ ∀ name, indexed.lookup name = (schema.field? name).map some := by
  obtain ⟨clean, rfl⟩ := firstOffence?_of_declared made
  have folded := foldlM_resolved decls []
  rw [clean] at folded
  have same := (Indexed.fields_foldlM Indexed.InStep.empty decls).trans folded
  cases run : decls.foldlM Indexed.declareField .empty with
  | error error => rw [run] at same; cases same
  | ok indexed =>
    rw [run] at same
    have fields : indexed.fields = decls.map (·.resolved) := Except.ok.inj same
    exact ⟨indexed, rfl, fields, (Indexed.foldlM_inStep Indexed.InStep.empty decls indexed run).lookup_eq fields⟩

theorem consistent_of_declared {id : Nat} {name : String} {decls : List FieldDecl} {schema : Schema Value}
    (made : declare id name decls = .ok schema) : Consistent decls schema := by
  have distinct : schema.fieldNames.Nodup := (declare_declared id name decls schema made).nodup
  have indexed := indexed_of_declared made
  obtain ⟨clean, rfl⟩ := firstOffence?_of_declared made
  refine ⟨rfl, fieldNames_resolved decls, distinct, ?_, ?_, indexed, ?_, ?_, primaryKey_resolved id name decls⟩
  · intro wanted field
    constructor
    · exact mem_of_field? _
    · rintro ⟨member, rfl⟩
      exact field?_of_mem _ distinct member
  · intro wanted
    rw [← fieldNames_resolved, List.mem_map, isSome_field?, hasField, List.any_eq_true]
    exact exists_congr fun field => and_congr_right fun _ => beq_iff_eq
  · intro field member
    obtain ⟨decl, listed, rfl⟩ := List.mem_map.mp member
    obtain ⟨before, after, split⟩ := List.append_of_mem listed
    refine Bool.eq_false_iff.mpr fun both => (FieldDecl.firstOffence?_eq_none decls).mp clean _ _ _ split ?_
    obtain ⟨auto, required⟩ := decl.auto_and_required.mp both
    exact .autoRequired auto required
  · rw [List.forall₂_map_right_iff, List.forall₂_same]
    exact fun _ _ => rfl

end Declared

end Schema

/-- Declaring is consistent, whatever the name, the declarations and the patterns that compile are. If it succeeds,
the fields are the declarations in order, with different names; a name finds the field that has it exactly if it was
declared, also through an index kept beside the fields; no field is generated and required; the last truth value
given for `required` counts, and without one a field is required if it is neither generated nor nullable; the primary
key is the field with the name `id`. It fails exactly if a declaration offends, by an unknown option, a bad pattern,
being generated and required or the name of an earlier one, and reports the offence of the first declaration that
does. -/
theorem Schema.declaration_consistent [RegexEngine] (id : Nat) (name : String) (decls : List FieldDecl) :
    (∀ schema, declare id name decls = .ok schema → Consistent decls schema) ∧
    ((∃ error, declare id name decls = .error error) ↔
      ∃ before decl after, decls = before ++ decl :: after ∧ FieldDecl.Offends before decl) ∧
    (∀ error, declare id name decls = .error error ↔
      ∃ before decl after, decls = before ++ decl :: after ∧ FieldDecl.NoneOffends before ∧
        decl.offence? before = some error) := by
  have fails : ∀ error, declare id name decls = .error error ↔ FieldDecl.firstOffence? [] decls = some error := by
    intro error
    rw [declare_eq]
    cases FieldDecl.firstOffence? [] decls <;> simp
  refine ⟨fun schema made => consistent_of_declared made, ?_, ?_⟩
  · constructor
    · rintro ⟨error, failed⟩
      obtain ⟨before, decl, after, split, -, wrong⟩ :=
        (FieldDecl.firstOffence?_eq_some_iff decls error).mp ((fails error).mp failed)
      exact ⟨before, decl, after, split, (FieldDecl.isSome_offence? before decl).mp (Option.isSome_of_eq_some wrong)⟩
    · rintro ⟨before, decl, after, split, offends⟩
      cases first : FieldDecl.firstOffence? [] decls with
      | some error => exact ⟨error, (fails error).mpr first⟩
      | none => exact absurd offends ((FieldDecl.firstOffence?_eq_none decls).mp first before decl after split)
  · intro error
    rw [fails, FieldDecl.firstOffence?_eq_some_iff]

/-- The last `required` makes a nullable field required, and one that is not a truth value is ignored. Of two
declarations that offend the first is reported, also where the other one repeats a name. -/
theorem Schema.declaration_consistent_where_overridden :
    (∃ schema, declare 0 "User" [{ FieldDecl.new "id" "id" with options := [("auto", .bool true)] },
        { FieldDecl.new "name" "string?" with
          options := [("required", .bool false), ("required", .bool true), ("required", .int 0)] }] = .ok schema ∧
      Consistent [{ FieldDecl.new "id" "id" with options := [("auto", .bool true)] },
        { FieldDecl.new "name" "string?" with
          options := [("required", .bool false), ("required", .bool true), ("required", .int 0)] }] schema ∧
      schema.primaryKey? = some "id" ∧ schema.fields.map (·.required) = [false, true]) ∧
    (∃ before decl after,
      [FieldDecl.new "id" "id", { FieldDecl.new "age" "int" with options := [("length", .int 1)] },
        FieldDecl.new "id" "id"] = before ++ decl :: after ∧ FieldDecl.NoneOffends before ∧
      decl.offence? before = some (.unknownOption "age" "length")) :=
  ⟨⟨_, rfl, (declaration_consistent 0 "User" _).1 _ rfl, rfl, rfl⟩,
    ((declaration_consistent 0 "User" _).2.2 _).mp rfl⟩

end TableScript
