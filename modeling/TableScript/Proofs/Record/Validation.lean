import TableScript.Proofs.Number.Comparison
import TableScript.Proofs.Record.Validity

set_option autoImplicit false

namespace TableScript

namespace FieldErrors

theorem get?_set (errors : FieldErrors) (field other : String) (error : FieldError) :
    (errors.set field error).get? other = if other = field then some error else errors.get? other := by
  obtain ⟨pairs⟩ := errors
  simp only [set, Dictionary.get?]
  induction pairs with
  | nil =>
    by_cases same : other = field
    · simp [insertSorted, same]
    · simp [insertSorted, List.lookup_cons, same, beq_false_of_ne same]
  | cons pair rest ih =>
    obtain ⟨key, known⟩ := pair
    unfold insertSorted
    by_cases same : other = field
    · subst same
      rw [if_pos rfl] at ih ⊢
      split
      · rw [List.lookup_cons, beq_self_eq_true]
      · split
        · rw [List.lookup_cons, beq_self_eq_true]
        next apart => rw [List.lookup_cons, beq_false_of_ne apart, ih]
    · rw [if_neg same] at ih ⊢
      split
      · rw [List.lookup_cons, beq_false_of_ne same]
      · split
        next equal =>
          obtain rfl : field = key := equal
          rw [List.lookup_cons, List.lookup_cons, beq_false_of_ne same]
        next => rw [List.lookup_cons, List.lookup_cons, ih]

theorem mem_insertSorted {field : String} {error : FieldError} {pairs : List (String × FieldError)}
    {pair : String × FieldError} (member : pair ∈ insertSorted field error pairs) :
    pair = (field, error) ∨ pair ∈ pairs := by
  induction pairs with
  | nil => exact .inl (List.mem_singleton.mp member)
  | cons first rest ih =>
    unfold insertSorted at member
    split at member
    · exact List.mem_cons.mp member
    · split at member
      · exact (List.mem_cons.mp member).imp_right (List.mem_cons_of_mem _)
      · rcases List.mem_cons.mp member with rfl | later
        · exact .inr List.mem_cons_self
        · exact (ih later).imp_right (List.mem_cons_of_mem _)

/-- The errors stand in the order of their fields, one for each. -/
def Sorted (errors : FieldErrors) : Prop := errors.entries.Pairwise fun first second => first.1 < second.1

theorem Sorted.set {errors : FieldErrors} (sorted : errors.Sorted) (field : String) (error : FieldError) :
    (errors.set field error).Sorted := by
  obtain ⟨pairs⟩ := errors
  simp only [Sorted, FieldErrors.set] at sorted ⊢
  induction pairs with
  | nil => exact List.pairwise_singleton _ _
  | cons first rest ih =>
    obtain ⟨above, later⟩ := List.pairwise_cons.mp sorted
    unfold insertSorted
    split
    next less =>
      refine List.pairwise_cons.mpr ⟨fun pair member => ?_, sorted⟩
      rcases List.mem_cons.mp member with rfl | member
      · exact less
      · exact less.trans (above pair member)
    next notLess =>
      split
      next equal =>
        subst equal
        exact List.pairwise_cons.mpr ⟨above, later⟩
      next apart =>
        refine List.pairwise_cons.mpr ⟨fun pair member => ?_, ih later⟩
        rcases mem_insertSorted member with rfl | member
        · exact lt_of_le_of_ne (not_lt.mp notLess) (Ne.symm apart)
        · exact above pair member

end FieldErrors

namespace Validation

/-- The rules in the order in which a field meets them. -/
def order : List ValidationCode :=
  [.required, .type, .format, .minLength, .minValue, .maxLength, .maxValue, .enum]

/-- A text that is not empty and has not the format of the type. -/
def MissesFormat [RegexEngine] (field : Field Value) (value : Value) : Prop :=
  ∃ text kind, value = .text text ∧ text ≠ "" ∧ field.family = .text kind ∧ ¬ Format.accepts kind text

/-- A text that is not empty and does not match the declared pattern. -/
def MissesPattern [RegexEngine] (field : Field Value) (value : Value) : Prop :=
  ∃ text source, value = .text text ∧ text ≠ "" ∧ field.pattern = some source ∧
    ¬ RegexEngine.isMatch source text

/-- Whether the value breaks the rule with this code. Whether an integer lies below another is up to
`below`. -/
def Breaks [RegexEngine] (below : Int64 → Int64 → Prop) (field : Field Value) (value : Value) : ValidationCode → Prop
  | .required => value.isNull ∧ field.required
  | .type => ¬ value.isNull ∧ ¬ acceptsKind field.family value
  | .format => MissesFormat field value ∨ MissesPattern field value
  | .minLength => ∃ text least, value = .text text ∧ field.minLength = some least ∧ text.length < least
  | .maxLength => ∃ text most, value = .text text ∧ field.maxLength = some most ∧ most < text.length
  | .minValue => ∃ least, field.minValue = some least ∧
      ((∃ n, value = .int n ∧ below n least) ∨ ∃ x, value = .float x ∧ x.less (.ofInt64 least))
  | .maxValue => ∃ most, field.maxValue = some most ∧
      ((∃ n, value = .int n ∧ below most n) ∨ ∃ x, value = .float x ∧ (Double.ofInt64 most).less x)
  | .enum => ∃ text, value = .text text ∧ field.enumValues ≠ [] ∧ text ∉ field.enumValues
  | .custom => False

/-- The error has the code of the first rule of the list that is broken; there is none if no rule is. -/
structure FirstBroken (broken : ValidationCode → Prop) (codes : List ValidationCode)
    (found : Option FieldError) : Prop where
  clear : found = none → ∀ code ∈ codes, ¬ broken code
  first : ∀ error, found = some error → ∃ earlier code later, codes = earlier ++ code :: later ∧
    error.code = code.name ∧ broken code ∧ ∀ passed ∈ earlier, ¬ broken passed

namespace FirstBroken

variable {broken : ValidationCode → Prop} {codes more : List ValidationCode} {found other : Option FieldError}

theorem none (clear : ∀ code ∈ codes, ¬ broken code) : FirstBroken broken codes none :=
  ⟨fun _ => clear, nofun⟩

theorem or (first : FirstBroken broken codes found) (second : FirstBroken broken more other) :
    FirstBroken broken (codes ++ more) (found.or other) := by
  cases found with
  | some error =>
    refine ⟨nofun, fun _ same => ?_⟩
    obtain ⟨earlier, code, later, rfl, named, breaks, passed⟩ := first.first _ same
    exact ⟨earlier, code, later ++ more, by simp, named, breaks, passed⟩
  | none =>
    have clear := first.clear rfl
    refine ⟨fun same code member => ?_, fun error same => ?_⟩
    · exact (List.mem_append.mp member).elim (clear code) (second.clear same code)
    · obtain ⟨earlier, code, later, rfl, named, breaks, passed⟩ := second.first error same
      refine ⟨codes ++ earlier, code, later, by simp, named, breaks, fun other member => ?_⟩
      exact (List.mem_append.mp member).elim (clear other) (passed other)

theorem singleton_iff {code : ValidationCode} : FirstBroken broken [code] found ↔
    (found = .none → ¬ broken code) ∧ ∀ error, found = some error → error.code = code.name ∧ broken code := by
  constructor
  · rintro ⟨clear, first⟩
    refine ⟨fun same => clear same code List.mem_cons_self, fun error same => ?_⟩
    obtain ⟨earlier, reported, later, one, named, breaks, -⟩ := first error same
    obtain rfl : reported = code := List.mem_singleton.mp (one ▸ by simp)
    exact ⟨named, breaks⟩
  · rintro ⟨clear, first⟩
    refine ⟨fun same => List.forall_mem_singleton.mpr (clear same), fun error same => ?_⟩
    exact ⟨[], code, [], rfl, (first error same).1, (first error same).2, nofun⟩

/-- A rule with one code, which looks at a limit that may be absent. -/
theorem bind {α : Type} {limit : Option α} {condition : α → Prop} [DecidablePred condition]
    {code : ValidationCode} {message : α → String}
    (breaks : broken code ↔ ∃ given, limit = some given ∧ condition given) :
    FirstBroken broken [code]
      (limit.bind fun given => if condition given then failure code (message given) else .none) := by
  rw [singleton_iff, breaks]
  cases limit with
  | none => exact ⟨by simp, nofun⟩
  | some given =>
    rw [Option.bind_some]
    split
    next holds =>
      refine ⟨nofun, fun error same => ⟨?_, given, rfl, holds⟩⟩
      exact congrArg FieldError.code (Option.some.inj same).symm
    next fails => exact ⟨by simpa using fails, nofun⟩

/-- A rule with one code and nothing to look up. -/
theorem single {code : ValidationCode} {message : String} {condition : Prop} [Decidable condition]
    (breaks : broken code ↔ condition) :
    FirstBroken broken [code] (if condition then failure code message else .none) := by
  have looked : FirstBroken broken [code]
      ((some ()).bind fun _ => if condition then failure code message else .none) :=
    bind (by simpa using breaks)
  exact looked

/-- A rule that is not broken may come before. -/
theorem skip {code : ValidationCode} (clear : ¬ broken code) (first : FirstBroken broken codes found) :
    FirstBroken broken (code :: codes) found := (none (List.forall_mem_singleton.mpr clear)).or first

/-- Rules that are not broken may come later. -/
theorem before (first : FirstBroken broken codes found) (clear : ∀ code ∈ more, ¬ broken code) :
    FirstBroken broken (codes ++ more) found := by
  have both := first.or (none clear)
  rwa [Option.or_none] at both

/-- Two rules with one code. -/
theorem either {code : ValidationCode} {condition next : ValidationCode → Prop}
    (first : FirstBroken condition [code] found) (second : FirstBroken next [code] other)
    (breaks : broken code ↔ condition code ∨ next code) : FirstBroken broken [code] (found.or other) := by
  rw [singleton_iff] at first second ⊢
  cases found with
  | some error =>
    exact ⟨nofun, fun _ same => (first.2 _ same).imp_right fun holds => breaks.mpr (.inl holds)⟩
  | none =>
    constructor
    · intro same
      rw [breaks, not_or]
      exact ⟨first.1 rfl, second.1 same⟩
    · exact fun error same => (second.2 error same).imp_right fun holds => breaks.mpr (.inr holds)

end FirstBroken

section Rules

/-- How integers meet their bounds. -/
def rounded (a b : Int64) : Prop := (Double.ofInt64 a).less (.ofInt64 b)

variable [RegexEngine] (field : Field Value) (value : Value)

theorem typeRule_first (present : value.isNull = false) :
    FirstBroken (Breaks rounded field value) [.type] (typeRule field value) := by
  rw [typeRule, ← ite_not]
  exact .single (by simp [Breaks, present])

theorem formatRule_first :
    FirstBroken (fun _ => MissesFormat field value) [.format] (formatRule field value) := by
  unfold formatRule
  split
  next kind text family =>
    rw [← ite_not]
    exact .single (by simp [MissesFormat, family])
  next other =>
    refine .none fun _ _ ⟨text, kind, same, _, family, _⟩ => ?_
    exact other kind text family same

theorem patternRule_first :
    FirstBroken (fun _ => MissesPattern field value) [.format] (patternRule field value) := by
  unfold patternRule
  split
  next source text pattern =>
    rw [← ite_not]
    exact .single (by simp [MissesPattern, pattern])
  next other =>
    refine .none fun _ _ ⟨text, source, same, _, pattern, _⟩ => ?_
    exact other source text pattern same

theorem lowerRule_first :
    FirstBroken (Breaks rounded field value) [.minLength, .minValue] (lowerRule field value) := by
  cases value with
  | text text =>
    exact .before (.bind (by simp [Breaks])) (by simp [Breaks])
  | int n =>
    exact .skip (by simp [Breaks]) (.bind (by simp [Breaks, rounded]))
  | float x =>
    exact .skip (by simp [Breaks]) (.bind (by simp [Breaks]))
  | _ => exact .none (by simp [Breaks])

theorem upperRule_first :
    FirstBroken (Breaks rounded field value) [.maxLength, .maxValue] (upperRule field value) := by
  cases value with
  | text text =>
    exact .before (.bind (by simp [Breaks])) (by simp [Breaks])
  | int n =>
    exact .skip (by simp [Breaks]) (.bind (by simp [Breaks, rounded]))
  | float x =>
    exact .skip (by simp [Breaks]) (.bind (by simp [Breaks]))
  | _ => exact .none (by simp [Breaks])

theorem enumRule_first : FirstBroken (Breaks rounded field value) [.enum] (enumRule field value) := by
  cases value with
  | text text =>
    rw [enumRule, ← ite_not]
    exact .single (by simp [Breaks])
  | _ => exact .none (by simp [Breaks])

theorem valueRules_or : (valueRules.findSome? fun rule => rule field value) =
    (typeRule field value).or (((formatRule field value).or (patternRule field value)).or
      ((lowerRule field value).or ((upperRule field value).or (enumRule field value)))) := by
  cases first : typeRule field value <;> cases second : formatRule field value <;>
    cases third : patternRule field value <;> cases fourth : lowerRule field value <;>
    cases fifth : upperRule field value <;> simp [valueRules, *]

theorem check_first : FirstBroken (Breaks rounded field value) order (check field value) := by
  unfold check
  split
  next missing =>
    obtain rfl : value = .null := by cases value <;> first | rfl | cases missing
    refine .before (.single (by simp [Breaks, Value.isNull])) ?_
    simp [Breaks, MissesFormat, MissesPattern, Value.isNull]
  next present =>
    have absent : value.isNull = false := Bool.eq_false_iff.mpr present
    have formats : FirstBroken (Breaks rounded field value) [.format] _ :=
      .either (formatRule_first field value) (patternRule_first field value) Iff.rfl
    rw [valueRules_or]
    refine .skip (by simp [Breaks, absent]) ?_
    exact (typeRule_first field value absent).or (formats.or ((lowerRule_first field value).or
      ((upperRule_first field value).or (enumRule_first field value))))

end Rules

section Fields

variable [RegexEngine] (data : Row)

/-- The errors with the one of another field. -/
def noted (errors : FieldErrors) (field : Field Value) : FieldErrors :=
  match check field (Row.cell data field.name) with
  | some error => errors.set field.name error
  | none => errors

theorem get?_noted (errors : FieldErrors) (field : Field Value) (name : String) :
    (noted data errors field).get? name =
      if name = field.name then (check field (Row.cell data field.name)).or (errors.get? name)
      else errors.get? name := by
  unfold noted
  cases check field (Row.cell data field.name) with
  | none => simp
  | some error =>
    rw [FieldErrors.get?_set]
    rfl

theorem get?_foldl_noted {fields : List (Field Value)} (distinct : (fields.map (·.name)).Nodup)
    (start : FieldErrors) (name : String) :
    (fields.foldl (noted data) start).get? name =
      ((fields.find? (·.name == name)).bind fun field => check field (Row.cell data field.name)).or
        (start.get? name) := by
  induction fields generalizing start with
  | nil => rfl
  | cons field rest ih =>
    obtain ⟨fresh, distinct⟩ := List.nodup_cons.mp distinct
    rw [List.foldl_cons, ih distinct, get?_noted]
    by_cases same : field.name = name
    · have later : rest.find? (·.name == name) = none := by
        rw [List.find?_eq_none]
        intro other member equal
        exact fresh (List.mem_map.mpr ⟨other, member, (beq_iff_eq.mp equal).trans same.symm⟩)
      rw [List.find?_cons, beq_iff_eq.mpr same, later, if_pos same.symm]
      rfl
    · rw [List.find?_cons, beq_false_of_ne same, if_neg (Ne.symm same)]

theorem get?_errors {schema : Schema Value} (distinct : schema.fieldNames.Nodup) (name : String) :
    (errors schema data).get? name =
      (schema.field? name).bind fun field => check field (Row.cell data field.name) := by
  have folded := get?_foldl_noted data distinct .empty name
  exact folded.trans (Option.or_none)

theorem sorted_errors (schema : Schema Value) : (errors schema data).Sorted := by
  have step : ∀ (fields : List (Field Value)) (start : FieldErrors), start.Sorted →
      (fields.foldl (noted data) start).Sorted := by
    intro fields
    induction fields with
    | nil => exact fun _ sorted => sorted
    | cons field rest ih =>
      intro start sorted
      refine ih _ ?_
      unfold noted
      split
      · exact sorted.set _ _
      · exact sorted
  exact step schema.fields .empty List.Pairwise.nil

end Fields

/-- The errors are those of the fields that break a rule, each with the code of the first one. -/
structure Reports [RegexEngine] (below : Int64 → Int64 → Prop) (schema : Schema Value) (data : Row)
    (errors : FieldErrors) : Prop where
  declared : ∀ name, errors.get? name ≠ none → name ∈ schema.fieldNames
  first : ∀ field ∈ schema.fields,
    FirstBroken (Breaks below field (Row.cell data field.name)) order (errors.get? field.name)
  sorted : errors.Sorted

theorem reports_errors [RegexEngine] {schema : Schema Value} (distinct : schema.fieldNames.Nodup) (data : Row) :
    Reports rounded schema data (errors schema data) where
  declared name found := by
    rw [get?_errors data distinct] at found
    cases declared : schema.field? name with
    | none =>
      rw [declared] at found
      exact absurd rfl found
    | some field =>
      obtain ⟨member, rfl⟩ := schema.mem_of_field? declared
      exact List.mem_map_of_mem member
  first field member := by
    rw [get?_errors data distinct, schema.field?_of_mem distinct member]
    exact check_first field _
  sorted := sorted_errors data schema

/-- Integers below their bounds, without rounding. -/
def exactly (a b : Int64) : Prop := a.toInt < b.toInt

/-- No integer of the row is rounded to a bound of its field that it does not equal. -/
def Apart (schema : Schema Value) (data : Row) : Prop :=
  ∀ field ∈ schema.fields, ∀ n bound, Row.cell data field.name = .int n →
    field.minValue = some bound ∨ field.maxValue = some bound →
    n = bound ∨ Double.ofInt64 n ≠ Double.ofInt64 bound

section Bounds

variable {below stricter : Int64 → Int64 → Prop} {field : Field Value} {value : Value}

/-- The rules of the bounds are the only ones that depend on how integers are compared. -/
theorem Breaks.imp [RegexEngine] {code : ValidationCode} (breaks : Breaks below field value code)
    (least : ∀ n bound, value = .int n → field.minValue = some bound → below n bound → stricter n bound)
    (most : ∀ n bound, value = .int n → field.maxValue = some bound → below bound n → stricter bound n) :
    Breaks stricter field value code := by
  cases code with
  | minValue =>
    obtain ⟨bound, limit, ⟨n, same, low⟩ | float⟩ := breaks
    · exact ⟨bound, limit, .inl ⟨n, same, least n bound same limit low⟩⟩
    · exact ⟨bound, limit, .inr float⟩
  | maxValue =>
    obtain ⟨bound, limit, ⟨n, same, high⟩ | float⟩ := breaks
    · exact ⟨bound, limit, .inl ⟨n, same, most n bound same limit high⟩⟩
    · exact ⟨bound, limit, .inr float⟩
  | _ => exact breaks

theorem Breaks.exactly [RegexEngine] {code : ValidationCode} (breaks : Breaks rounded field value code) :
    Breaks exactly field value code :=
  breaks.imp (fun _ _ _ _ => Double.lt_of_less) fun _ _ _ _ => Double.lt_of_less

theorem FirstBroken.congr {broken other : ValidationCode → Prop} {codes : List ValidationCode}
    {found : Option FieldError} (first : FirstBroken broken codes found)
    (same : ∀ code, broken code ↔ other code) : FirstBroken other codes found := by
  have equal : broken = other := funext fun code => propext (same code)
  exact equal ▸ first

theorem breaks_iff_of_apart [RegexEngine] {schema : Schema Value} {data : Row} (apart : Apart schema data)
    (member : field ∈ schema.fields) (code : ValidationCode) :
    Breaks rounded field (Row.cell data field.name) code ↔
      Breaks Validation.exactly field (Row.cell data field.name) code := by
  refine ⟨.exactly, fun breaks => breaks.imp ?_ ?_⟩
  · intro n bound same limit
    exact (Double.less_iff_of_apart (apart field member n bound same (.inl limit))).mpr
  · intro n bound same limit
    refine (Double.less_iff_of_apart ?_).mpr
    exact (apart field member n bound same (.inr limit)).imp Eq.symm Ne.symm

end Bounds

end Validation

open Validation

/-- The errors of data that is bound to a declared schema are those of the fields that the declarations build. -/
theorem Schema.get?_errors_of_declare [RegexEngine] {id : Nat} {name : String} {decls : List FieldDecl}
    {binding : Schema Value}
    (declared : declare id name decls = .ok binding) {decl : FieldDecl} (listed : decl ∈ decls) :
    ∃ field ∈ binding.fields, decl.build = .ok field ∧ field.name = decl.name ∧ ∀ data,
      (Validation.errors binding data).get? decl.name = Validation.check field (Row.cell data decl.name) := by
  have distinct : binding.fieldNames.Nodup := (declare_declared id name decls binding declared).nodup
  obtain ⟨field, member, built⟩ := source_of_mem (declare_builds id name decls binding declared).flip listed
  have named : field.name = decl.name := (FieldDecl.build_follows decl field built).name
  refine ⟨field, member, built, named, fun data => ?_⟩
  rw [get?_errors data distinct, ← named, field?_of_mem binding distinct member, Option.bind_some]

theorem Record.withErrors_validate [RegexEngine] (record : Record Value) (attached : List (String × FieldError)) :
    (attached.foldl (fun changed pair => changed.withError pair.1 pair.2) record).validate =
      record.validate := by
  induction attached generalizing record with
  | nil => rfl
  | cons pair rest ih => exact ih (record.withError pair.1 pair.2)

/-- Whatever patterns match, validation keeps the schema and the data of a record whose fields have different names,
as those of every declared schema do, and marks it as validated. Each field that breaks a rule has one error, with
the code of the first rule that it breaks, and no other field has one. An integer that is not rounded to a bound that
it does not equal meets its bounds exactly, and a bound that is reported is always broken. A null breaks at most the
first rule. What was known of the record before has no influence. -/
theorem Record.validate_reports [RegexEngine] (record : Record Value)
    (distinct : record.schema.fieldNames.Nodup) :
    (record.validate.schema = record.schema ∧ record.validate.data = record.data ∧
      record.validate.validated = true) ∧
    Reports rounded record.schema record.data record.validate.errors ∧
    (Apart record.schema record.data → Reports exactly record.schema record.data record.validate.errors) ∧
    (∀ field ∈ record.schema.fields, ∀ error, record.validate.errors.get? field.name = some error →
      ∃ code, error.code = code.name ∧ Breaks exactly field (Row.cell record.data field.name) code) ∧
    (∀ field ∈ record.schema.fields, (Row.cell record.data field.name).isNull →
      record.validate.errors.get? field.name = requiredRule field) ∧
    (∀ other : Record Value, other.schema = record.schema → other.data = record.data →
      other.validate = record.validate) ∧
    record.validate.validate = record.validate ∧
    ∀ attached : List (String × FieldError),
      (attached.foldl (fun changed pair => changed.withError pair.1 pair.2) record).validate =
        record.validate := by
  have reports := reports_errors distinct record.data
  refine ⟨⟨rfl, rfl, rfl⟩, reports, fun apart => ?_, fun field member error found => ?_,
    fun field member missing => ?_, fun other bound same => ?_, rfl, record.withErrors_validate⟩
  · refine ⟨reports.declared, fun field member => ?_, reports.sorted⟩
    exact (reports.first field member).congr (breaks_iff_of_apart apart member)
  · obtain ⟨-, code, -, -, named, breaks, -⟩ := (reports.first field member).first error found
    exact ⟨code, named, breaks.exactly⟩
  · change (Validation.errors record.schema record.data).get? field.name = _
    rw [get?_errors record.data distinct, record.schema.field?_of_mem distinct member, Option.bind_some,
      check, if_pos missing]
  · rw [validate, validate, bound, same, withValidation, withValidation, bound, same]

/-- A guest with a name, an age of at least eighteen and a note of at least three characters. -/
def Schema.guest : Schema Value where
  id := 0
  name := "Guest"
  fields :=
    [{ (FieldDecl.new "name" "string").draft.field with required := true },
      { (FieldDecl.new "age" "int").draft.field with minValue := some 18 },
      { (FieldDecl.new "note" "string").draft.field with minLength := some 3, enumValues := ["none"] },
      (FieldDecl.new "paid" "bool").draft.field]

/-- A missing name, an age below the bound and an empty note, which is also not listed, are reported by the
first rule that they break; the truth value is fine. -/
theorem Record.validate_reports_of_guest :
    let data : Row := ⟨[("name", .null), ("age", .int 17), ("note", .text ""), ("paid", .bool true)]⟩
    let guest : Record Value := (fresh .guest data).withError "paid" ⟨"CUSTOM", "not yet"⟩
    guest.schema.fieldNames.Nodup ∧ Apart guest.schema guest.data ∧
      (guest.data.get? "name").any Value.isNull ∧
      guest.validate.errors.entries.map (fun pair => (pair.1, pair.2.code)) =
        [("age", "MIN_VALUE"), ("name", "REQUIRED"), ("note", "MIN_LENGTH")] ∧
      Reports exactly .guest data guest.validate.errors ∧
      guest.validate.errors.get? "name" = some ⟨"REQUIRED", "Name is required"⟩ ∧
      (guest.withError "age" ⟨"CUSTOM", "too young"⟩).validate = guest.validate ∧
      guest.validate.validate = guest.validate := by
  intro data guest
  have distinct : guest.schema.fieldNames.Nodup := by decide
  have apart : Apart guest.schema guest.data := by
    intro field member n bound same limit
    simp only [guest, data, Schema.guest, withError, withValidation, fresh, List.mem_cons, List.not_mem_nil,
      or_false] at member
    rcases member with rfl | rfl | rfl | rfl
    · cases (show Value.null = .int n from same)
    · obtain rfl : 17 = n := Value.int.inj same
      rcases limit with limit | limit
      · exact .inr (Option.some.inj limit ▸ by decide)
      · cases limit
    · cases (show Value.text "" = .int n from same)
    · cases (show Value.bool true = .int n from same)
  have missing : (Row.cell guest.data "name").isNull := rfl
  obtain ⟨-, -, reports, -, null, -, again, attached⟩ := validate_reports guest distinct
  refine ⟨distinct, apart, rfl, by rfl, reports apart, ?_, attached [("age", ⟨"CUSTOM", "too young"⟩)], again⟩
  exact null _ List.mem_cons_self missing

/-- An integer below the bound that is rounded to the bound is not reported. -/
theorem Record.missed_bound :
    let binding : Schema Value :=
      ⟨0, "S", [{ (FieldDecl.new "n" "int").draft.field with minValue := some 9007199254740993 }]⟩
    let record : Record Value := fresh binding ⟨[("n", .int 9007199254740992)]⟩
    binding.fieldNames.Nodup ∧ record.validate.errors = .empty ∧
      ¬ Reports exactly binding record.data record.validate.errors := by
  intro binding record
  have none : record.validate.errors = .empty := by rfl
  refine ⟨by decide, none, fun reports => ?_⟩
  rw [none] at reports
  refine (reports.first _ List.mem_cons_self).clear rfl .minValue (by decide) ?_
  have below : (9007199254740992 : Int64).toInt < (9007199254740993 : Int64).toInt := by decide
  exact ⟨9007199254740993, rfl, .inl ⟨9007199254740992, rfl, below⟩⟩

end TableScript
