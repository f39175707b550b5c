import TableScript.Proofs.Record.Validation

set_option autoImplicit false

namespace TableScript

open Validation (rounded exactly check lowerRule upperRule failure)

/-- Types whose bounds are lengths are no integers. -/
theorem FieldDecl.boundsLength_of_integer {typeName : String} (integer : TypeFamily.ofName typeName = .integer) :
    boundsLength typeName = false := by
  unfold TypeFamily.ofName at integer
  rw [boundsLength, Bool.eq_false_iff]
  intro listed
  generalize Text.lowerAscii typeName = base at integer listed
  simp only [List.contains_iff_mem, List.mem_cons, List.not_mem_nil, or_false] at listed
  rcases listed with rfl | rfl | rfl | rfl | rfl | rfl <;> exact absurd integer (by decide +kernel)

/-- An integer field as it was declared. -/
structure FieldDecl.Integral (decl : FieldDecl) (field : Field Value) : Prop where
  name : field.name = decl.name
  family : field.family = .integer
  least : field.minValue = lastInteger? decl.options "min"
  most : field.maxValue = lastInteger? decl.options "max"

theorem FieldDecl.integral_of_build [RegexEngine] {decl : FieldDecl} {field : Field Value}
    (built : decl.build = .ok field) (integer : TypeFamily.ofName decl.typeName = .integer) : decl.Integral field := by
  have bounded := build_bounded (boundsLength_of_integer integer) field built
  have typeName : decl.draft.field.typeName = decl.typeName := by
    refine if_neg fun named => ?_
    rw [TypeFamily.ofName, named] at integer
    exact absurd integer (by decide +kernel)
  refine ⟨(build_follows decl field built).name, ?_, ?_, ?_⟩
  · rw [Field.family, bounded.typeName, typeName, integer]
  · exact bounded.least.trans (Option.or_none)
  · exact bounded.most.trans (Option.or_none)

namespace Validation

/-- The lower bound is reported where the integer lies below it, otherwise the upper bound where the integer lies
above it, and nothing else is. -/
structure BoundsReport (below : Int64 → Int64 → Prop) (least most : Option Int64) (n : Int64)
    (found : Option FieldError) : Prop where
  lower : (∃ error, found = some error ∧ error.code = "MIN_VALUE") ↔ ∃ bound, least = some bound ∧ below n bound
  upper : (¬ ∃ bound, least = some bound ∧ below n bound) →
    ((∃ error, found = some error ∧ error.code = "MAX_VALUE") ↔ ∃ bound, most = some bound ∧ below bound n)
  only : ∀ error, found = some error → error.code = "MIN_VALUE" ∨ error.code = "MAX_VALUE"

theorem BoundsReport.congr {below other : Int64 → Int64 → Prop} {least most : Option Int64} {n : Int64}
    {found : Option FieldError} (report : BoundsReport below least most n found)
    (lower : ∀ bound, least = some bound → (below n bound ↔ other n bound))
    (upper : ∀ bound, most = some bound → (below bound n ↔ other bound n)) :
    BoundsReport other least most n found := by
  have leasts : (∃ bound, least = some bound ∧ below n bound) ↔ ∃ bound, least = some bound ∧ other n bound :=
    exists_congr fun bound => and_congr_right (lower bound)
  have mosts : (∃ bound, most = some bound ∧ below bound n) ↔ ∃ bound, most = some bound ∧ other bound n :=
    exists_congr fun bound => and_congr_right (upper bound)
  exact ⟨report.lower.trans leasts, fun clear => (report.upper (leasts.not.mpr clear)).trans mosts, report.only⟩

/-- Of the rules, an integer can break only those of the bounds. -/
theorem check_int [RegexEngine] {field : Field Value} (integer : field.family = .integer) (n : Int64) :
    check field (.int n) = (lowerRule field (.int n)).or (upperRule field (.int n)) := by
  have typed : typeRule field (.int n) = none := by simp only [typeRule, integer, acceptsKind, ↓reduceIte]
  have formatted : formatRule field (.int n) = none := by
    unfold formatRule
    cases field.family <;> rfl
  have matched : patternRule field (.int n) = none := by
    unfold patternRule
    cases field.pattern <;> rfl
  have listed : enumRule field (.int n) = none := rfl
  have present : ¬ (Value.int n).isNull = true := Bool.false_ne_true
  rw [check, if_neg present, valueRules_or, typed, formatted, matched, listed]
  simp only [Option.none_or, Option.or_none]

/-- The rule of the lower bound has the first word. -/
theorem report_check [RegexEngine] {field : Field Value} (integer : field.family = .integer) (n : Int64) :
    BoundsReport rounded field.minValue field.maxValue n (check field (.int n)) := by
  have lower : FirstBroken (fun _ => ∃ bound, field.minValue = some bound ∧ rounded n bound) [.minValue]
      (lowerRule field (.int n)) := .bind Iff.rfl
  have upper : FirstBroken (fun _ => ∃ bound, field.maxValue = some bound ∧ rounded bound n) [.maxValue]
      (upperRule field (.int n)) := .bind Iff.rfl
  rw [FirstBroken.singleton_iff] at lower upper
  rw [check_int integer]
  cases low : lowerRule field (.int n) with
  | some error =>
    obtain ⟨named, broken⟩ := lower.2 error low
    refine ⟨⟨fun _ => broken, fun _ => ⟨error, rfl, named⟩⟩, fun clear => absurd broken clear, ?_⟩
    rintro other ⟨⟩
    exact .inl named
  | none =>
    have clear := lower.1 low
    cases high : upperRule field (.int n) with
    | some error =>
      obtain ⟨named, broken⟩ := upper.2 error high
      refine ⟨⟨?_, fun broken => absurd broken clear⟩,
        fun _ => ⟨fun _ => broken, fun _ => ⟨error, rfl, named⟩⟩, ?_⟩
      · rintro ⟨other, ⟨⟩, code⟩
        exact absurd (named.symm.trans code) (by decide)
      · rintro other ⟨⟩
        exact .inr named
    | none =>
      refine ⟨⟨nofun, fun broken => absurd broken clear⟩, fun _ => ⟨nofun, fun broken => ?_⟩, nofun⟩
      exact absurd broken (upper.1 high)

/-- No bound is rounded to the number that the integer is rounded to, unless it is the integer. -/
def ToldApart (least most : Option Int64) (n : Int64) : Prop :=
  ∀ bound, least = some bound ∨ most = some bound → n = bound ∨ Double.ofInt64 n ≠ Double.ofInt64 bound

theorem toldApart_of_small {least most : Option Int64} {n : Int64}
    (small : n.toInt.natAbs < 2 ^ 53 ∨
      ∀ bound, least = some bound ∨ most = some bound → bound.toInt.natAbs < 2 ^ 53) :
    ToldApart least most n := by
  intro bound given
  by_cases same : n = bound
  · exact .inl same
  · rcases small with integer | bounds
    · exact .inr (Double.ofInt64_ne_of_small integer same)
    · exact .inr (Double.ofInt64_ne_of_small (bounds bound given) (Ne.symm same)).symm

theorem BoundsReport.exactly {least most : Option Int64} {n : Int64} {found : Option FieldError}
    (report : BoundsReport rounded least most n found) (apart : ToldApart least most n) :
    BoundsReport exactly least most n found := by
  refine report.congr (fun bound given => ?_) fun bound given => ?_
  · exact Double.less_iff_of_apart (apart bound (.inl given))
  · exact Double.less_iff_of_apart ((apart bound (.inr given)).imp Eq.symm Ne.symm)

end Validation

open Validation (BoundsReport ToldApart)

theorem Schema.report_errors [RegexEngine] {id : Nat} {name : String} {decls : List FieldDecl} {binding : Schema Value}
    (declared : declare id name decls = .ok binding) {decl : FieldDecl} (listed : decl ∈ decls)
    (integer : TypeFamily.ofName decl.typeName = .integer) {data : Row} {n : Int64}
    (cell : Row.cell data decl.name = .int n) :
    BoundsReport rounded (FieldDecl.lastInteger? decl.options "min") (FieldDecl.lastInteger? decl.options "max") n
      ((Validation.errors binding data).get? decl.name) := by
  obtain ⟨field, -, built, -, checked⟩ := get?_errors_of_declare declared listed
  have integral := FieldDecl.integral_of_build built integer
  have report := Validation.report_check integral.family n
  rw [integral.least, integral.most] at report
  rw [checked, cell]
  exact report

/-- How the bounds of a declared integer are reported. The lower bound has the first word, the last option of each
name counts, and both are met by the numbers that the words are rounded to. Where rounding tells them from the
integer, above all if the integer or the bounds have less than 54 bits, the report is that of the integers; and a
bound that is reported is broken in any case. -/
theorem Record.integer_bounds [RegexEngine] {id : Nat} {name : String} {decls : List FieldDecl} {binding : Schema Value}
    (declared : Schema.declare id name decls = .ok binding) {decl : FieldDecl} (listed : decl ∈ decls)
    (integer : TypeFamily.ofName decl.typeName = .integer) {record : Record Value}
    (bound : record.schema = binding) {n : Int64} (cell : Row.cell record.data decl.name = .int n) :
    let least := FieldDecl.lastInteger? decl.options "min"
    let most := FieldDecl.lastInteger? decl.options "max"
    let found := record.validate.errors.get? decl.name
    BoundsReport rounded least most n found ∧
    (ToldApart least most n → BoundsReport exactly least most n found) ∧
    ((n.toInt.natAbs < 2 ^ 53 ∨
        ∀ limit, least = some limit ∨ most = some limit → limit.toInt.natAbs < 2 ^ 53) →
      BoundsReport exactly least most n found) ∧
    ∀ error, found = some error →
      (error.code = "MIN_VALUE" → ∃ limit, least = some limit ∧ n.toInt < limit.toInt) ∧
      (error.code = "MAX_VALUE" → ∃ limit, most = some limit ∧ limit.toInt < n.toInt) := by
  intro least most found
  have report : BoundsReport rounded least most n found := by
    subst bound
    exact Schema.report_errors declared listed integer cell
  refine ⟨report, report.exactly, fun small => report.exactly (Validation.toldApart_of_small small),
    fun error same => ⟨fun code => ?_, fun code => ?_⟩⟩
  · obtain ⟨limit, given, low⟩ := report.lower.mp ⟨error, same, code⟩
    exact ⟨limit, given, Double.lt_of_less low⟩
  · have clear : ¬ ∃ limit, least = some limit ∧ rounded n limit := by
      intro broken
      obtain ⟨other, again, other_code⟩ := report.lower.mpr broken
      obtain rfl := Option.some.inj (same.symm.trans again)
      exact absurd (code.symm.trans other_code) (by decide)
    obtain ⟨limit, given, high⟩ := (report.upper clear).mp ⟨error, same, code⟩
    exact ⟨limit, given, Double.lt_of_less high⟩

/-- An age from eighteen on; the first lower bound does not count. -/
def FieldDecl.age : FieldDecl :=
  { FieldDecl.new "age" "int" with options := [("min", .int 21), ("min", .int 18), ("max", .int 65)] }

def FieldDecl.ageField : Field Value :=
  { FieldDecl.age.draft.field with required := true, minValue := some 18, maxValue := some 65 }

theorem Record.integer_bounds_of_age :
    let guest : Record Value := fresh ⟨0, "Guest", [FieldDecl.ageField]⟩ ⟨[("age", .int 17)]⟩
    (Schema.declare 0 "Guest" [.age] = .ok ⟨0, "Guest", [FieldDecl.ageField]⟩ ∧
      TypeFamily.ofName FieldDecl.age.typeName = .integer ∧ Row.cell guest.data "age" = .int 17 ∧
      ToldApart (some 18) (some 65) 17 ∧
      guest.validate.errors.get? "age" = some ⟨"MIN_VALUE", "Age must be at least 18"⟩) ∧
      BoundsReport exactly (some 18) (some 65) 17 (guest.validate.errors.get? "age") ∧
      ∃ limit : Int64, some 18 = some limit ∧ (17 : Int64).toInt < limit.toInt := by
  intro guest
  have declared : Schema.declare 0 "Guest" [.age] = .ok ⟨0, "Guest", [FieldDecl.ageField]⟩ := by rfl
  have integer : TypeFamily.ofName FieldDecl.age.typeName = .integer := by decide +kernel
  have found : guest.validate.errors.get? "age" = some ⟨"MIN_VALUE", "Age must be at least 18"⟩ := by rfl
  have small : (17 : Int64).toInt.natAbs < 2 ^ 53 := by decide
  have apart : ToldApart (some 18) (some 65) 17 := Validation.toldApart_of_small (.inl small)
  have cell : Row.cell guest.data FieldDecl.age.name = .int 17 := by rfl
  obtain ⟨-, report, -, broken⟩ := integer_bounds declared List.mem_cons_self integer rfl cell
  exact ⟨⟨declared, integer, cell, apart, found⟩, report apart, (broken _ found).1 rfl⟩

/-- A number of at most two to the fifty-third. -/
def FieldDecl.serial : FieldDecl :=
  { FieldDecl.new "n" "bigint" with options := [("max", .int 9007199254740992)] }

def FieldDecl.serialField : Field Value :=
  { FieldDecl.serial.draft.field with required := true, maxValue := some 9007199254740992 }

/-- The integer above the bound is rounded to the bound and is not reported. -/
theorem Record.missed_greatest :
    let record : Record Value :=
      fresh ⟨0, "S", [FieldDecl.serialField]⟩ ⟨[("n", .int 9007199254740993)]⟩
    Schema.declare 0 "S" [.serial] = .ok record.schema ∧ record.validate.errors = .empty ∧
      ¬ BoundsReport exactly none (some 9007199254740992) 9007199254740993
        (record.validate.errors.get? "n") := by
  intro record
  have unreported : record.validate.errors = .empty := by rfl
  refine ⟨by rfl, unreported, fun report => ?_⟩
  rw [unreported] at report
  have clear : ¬ ∃ bound, (none : Option Int64) = some bound ∧ exactly 9007199254740993 bound :=
    fun ⟨_, given, _⟩ => nomatch given
  have above : (9007199254740992 : Int64).toInt < (9007199254740993 : Int64).toInt := by decide
  obtain ⟨error, found, -⟩ := (report.upper clear).mpr ⟨_, rfl, above⟩
  cases found

end TableScript
