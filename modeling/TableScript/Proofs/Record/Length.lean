import TableScript.Proofs.Record.Validation
import TableScript.Proofs.Schema.TypeName

set_option autoImplicit false

namespace TableScript

theorem ValidationCode.name_injective {first second : ValidationCode} (same : first.name = second.name) :
    first = second := by
  cases first <;> cases second <;> first | rfl | exact absurd same (by decide)

namespace Validation

/-- Where two places of a list are the same, or one is in front of the other. -/
theorem split_cases {α : Type} {front back before behind : List α} {item other : α}
    (same : front ++ item :: back = before ++ other :: behind) :
    other ∈ front ∨ (front = before ∧ item = other) ∨ item ∈ before := by
  rcases List.append_eq_append_iff.mp same with ⟨rest, rfl, later⟩ | ⟨rest, rfl, later⟩
  · cases rest with
    | nil => exact .inr (.inl ⟨(List.append_nil front).symm, (List.cons.inj later).1⟩)
    | cons first rest => exact .inr (.inr (by simp [(List.cons.inj later).1]))
  · cases rest with
    | nil => exact .inr (.inl ⟨List.append_nil before, (List.cons.inj later).1.symm⟩)
    | cons first rest => exact .inl (by simp [(List.cons.inj later).1])

/-- A code is reported if its rule is broken and none before it is. -/
theorem FirstBroken.reported_iff {broken : ValidationCode → Prop} {codes earlier later : List ValidationCode}
    {found : Option FieldError} {code : ValidationCode} (first : FirstBroken broken codes found)
    (distinct : codes.Nodup) (split : codes = earlier ++ code :: later) :
    (∃ error, found = some error ∧ error.code = code.name) ↔
      broken code ∧ ∀ passed ∈ earlier, ¬ broken passed := by
  constructor
  · rintro ⟨error, same, named⟩
    obtain ⟨front, reported, back, listed, code_name, breaks, passed⟩ := first.first error same
    obtain rfl : reported = code := ValidationCode.name_injective (code_name.symm.trans named)
    have apart : reported ∉ earlier ∧ reported ∉ front := by
      constructor
      · rw [split, List.nodup_append] at distinct
        exact fun member => distinct.2.2 reported member reported List.mem_cons_self rfl
      · rw [listed, List.nodup_append] at distinct
        exact fun member => distinct.2.2 reported member reported List.mem_cons_self rfl
    rcases split_cases (split.symm.trans listed) with member | ⟨rfl, -⟩ | member
    · exact absurd member apart.1
    · exact ⟨breaks, passed⟩
    · exact absurd member apart.2
  · rintro ⟨breaks, clear⟩
    have member : code ∈ codes := split ▸ List.mem_append_right earlier List.mem_cons_self
    cases same : found with
    | none => exact absurd breaks (first.clear same code member)
    | some error =>
      obtain ⟨front, reported, back, listed, named, reason, passed⟩ := first.first error same
      rcases split_cases (split.symm.trans listed) with before | ⟨-, rfl⟩ | behind
      · exact absurd reason (clear reported before)
      · exact ⟨error, rfl, named⟩
      · exact absurd breaks (passed code behind)

/-- The integers bound the length of texts, one below zero as if it were zero. -/
structure BoundsLength (field : Field Value) (least most : Option Int64) : Prop where
  minLength : field.minLength = least.map fun bound => bound.toInt.toNat
  maxLength : field.maxLength = most.map fun bound => bound.toInt.toNat
  minValue : field.minValue = none
  maxValue : field.maxValue = none

/-- The integers bound the value of numbers. -/
structure BoundsValue (field : Field Value) (least most : Option Int64) : Prop where
  minLength : field.minLength = none
  maxLength : field.maxLength = none
  minValue : field.minValue = least
  maxValue : field.maxValue = most

/-- The text has fewer characters than the bound. -/
def Short (least : Option Int64) (text : String) : Prop :=
  ∃ bound, least = some bound ∧ (text.length : Int) < bound.toInt

/-- The text has more characters than the bound, and is not empty. -/
def Long (most : Option Int64) (text : String) : Prop :=
  ∃ bound, most = some bound ∧ max bound.toInt 0 < (text.length : Int)

/-- A text that meets its format is reported by the lower bound if it is short, otherwise by the upper bound if it is
long. What is not reported is neither. -/
structure LengthReport [RegexEngine] (field : Field Value) (least most : Option Int64) (text : String)
    (found : Option FieldError) : Prop where
  lower : (∃ error, found = some error ∧ error.code = "MIN_LENGTH") ↔
    ¬ (MissesFormat field (.text text) ∨ MissesPattern field (.text text)) ∧ Short least text
  upper : (∃ error, found = some error ∧ error.code = "MAX_LENGTH") ↔
    ¬ (MissesFormat field (.text text) ∨ MissesPattern field (.text text)) ∧ ¬ Short least text ∧ Long most text
  clear : found = none → ¬ Short least text ∧ ¬ Long most text

/-- No bound is reported. -/
def Boundless (found : Option FieldError) : Prop :=
  ∀ error, found = some error → error.code ∉ ["MIN_LENGTH", "MAX_LENGTH", "MIN_VALUE", "MAX_VALUE"]

section Text

variable [RegexEngine] {field : Field Value} {least most : Option Int64} {text : String}

theorem breaks_minLength_iff (bounds : BoundsLength field least most) :
    Breaks rounded field (.text text) .minLength ↔ Short least text := by
  constructor
  · rintro ⟨_, bound, ⟨⟩, given, short⟩
    rw [bounds.minLength] at given
    obtain ⟨limit, declared, rfl⟩ := Option.map_eq_some_iff.mp given
    exact ⟨limit, declared, by omega⟩
  · rintro ⟨limit, declared, short⟩
    exact ⟨text, limit.toInt.toNat, rfl, by rw [bounds.minLength, declared]; rfl, by omega⟩

theorem breaks_maxLength_iff (bounds : BoundsLength field least most) :
    Breaks rounded field (.text text) .maxLength ↔ Long most text := by
  constructor
  · rintro ⟨_, bound, ⟨⟩, given, long⟩
    rw [bounds.maxLength] at given
    obtain ⟨limit, declared, rfl⟩ := Option.map_eq_some_iff.mp given
    exact ⟨limit, declared, by omega⟩
  · rintro ⟨limit, declared, long⟩
    exact ⟨text, limit.toInt.toNat, rfl, by rw [bounds.maxLength, declared]; rfl, by omega⟩

/-- Besides its format, a text of a text family can break no rule but those of lengths and of listed values. -/
theorem text_breaks (text : String) (family : field.family.IsText) :
    ¬ Breaks rounded field (.text text) .required ∧ ¬ Breaks rounded field (.text text) .type ∧
      ¬ Breaks rounded field (.text text) .minValue ∧ ¬ Breaks rounded field (.text text) .maxValue := by
  obtain ⟨kind, family⟩ := family
  simp [Breaks, family, acceptsKind, Value.isNull]

theorem report_text (family : field.family.IsText) (bounds : BoundsLength field least most) :
    LengthReport field least most text (check field (.text text)) := by
  have first := check_first field (.text text)
  have distinct : order.Nodup := by decide
  obtain ⟨required, type, value, -⟩ := text_breaks text family
  have before (codes : List ValidationCode) :
      (∀ passed ∈ [.required, .type, .format] ++ codes, ¬ Breaks rounded field (.text text) passed) ↔
        ¬ Breaks rounded field (.text text) .format ∧
          ∀ passed ∈ codes, ¬ Breaks rounded field (.text text) passed := by
    simp [required, type]
  refine ⟨?_, ?_, fun none => ⟨?_, ?_⟩⟩
  · have reported := first.reported_iff distinct
      (show order = ([.required, .type, .format] ++ []) ++ .minLength :: _ from rfl)
    rw [before, breaks_minLength_iff bounds, and_iff_left (List.forall_mem_nil _)] at reported
    exact reported.trans and_comm
  · have reported := first.reported_iff distinct
      (show order = ([.required, .type, .format] ++ [.minLength, .minValue]) ++ .maxLength :: _ from rfl)
    rw [before, breaks_maxLength_iff bounds, List.forall_mem_cons, List.forall_mem_singleton,
      breaks_minLength_iff bounds, and_iff_left value] at reported
    exact reported.trans (and_comm.trans and_assoc)
  · rw [← breaks_minLength_iff bounds]
    exact first.clear none .minLength (by decide)
  · rw [← breaks_maxLength_iff bounds]
    exact first.clear none .maxLength (by decide)

theorem report_boundless (family : field.family.IsText) (bounds : BoundsValue field least most) :
    Boundless (check field (.text text)) := by
  intro error found
  obtain ⟨-, -, minValue, maxValue⟩ := text_breaks text family
  obtain ⟨-, code, -, -, named, breaks, -⟩ := (check_first field (.text text)).first error found
  rw [named]
  cases code with
  | minLength =>
    obtain ⟨_, _, _, given, _⟩ := breaks
    cases bounds.minLength.symm.trans given
  | maxLength =>
    obtain ⟨_, _, _, given, _⟩ := breaks
    cases bounds.maxLength.symm.trans given
  | minValue => exact absurd breaks minValue
  | maxValue => exact absurd breaks maxValue
  | _ => decide

end Text

end Validation

open Validation (BoundsLength BoundsValue LengthReport Boundless)

namespace FieldDecl

/-- An integer for one of the bounds. -/
def IsBound (option : String × Value) : Prop :=
  (option.1 = "min" ∨ option.1 = "max") ∧ ∃ n, option.2 = .int n

theorem optionFault?_of_bound [RegexEngine] (decl : FieldDecl) {option : String × Value} (bound : IsBound option) :
    decl.optionFault? option = none := by
  obtain ⟨key, value⟩ := option
  obtain ⟨rfl | rfl, -⟩ := bound
  · exact optionFault?_of_known decl value (by decide) (by decide)
  · exact optionFault?_of_known decl value (by decide) (by decide)

theorem truthUnder?_of_bound (key : String) {option : String × Value} (bound : IsBound option) :
    truthUnder? key option = none := by
  obtain ⟨name, value⟩ := option
  obtain ⟨-, n, rfl⟩ := bound
  rfl

/-- A declaration with no options but bounds is accepted. -/
theorem build_of_bounds [RegexEngine] {decl : FieldDecl} (bounds : ∀ option ∈ decl.options, IsBound option) :
    ∃ field, decl.build = .ok field := by
  have allowed : decl.options.findSome? decl.optionFault? = none :=
    List.findSome?_eq_none_iff.mpr fun option member => optionFault?_of_bound decl (bounds option member)
  have unsaid : lastTruth? decl.options "auto" = none :=
    List.findSome?_eq_none_iff.mpr fun option member =>
      truthUnder?_of_bound "auto" (bounds option (List.mem_reverse.mp member))
  have free : decl.resolved.auto = false := by
    change (lastTruth? decl.options "auto").getD false = false
    rw [unsaid, Option.getD_none]
  rw [build_eq, fault?, allowed, Option.none_or, free]
  exact ⟨_, rfl⟩

/-- The bounds of a built field are lengths or values by the name of its type. -/
theorem bounds_of_build [RegexEngine] {decl : FieldDecl} {field : Field Value} (built : decl.build = .ok field) :
    (boundsLength decl.typeName = true →
      BoundsLength field (lastInteger? decl.options "min") (lastInteger? decl.options "max")) ∧
    (boundsLength decl.typeName = false →
      BoundsValue field (lastInteger? decl.options "min") (lastInteger? decl.options "max")) := by
  have limited := build_limited decl field built
  refine ⟨fun lengths => ?_, fun values => ?_⟩
  · rw [lengths] at limited
    exact ⟨limited.minLength.trans Option.or_none, limited.maxLength.trans Option.or_none, limited.minValue,
      limited.maxValue⟩
  · rw [values] at limited
    exact ⟨limited.minLength, limited.maxLength, limited.minValue.trans Option.or_none,
      limited.maxValue.trans Option.or_none⟩

theorem family_of_build [RegexEngine] {decl : FieldDecl} {field : Field Value} (built : decl.build = .ok field) :
    field.family = decl.draft.field.family := by
  rw [Field.family, (build_limited decl field built).typeName, Field.family]

/-- By the family and the name as it was written. -/
theorem bounds_of_written [RegexEngine] {decl : FieldDecl} {written : String}
    (named : decl.typeName = (new decl.name written).typeName) {field : Field Value}
    (built : decl.build = .ok field) :
    let least := lastInteger? decl.options "min"
    let most := lastInteger? decl.options "max"
    (¬ Overlooked written → field.family.IsText → BoundsLength field least most) ∧
    (¬ field.family.IsText → BoundsValue field least most) ∧
    (Overlooked written → field.family.IsText ∧ BoundsValue field least most) := by
  obtain ⟨lengths, values⟩ := bounds_of_build built
  have bound := boundsLength_iff_isText named
  rw [family_of_build built]
  refine ⟨fun seen text => lengths (bound.mpr ⟨text, seen⟩), fun other => values ?_, fun overlooked => ?_⟩
  · exact Bool.eq_false_iff.mpr fun length => other (bound.mp length).1
  · exact ⟨isText_of_overlooked named overlooked,
      values (Bool.eq_false_iff.mpr fun length => (bound.mp length).2 overlooked)⟩

end FieldDecl

open FieldDecl (Overlooked lastInteger?)

/-- The bounds of declared fields. The last integer of each option counts. Where the name of the type is not
overlooked, the bounds are lengths in the text families and values in all others; every text in a field of a text
family is reported if it does not meet them, unless its format is reported before. Where it is overlooked the field is
of a text family too, but the bounds are values, and no text is reported on account of them. -/
theorem Record.bounds_of_family [RegexEngine] {decl : FieldDecl} {written : String}
    (named : decl.typeName = (FieldDecl.new decl.name written).typeName) :
    let least := lastInteger? decl.options "min"
    let most := lastInteger? decl.options "max"
    ((∀ option ∈ decl.options, FieldDecl.IsBound option) → ∃ field, decl.build = .ok field) ∧
    (∀ field, decl.build = .ok field →
      (¬ Overlooked written → field.family.IsText → BoundsLength field least most) ∧
      (¬ field.family.IsText → BoundsValue field least most) ∧
      (Overlooked written → field.family.IsText ∧ BoundsValue field least most)) ∧
    ∀ id name decls binding, Schema.declare id name decls = .ok binding → decl ∈ decls →
      ∃ field ∈ binding.fields, decl.build = .ok field ∧ field.name = decl.name ∧
        ∀ (record : Record Value) text, record.schema = binding → field.family.IsText →
          Row.cell record.data decl.name = .text text →
          (¬ Overlooked written → LengthReport field least most text (record.validate.errors.get? decl.name)) ∧
          (Overlooked written → Boundless (record.validate.errors.get? decl.name)) := by
  intro least most
  refine ⟨FieldDecl.build_of_bounds, fun _ => FieldDecl.bounds_of_written named, ?_⟩
  intro id name decls binding declared listed
  obtain ⟨field, member, built, sameName, checked⟩ := Schema.get?_errors_of_declare declared listed
  obtain ⟨lengths, -, values⟩ := FieldDecl.bounds_of_written named built
  refine ⟨field, member, built, sameName, fun record text bound family cell => ?_⟩
  subst bound
  have found : record.validate.errors.get? decl.name = Validation.check field (.text text) :=
    (checked record.data).trans (by rw [cell])
  rw [found]
  exact ⟨fun seen => Validation.report_text family (lengths seen family),
    fun overlooked => Validation.report_boundless family (values overlooked).2⟩

/-- A text of three to five characters, if there is one. The type is written without regard to case. -/
def FieldDecl.note : FieldDecl :=
  { FieldDecl.new "note" "Text?" with options := [("min", .int 3), ("max", .int 5)] }

def FieldDecl.noteField : Field Value :=
  { FieldDecl.note.draft.field with minLength := some 3, maxLength := some 5 }

theorem Record.bounds_of_family_of_note :
    let memo : Record Value := fresh ⟨0, "Memo", [FieldDecl.noteField]⟩ ⟨[("note", .text "ab")]⟩
    let found := memo.validate.errors.get? "note"
    (FieldDecl.note.typeName = (FieldDecl.new "note" "Text?").typeName ∧ ¬ Overlooked "Text?" ∧
      Schema.declare 0 "Memo" [.note] = .ok memo.schema ∧ FieldDecl.noteField.family.IsText ∧
      Row.cell memo.data "note" = .text "ab" ∧
      found = some ⟨"MIN_LENGTH", "Note must be at least 3 characters"⟩) ∧
      BoundsLength FieldDecl.noteField (some 3) (some 5) ∧
      LengthReport FieldDecl.noteField (some 3) (some 5) "ab" found := by
  intro memo found
  have named : FieldDecl.note.typeName = (FieldDecl.new FieldDecl.note.name "Text?").typeName := rfl
  have seen : ¬ Overlooked "Text?" := by decide +kernel
  have declared : Schema.declare 0 "Memo" [.note] = .ok memo.schema := by rfl
  have family : FieldDecl.noteField.family.IsText := ⟨.plain, by decide +kernel⟩
  have cell : Row.cell memo.data FieldDecl.note.name = .text "ab" := by rfl
  have built : FieldDecl.note.build = .ok FieldDecl.noteField := by rfl
  obtain ⟨-, bounds, reported⟩ := bounds_of_family named
  obtain ⟨field, -, again, -, report⟩ := reported _ _ _ _ declared List.mem_cons_self
  obtain rfl : FieldDecl.noteField = field := Except.ok.inj (built.symm.trans again)
  exact ⟨⟨named, seen, declared, family, cell, by rfl⟩, (bounds _ built).1 seen family,
    (report memo "ab" rfl family cell).1 seen⟩

/-- An identifier with a format, of at least forty characters. -/
def FieldDecl.ticket : FieldDecl :=
  { FieldDecl.new "u" "uuid" with options := [("min", .int 40)] }

def FieldDecl.ticketField : Field Value :=
  { FieldDecl.ticket.draft.field with required := true, minValue := some 40 }

/-- The field is of a text family and the text is too short, but the bound is one of values and nothing is reported. -/
theorem Record.missed_length :
    let text := "123e4567-e89b-12d3-a456-426614174000"
    let record : Record Value := fresh ⟨0, "S", [FieldDecl.ticketField]⟩ ⟨[("u", .text text)]⟩
    Schema.declare 0 "S" [.ticket] = .ok record.schema ∧ FieldDecl.ticket.build = .ok FieldDecl.ticketField ∧
      FieldDecl.ticketField.family.IsText ∧ ¬ BoundsLength FieldDecl.ticketField (some 40) none ∧
      record.validate.errors = .empty ∧
      ¬ LengthReport FieldDecl.ticketField (some 40) none text (record.validate.errors.get? "u") := by
  intro text record
  have none : record.validate.errors.entries = [] := by decide +kernel
  have unreported : record.validate.errors = .empty := congrArg Dictionary.mk none
  refine ⟨by rfl, by rfl, ⟨.uuid, by decide +kernel⟩, fun bounds => ?_, unreported, fun report => ?_⟩
  · cases bounds.minLength
  · rw [unreported] at report
    exact (report.clear rfl).1 ⟨40, rfl, by decide +kernel⟩

end TableScript
