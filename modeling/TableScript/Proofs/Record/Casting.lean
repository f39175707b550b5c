import TableScript.Proofs.Record.Rebinding
import TableScript.Proofs.Schema.TypeName
import TableScript.Proofs.Text.Ascii

set_option autoImplicit false

namespace TableScript

open List (replicate)
open Text (IsAscii)

namespace TypeFamily

theorem mem_dropQuestionMarks {text : String} {c : Char} (member : c ∈ text.toList) (other : c ≠ '?') :
    c ∈ (dropQuestionMarks text).toList := by
  have split : c ∈ text.toList.reverse.takeWhile (· == '?') ++ text.toList.reverse.dropWhile (· == '?') := by
    rw [List.takeWhile_append_dropWhile, List.mem_reverse]
    exact member
  rw [dropQuestionMarks, String.toList_ofList, List.mem_reverse]
  rcases List.mem_append.mp split with mark | kept
  · have same := List.all_eq_true.mp List.all_takeWhile c mark
    exact absurd (beq_iff_eq.mp same) other
  · exact kept

/-- The names that have a family are written in letters of one byte, and K is not among them. -/
theorem known_letters {word : String} (known : ofBase word ≠ .other) : ∀ c ∈ word.toList, IsAscii c ∧ c ≠ 'k' := by
  unfold ofBase at known
  split at known
  case h_16 => exact absurd rfl known
  all_goals simp [IsAscii]

/-- A name with a letter of more than one byte, or with a small K, has no family. -/
theorem ofName_of_foreign {name : String} (foreign : ∃ c ∈ name.toList, ¬ IsAscii c ∨ c = 'k') :
    ofName name = .other := by
  by_contra known
  obtain ⟨c, member, strange⟩ := foreign
  have kept : c.toLower = c := by
    rcases strange with wide | rfl
    · exact Text.toLower_of_not_ascii wide
    · rfl
  have lowered : c ∈ (Text.lowerAscii name).toList := by
    rw [Text.lowerAscii, String.toList_ofList, ← kept]
    exact List.mem_map_of_mem member
  have other : c ≠ '?' := by
    rintro rfl
    revert strange
    decide
  obtain ⟨ascii, noK⟩ := known_letters known c (mem_dropQuestionMarks lowered other)
  exact strange.elim (· ascii) noK

theorem getLast?_dropQuestionMarks (text : String) : (dropQuestionMarks text).toList.getLast? ≠ some '?' := by
  rw [dropQuestionMarks, String.toList_ofList, List.getLast?_reverse]
  intro same
  have stopped := List.head?_dropWhile_not (· == '?') text.toList.reverse
  rw [same] at stopped
  exact absurd stopped (by decide)

theorem base_base (name : String) : base (base name) = base name := by
  have lowered : Text.lowerAscii (base name) = base name := by
    obtain ⟨front, split, unmarked⟩ := exists_front name
    refine String.toList_inj.mp ?_
    rw [Text.lowerAscii, String.toList_ofList, base_of_front split unmarked, List.map_map]
    exact List.map_congr_left fun c _ => Char.toLower_toLower_eq_toLower c
  exact ((lowerAscii_eq_iff (getLast?_dropQuestionMarks _)).mp lowered).1

/-- Marks behind a name do not matter. -/
theorem base_append_marks (name : String) (count : Nat) :
    base (name ++ String.ofList (replicate count '?')) = base name := by
  obtain ⟨front, split, unmarked⟩ := exists_front name
  have longer : (name ++ String.ofList (replicate count '?')).toList =
      front ++ replicate (marks name + count) '?' := by
    rw [String.toList_append, String.toList_ofList, split, List.append_assoc, List.replicate_append_replicate]
  exact String.toList_inj.mp ((base_of_front longer unmarked).trans (base_of_front split unmarked).symm)

/-- The case of letters does not matter. -/
theorem ofName_toLower (name : String) : ofName (dropQuestionMarks (Text.toLower name)) = ofName name := by
  by_cases ascii : ∀ c ∈ name.toList, IsAscii c
  · rw [Text.toLower_of_ascii ascii]
    exact congrArg ofBase (base_base name)
  · obtain ⟨c, member, wide⟩ : ∃ c ∈ name.toList, ¬ IsAscii c := by simpa using ascii
    obtain ⟨d, lowered, foreign⟩ := Text.toLowerFrom_of_not_ascii ⟨c, member, wide⟩ []
    have other : d ≠ '?' := by
      rintro rfl
      revert foreign
      decide
    have kept : d ∈ (dropQuestionMarks (Text.toLower name)).toList :=
      mem_dropQuestionMarks (by rw [Text.toLower, String.toList_ofList]; exact lowered) other
    rw [ofName_of_foreign ⟨c, member, .inl wide⟩, ofName_of_foreign ⟨d, kept, foreign⟩]

/-- Two spellings of a name in letters of any case, one with marks behind it, have one family. -/
theorem ofName_of_spelling {written name : String} (spelling : Text.toLower written = Text.toLower name)
    (count : Nat) :
    ofName (written ++ String.ofList (replicate count '?')) = ofName (dropQuestionMarks (Text.toLower name)) := by
  calc ofName (written ++ String.ofList (replicate count '?'))
    _ = ofName written := congrArg ofBase (base_append_marks written count)
    _ = ofName (dropQuestionMarks (Text.toLower written)) := (ofName_toLower written).symm
    _ = ofName (dropQuestionMarks (Text.toLower name)) := by rw [spelling]

end TypeFamily

/-- The kinds of values that have no other form. -/
def Value.fixedKinds : List String :=
  ["null", "money", "unit", "array", "dictionary", "table", "record", "schema", "function", "error"]

namespace Record

/-- The rule on types asks for the values of the family. Fields of floats take integers besides, and fields of no family
take everything. -/
theorem acceptsKind_iff {family : TypeFamily} {value : Value} :
    Validation.acceptsKind family value ↔
      Native family value ∨ (family = .float ∧ ∃ n, value = .int n) ∨ family = .other := by
  constructor
  · intro accepted
    unfold Validation.acceptsKind at accepted
    split at accepted
    case h_1 n => exact .inl (.integer n)
    case h_2 n => exact .inr (.inl ⟨rfl, n, rfl⟩)
    case h_3 x => exact .inl (.float x)
    case h_4 b => exact .inl (.boolean b)
    case h_5 kind text => exact .inl (.text kind text)
    case h_6 => exact .inr (.inr rfl)
    case h_7 => cases accepted
  · rintro (native | ⟨rfl, n, rfl⟩ | rfl)
    · cases native <;> rfl
    · rfl
    · cases value <;> rfl

theorem typeRule_of_native {field : Field Value} {value : Value} (native : Native field.family value) :
    Validation.typeRule field value = none := by
  rw [Validation.typeRule, if_pos (acceptsKind_iff.mpr (.inl native))]

theorem cast_of_fixedKind {value : Value} (fixed : value.kind ∈ Value.fixedKinds) (typeName : String) :
    cast value typeName = value := by
  unfold cast
  cases value with
  | bool | int | float | text => simp [Value.kind, Value.fixedKinds] at fixed
  | _ => cases TypeFamily.ofName typeName <;> rfl

/-- A cast twice is a cast once. It leaves the value alone, or gives a value of the kind of the type's family, which
breaks no rule of the type; values of the kinds that have no other form are left alone. The case of the letters in the
name of the type does not matter, nor do question marks behind it. -/
theorem cast_directed (value : Value) (typeName : String) :
    cast (cast value typeName) typeName = cast value typeName ∧
    (cast value typeName = value ∨ Native (TypeFamily.ofName typeName) (cast value typeName) ∧
      ∀ field : Field Value, field.typeName = typeName → Validation.typeRule field (cast value typeName) = none) ∧
    (value.kind ∈ Value.fixedKinds → cast value typeName = value) ∧
    ∀ written count, Text.toLower written = Text.toLower typeName →
      cast value (written ++ String.ofList (replicate count '?')) =
        cast value (TypeFamily.dropQuestionMarks (Text.toLower typeName)) := by
  refine ⟨cast_cast value typeName, ?_, fun fixed => cast_of_fixedKind fixed typeName, fun written count spelling => ?_⟩
  · rcases castTo_eq_or_native (TypeFamily.ofName typeName) value with kept | native
    · exact .inl kept
    · refine .inr ⟨native, fun field named => typeRule_of_native ?_⟩
      rw [Field.family, named]
      exact native
  · exact congrArg (castTo · value) (TypeFamily.ofName_of_spelling spelling count)

/-- A number with blanks around it, for a field of integers whose type is written in three ways. -/
theorem cast_directed_of_guests :
    let field : Field Value := (FieldDecl.new "guests" "Integer").draft.field
    (field.typeName = "Integer" ∧ Value.kind .null ∈ Value.fixedKinds ∧
      Text.toLower "iNTEGER" = Text.toLower "Integer" ∧ cast (.text " 42 ") "Integer" = .int 42) ∧
    cast (.int 42) "Integer" = .int 42 ∧ Validation.typeRule field (.int 42) = none ∧
    cast .null "Integer" = .null ∧ cast (.text " 42 ") "iNTEGER??" = cast (.text " 42 ") "integer" := by
  intro field
  have named : field.typeName = "Integer" := by rfl
  have fixed : Value.kind .null ∈ Value.fixedKinds := by decide
  have spelling : Text.toLower "iNTEGER" = Text.toLower "Integer" := by decide +kernel
  have made : cast (.text " 42 ") "Integer" = .int 42 := by rfl
  have marked : "iNTEGER" ++ String.ofList (replicate 2 '?') = "iNTEGER??" := by decide +kernel
  have plain : TypeFamily.dropQuestionMarks (Text.toLower "Integer") = "integer" := by decide +kernel
  obtain ⟨again, directed, -, spelled⟩ := cast_directed (.text " 42 ") "Integer"
  rw [made] at again directed
  have ruled : Validation.typeRule field (.int 42) = none := by
    rcases directed with same | ⟨-, ruled⟩
    · cases same
    · exact ruled field named
  have written := spelled "iNTEGER" 2 spelling
  rw [marked, plain] at written
  exact ⟨⟨named, fixed, spelling, made⟩, again, ruled, (cast_directed .null "Integer").2.2.1 fixed, written⟩

end Record

end TableScript
