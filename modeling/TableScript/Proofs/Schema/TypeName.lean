import TableScript.Schema.Declare

set_option autoImplicit false

namespace TableScript

open List (replicate)

namespace TypeFamily

/-- The name in lower case without the question marks behind it. -/
def base (name : String) : String := dropQuestionMarks (Text.lowerAscii name)

/-- How many question marks stand behind the name. -/
def marks (name : String) : Nat := (name.toList.reverse.takeWhile (· == '?')).length

theorem toLower_eq_mark (c : Char) : (c.toLower == '?') = (c == '?') := by
  rw [Bool.eq_iff_iff, beq_iff_eq, beq_iff_eq]
  unfold Char.toLower
  split
  next upper =>
    have least : 65 ≤ c.val.toNat := UInt32.le_iff_toNat_le.mp upper.1
    have most : c.val.toNat ≤ 90 := UInt32.le_iff_toNat_le.mp upper.2
    have raised : (c.val + ('a'.val - 'A'.val)).toNat = c.val.toNat + 32 := by
      have offset : ('a'.val - 'A'.val).toNat = 32 := rfl
      rw [UInt32.toNat_add, offset]
      omega
    have mark : '?'.val.toNat = 63 := rfl
    simp only [Char.ext_iff, ← UInt32.toNat_inj, raised]
    omega
  next => exact Iff.rfl

/-- Marks behind characters that end with none. -/
theorem span_marks {front : List Char} (unmarked : front.getLast? ≠ some '?') (count : Nat) :
    (front ++ replicate count '?').reverse.takeWhile (· == '?') = replicate count '?' ∧
      (front ++ replicate count '?').reverse.dropWhile (· == '?') = front.reverse := by
  have marked : ∀ c ∈ replicate count '?', (c == '?') = true := by
    intro c member
    rw [List.eq_of_mem_replicate member]
    rfl
  have clear : ∀ chars : List Char, chars.head? ≠ some '?' →
      chars.takeWhile (· == '?') = [] ∧ chars.dropWhile (· == '?') = chars := by
    intro chars other
    cases chars with
    | nil => exact ⟨rfl, rfl⟩
    | cons c rest => simp_all
  obtain ⟨none, all⟩ := clear front.reverse (by rwa [List.head?_reverse])
  rw [List.reverse_append, List.reverse_replicate, List.takeWhile_append_of_pos marked,
    List.dropWhile_append_of_pos marked, none, all]
  exact ⟨List.append_nil _, rfl⟩

theorem exists_front (name : String) :
    ∃ front : List Char, name.toList = front ++ replicate (marks name) '?' ∧ front.getLast? ≠ some '?' := by
  let behind := name.toList.reverse.takeWhile (· == '?')
  refine ⟨(name.toList.reverse.dropWhile (· == '?')).reverse, ?_, ?_⟩
  · have repeated : behind = replicate (marks name) '?' := by
      refine List.eq_replicate_iff.mpr ⟨rfl, fun c member => ?_⟩
      exact beq_iff_eq.mp (List.all_eq_true.mp List.all_takeWhile c member)
    calc name.toList
      _ = (behind ++ name.toList.reverse.dropWhile (· == '?')).reverse := by
          rw [List.takeWhile_append_dropWhile, List.reverse_reverse]
      _ = _ := by rw [List.reverse_append, repeated, List.reverse_replicate]
  · rw [List.getLast?_reverse]
    intro same
    have stopped := List.head?_dropWhile_not (· == '?') name.toList.reverse
    rw [same] at stopped
    exact absurd stopped (by decide)

section Front

variable {name : String} {front : List Char} {count : Nat}

theorem marks_of_front (split : name.toList = front ++ replicate count '?')
    (unmarked : front.getLast? ≠ some '?') : marks name = count := by
  rw [marks, split, (span_marks unmarked count).1, List.length_replicate]

theorem toList_lowerAscii_of_front (split : name.toList = front ++ replicate count '?') :
    (Text.lowerAscii name).toList = front.map Char.toLower ++ replicate count '?' := by
  have mark : Char.toLower '?' = '?' := rfl
  rw [Text.lowerAscii, String.toList_ofList, split, List.map_append, List.map_replicate, mark]

theorem base_of_front (split : name.toList = front ++ replicate count '?')
    (unmarked : front.getLast? ≠ some '?') : (base name).toList = front.map Char.toLower := by
  have lowered : (front.map Char.toLower).getLast? ≠ some '?' := by
    rw [List.getLast?_map]
    cases last : front.getLast? with
    | none => exact nofun
    | some c =>
      rw [last] at unmarked
      intro same
      have equal := toLower_eq_mark c
      simp_all
  rw [base, dropQuestionMarks, toList_lowerAscii_of_front split, (span_marks lowered count).2,
    List.reverse_reverse, String.toList_ofList]

end Front

/-- In lower case, a name is its base and its marks. -/
theorem toList_lowerAscii (name : String) :
    (Text.lowerAscii name).toList = (base name).toList ++ replicate (marks name) '?' := by
  obtain ⟨front, split, unmarked⟩ := exists_front name
  rw [toList_lowerAscii_of_front split, base_of_front split unmarked]

/-- Without regard to case, a name is a certain one if its base is and no mark stands behind it. -/
theorem lowerAscii_eq_iff {name word : String} (unmarked : word.toList.getLast? ≠ some '?') :
    Text.lowerAscii name = word ↔ base name = word ∧ marks name = 0 := by
  constructor
  · intro same
    have lowered : word.toList = word.toList ++ replicate 0 '?' := (List.append_nil _).symm
    have dropped : base name = word := by
      rw [base, same, dropQuestionMarks, lowered, (span_marks unmarked 0).2, List.reverse_reverse,
        String.ofList_toList]
    have split := toList_lowerAscii name
    rw [same, dropped, List.self_eq_append_right] at split
    exact ⟨dropped, (List.replicate_eq_nil_iff _).mp split⟩
  · rintro ⟨same, unmarked⟩
    have split := toList_lowerAscii name
    rw [unmarked, same, replicate, List.append_nil] at split
    exact String.toList_inj.mp split

/-- Values of the family are texts. -/
def IsText (family : TypeFamily) : Prop := ∃ kind, family = .text kind

end TypeFamily

namespace FieldDecl

open TypeFamily (base marks IsText)

/-- The bases of the names that make bounds of lengths. -/
def lengthNames : List String := ["string", "text", "email", "url", "phone", "slug"]

/-- The other bases of the text families. -/
def formatNames : List String := ["uuid", "ulid"]

theorem boundsLength_iff (name : String) :
    boundsLength name = true ↔ base name ∈ lengthNames ∧ marks name = 0 := by
  have unmarked : ∀ word ∈ lengthNames, word.toList.getLast? ≠ some '?' := by decide
  have told : boundsLength name = true ↔ Text.lowerAscii name ∈ lengthNames := List.contains_iff_mem
  rw [told]
  constructor
  · intro listed
    obtain ⟨same, none⟩ := (TypeFamily.lowerAscii_eq_iff (unmarked _ listed)).mp rfl
    exact ⟨same ▸ listed, none⟩
  · rintro ⟨listed, none⟩
    exact ((TypeFamily.lowerAscii_eq_iff (unmarked _ listed)).mpr ⟨rfl, none⟩) ▸ listed

theorem isText_ofName (name : String) :
    IsText (TypeFamily.ofName name) ↔ base name ∈ lengthNames ++ formatNames := by
  have family : TypeFamily.ofName name = TypeFamily.ofBase (base name) := rfl
  rw [family]
  generalize base name = word
  constructor
  · rintro ⟨kind, text⟩
    unfold TypeFamily.ofBase at text
    split at text <;> first | decide | cases text
  · intro listed
    simp only [lengthNames, formatNames, List.mem_append, List.mem_cons, List.not_mem_nil, or_false] at listed
    rcases listed with (rfl | rfl | rfl | rfl | rfl | rfl) | rfl | rfl <;> exact ⟨_, rfl⟩

/-- A field is of a text family by the base of its name, or by the alias, which takes no marks. -/
theorem isText_draft (decl : FieldDecl) :
    IsText decl.draft.field.family ↔
      base decl.typeName ∈ lengthNames ++ formatNames ∨ base decl.typeName = "id" ∧ marks decl.typeName = 0 := by
  have isId : Text.lowerAscii decl.typeName = "id" ↔ base decl.typeName = "id" ∧ marks decl.typeName = 0 :=
    TypeFamily.lowerAscii_eq_iff (by decide)
  rw [← isId]
  by_cases named : Text.lowerAscii decl.typeName = "id"
  · have family : decl.draft.field.family = .text .ulid := by
      have ulid : TypeFamily.ofName "ulid" = .text .ulid := by decide +kernel
      rw [Field.family, draft, if_pos named]
      exact ulid
    exact iff_of_true ⟨.ulid, family⟩ (.inr named)
  · have family : decl.draft.field.family = TypeFamily.ofName decl.typeName := by
      rw [Field.family, draft, if_neg named]
    rw [family, isText_ofName, or_iff_left named]

/-- A declaration takes one mark for itself. -/
theorem typeName_new (name written : String) :
    base (new name written).typeName = base written ∧
      marks (new name written).typeName = marks written - 1 := by
  obtain ⟨front, split, unmarked⟩ := TypeFamily.exists_front written
  cases count : marks written with
  | zero =>
    have kept : (new name written).typeName = written := by
      rw [count, replicate, List.append_nil] at split
      rw [new, split, if_neg (by simpa using unmarked)]
    rw [kept, count]
    exact ⟨rfl, rfl⟩
  | succ rest =>
    rw [count] at split
    have stripped : (new name written).typeName.toList = front ++ replicate rest '?' := by
      have last : written.toList.getLast? = some '?' := by simp [split, List.getLast?_replicate]
      rw [new, last, if_pos (by decide), String.toList_ofList, split]
      simp [List.replicate_succ']
    refine ⟨String.toList_inj.mp ?_, TypeFamily.marks_of_front stripped unmarked⟩
    rw [TypeFamily.base_of_front stripped unmarked, TypeFamily.base_of_front split unmarked]

/-- The names whose bounds are no lengths although the family is one of text: those with a format of a fixed length,
the alias of one of these, and the others with more marks than a declaration takes. -/
def Overlooked (written : String) : Prop :=
  base written ∈ formatNames ∨ base written = "id" ∧ marks written ≤ 1 ∨
    base written ∈ lengthNames ∧ 1 < marks written

instance (written : String) : Decidable (Overlooked written) :=
  inferInstanceAs (Decidable (_ ∨ _ ∧ _ ∨ _ ∧ _))

section Written

variable {decl : FieldDecl} {written : String}

theorem isText_of_overlooked (named : decl.typeName = (new decl.name written).typeName)
    (overlooked : Overlooked written) : IsText decl.draft.field.family := by
  obtain ⟨sameBase, fewerMarks⟩ := typeName_new decl.name written
  rw [isText_draft, named, sameBase, fewerMarks]
  rcases overlooked with format | ⟨isId, few⟩ | ⟨length, -⟩
  · exact .inl (List.mem_append_right _ format)
  · exact .inr ⟨isId, by omega⟩
  · exact .inl (List.mem_append_left _ length)

/-- Bounds are lengths in the text families, but for the names that are overlooked. -/
theorem boundsLength_iff_isText (named : decl.typeName = (new decl.name written).typeName) :
    boundsLength decl.typeName = true ↔ IsText decl.draft.field.family ∧ ¬ Overlooked written := by
  obtain ⟨sameBase, fewerMarks⟩ := typeName_new decl.name written
  rw [boundsLength_iff, isText_draft, named, sameBase, fewerMarks, Overlooked]
  constructor
  · rintro ⟨length, few⟩
    have apart : ∀ word ∈ lengthNames, word ∉ formatNames ∧ word ≠ "id" := by decide
    obtain ⟨format, isId⟩ := apart _ length
    refine ⟨.inl (List.mem_append_left _ length), ?_⟩
    rintro (listed | ⟨same, -⟩ | ⟨-, many⟩)
    · exact format listed
    · exact isId same
    · omega
  · rintro ⟨text, seen⟩
    obtain ⟨format, isId, marked⟩ : base written ∉ formatNames ∧ ¬ (base written = "id" ∧ marks written ≤ 1) ∧
        ¬ (base written ∈ lengthNames ∧ 1 < marks written) := by
      simpa only [not_or] using seen
    rcases text with listed | ⟨same, few⟩
    · have length := (List.mem_append.mp listed).resolve_right format
      have few : marks written ≤ 1 := Nat.le_of_not_lt fun many => marked ⟨length, many⟩
      exact ⟨length, by omega⟩
    · exact (isId ⟨same, by omega⟩).elim

end Written

end FieldDecl

end TableScript
