import TableScript.Proofs.Text.Ascii
import TableScript.Record.Format

set_option autoImplicit false

namespace TableScript.Format

open Text (IsAscii)

/-- The hexadecimal digits. -/
def hexDigits : List Char :=
  ['0', '1', '2', '3', '4', '5', '6', '7', '8', '9', 'a', 'b', 'c', 'd', 'e', 'f', 'A', 'B', 'C', 'D', 'E', 'F']

/-- Where the hyphens of a UUID stand. -/
def hyphenPlaces : List Nat := [8, 13, 18, 23]

/-- A digit, or a letter that is not I, L, O or U in either case. -/
def UnambiguousChar (c : Char) : Prop := c.isDigit ∨ c.isAlpha ∧ c.toUpper ∉ ['I', 'L', 'O', 'U']

instance (c : Char) : Decidable (UnambiguousChar c) := inferInstanceAs (Decidable (_ ∨ _ ∧ _))

/-- Groups of eight, four, four, four and twelve hexadecimal digits with hyphens between them. -/
structure UuidForm (text : String) : Prop where
  length : text.length = 36
  ascii : ∀ c ∈ text.toList, IsAscii c
  hyphens : ∀ place ∈ hyphenPlaces, text.toList[place]? = some '-'
  digits : ∀ place c, place ∉ hyphenPlaces → text.toList[place]? = some c → c ∈ hexDigits

/-- Twenty-six digits and letters in either case, but no I, L, O or U. -/
structure UlidForm (text : String) : Prop where
  length : text.length = 26
  ascii : ∀ c ∈ text.toList, IsAscii c
  chars : ∀ c ∈ text.toList, UnambiguousChar c

theorem isAscii_of_mem_hexDigits {c : Char} (member : c ∈ hexDigits) : IsAscii c := by
  have narrow : ∀ d ∈ hexDigits, IsAscii d := by simp [hexDigits, IsAscii]
  exact narrow c member

theorem isHexDigit_iff {c : Char} : isHexDigit c = true ↔ c ∈ hexDigits := by
  have alike : ∀ d, IsAscii d → (isHexDigit d = true ↔ d ∈ hexDigits) :=
    Text.ascii_cases (by decide +kernel)
  constructor
  · intro digit
    have narrow : IsAscii c := by
      obtain ((⟨-, most⟩ | ⟨-, most⟩) | ⟨-, most⟩) : (('0' ≤ c ∧ c ≤ '9') ∨ ('a' ≤ c ∧ c ≤ 'f')) ∨
          ('A' ≤ c ∧ c ≤ 'F') := by simpa [isHexDigit] using digit
      all_goals exact Text.isAscii_of_le most (by decide)
    exact (alike c narrow).mp digit
  · intro member
    exact (alike c (isAscii_of_mem_hexDigits member)).mpr member

theorem UnambiguousChar.ascii {c : Char} (clear : UnambiguousChar c) : IsAscii c := by
  obtain digit | ⟨letter, -⟩ := clear
  · exact Text.isAscii_of_isDigit digit
  · obtain upper | lower := Bool.or_eq_true_iff.mp letter
    · exact Text.isAscii_of_isUpper upper
    · exact Text.isAscii_of_isLower lower

theorem isUlidChar_iff {c : Char} : isUlidChar c = true ↔ UnambiguousChar c := by
  have alike : ∀ d, IsAscii d → (isUlidChar d = true ↔ UnambiguousChar d) :=
    Text.ascii_cases (by decide +kernel)
  constructor
  · intro passes
    have narrow : IsAscii c := by
      by_contra wide
      obtain (⟨-, most⟩ | ⟨⟨-, most⟩, -⟩) : ('0' ≤ c ∧ c ≤ '9') ∨ ('A' ≤ c ∧ c ≤ 'Z') ∧ c ∉ confusable := by
        simpa [isUlidChar, Text.toUpper_of_not_ascii wide] using passes
      all_goals exact wide (Text.isAscii_of_le most (by decide))
    exact (alike c narrow).mp passes
  · intro clear
    exact (alike c clear.ascii).mpr clear

/-- What stands at a place of a UUID. -/
def FitsPlace (place : Nat) (c : Char) : Prop := if place ∈ hyphenPlaces then c = '-' else c ∈ hexDigits

theorem FitsPlace.ascii {place : Nat} {c : Char} (fits : FitsPlace place c) : IsAscii c := by
  unfold FitsPlace at fits
  split at fits
  · rw [fits]
    decide
  · exact isAscii_of_mem_hexDigits fits

/-- The check of a character and the step to the next place. -/
theorem uuidFrom_cons (offset : Nat) (c : Char) (rest : List Char) :
    uuidFrom offset (c :: rest) = true ↔ FitsPlace offset c ∧ uuidFrom (offset + 1) rest = true := by
  have checks : (if offset = 8 ∨ offset = 13 ∨ offset = 18 ∨ offset = 23 then c == '-' else isHexDigit c) = true ↔
      FitsPlace offset c := by
    simp only [FitsPlace, hyphenPlaces, List.mem_cons, List.not_mem_nil, or_false]
    split
    · exact beq_iff_eq
    · exact isHexDigit_iff
  rw [uuidFrom, Bool.and_eq_true, checks]
  -- only behind a character that fits is the next offset the next place
  refine and_congr_right fun fits => ?_
  rw [Text.isAscii_iff_utf8Size.mp fits.ascii]

theorem uuidFrom_iff (offset : Nat) (chars : List Char) :
    uuidFrom offset chars = true ↔ ∀ index c, chars[index]? = some c → FitsPlace (offset + index) c := by
  induction chars generalizing offset with
  | nil => simp [uuidFrom]
  | cons head rest ih =>
    rw [uuidFrom_cons, ih]
    constructor
    · rintro ⟨fits, following⟩ (_ | index) c found
      · obtain rfl : head = c := by simpa using found
        exact fits
      · rw [Nat.add_comm index, ← Nat.add_assoc]
        exact following index c (by simpa using found)
    · intro each
      refine ⟨each 0 head rfl, fun index c found => ?_⟩
      rw [Nat.add_assoc, Nat.add_comm 1]
      exact each (index + 1) c (by simpa using found)

theorem isUuid_iff (text : String) : isUuid text = true ↔ UuidForm text := by
  rw [isUuid, Bool.and_eq_true, beq_iff_eq, uuidFrom_iff]
  simp only [Nat.zero_add]
  constructor
  · rintro ⟨bytes, fits⟩
    have ascii : ∀ c ∈ text.toList, IsAscii c := by
      intro c member
      obtain ⟨index, found⟩ := List.mem_iff_getElem?.mp member
      exact (fits index c found).ascii
    have length : text.length = 36 := by rw [← Text.utf8ByteSize_of_ascii ascii, bytes]
    refine ⟨length, ascii, fun place member => ?_, fun place c other found => ?_⟩
    · have within : place < text.toList.length := by
        have : ∀ p ∈ hyphenPlaces, p < 36 := by decide
        rw [String.length_toList, length]
        exact this place member
      have found := List.getElem?_eq_getElem within
      have fit := fits place _ found
      rw [FitsPlace, if_pos member] at fit
      rw [found, fit]
    · have fit := fits place c found
      rwa [FitsPlace, if_neg other] at fit
  · rintro ⟨length, ascii, hyphens, digits⟩
    refine ⟨by rw [Text.utf8ByteSize_of_ascii ascii, length], fun place c found => ?_⟩
    unfold FitsPlace
    split
    next member => exact Option.some.inj (found.symm.trans (hyphens place member))
    next other => exact digits place c other found

theorem isUlid_iff (text : String) : isUlid text = true ↔ UlidForm text := by
  simp only [isUlid, Bool.and_eq_true, beq_iff_eq, List.all_eq_true, isUlidChar_iff]
  constructor
  · rintro ⟨bytes, chars⟩
    have ascii : ∀ c ∈ text.toList, IsAscii c := fun c member => (chars c member).ascii
    exact ⟨by rw [← Text.utf8ByteSize_of_ascii ascii, bytes], ascii, chars⟩
  · rintro ⟨length, ascii, chars⟩
    exact ⟨by rw [Text.utf8ByteSize_of_ascii ascii, length], chars⟩

/-- The checks accept the two forms and nothing else, so no text with a character of more than one byte. -/
theorem identifiers_exact (text : String) :
    (isUuid text = true ↔ UuidForm text) ∧
      (isUlid text = true ↔ UlidForm text) ∧
      ((∃ c ∈ text.toList, ¬ IsAscii c) → isUuid text = false ∧ isUlid text = false) := by
  refine ⟨isUuid_iff text, isUlid_iff text, ?_⟩
  rintro ⟨c, member, wide⟩
  refine ⟨Bool.eq_false_iff.mpr fun accepted => ?_, Bool.eq_false_iff.mpr fun accepted => ?_⟩
  · exact wide (((isUuid_iff text).mp accepted).ascii c member)
  · exact wide (((isUlid_iff text).mp accepted).ascii c member)

/-- One identifier of each form, and a text of twenty-six bytes in twenty-five characters. -/
theorem identifiers_exact_of_samples :
    UuidForm "123e4567-e89b-12d3-a456-426614174000" ∧
      UlidForm "01ARZ3NDEKTSV4RRFFQ69G5FAV" ∧
      (∃ c ∈ "01ARZ3NDEKTSV4RRFFQ69G5Fé".toList, ¬ IsAscii c) ∧
      isUlid "01ARZ3NDEKTSV4RRFFQ69G5Fé" = false := by
  have wide : ∃ c ∈ "01ARZ3NDEKTSV4RRFFQ69G5Fé".toList, ¬ IsAscii c := ⟨'é', by simp, by decide⟩
  exact ⟨(identifiers_exact _).1.mp (by decide +kernel), (identifiers_exact _).2.1.mp (by decide +kernel), wide,
    ((identifiers_exact _).2.2 wide).2⟩

end TableScript.Format
