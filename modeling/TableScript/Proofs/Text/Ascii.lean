import Mathlib
import TableScript.Text.Ascii
import TableScript.Text.CaseMap

set_option autoImplicit false

namespace TableScript

namespace Text

/-- A character of one byte. -/
def IsAscii (c : Char) : Prop := c.toNat < 128

instance (c : Char) : Decidable (IsAscii c) := inferInstanceAs (Decidable (_ < _))

/-- What holds of each of the characters of one byte. -/
theorem ascii_cases {holds : Char → Prop} (each : ∀ n < 128, holds (Char.ofNat n)) :
    ∀ c, IsAscii c → holds c := by
  intro c ascii
  have found := each c.toNat ascii
  rwa [Char.ofNat_toNat] at found

theorem isAscii_iff_utf8Size {c : Char} : IsAscii c ↔ c.utf8Size = 1 := by
  rw [Char.utf8Size_eq_one_iff, UInt32.le_iff_toNat_le]
  exact Nat.lt_succ_iff

theorem utf8Len_of_ascii {chars : List Char} (ascii : ∀ c ∈ chars, IsAscii c) :
    String.utf8Len chars = chars.length := by
  induction chars with
  | nil => rfl
  | cons c rest ih =>
    obtain ⟨head, tail⟩ := List.forall_mem_cons.mp ascii
    rw [String.utf8Len_cons, ih tail, isAscii_iff_utf8Size.mp head, List.length_cons]

/-- A text of such characters has as many bytes. -/
theorem utf8ByteSize_of_ascii {text : String} (ascii : ∀ c ∈ text.toList, IsAscii c) :
    text.utf8ByteSize = text.length := by
  have bytes := String.utf8ByteSize_ofList text.toList
  rw [String.ofList_toList] at bytes
  rw [bytes, utf8Len_of_ascii ascii, String.length_toList]

theorem isAscii_of_le {c limit : Char} (bound : c ≤ limit) (narrow : IsAscii limit) : IsAscii c :=
  Nat.lt_of_le_of_lt (UInt32.le_iff_toNat_le.mp bound) narrow

theorem isAscii_of_isUpper {c : Char} (upper : c.isUpper) : IsAscii c := by
  have most : c ≤ 'Z' := (of_decide_eq_true upper).2
  exact isAscii_of_le most (by decide)

theorem isAscii_of_isLower {c : Char} (lower : c.isLower) : IsAscii c := by
  have most : c ≤ 'z' := of_decide_eq_true (Bool.and_eq_true_iff.mp lower).2
  exact isAscii_of_le most (by decide)

theorem isAscii_of_isDigit {c : Char} (digit : c.isDigit) : IsAscii c := by
  have most : c ≤ '9' := of_decide_eq_true (Bool.and_eq_true_iff.mp digit).2
  exact isAscii_of_le most (by decide)

theorem toLower_of_not_ascii {c : Char} (wide : ¬ IsAscii c) : c.toLower = c :=
  Char.toLower_eq_of_not_isUpper fun upper => wide (isAscii_of_isUpper upper)

theorem toUpper_of_not_ascii {c : Char} (wide : ¬ IsAscii c) : c.toUpper = c :=
  Char.toUpper_eq_of_not_isLower fun lower => wide (isAscii_of_isLower lower)

theorem lowerCase_of_ascii : ∀ c, IsAscii c → lowerCase c = [c.toLower] :=
  ascii_cases (by decide +kernel)

end Text

/-- A table gives a code point itself, or the one that lies off by the offset of its run. -/
theorem CaseRun.map_cases (table : List CaseRun) (code : Nat) :
    map table code = code ∨
      ∃ entry ∈ table, entry.run.contains code ∧ map table code = ((code : Int) + entry.offset).toNat := by
  induction table with
  | nil => exact .inl rfl
  | cons entry rest ih =>
    unfold map
    split
    · exact .inl rfl
    · split
      next held => exact .inr ⟨entry, List.mem_cons_self, held, rfl⟩
      next =>
        rcases ih with same | ⟨other, member, held, mapped⟩
        · exact .inl same
        · exact .inr ⟨other, List.mem_cons_of_mem _ member, held, mapped⟩

namespace Text

/-- The run holds letters of more than one byte, and so do their lower-case forms. -/
def StaysWide (entry : CaseRun) : Prop :=
  128 ≤ entry.run.first + entry.offset ∧ entry.run.last + entry.offset < 0xd800 ∨
    0xe000 ≤ entry.run.first + entry.offset ∧ entry.run.last + entry.offset < 0x110000

instance (entry : CaseRun) : Decidable (StaysWide entry) := inferInstanceAs (Decidable (_ ∧ _ ∨ _ ∧ _))

theorem lowerCaseRuns_cases : ∀ entry ∈ lowerCaseRuns,
    entry.run.last < 128 ∨ StaysWide entry ∨ entry = ⟨⟨0x212a, 0x212a, 1⟩, -8383⟩ := by
  decide +kernel

/-- A letter of more than one byte keeps more than one byte in lower case, but for the sign of the kelvin. -/
theorem lowerCase_of_not_ascii {c : Char} (wide : ¬ IsAscii c) : ∃ d ∈ lowerCase c, ¬ IsAscii d ∨ d = 'k' := by
  unfold lowerCase
  split
  · exact ⟨Char.ofNat 0x307, by simp, .inl (by decide)⟩
  · refine ⟨_, List.mem_singleton_self _, ?_⟩
    rcases CaseRun.map_cases lowerCaseRuns c.toNat with same | ⟨entry, member, held, mapped⟩
    · rw [same, Char.ofNat_toNat]
      exact .inl wide
    · obtain ⟨⟨low, high⟩, -⟩ : (entry.run.first ≤ c.toNat ∧ c.toNat ≤ entry.run.last) ∧ _ := by
        simpa [CharRun.contains] using held
      rw [mapped]
      rcases lowerCaseRuns_cases entry member with narrow | stays | rfl
      · unfold IsAscii at wide
        omega
      · have valid : ((c.toNat : Int) + entry.offset).toNat.isValidChar := by
          unfold StaysWide at stays
          unfold Nat.isValidChar
          omega
        unfold StaysWide at stays
        rw [IsAscii, Char.toNat_ofNat, if_pos valid]
        exact .inl (by omega)
      · have kelvin : c.toNat = 0x212a := Nat.le_antisymm high low
        rw [kelvin]
        exact .inr rfl

theorem toLowerFrom_of_ascii {text : List Char} (ascii : ∀ c ∈ text, IsAscii c) (before : List Char) :
    toLowerFrom before text = text.map Char.toLower := by
  induction text generalizing before with
  | nil => rfl
  | cons c rest ih =>
    have other : c ≠ capitalSigma := by
      rintro rfl
      exact absurd (ascii _ List.mem_cons_self) (by decide)
    have following := ih (fun d member => ascii d (List.mem_cons_of_mem c member)) (c :: before)
    rw [toLowerFrom, if_neg other, lowerCase_of_ascii c (ascii c List.mem_cons_self), following]
    rfl

theorem toLower_of_ascii {text : String} (ascii : ∀ c ∈ text.toList, IsAscii c) :
    toLower text = lowerAscii text := by
  rw [toLower, lowerAscii, toLowerFrom_of_ascii ascii]

theorem toLowerFrom_of_not_ascii {text : List Char} (wide : ∃ c ∈ text, ¬ IsAscii c) (before : List Char) :
    ∃ d ∈ toLowerFrom before text, ¬ IsAscii d ∨ d = 'k' := by
  induction text generalizing before with
  | nil => simp at wide
  | cons c rest ih =>
    unfold toLowerFrom
    obtain here | later : ¬ IsAscii c ∨ ∃ d ∈ rest, ¬ IsAscii d := by simpa using wide
    · dsimp only
      split
      · split
        · exact ⟨finalSigma, List.mem_append_left _ (List.mem_singleton_self _), .inl (by decide)⟩
        · exact ⟨smallSigma, List.mem_append_left _ (List.mem_singleton_self _), .inl (by decide)⟩
      · obtain ⟨d, member, found⟩ := lowerCase_of_not_ascii here
        exact ⟨d, List.mem_append_left _ member, found⟩
    · obtain ⟨d, member, found⟩ := ih later (c :: before)
      exact ⟨d, List.mem_append_right _ member, found⟩

end Text

end TableScript
