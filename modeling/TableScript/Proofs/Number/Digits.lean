import Mathlib.Algebra.Group.Nat.Defs
import TableScript.Number.Reader

set_option autoImplicit false

namespace TableScript.NumberReader

theorem isDigit_iff (char : Char) : isDigit char ↔ 48 ≤ char.toNat ∧ char.toNat ≤ 57 := by
  simp only [isDigit, decide_eq_true_eq, Char.le_def, UInt32.le_iff_toNat_le]
  rfl

theorem digitValue_lt {char : Char} (digit : isDigit char) : digitValue char < 10 := by
  have range := (isDigit_iff char).mp digit
  show char.toNat - 48 < 10
  omega

theorem digitValue_lt_of_lt {a b : Char} (digit : isDigit a) (less : a < b) : digitValue a < digitValue b := by
  have range := (isDigit_iff a).mp digit
  have codes : a.toNat < b.toNat := UInt32.lt_iff_toNat_lt.mp (Char.lt_def.mp less)
  show a.toNat - 48 < b.toNat - 48
  omega

theorem digitValue_pos {char : Char} (digit : isDigit char) (other : char ≠ '0') : 0 < digitValue char := by
  have range := (isDigit_iff char).mp digit
  have unequal : char.toNat ≠ 48 := fun same => other (Char.toNat_inj.mp same)
  show 0 < char.toNat - 48
  omega

/-- Reading on from a value shifts it by the digits that are read. -/
theorem foldl_natural (digits : List Char) (start : Nat) :
    digits.foldl (fun total char => 10 * total + digitValue char) start =
      start * 10 ^ digits.length + natural digits := by
  induction digits generalizing start with
  | nil => simp [natural]
  | cons char rest ih =>
      have first := ih (10 * start + digitValue char)
      have second := ih (10 * 0 + digitValue char)
      simp only [natural, List.foldl_cons, List.length_cons, Nat.pow_succ'] at first second ⊢
      rw [first, second, Nat.add_mul, Nat.mul_zero, Nat.zero_add, Nat.mul_assoc, Nat.mul_left_comm start 10,
        Nat.add_assoc]

theorem natural_cons (char : Char) (rest : List Char) :
    natural (char :: rest) = digitValue char * 10 ^ rest.length + natural rest := by
  show rest.foldl _ (10 * 0 + digitValue char) = _
  rw [foldl_natural, Nat.mul_zero, Nat.zero_add]

variable {left right : List Char}

theorem natural_lt {digits : List Char} (decimal : ∀ char ∈ digits, isDigit char) :
    natural digits < 10 ^ digits.length := by
  induction digits with
  | nil => decide
  | cons char rest ih =>
      obtain ⟨digit, later⟩ := List.forall_mem_cons.mp decimal
      have first := Nat.mul_le_mul_right (10 ^ rest.length) (Nat.le_of_lt_succ (digitValue_lt digit))
      have below := ih later
      rw [natural_cons, List.length_cons, Nat.pow_succ']
      omega

/-- The first digit that differs decides. -/
theorem natural_lt_of_lt (decimalLeft : ∀ char ∈ left, isDigit char) (decimalRight : ∀ char ∈ right, isDigit char)
    (level : left.length = right.length) (less : left < right) : natural left < natural right := by
  induction left generalizing right with
  | nil =>
      rw [List.eq_nil_of_length_eq_zero level.symm] at less
      exact absurd less (List.lt_irrefl [])
  | cons a left ih =>
      cases right with
      | nil => simp at level
      | cons b right =>
          obtain ⟨digit, laterLeft⟩ := List.forall_mem_cons.mp decimalLeft
          obtain ⟨-, laterRight⟩ := List.forall_mem_cons.mp decimalRight
          have same : left.length = right.length := by simpa using level
          rw [natural_cons, natural_cons, same]
          rcases List.cons_lt_cons_iff.mp less with first | ⟨rfl, rest⟩
          · have step := Nat.mul_le_mul_right (10 ^ right.length) (digitValue_lt_of_lt digit first)
            have below := natural_lt laterLeft
            rw [same] at below
            rw [Nat.succ_mul] at step
            omega
          · have below := ih laterLeft laterRight same rest
            omega

theorem compare_ofList_eq_lt (less : compare (String.ofList left) (String.ofList right) = .lt) : left < right := by
  have words : String.ofList left < String.ofList right := compareOfLessAndEq_eq_lt.mp less
  have chars := String.lt_iff.mp words
  rwa [String.toList_ofList, String.toList_ofList] at chars

theorem compare_natural (decimalLeft : ∀ char ∈ left, isDigit char) (decimalRight : ∀ char ∈ right, isDigit char)
    (level : left.length = right.length) :
    compare (natural left) (natural right) = compare (String.ofList left) (String.ofList right) := by
  cases decided : compare (String.ofList left) (String.ofList right) with
  | lt =>
      apply Nat.compare_eq_lt.mpr
      exact natural_lt_of_lt decimalLeft decimalRight level (compare_ofList_eq_lt decided)
  | eq =>
      have same := String.ofList_injective (Std.LawfulEqCmp.eq_of_compare decided)
      rw [same]
      exact Nat.compare_eq_eq.mpr rfl
  | gt =>
      apply Nat.compare_eq_gt.mpr
      have turned := Std.OrientedCmp.gt_iff_lt.mp decided
      exact natural_lt_of_lt decimalRight decimalLeft level.symm (compare_ofList_eq_lt turned)

/-- How many zeros stand in front of a run. -/
def padding (digits : List Char) : Nat := (digits.takeWhile (· = '0')).length

theorem padding_add_length (digits : List Char) :
    padding digits + (digits.dropWhile (· = '0')).length = digits.length := by
  rw [padding, ← List.length_append, List.takeWhile_append_dropWhile]

theorem natural_dropWhile (digits : List Char) : natural (digits.dropWhile (· = '0')) = natural digits := by
  induction digits with
  | nil => rfl
  | cons char rest ih =>
      by_cases zero : char = '0'
      · subst zero
        rw [List.dropWhile_cons_of_pos (by simp), ih, natural_cons]
        simp [digitValue]
      · rw [List.dropWhile_cons_of_neg (by simpa using zero)]

/-- A digit other than zero in front of so many others is worth as much as its place. -/
theorem pow_le_natural {char : Char} (rest : List Char) (digit : isDigit char) (other : char ≠ '0') :
    10 ^ rest.length ≤ natural (char :: rest) := by
  have step := Nat.mul_le_mul_right (10 ^ rest.length) (digitValue_pos digit other)
  rw [natural_cons]
  omega

theorem natural_lt_of_length_lt (decimalLeft : ∀ char ∈ left, isDigit char)
    (decimalRight : ∀ char ∈ right, isDigit char) (unpadded : ∀ char ∈ right.head?, char ≠ '0')
    (shorter : left.length < right.length) : natural left < natural right := by
  cases right with
  | nil => simp at shorter
  | cons char rest =>
      have below := natural_lt decimalLeft
      have above := pow_le_natural rest (decimalRight char List.mem_cons_self) (unpadded char rfl)
      have places : 10 ^ left.length ≤ 10 ^ rest.length := by
        apply Nat.pow_le_pow_right (by decide)
        simp only [List.length_cons] at shorter
        omega
      omega

/-- Runs without zeros in front compare by length first. -/
theorem compare_natural_unpadded (decimalLeft : ∀ char ∈ left, isDigit char)
    (decimalRight : ∀ char ∈ right, isDigit char) (unpaddedLeft : ∀ char ∈ left.head?, char ≠ '0')
    (unpaddedRight : ∀ char ∈ right.head?, char ≠ '0') :
    compare (natural left) (natural right) =
      (compare left.length right.length).then (compare (String.ofList left) (String.ofList right)) := by
  cases decided : compare left.length right.length with
  | lt =>
      apply Nat.compare_eq_lt.mpr
      exact natural_lt_of_length_lt decimalLeft decimalRight unpaddedRight (Nat.compare_eq_lt.mp decided)
  | eq => exact compare_natural decimalLeft decimalRight (Nat.compare_eq_eq.mp decided)
  | gt =>
      apply Nat.compare_eq_gt.mpr
      exact natural_lt_of_length_lt decimalRight decimalLeft unpaddedLeft (Nat.compare_eq_gt.mp decided)

theorem not_zero_of_head? (digits : List Char) : ∀ char ∈ (digits.dropWhile (· = '0')).head?, char ≠ '0' := by
  intro char first
  have stopped := List.head?_dropWhile_not (· = '0') digits
  rw [Option.mem_def.mp first] at stopped
  simpa using stopped

end TableScript.NumberReader
