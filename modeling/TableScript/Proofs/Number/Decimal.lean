import Mathlib.Algebra.Order.Field.Rat
import Mathlib.Data.List.TakeWhile
import Mathlib.Tactic.Ring
import TableScript.Proofs.Number.Digits

set_option autoImplicit false

namespace TableScript.NumberReader

/-- The number that digits denote, with a point among them or without. -/
def unsigned (text : List Char) : ℚ :=
  let whole := text.takeWhile (· ≠ '.')
  let fraction := (text.dropWhile (· ≠ '.')).drop 1
  natural whole + natural fraction / 10 ^ fraction.length

/-- The number that decimal text denotes. -/
def decimal (text : List Char) : ℚ :=
  match takeSign text with
  | (true, digits) => -unsigned digits
  | (false, digits) => unsigned digits

def sign (negative : Bool) : List Char := if negative then ['-'] else []

/-- An optional minus and digits, and where there are places a point and one digit for each. -/
inductive Written : Nat → List Char → Prop
  | whole (negative : Bool) {digits : List Char} (some : digits ≠ []) (each : ∀ char ∈ digits, isDigit char) :
      Written 0 (sign negative ++ digits)
  | pointed (negative : Bool) {digits fraction : List Char} (some : digits ≠ [])
      (each : ∀ char ∈ digits, isDigit char) (places : fraction ≠ []) (later : ∀ char ∈ fraction, isDigit char) :
      Written fraction.length (sign negative ++ (digits ++ '.' :: fraction))

theorem Written.point_mem {places : Nat} {text : List Char} (written : Written places text)
    (positive : 0 < places) : '.' ∈ text := by
  cases written with
  | whole => exact absurd positive (Nat.lt_irrefl 0)
  | pointed => simp

theorem point_not_mem_sign (negative : Bool) : '.' ∉ sign negative := by cases negative <;> decide

section Reading

variable {digits fraction : List Char}

theorem ne_point_of_isDigit {char : Char} (digit : isDigit char) : char ≠ '.' := by
  rintro rfl
  exact absurd digit (by decide)

theorem unsigned_whole (each : ∀ char ∈ digits, isDigit char) : unsigned digits = natural digits := by
  have before : ∀ char ∈ digits, decide (char ≠ '.') = true :=
    fun char member => decide_eq_true (ne_point_of_isDigit (each char member))
  have rest : digits.dropWhile (· ≠ '.') = [] := List.dropWhile_eq_nil_iff.mpr before
  rw [unsigned, List.takeWhile_eq_self_iff.mpr before, rest]
  simp [natural]

theorem unsigned_pointed (each : ∀ char ∈ digits, isDigit char) :
    unsigned (digits ++ '.' :: fraction) = natural digits + natural fraction / 10 ^ fraction.length := by
  have before : ∀ char ∈ digits, decide (char ≠ '.') = true :=
    fun char member => decide_eq_true (ne_point_of_isDigit (each char member))
  rw [unsigned, List.takeWhile_append_of_pos before, List.dropWhile_append_of_pos before]
  simp

theorem takeSign_sign (negative : Bool) {first : Char} (rest : List Char) (digit : isDigit first) :
    takeSign (sign negative ++ first :: rest) = (negative, first :: rest) := by
  cases negative with
  | true => rfl
  | false =>
    change takeSign (first :: rest) = (false, first :: rest)
    unfold takeSign
    split
    · rename_i same
      cases same
      exact absurd digit (by decide)
    · rename_i same
      cases same
      exact absurd digit (by decide)
    · rfl

/-- The sign is taken off where digits follow. -/
theorem decimal_sign (negative : Bool) (rest : List Char) (some : digits ≠ [])
    (each : ∀ char ∈ digits, isDigit char) :
    decimal (sign negative ++ (digits ++ rest)) =
      if negative then -unsigned (digits ++ rest) else unsigned (digits ++ rest) := by
  obtain ⟨first, others, rfl⟩ := List.exists_cons_of_ne_nil some
  rw [decimal, List.cons_append, takeSign_sign negative _ (each first List.mem_cons_self)]
  cases negative <;> rfl

end Reading

section Numerals

theorem isDigit_of_mem_toDigits {n : Nat} {char : Char} (member : char ∈ Nat.toDigits 10 n) : isDigit char := by
  simpa [isDigit, Char.isDigit, Char.le_def] using Nat.isDigit_of_mem_toDigits (by decide) (by decide) member

theorem natural_toDigits (n : Nat) : natural (Nat.toDigits 10 n) = n := Nat.ofDigitChars_ten_toDigits

theorem natural_zeros (count : Nat) (digits : List Char) :
    natural (List.replicate count '0' ++ digits) = natural digits := by
  induction count with
  | zero => rfl
  | succ count ih =>
    rw [List.replicate_succ, List.cons_append, natural_cons, ih]
    simp [digitValue]

/-- The digits of an integer after its sign. -/
theorem toList_toString (n : Int) : (toString n).toList = sign (n < 0) ++ Nat.toDigits 10 n.natAbs := by
  rw [Int.toString_eq_repr, Int.repr_eq_if]
  split
  · rename_i nonnegative
    have size : n.toNat = n.natAbs := by omega
    rw [Nat.toList_repr, size, sign, if_neg (by simpa using nonnegative), List.nil_append]
  · rename_i negative
    have size : (-n).toNat = n.natAbs := by omega
    rw [String.toList_append, Nat.toList_repr, size, sign, if_pos (by simpa using negative)]
    rfl

/-- A sign and a size make up an integer. -/
theorem signed_natAbs (n : Int) (unit : ℚ) :
    (if decide (n < 0) then -(n.natAbs / unit : ℚ) else n.natAbs / unit) = n / unit := by
  have size : ((n.natAbs : Int) : ℚ) = n.natAbs := Int.cast_natCast _
  rw [← size]
  by_cases negative : n < 0
  · rw [if_pos (by simpa using negative), Int.ofNat_natAbs_of_nonpos (by omega)]
    push_cast
    ring
  · rw [if_neg (by simpa using negative), Int.natAbs_of_nonneg (by omega)]

end Numerals

end TableScript.NumberReader
