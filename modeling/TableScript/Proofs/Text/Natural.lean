import TableScript.Proofs.Number.Digits
import TableScript.Text.Natural

set_option autoImplicit false

namespace TableScript.Text

open TableScript.NumberReader (isDigit isDigit_iff)

inductive Token where
  | run (digits : List Char)
  | letter (char : Char)
deriving DecidableEq

namespace Token

/-- The code point that decides against a token of the other sort. No other character stands between the
digits, so any digit can stand for a run. -/
def code : Token → Nat
  | .run _ => '0'.toNat
  | .letter char => char.toNat

def digits : Token → List Char
  | .run digits => digits
  | .letter _ => []

def order (a b : Token) : Ordering := (compare a.code b.code).then (compareRuns a.digits b.digits)

instance : Std.TransCmp order :=
  inferInstanceAs (Std.TransCmp
    (compareLex (compareOn code)
      (compareLex (compareOn fun token => (token.digits.dropWhile (· = '0')).length)
        (compareLex (compareOn fun token => String.ofList (token.digits.dropWhile (· = '0')))
          (compareOn fun token => token.digits.length)))))

theorem order_run (left right : List Char) : order (.run left) (.run right) = compareRuns left right := by
  simp [order, code, digits]

theorem order_letter_self (char : Char) : order (.letter char) (.letter char) = .eq :=
  Std.ReflCmp.compare_self

end Token

def tokens : List Char → List Token
  | [] => []
  | char :: rest =>
    if isDigit char then .run (char :: rest.takeWhile isDigit) :: tokens (rest.dropWhile isDigit)
    else .letter char :: tokens rest
termination_by text => text.length
decreasing_by
  · have shorter := (List.dropWhile_suffix (l := rest) isDigit).length_le
    simp_wf
    omega
  · simp_wf

theorem tokens_of_digit (char : Char) (rest : List Char) (digit : isDigit char) :
    tokens (char :: rest) =
      .run (char :: rest.takeWhile isDigit) :: tokens (rest.dropWhile isDigit) := by
  rw [tokens, if_pos digit]

theorem tokens_of_other (char : Char) (rest : List Char) (other : ¬ isDigit char) :
    tokens (char :: rest) = .letter char :: tokens rest := by
  rw [tokens, if_neg other]

/-- The first token, whose code is that of the first character unless that is a digit. -/
theorem tokens_cons (char : Char) (rest : List Char) :
    ∃ first after, tokens (char :: rest) = first :: after ∧
      first.code = if isDigit char then 48 else char.toNat := by
  by_cases digit : isDigit char
  · exact ⟨_, _, tokens_of_digit char rest digit, by simp [Token.code, digit]⟩
  · exact ⟨_, _, tokens_of_other char rest digit, by simp [Token.code, digit]⟩

/-- Where two characters differ and are not both digits, they decide as their tokens do. -/
theorem compareLex_of_heads (a b : Char) (left right : List Char) (mixed : ¬ (isDigit a && isDigit b))
    (different : a ≠ b) :
    List.compareLex Token.order (tokens (a :: left)) (tokens (b :: right)) = compare a.toNat b.toNat := by
  obtain ⟨firstA, afterA, eqA, codeA⟩ := tokens_cons a left
  obtain ⟨firstB, afterB, eqB, codeB⟩ := tokens_cons b right
  have unequal : a.toNat ≠ b.toNat := fun same => different (Char.toNat_inj.mp same)
  have rangeA := isDigit_iff a
  have rangeB := isDigit_iff b
  have codes : compare firstA.code firstB.code = compare a.toNat b.toNat := by
    rw [codeA, codeB]
    simp only [Nat.compare_eq_ite_lt]
    grind
  rw [eqA, eqB, List.compareLex_cons_cons, Token.order, codes]
  cases decided : compare a.toNat b.toNat with
  | eq => exact absurd (Nat.compare_eq_eq.mp decided) unequal
  | lt => rfl
  | gt => rfl

theorem naturalChars_eq_compareLex (left right : List Char) :
    naturalChars left right = List.compareLex Token.order (tokens left) (tokens right) := by
  fun_induction naturalChars left right with
  | case1 => rw [tokens, List.compareLex_nil_nil]
  | case2 b right =>
    obtain ⟨first, after, eq, -⟩ := tokens_cons b right
    rw [eq, tokens, List.compareLex_nil_cons]
  | case3 a left =>
    obtain ⟨first, after, eq, -⟩ := tokens_cons a left
    rw [eq, tokens, List.compareLex_cons_nil]
  | case4 a left b right both ih =>
    obtain ⟨digitA, digitB⟩ := (Bool.and_eq_true _ _).mp both
    rw [tokens_of_digit a left digitA, tokens_of_digit b right digitB, List.compareLex_cons_cons,
      Token.order_run, ih]
  | case5 left char right other ih =>
    have letter : ¬ isDigit char := by simpa using other
    rw [tokens_of_other char left letter, tokens_of_other char right letter, List.compareLex_cons_cons,
      Token.order_letter_self, ih]
    rfl
  | case6 a left b right other different =>
    exact (compareLex_of_heads a b left right other different).symm

instance : Std.TransCmp naturalCompare where
  eq_swap := by
    intro a b
    simp only [naturalCompare, naturalChars_eq_compareLex]
    exact Std.OrientedCmp.eq_swap
  isLE_trans := by
    intro a b c first second
    simp only [naturalCompare, naturalChars_eq_compareLex] at first second ⊢
    exact Std.TransCmp.isLE_trans first second

end TableScript.Text
