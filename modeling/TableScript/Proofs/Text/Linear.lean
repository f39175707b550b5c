import TableScript.Proofs.Sorting.Comparison
import TableScript.Proofs.Text.Natural

set_option autoImplicit false

namespace TableScript.Text

open TableScript.NumberReader (isDigit natural padding padding_add_length)

section Runs

variable {left right : List Char}

/-- A run is its zeros in front and what follows them. -/
theorem replicate_padding (digits : List Char) :
    List.replicate (padding digits) '0' ++ digits.dropWhile (· = '0') = digits := by
  have zeros : digits.takeWhile (· = '0') = List.replicate (padding digits) '0' := by
    apply List.eq_replicate_of_mem
    intro char member
    simpa using List.all_eq_true.mp List.all_takeWhile char member
  rw [← zeros, List.takeWhile_append_dropWhile]

theorem compareRuns_eq_iff : compareRuns left right = .eq ↔ left = right := by
  constructor
  · intro equal
    simp only [compareRuns, Ordering.then_eq_eq, Nat.compare_eq_eq] at equal
    obtain ⟨level, words, lengths⟩ := equal
    have stripped := String.ofList_injective (Std.LawfulEqCmp.eq_of_compare words)
    have sumLeft := padding_add_length left
    have sumRight := padding_add_length right
    have zeros : padding left = padding right := by omega
    rw [← replicate_padding left, ← replicate_padding right, zeros, stripped]
  · rintro rfl
    simp [compareRuns, Std.ReflCmp.compare_self]

/-- The value decides, and then the zeros in front. -/
theorem compareRuns_natural (decimalLeft : ∀ char ∈ left, isDigit char)
    (decimalRight : ∀ char ∈ right, isDigit char) :
    compareRuns left right =
      (compare (natural left) (natural right)).then (compare (padding left) (padding right)) := by
  have stripped (digits : List Char) (decimal : ∀ char ∈ digits, isDigit char) :
      ∀ char ∈ digits.dropWhile (· = '0'), isDigit char :=
    fun char member => decimal char ((List.dropWhile_sublist _).subset member)
  have values := NumberReader.compare_natural_unpadded (stripped left decimalLeft) (stripped right decimalRight)
    (NumberReader.not_zero_of_head? left) (NumberReader.not_zero_of_head? right)
  rw [NumberReader.natural_dropWhile, NumberReader.natural_dropWhile] at values
  rw [values, compareRuns, Ordering.then_assoc]
  cases lengths : compare (left.dropWhile (· = '0')).length (right.dropWhile (· = '0')).length with
  | lt => rfl
  | gt => rfl
  | eq =>
      -- What follows the zeros is equally long, so that the lengths of the runs tell how many zeros there are.
      have level := Nat.compare_eq_eq.mp lengths
      have sumLeft := padding_add_length left
      have sumRight := padding_add_length right
      have totals : compare left.length right.length = compare (padding left) (padding right) := by
        simp only [Nat.compare_eq_ite_lt]
        grind
      rw [totals]

end Runs

section Equality

theorem naturalChars_self (text : List Char) : naturalChars text text = .eq := by
  rw [naturalChars_eq_compareLex]
  exact Std.ReflCmp.compare_self

theorem eq_of_naturalChars {left right : List Char} (equal : naturalChars left right = .eq) : left = right := by
  fun_induction naturalChars left right with
  | case1 => rfl
  | case2 => cases equal
  | case3 => cases equal
  | case4 a left b right both ih =>
      obtain ⟨runs, rests⟩ := Ordering.then_eq_eq.mp equal
      obtain ⟨rfl, inside⟩ := List.cons.inj (compareRuns_eq_iff.mp runs)
      rw [← List.takeWhile_append_dropWhile (p := isDigit) (l := left), inside, ih rests,
        List.takeWhile_append_dropWhile]
  | case5 left char right other ih => rw [ih equal]
  | case6 a left b right other different =>
      exact absurd (Char.toNat_inj.mp (Nat.compare_eq_eq.mp equal)) different

end Equality

section Rounds

/-- One round of the comparison: an answer, or what is left of the two texts. -/
def round : List Char → List Char → Ordering ⊕ (List Char × List Char)
  | [], [] => .inl .eq
  | [], _ :: _ => .inl .lt
  | _ :: _, [] => .inl .gt
  | a :: left, b :: right =>
    if isDigit a && isDigit b then
      match compareRuns (a :: left.takeWhile isDigit) (b :: right.takeWhile isDigit) with
      | .eq => .inr (left.dropWhile isDigit, right.dropWhile isDigit)
      | decided => .inl decided
    else if a = b then .inr (left, right)
    else .inl (compare a.toNat b.toNat)

/-- The answer that so many rounds give, if they give one. -/
def answer? : Nat → List Char → List Char → Option Ordering
  | 0, _, _ => none
  | rounds + 1, left, right =>
    match round left right with
    | .inl answer => some answer
    | .inr (left, right) => answer? rounds left right

/-- Every round but the last one takes something from both texts. -/
theorem answer?_eq (left right : List Char) (rounds : Nat) (enough : min left.length right.length < rounds) :
    answer? rounds left right = some (naturalChars left right) := by
  fun_induction naturalChars left right generalizing rounds with
  | case1 => cases rounds <;> simp_all [answer?, round]
  | case2 => cases rounds <;> simp_all [answer?, round]
  | case3 => cases rounds <;> simp_all [answer?, round]
  | case4 a left b right both ih =>
      cases rounds with
      | zero => omega
      | succ rounds =>
          have shorterLeft := (List.dropWhile_suffix (l := left) isDigit).length_le
          have shorterRight := (List.dropWhile_suffix (l := right) isDigit).length_le
          simp only [List.length_cons] at enough
          have later := ih rounds (by omega)
          simp only [answer?, round, both, if_true]
          cases runs : compareRuns (a :: left.takeWhile isDigit) (b :: right.takeWhile isDigit) with
          | eq => simpa [runs] using later
          | lt => simp
          | gt => simp
  | case5 left char right other ih =>
      cases rounds with
      | zero => omega
      | succ rounds =>
          simp only [List.length_cons] at enough
          have later := ih rounds (by omega)
          simp only [answer?, round, other, if_true]
          exact later
  | case6 a left b right other different =>
      cases rounds with
      | zero => omega
      | succ rounds => simp [answer?, round, other, different]

end Rounds

/-- A whole run of digits between two texts: no digit stands right before or right behind it. -/
structure Delimits (before run after : List Char) : Prop where
  nonempty : run ≠ []
  decimal : ∀ char ∈ run, isDigit char
  opened : ∀ char ∈ before.getLast?, ¬ isDigit char
  closed : ∀ char ∈ after.head?, ¬ isDigit char

section Seams

theorem takeWhile_of_closed {run after : List Char} (decimal : ∀ char ∈ run, isDigit char)
    (closed : ∀ char ∈ after.head?, ¬ isDigit char) :
    (run ++ after).takeWhile isDigit = run ∧ (run ++ after).dropWhile isDigit = after := by
  rw [List.takeWhile_append_of_pos decimal, List.dropWhile_append_of_pos decimal]
  cases after with
  | nil => simp
  | cons char rest =>
      have stops := closed char rfl
      rw [List.takeWhile_cons_of_neg stops, List.dropWhile_cons_of_neg stops]
      simp

theorem tokens_of_run {run after : List Char} (nonempty : run ≠ []) (decimal : ∀ char ∈ run, isDigit char)
    (closed : ∀ char ∈ after.head?, ¬ isDigit char) : tokens (run ++ after) = .run run :: tokens after := by
  cases run with
  | nil => exact absurd rfl nonempty
  | cons char rest =>
      obtain ⟨digit, later⟩ := List.forall_mem_cons.mp decimal
      obtain ⟨inside, behind⟩ := takeWhile_of_closed later closed
      rw [List.cons_append, tokens_of_digit char _ digit, inside, behind]

/-- Where a text ends in no digit, its runs of digits end inside it. -/
theorem dropWhile_ne_nil {char : Char} {rest : List Char} (digit : isDigit char)
    (opened : ∀ last ∈ (char :: rest).getLast?, ¬ isDigit last) : rest.dropWhile isDigit ≠ [] := by
  intro none
  have whole := List.takeWhile_append_dropWhile (p := isDigit) (l := rest)
  rw [none, List.append_nil] at whole
  have later : ∀ other ∈ rest, isDigit other := by
    rw [← whole]
    exact List.all_eq_true.mp List.all_takeWhile
  have decimal : ∀ other ∈ char :: rest, isDigit other := List.forall_mem_cons.mpr ⟨digit, later⟩
  have last := List.getLast?_eq_some_getLast (List.cons_ne_nil char rest)
  exact opened _ last (decimal _ (List.getLast_mem _))

/-- A text that ends in no digit is cut off from what follows it. -/
theorem tokens_append (front back : List Char) (opened : ∀ last ∈ front.getLast?, ¬ isDigit last) :
    tokens (front ++ back) = tokens front ++ tokens back := by
  induction front using tokens.induct with
  | case1 => rw [tokens, List.nil_append, List.nil_append]
  | case2 char rest digit ih =>
      have stops := dropWhile_ne_nil digit opened
      have decimal : ∀ other ∈ rest.takeWhile isDigit, isDigit other :=
        List.all_eq_true.mp List.all_takeWhile
      have closed : ∀ next ∈ (rest.dropWhile isDigit ++ back).head?, ¬ isDigit next := by
        intro next first
        rw [List.head?_append, List.head?_eq_some_head stops] at first
        obtain rfl := Option.some.inj first
        simpa using List.head_dropWhile_not isDigit stops
      have last : (rest.dropWhile isDigit).getLast? = (char :: rest).getLast? := by
        have suffix : rest.dropWhile isDigit <:+ char :: rest :=
          (List.dropWhile_suffix isDigit).trans (List.suffix_cons char rest)
        rw [List.getLast?_eq_some_getLast stops, List.getLast?_eq_some_getLast (List.cons_ne_nil char rest),
          suffix.getLast stops]
      have rest_eq : rest ++ back = rest.takeWhile isDigit ++ (rest.dropWhile isDigit ++ back) := by
        rw [← List.append_assoc, List.takeWhile_append_dropWhile]
      obtain ⟨inside, behind⟩ := takeWhile_of_closed decimal closed
      rw [List.cons_append, tokens_of_digit char _ digit, rest_eq, inside, behind,
        ih (fun other ends => opened other (last ▸ ends)), tokens_of_digit char rest digit, List.cons_append]
  | case3 char rest other ih =>
      have later : ∀ last ∈ rest.getLast?, ¬ isDigit last := by
        intro last ends
        apply opened last
        rw [List.getLast?_cons, Option.mem_def.mp ends]
        rfl
      rw [List.cons_append, tokens_of_other char _ other, tokens_of_other char rest other, ih later,
        List.cons_append]

theorem compareLex_append {α : Type} {order : α → α → Ordering} [Std.ReflCmp order] (same left right : List α) :
    List.compareLex order (same ++ left) (same ++ right) = List.compareLex order left right := by
  induction same with
  | nil => rfl
  | cons first rest ih =>
      have equal : order first first = .eq := Std.ReflCmp.compare_self
      rw [List.cons_append, List.cons_append, List.compareLex_cons_cons, ih, equal]
      rfl

variable {before after left right : List Char}

/-- The two runs decide, as everything else is the same. -/
theorem naturalChars_of_delimits (first : Delimits before left after) (second : Delimits before right after) :
    naturalChars (before ++ left ++ after) (before ++ right ++ after) =
      (compare (natural left) (natural right)).then (compare (padding left) (padding right)) := by
  have rests : List.compareLex Token.order (tokens after) (tokens after) = .eq := Std.ReflCmp.compare_self
  rw [naturalChars_eq_compareLex, List.append_assoc, List.append_assoc, tokens_append _ _ first.opened,
    tokens_append _ _ second.opened, compareLex_append,
    tokens_of_run first.nonempty first.decimal first.closed,
    tokens_of_run second.nonempty second.decimal second.closed, List.compareLex_cons_cons, Token.order_run,
    compareRuns_natural first.decimal second.decimal, rests, Ordering.then_eq]

end Seams

/-- Natural order is a linear order on all texts. The comparison ends after as many rounds as the shorter text
has characters, and one; turning two texts around turns the answer around; what does not fall in two steps does
not fall in one; and only a text itself is equal to it. Texts that are the same around a whole run of digits are
ordered by the values of the runs, and where these are equal by the zeros in front. -/
theorem naturalCompare_linear (a b c : String) :
    (∀ rounds, min a.length b.length < rounds →
      answer? rounds a.toList b.toList = some (naturalCompare a b)) ∧
    naturalCompare b a = (naturalCompare a b).swap ∧
    (naturalCompare a b ≠ .gt → naturalCompare b c ≠ .gt → naturalCompare a c ≠ .gt) ∧
    (naturalCompare a b = .eq ↔ a = b) ∧
    ∀ before left right after, a.toList = before ++ left ++ after → b.toList = before ++ right ++ after →
      Delimits before left after → Delimits before right after →
        naturalCompare a b =
          (compare (natural left) (natural right)).then (compare (padding left) (padding right)) := by
  refine ⟨?ends, ?reversed, ?chained, ?equal, ?runs⟩
  case ends =>
    intro rounds enough
    exact answer?_eq a.toList b.toList rounds enough
  case reversed => exact Std.OrientedCmp.eq_swap
  case chained =>
    intro first second
    exact (chained_of_transCmp naturalCompare a b c).ne_gt first second
  case equal =>
    constructor
    · intro same
      exact String.toList_injective (eq_of_naturalChars same)
    · rintro rfl
      exact naturalChars_self a.toList
  case runs =>
    intro before left right after partsA partsB first second
    rw [naturalCompare, partsA, partsB]
    exact naturalChars_of_delimits first second

/-- A padded run comes behind the same value without a zero in front, and before a larger value that is written
with fewer digits. -/
theorem naturalCompare_linear_of_padded :
    (answer? 7 "item7b".toList "item007b".toList = some .lt ∧ naturalCompare "item7b" "item007b" = .lt ∧
      naturalCompare "item007b" "item7b" = .gt) ∧
    (naturalCompare "item007b" "item10b" ≠ .gt ∧ naturalCompare "item7b" "item10b" ≠ .gt) := by
  have delimits (run : List Char) (nonempty : run ≠ []) (decimal : run.all isDigit) :
      Delimits "item".toList run ['b'] := ⟨nonempty, List.all_eq_true.mp decimal, by simp [isDigit], by simp [isDigit]⟩
  obtain ⟨ends, reversed, chained, -, runs⟩ := naturalCompare_linear "item7b" "item007b" "item10b"
  have first : naturalCompare "item7b" "item007b" = .lt :=
    runs "item".toList ['7'] ['0', '0', '7'] ['b'] rfl rfl (delimits _ (List.cons_ne_nil _ _) rfl)
      (delimits _ (List.cons_ne_nil _ _) rfl)
  have second : naturalCompare "item007b" "item10b" = .lt :=
    (naturalCompare_linear "item007b" "item10b" "").2.2.2.2 "item".toList ['0', '0', '7'] ['1', '0'] ['b'] rfl rfl
      (delimits _ (List.cons_ne_nil _ _) rfl) (delimits _ (List.cons_ne_nil _ _) rfl)
  rw [first] at reversed chained
  rw [second] at chained ⊢
  rw [first] at ends
  exact ⟨⟨ends 7 (by decide), first, reversed⟩, by decide, chained (by decide) (by decide)⟩

end TableScript.Text
