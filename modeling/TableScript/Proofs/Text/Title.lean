import TableScript.Proofs.Text.Ascii
import TableScript.Text.Title

set_option autoImplicit false

namespace TableScript.Text

/-- A small letter of the ASCII alphabet. -/
def IsSmall (c : Char) : Prop := 'a' ≤ c ∧ c ≤ 'z'

instance (c : Char) : Decidable (IsSmall c) := inferInstanceAs (Decidable (_ ∧ _))

/-- A word of a name: small letters, at least two. -/
structure IsWord (word : String) : Prop where
  long : 2 ≤ word.length
  small : ∀ c ∈ word.toList, IsSmall c

/-- The word with its first letter in upper case. -/
def capitalized (word : String) : String := String.ofList (word.toList.modifyHead Char.toUpper)

/-- The words of a title. -/
def titled (words : List String) : String := " ".intercalate (words.map capitalized)

/-- How the words of a name are told apart. -/
inductive NamingStyle where
  | camel
  | snake
  | kebab
deriving DecidableEq, Repr

namespace NamingStyle

/-- The name that a style makes of words. -/
def spell : NamingStyle → List String → String
  | .camel, [] => ""
  | .camel, first :: rest => first ++ String.join (rest.map capitalized)
  | .snake, words => "_".intercalate words
  | .kebab, words => "-".intercalate words

/-- How a word stands behind others. -/
def attached : NamingStyle → String → List Char
  | .camel, word => (capitalized word).toList
  | .snake, word => '_' :: word.toList
  | .kebab, word => '-' :: word.toList

end NamingStyle

theorem intercalate_cons (separator : Char) (first : List Char) (rest : List (List Char)) :
    [separator].intercalate (first :: rest) = first ++ rest.flatMap (separator :: ·) := by
  induction rest generalizing first with
  | nil => simp
  | cons second rest ih =>
    rw [List.intercalate_cons_cons, ih, List.flatMap_cons, List.append_assoc, List.singleton_append,
      List.cons_append]

theorem toList_intercalate_cons {text : String} {separator : Char} (single : text.toList = [separator])
    (first : String) (rest : List String) :
    (text.intercalate (first :: rest)).toList = first.toList ++ rest.flatMap (separator :: ·.toList) := by
  rw [String.toList_intercalate, single, List.map_cons, intercalate_cons, List.flatMap_map]

theorem NamingStyle.toList_spell (style : NamingStyle) (first : String) (rest : List String) :
    (style.spell (first :: rest)).toList = first.toList ++ rest.flatMap style.attached := by
  cases style with
  | camel =>
    rw [spell, String.toList_append, String.toList_join, List.flatMap_map]
    rfl
  | snake => exact toList_intercalate_cons (by simp) first rest
  | kebab => exact toList_intercalate_cons (by simp) first rest

theorem toList_titled (first : String) (rest : List String) :
    (titled (first :: rest)).toList =
      (capitalized first).toList ++ rest.flatMap fun word => ' ' :: (capitalized word).toList := by
  have blank : " ".toList = [' '] := by simp
  rw [titled, List.map_cons, toList_intercalate_cons blank, List.flatMap_map]

theorem IsSmall.isAscii {c : Char} (small : IsSmall c) : IsAscii c := isAscii_of_le small.2 (by decide)

/-- How a small letter and its capital look in a name. -/
structure Letter (c : Char) : Prop where
  unmarked : ¬ (c = '_' ∨ c = '-')
  notUpper : isUpper c = false
  lower : isLower c = true
  kept : lowerCase c = [c]
  raised : upperCase c = [c.toUpper]
  capitalUnmarked : ¬ (c.toUpper = '_' ∨ c.toUpper = '-')
  capitalUpper : isUpper c.toUpper = true
  capitalKept : upperCase c.toUpper = [c.toUpper]

theorem IsSmall.letter {c : Char} (small : IsSmall c) : Letter c := by
  have each : ∀ c, IsAscii c → IsSmall c →
      (¬ (c = '_' ∨ c = '-') ∧ isUpper c = false ∧ isLower c = true ∧ lowerCase c = [c]) ∧
      upperCase c = [c.toUpper] ∧ ¬ (c.toUpper = '_' ∨ c.toUpper = '-') ∧ isUpper c.toUpper = true ∧
        upperCase c.toUpper = [c.toUpper] := ascii_cases (by decide +kernel)
  obtain ⟨⟨unmarked, notUpper, lower, kept⟩, raised, capitalUnmarked, capitalUpper, capitalKept⟩ :=
    each c small.isAscii small
  exact ⟨unmarked, notUpper, lower, kept, raised, capitalUnmarked, capitalUpper, capitalKept⟩

/-- The state behind a small letter. -/
def behindLetter : TitleState := ⟨false, true⟩

/-- A small letter is a capital where a word starts, and never starts one itself. -/
theorem titleFrom_small (state : TitleState) {c : Char} (small : IsSmall c) (more : List Char) :
    titleFrom state (c :: more) = (if state.wordStart then c.toUpper else c) :: titleFrom behindLetter more := by
  have letter := small.letter
  rw [titleFrom, if_neg letter.unmarked]
  simp only [letter.notUpper, letter.lower, letter.kept, letter.raised, behindLetter, Bool.false_and, Bool.or_false,
    Bool.true_or, Bool.false_eq_true, ↓reduceIte, List.nil_append]
  cases state.wordStart <;> rfl

/-- A capital behind a small letter starts a word. -/
theorem titleFrom_capital {c : Char} (small : IsSmall c) (more : List Char) :
    ∃ afterLower, titleFrom behindLetter (c.toUpper :: more) =
      ' ' :: c.toUpper :: titleFrom ⟨false, afterLower⟩ more := by
  have letter := small.letter
  refine ⟨isLower c.toUpper || NumberReader.isDigit c.toUpper, ?_⟩
  rw [titleFrom, if_neg letter.capitalUnmarked]
  simp only [letter.capitalUpper, letter.capitalKept, behindLetter, Bool.and_true, Bool.or_true, ↓reduceIte]
  rfl

/-- A mark is a blank and starts a word. -/
theorem titleFrom_mark (state : TitleState) {mark : Char} (isMark : mark = '_' ∨ mark = '-') (more : List Char) :
    titleFrom state (mark :: more) = ' ' :: titleFrom ⟨true, false⟩ more := by
  rw [titleFrom, if_pos isMark]

theorem titleFrom_letters {letters : List Char} (small : ∀ c ∈ letters, IsSmall c) (more : List Char) :
    titleFrom behindLetter (letters ++ more) = letters ++ titleFrom behindLetter more := by
  induction letters with
  | nil => rfl
  | cons c rest ih =>
    rw [List.cons_append, titleFrom_small behindLetter (small c List.mem_cons_self),
      ih fun d member => small d (List.mem_cons_of_mem c member)]
    rfl

theorem IsWord.letters {word : String} (isWord : IsWord word) :
    ∃ c d rest, word.toList = c :: d :: rest ∧ IsSmall c ∧ IsSmall d ∧ ∀ e ∈ rest, IsSmall e := by
  obtain ⟨long, small⟩ := isWord
  rw [← String.length_toList] at long
  cases chars : word.toList with
  | nil => simp [chars] at long
  | cons c tail =>
    cases tail with
    | nil => simp [chars] at long
    | cons d rest =>
      rw [chars] at small
      simp only [List.forall_mem_cons] at small
      exact ⟨c, d, rest, rfl, small⟩

/-- Where a word starts, it is capitalised. -/
theorem titleFrom_word {word : String} (isWord : IsWord word) (afterLower : Bool) (more : List Char) :
    titleFrom ⟨true, afterLower⟩ (word.toList ++ more) =
      (capitalized word).toList ++ titleFrom behindLetter more := by
  obtain ⟨c, d, rest, chars, first, second, others⟩ := isWord.letters
  have following : ∀ e ∈ d :: rest, IsSmall e := List.forall_mem_cons.mpr ⟨second, others⟩
  rw [capitalized, String.toList_ofList, chars, List.cons_append, titleFrom_small _ first,
    titleFrom_letters following]
  rfl

/-- A word behind others follows a blank and is capitalised, whatever tells it apart. What comes next is again behind a
small letter, since a word is longer than its capital. -/
theorem titleFrom_attached (style : NamingStyle) {word : String} (isWord : IsWord word) (more : List Char) :
    titleFrom behindLetter (style.attached word ++ more) =
      ' ' :: (capitalized word).toList ++ titleFrom behindLetter more := by
  cases style with
  | camel =>
    obtain ⟨c, d, rest, chars, first, second, others⟩ := isWord.letters
    have shown : (capitalized word).toList = c.toUpper :: d :: rest := by
      rw [capitalized, String.toList_ofList, chars]
      rfl
    obtain ⟨afterLower, capital⟩ := titleFrom_capital first (d :: rest ++ more)
    rw [NamingStyle.attached, shown, List.cons_append, capital, List.cons_append, titleFrom_small _ second,
      titleFrom_letters others]
    rfl
  | snake => exact (titleFrom_mark _ (.inl rfl) _).trans (congrArg _ (titleFrom_word isWord false more))
  | kebab => exact (titleFrom_mark _ (.inr rfl) _).trans (congrArg _ (titleFrom_word isWord false more))

theorem titleFrom_rest (style : NamingStyle) {words : List String} (isWord : ∀ word ∈ words, IsWord word) :
    titleFrom behindLetter (words.flatMap style.attached) =
      words.flatMap fun word => ' ' :: (capitalized word).toList := by
  induction words with
  | nil => rfl
  | cons word rest ih =>
    rw [List.flatMap_cons, titleFrom_attached style (isWord word List.mem_cons_self),
      ih fun other member => isWord other (List.mem_cons_of_mem word member), List.flatMap_cons]

/-- Whatever the style of a name, its title shows the words that it is spelled from, each with its first letter in upper
case, with single blanks between them. -/
theorem titleCase_spell {words : List String} (isWord : ∀ word ∈ words, IsWord word) (style : NamingStyle) :
    titleCase (style.spell words) = titled words := by
  cases words with
  | nil => cases style <;> rfl
  | cons first rest =>
    obtain ⟨isFirst, others⟩ := List.forall_mem_cons.mp isWord
    refine String.toList_inj.mp ?_
    rw [titleCase, String.toList_ofList, style.toList_spell, titleFrom_word isFirst, titleFrom_rest style others,
      toList_titled]

theorem titleCase_spell_of_order :
    (∀ word ∈ ["order", "no", "total"], IsWord word) ∧
      titleCase "orderNoTotal" = "Order No Total" ∧ titleCase "order_no_total" = "Order No Total" ∧
      titleCase "order-no-total" = "Order No Total" := by
  have isWord : ∀ word ∈ ["order", "no", "total"], IsWord word := by
    rintro word member
    simp only [List.mem_cons, List.not_mem_nil, or_false] at member
    rcases member with rfl | rfl | rfl <;> exact ⟨by decide, by simp [IsSmall]⟩
  have title : titled ["order", "no", "total"] = "Order No Total" := by decide +kernel
  refine ⟨isWord, ?_, ?_, ?_⟩
  · exact title ▸ titleCase_spell isWord .camel
  · exact title ▸ titleCase_spell isWord .snake
  · exact title ▸ titleCase_spell isWord .kebab

/-- Words of one letter run together where capitals tell them apart. -/
example : titleCase (NamingStyle.camel.spell ["grade", "a", "b"]) = "Grade Ab" := by decide +kernel

end TableScript.Text
