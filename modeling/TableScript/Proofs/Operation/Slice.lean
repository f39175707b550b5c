import TableScript.Operation.Position
import TableScript.Proofs.Number.Word

set_option autoImplicit false

namespace TableScript.Position

/-- What can be sliced. -/
inductive Sequence where
  | array (handle : Handle) (items : List Value)
  | text (content : String)

/-- The characters of a text, each as a text. -/
def characters (text : String) : List Value := text.toList.map fun c => .text (String.singleton c)

def text? : Value → Option String
  | .text text => some text
  | _ => none

/-- The texts among the items, one after the other. -/
def joined (items : List Value) : String := String.join (items.filterMap text?)

/-- An array of texts as one text. -/
def concatenated : Value → Value
  | .array _ items => .text (joined items)
  | other => other

namespace Sequence

def value : Sequence → Value
  | .array handle items => .array handle items
  | .text content => .text content

/-- The items of an array, or the characters of a text. -/
def elements : Sequence → List Value
  | .array _ items => items
  | .text content => characters content

/-- A new sequence of the same kind. -/
def assemble : Sequence → List Value → Value
  | .array .., parts => .ofItems parts
  | .text _, parts => .text (joined parts)

end Sequence

theorem joined_singletons (chars : List Char) :
    joined (chars.map fun c => .text (String.singleton c)) = String.ofList chars := by
  induction chars with
  | nil => rfl
  | cons c rest ih =>
      calc joined ((c :: rest).map fun c => .text (String.singleton c))
        _ = String.singleton c ++ joined (rest.map fun c => .text (String.singleton c)) := String.join_cons
        _ = String.ofList (c :: rest) := by rw [ih, String.ofList_cons]

theorem length_characters (text : String) : (characters text).length = text.length := by
  rw [characters, List.length_map, String.length_toList]

theorem cut_map {α β : Type} (f : α → β) (items : List α) (bounds : Nat × Nat) :
    cut (items.map f) bounds = (cut items bounds).map f := by
  rw [cut, cut, List.map_drop, List.map_take]

theorem joined_cut_characters (text : String) (bounds : Nat × Nat) :
    joined (cut (characters text) bounds) = String.ofList (cut text.toList bounds) := by
  rw [characters, cut_map, joined_singletons]

/-- A slice of either kind takes its part of the elements. -/
theorem slice_value (whole : Sequence) (start stop : Value) (optional : Bool) :
    slice whole.value start stop optional =
      (sliceBounds start stop whole.elements.length optional).map fun bounds? =>
        (bounds?.map fun bounds => whole.assemble (cut whole.elements bounds)).getD .null := by
  cases whole with
  | array handle items =>
      simp only [Sequence.value, Sequence.elements, slice]
      cases sliceBounds start stop items.length optional with
      | error error => rfl
      | ok bounds? => cases bounds? <;> rfl
  | text content =>
      simp only [Sequence.value, Sequence.elements, Sequence.assemble, joined_cut_characters,
        length_characters, slice]
      cases sliceBounds start stop content.length optional with
      | error error => rfl
      | ok bounds? => cases bounds? <;> rfl

/-- A text is sliced as the array of its characters is. -/
theorem slice_text (text : String) (handle : Handle) (start stop : Value) (optional : Bool) :
    slice (.text text) start stop optional =
      (slice (.array handle (characters text)) start stop optional).map concatenated := by
  rw [show slice (.text text) start stop optional = _ from slice_value (.text text) start stop optional,
    show slice (.array handle (characters text)) start stop optional = _ from
      slice_value (.array handle (characters text)) start stop optional]
  simp only [Sequence.elements]
  cases sliceBounds start stop (characters text).length optional with
  | error error => rfl
  | ok bounds? => cases bounds? <;> rfl

/-- Why bounds are refused that lie at these places, if they are. -/
def refusal? (start stop : Value) (length : Nat) (first last : Int64) : Option EvalError :=
  if first.toInt < 0 then some (.indexRange (written start first) length)
  else if last.toInt < 0 then some (.indexRange (written stop last) length)
  else if last.toInt < first.toInt then some (.sliceOrder first last)
  else none

theorem sliceBounds_of_bounds {start stop : Value} {length : Nat} {first last : Int64}
    (lower : bound start "start" length 0 = .ok first) (upper : bound stop "end" length length = .ok last)
    (optional : Bool) :
    sliceBounds start stop length optional =
      match refusal? start stop length first last with
      | some error => if optional then .ok none else .error error
      | none => .ok (some (min first.toInt.toNat length, min last.toInt.toNat length)) := by
  simp only [sliceBounds, lower, upper, bind, Except.bind, refusal?]
  by_cases early : first.toInt < 0
  · cases optional <;> simp only [early, ↓reduceIte, Bool.false_eq_true] <;> rfl
  · by_cases late : last.toInt < 0
    · cases optional <;> simp only [early, late, ↓reduceIte, Bool.false_eq_true] <;> rfl
    · by_cases crossed : last.toInt < first.toInt
      · cases optional <;> simp only [early, late, crossed, ↓reduceIte, Bool.false_eq_true] <;> rfl
      · simp only [early, late, crossed, ↓reduceIte]
        rfl

/-- The code with which bounds at these places are refused, if they are. -/
def refusalCode? (first last : Int) : Option String :=
  if first < 0 ∨ last < 0 then some "INDEX-0001" else if last < first then some "INDEX-0003" else none

theorem code_refusal? (start stop : Value) (length : Nat) (first last : Int64) :
    (refusal? start stop length first last).map EvalError.code = refusalCode? first.toInt last.toInt := by
  unfold refusal? refusalCode?
  by_cases early : first.toInt < 0
  · simp only [early, true_or, ↓reduceIte, Option.map_some, EvalError.code]
  · by_cases late : last.toInt < 0
    · simp only [early, late, or_true, ↓reduceIte, Option.map_some, EvalError.code]
    · by_cases crossed : last.toInt < first.toInt
      · simp only [early, late, crossed, or_self, ↓reduceIte, Option.map_some, EvalError.code]
      · simp only [early, late, crossed, or_self, ↓reduceIte, Option.map_none]

theorem refusalCode?_eq_none_iff {first last : Int} :
    refusalCode? first last = none ↔ 0 ≤ first ∧ first ≤ last := by
  unfold refusalCode?
  repeat' split
  all_goals simp only [reduceCtorEq, false_iff, true_iff]
  all_goals omega

theorem refusalCode?_eq_index_iff {first last : Int} :
    refusalCode? first last = some "INDEX-0001" ↔ first < 0 ∨ last < 0 := by
  unfold refusalCode?
  split
  · simp [*]
  · split <;> simp [*]

theorem refusalCode?_eq_order_iff {first last : Int} :
    refusalCode? first last = some "INDEX-0003" ↔ (0 ≤ first ∧ 0 ≤ last) ∧ last < first := by
  unfold refusalCode?
  repeat' split
  all_goals simp only [Option.some.injEq, String.reduceEq, reduceCtorEq, false_iff, true_iff]
  all_goals omega

theorem refusal?_eq_none_iff {start stop : Value} {length : Nat} {first last : Int64} :
    refusal? start stop length first last = none ↔ 0 ≤ first.toInt ∧ first.toInt ≤ last.toInt := by
  rw [← refusalCode?_eq_none_iff, ← code_refusal? start stop length, Option.map_eq_none_iff]

/-- Whatever the bounds are, what they give lies inside the sequence and is in order. -/
theorem sliceBounds_inside {start stop : Value} {length : Nat} {optional : Bool} {front back : Nat}
    (found : sliceBounds start stop length optional = .ok (some (front, back))) :
    front ≤ back ∧ back ≤ length := by
  cases lower : bound start "start" length 0 with
  | error error =>
      rw [sliceBounds, lower] at found
      cases found
  | ok first =>
      cases upper : bound stop "end" length length with
      | error error =>
          rw [sliceBounds, lower, upper] at found
          cases found
      | ok last =>
          rw [sliceBounds_of_bounds lower upper] at found
          cases refused : refusal? start stop length first last with
          | some error =>
              rw [refused] at found
              cases optional <;> cases found
          | none =>
              obtain ⟨-, ordered⟩ := refusal?_eq_none_iff.mp refused
              rw [refused] at found
              cases found
              omega

/-- A bound as a program gives it: none, or an integer. -/
def given : Option Int64 → Value
  | none => .null
  | some n => .int n

/-- Where a bound lies, counted from the front. A negative one counts from the end. -/
def place (length absent : Nat) : Option Int64 → Int
  | none => absent
  | some n => if n.toInt < 0 then n.toInt + length else n.toInt

/-- The places of bounds are exact in a sequence whose length is a word, though they are computed with words:
a negative word and a length are too far from both ends of the words to be cut off there. -/
theorem bound_given {length absent : Nat} (short : (length : Int) ≤ Word.greatest) (inside : absent ≤ length)
    (value : Option Int64) (which : String) :
    ∃ word, bound (given value) which length absent = .ok word ∧ word.toInt = place length absent value := by
  cases value with
  | none =>
      have fits : Word.Fits absent := by
        unfold Word.Fits Word.least
        omega
      exact ⟨Word.clamp absent, rfl, Word.toInt_clamp_of_fits fits⟩
  | some n =>
      obtain ⟨low, high⟩ := Word.fits_toInt n
      by_cases negative : n.toInt < 0
      · have fits : Word.Fits (n.toInt + length) := by
          unfold Word.Fits
          unfold Word.greatest at *
          omega
        refine ⟨Word.clamp (n.toInt + length), by simp only [given, bound, negative, ↓reduceIte], ?_⟩
        rw [Word.toInt_clamp_of_fits fits, place, if_pos negative]
      · refine ⟨n, by simp only [given, bound, negative, ↓reduceIte], ?_⟩
        rw [place, if_neg negative]

/-- An outcome that shows the code of its error only. -/
def coded (outcome : Except EvalError Value) : Except String Value := outcome.mapError EvalError.code

@[simp] theorem coded_ok (value : Value) : coded (.ok value) = .ok value := rfl

@[simp] theorem coded_error (error : EvalError) : coded (.error error) = .error error.code := rfl

theorem coded_eq_ok_iff {outcome : Except EvalError Value} {value : Value} :
    coded outcome = .ok value ↔ outcome = .ok value := by
  cases outcome <;> simp

theorem coded_eq_error_iff {outcome : Except EvalError Value} {code : String} :
    coded outcome = .error code ↔ ∃ error, outcome = .error error ∧ error.code = code := by
  cases outcome <;> simp

theorem assemble_ne_null (whole : Sequence) (parts : List Value) : whole.assemble parts ≠ .null := by
  cases whole <;> nofun

/-- What a slice gives whose bounds lie at these places. -/
def answer (whole : Sequence) (optional : Bool) (first last : Int) : Except String Value :=
  let length := whole.elements.length
  match refusalCode? first last with
  | some code => if optional then .ok .null else .error code
  | none => .ok (whole.assemble (cut whole.elements (min first.toNat length, min last.toNat length)))

theorem answer_of_ordered (whole : Sequence) (optional : Bool) {first last : Int} (front : 0 ≤ first)
    (ordered : first ≤ last) :
    answer whole optional first last = .ok (whole.assemble (cut whole.elements
      (min first.toNat whole.elements.length, min last.toNat whole.elements.length))) := by
  simp only [answer, refusalCode?_eq_none_iff.mpr ⟨front, ordered⟩]

theorem answer_eq_error_iff {whole : Sequence} {first last : Int} {code : String} :
    answer whole false first last = .error code ↔ refusalCode? first last = some code := by
  unfold answer
  split <;> simp [*]

/-- Where misses are allowed, null stands for every refusal and for nothing else. -/
theorem answer_optional (whole : Sequence) (first last : Int) :
    ∃ value, answer whole true first last = .ok value ∧
      (value = .null ↔ refusalCode? first last ≠ none) := by
  unfold answer
  split
  · exact ⟨.null, rfl, by simp [*]⟩
  · exact ⟨_, rfl, by simp [*, assemble_ne_null]⟩

/-- A slice is decided by the places of its bounds. -/
theorem coded_slice {whole : Sequence} (short : (whole.elements.length : Int) ≤ Word.greatest)
    (start stop : Option Int64) (optional : Bool) :
    coded (slice whole.value (given start) (given stop) optional) =
      answer whole optional (place whole.elements.length 0 start)
        (place whole.elements.length whole.elements.length stop) := by
  obtain ⟨first, lower, firstPlace⟩ := bound_given short (Nat.zero_le _) start "start"
  obtain ⟨last, upper, lastPlace⟩ := bound_given short (Nat.le_refl _) stop "end"
  have codes := code_refusal? (given start) (given stop) whole.elements.length first last
  rw [slice_value, sliceBounds_of_bounds lower upper, ← firstPlace, ← lastPlace, answer, ← codes]
  cases refusal? (given start) (given stop) whole.elements.length first last with
  | some error => cases optional <;> rfl
  | none => rfl

theorem getElem?_cut {items : List Value} {lower upper i : Nat} (inside : i < upper - lower) :
    (cut items (lower, upper))[i]? = items[lower + i]? := by
  rw [cut, List.getElem?_drop, List.getElem?_take_of_lt (by omega)]

theorem length_cut {items : List Value} (lower : Nat) {upper : Nat} (inside : upper ≤ items.length) :
    (cut items (lower, upper)).length = upper - lower := by
  rw [cut, List.length_drop, List.length_take_of_le inside]

/-- A slice holds the elements from the place of its first bound up to that of its second one, both cut off at
the length. It fails with the code for indexes exactly if a place lies before the front, otherwise with the
code for the order of bounds exactly if the places are in the wrong order, and gives null instead exactly then,
where misses are allowed. It never reaches outside the sequence, and cuts a text as it cuts the array of its
characters. The length of a sequence in memory is a word. -/
theorem slice_exact (whole : Sequence) (short : (whole.elements.length : Int) ≤ Word.greatest)
    (start stop : Option Int64) :
    let length := whole.elements.length
    let first := place length 0 start
    let last := place length length stop
    let sliced := slice whole.value (given start) (given stop)
    (0 ≤ first → 0 ≤ last → first ≤ last → ∃ part : List Value,
      part.length = min last.toNat length - min first.toNat length ∧
      (∀ i < part.length, part[i]? = whole.elements[min first.toNat length + i]?) ∧
      ∀ optional, sliced optional = .ok (whole.assemble part)) ∧
    ((∃ error, sliced false = .error error ∧ error.code = "INDEX-0001") ↔ first < 0 ∨ last < 0) ∧
    ((∃ error, sliced false = .error error ∧ error.code = "INDEX-0003") ↔
      (0 ≤ first ∧ 0 ≤ last) ∧ last < first) ∧
    (sliced true = .ok .null ↔ (first < 0 ∨ last < 0) ∨ last < first) ∧
    (∃ value, sliced true = .ok value) ∧
    (∀ optional lower upper, sliceBounds (given start) (given stop) length optional =
      .ok (some (lower, upper)) → lower ≤ upper ∧ upper ≤ length) ∧
    (∀ text handle optional, slice (.text text) (given start) (given stop) optional =
      (slice (.array handle (characters text)) (given start) (given stop) optional).map concatenated) := by
  intro length first last sliced
  have decided (optional : Bool) : coded (sliced optional) = answer whole optional first last :=
    coded_slice short start stop optional
  obtain ⟨value, skipped, null⟩ := answer_optional whole first last
  have reached : sliced true = .ok value := coded_eq_ok_iff.mp ((decided true).trans skipped)
  refine ⟨fun front _ ordered => ?_, ?_, ?_, ?_, ⟨value, reached⟩,
    fun optional lower upper => sliceBounds_inside,
    fun text handle optional => slice_text text handle _ _ optional⟩
  · have size := length_cut (min first.toNat length) (Nat.min_le_right last.toNat length)
    refine ⟨_, size, fun i inside => getElem?_cut (size ▸ inside), fun optional => coded_eq_ok_iff.mp ?_⟩
    rw [decided, answer_of_ordered whole optional front ordered]
  · rw [← coded_eq_error_iff, decided, answer_eq_error_iff, refusalCode?_eq_index_iff]
  · rw [← coded_eq_error_iff, decided, answer_eq_error_iff, refusalCode?_eq_order_iff]
  · calc sliced true = .ok .null
      _ ↔ value = .null := by rw [reached, Except.ok.injEq]
      _ ↔ ¬ (0 ≤ first ∧ first ≤ last) := null.trans (not_congr refusalCode?_eq_none_iff)
      _ ↔ (first < 0 ∨ last < 0) ∨ last < first := by omega

/-- From the second character on, past the end; from before the front; and in the wrong order. -/
theorem slice_exact_at_ends_of_words :
    let text := "naïve"
    ((characters text).length : Int) ≤ Word.greatest ∧
      (∃ part : List Value, part.length = 4 ∧ (∀ i < part.length, part[i]? = (characters text)[1 + i]?) ∧
        slice (.text text) (.int (-4)) (.int Int64.maxValue) false = .ok (.text (joined part))) ∧
      (∃ error, slice (.text text) (.int Int64.minValue) .null false = .error error ∧
        error.code = "INDEX-0001") ∧
      slice (.text text) (.int Int64.maxValue) (.int Int64.minValue) true = .ok .null := by
  intro text
  have short : ((characters text).length : Int) ≤ Word.greatest := by decide +kernel
  obtain ⟨found, -⟩ := slice_exact (.text text) short (some (-4)) (some Int64.maxValue)
  obtain ⟨-, early, -⟩ := slice_exact (.text text) short (some Int64.minValue) none
  obtain ⟨-, -, -, skipped, -⟩ :=
    slice_exact (.text text) short (some Int64.maxValue) (some Int64.minValue)
  obtain ⟨part, size, items, sliced⟩ := found (by decide +kernel) (by decide +kernel) (by decide +kernel)
  have second : min (place (characters text).length 0 (some (-4))).toNat (characters text).length = 1 := by
    decide +kernel
  refine ⟨short, ⟨part, size.trans ?_, fun i inside => ?_, sliced false⟩, early.mpr ?_, skipped.mpr ?_⟩
  · decide +kernel
  · rw [← second]
    exact items i inside
  · decide +kernel
  · decide +kernel

/-- A bound beyond the length replaced by the length. -/
def capped (length : Nat) : Option Int64 → Option Int64
  | none => none
  | some n => if (length : Int) < n.toInt then some (Int64.ofInt length) else some n

theorem place_capped {length absent : Nat} (short : (length : Int) ≤ Word.greatest) (inside : absent ≤ length)
    (value : Option Int64) :
    place length absent (capped length value) = min (place length absent value) length := by
  cases value with
  | none =>
      rw [capped, place]
      omega
  | some n =>
      by_cases beyond : (length : Int) < n.toInt
      · have word : (Int64.ofInt length).toInt = length := by
          unfold Word.greatest at short
          exact Int64.toInt_ofInt_of_le (by omega) (by omega)
        simp only [capped, beyond, ↓reduceIte, place, word]
        rw [if_neg (by omega), if_neg (by omega)]
        omega
      · simp only [capped, beyond, ↓reduceIte, place]
        split <;> omega

/-- Bounds that are refused still are when they are cut off, with the same code, unless both lie at the length or
beyond. -/
theorem refusalCode?_min {first last : Int} {length : Nat} (near : ¬ ((length : Int) ≤ last ∧ last < first)) :
    refusalCode? (min first length) (min last length) = refusalCode? first last := by
  have early : (min first (length : Int) < 0 ∨ min last (length : Int) < 0) ↔ (first < 0 ∨ last < 0) := by omega
  simp only [refusalCode?, early]
  split
  · rfl
  · have crossed : min last (length : Int) < min first length ↔ last < first := by omega
    simp only [crossed]

theorem answer_min (whole : Sequence) (optional : Bool) {first last : Int}
    (near : ¬ ((whole.elements.length : Int) ≤ last ∧ last < first)) :
    answer whole optional (min first whole.elements.length) (min last whole.elements.length) =
      answer whole optional first last := by
  have cutOff (place : Int) :
      min (min place (whole.elements.length : Int)).toNat whole.elements.length =
        min place.toNat whole.elements.length := by
    omega
  simp only [answer, refusalCode?_min near, cutOff]

/-- Nothing lies beyond the length. -/
theorem answer_beyond (whole : Sequence) (optional : Bool) {first last : Int}
    (beyond : (whole.elements.length : Int) ≤ first) (ordered : first ≤ last) :
    answer whole optional first last = .ok (whole.assemble []) := by
  have nothing : cut whole.elements
      (min first.toNat whole.elements.length, min last.toNat whole.elements.length) = [] := by
    refine List.eq_nil_of_length_eq_zero ?_
    rw [length_cut _ (Nat.min_le_right _ _)]
    omega
  rw [answer_of_ordered whole optional (by omega) ordered, nothing]

theorem answer_crossed (whole : Sequence) (optional : Bool) {first last : Int} (front : 0 ≤ last)
    (crossed : last < first) (parts : List Value) :
    answer whole optional first last ≠ .ok (whole.assemble parts) := by
  have refused : refusalCode? first last = some "INDEX-0003" :=
    refusalCode?_eq_order_iff.mpr ⟨⟨by omega, front⟩, crossed⟩
  have present := (assemble_ne_null whole parts).symm
  cases optional <;> simp [answer, refused, present]

/-- Cutting off both places changes the answer exactly where they are in the wrong order at the length or
beyond. -/
theorem answer_min_iff (whole : Sequence) (optional : Bool) (first last : Int) :
    answer whole optional (min first whole.elements.length) (min last whole.elements.length) =
        answer whole optional first last ↔
      ¬ ((whole.elements.length : Int) ≤ last ∧ last < first) := by
  refine ⟨?_, answer_min whole optional⟩
  rintro same ⟨far, crossed⟩
  refine answer_crossed whole optional (by omega) crossed [] (same.symm.trans ?_)
  exact answer_beyond whole optional (by omega) (by omega)

/-- To replace the bounds beyond the length by the length changes nothing but the texts of errors, unless the
start lies beyond the end and both lie at the length or beyond: then the bounds as they are given are refused,
though nothing lies between them. With an end, what starts at the length or beyond is empty; without one, it is
empty only where it starts at the length. -/
theorem slice_cut_off (whole : Sequence) (short : (whole.elements.length : Int) ≤ Word.greatest)
    (start stop : Option Int64) (optional : Bool) :
    let length := whole.elements.length
    let first := place length 0 start
    let last := place length length stop
    let sliced := fun start stop => slice whole.value (given start) (given stop) optional
    (coded (sliced (capped length start) (capped length stop)) = coded (sliced start stop) ↔
      ¬ ((length : Int) ≤ last ∧ last < first)) ∧
    (∀ s e : Int64, length ≤ s.toInt → s.toInt ≤ e.toInt →
      sliced (some s) (some e) = .ok (whole.assemble [])) ∧
    (∀ s : Int64, length ≤ s.toInt →
      (sliced (some s) none = .ok (whole.assemble []) ↔ s.toInt = length)) := by
  intro length first last sliced
  have decided (start stop : Option Int64) : coded (sliced start stop) =
      answer whole optional (place length 0 start) (place length length stop) :=
    coded_slice short start stop optional
  have itself (n : Int64) (absent : Nat) (beyond : length ≤ n.toInt) :
      place length absent (some n) = n.toInt := by
    rw [place, if_neg (by omega)]
  refine ⟨?_, fun s e beyond ordered => coded_eq_ok_iff.mp ?_, fun s beyond => ?_⟩
  · rw [decided, decided, place_capped short (Nat.zero_le _), place_capped short (Nat.le_refl _)]
    exact answer_min_iff whole optional first last
  · rw [decided, itself s 0 beyond, itself e length (by omega)]
    exact answer_beyond whole optional beyond ordered
  · rw [← coded_eq_ok_iff, decided, itself s 0 beyond, place]
    constructor
    · intro empty
      rcases Int.lt_or_eq_of_le beyond with past | same
      · exact absurd empty (answer_crossed whole optional (by omega) past [])
      · exact same.symm
    · intro same
      exact answer_beyond whole optional beyond (Int.le_of_eq same)

/-- With an end beyond the length, with both bounds beyond it, and with a start at the length and no end. -/
theorem slice_cut_off_of_three :
    let whole : Sequence := .array none [.int 10, .int 20, .int 30]
    (whole.elements.length : Int) ≤ Word.greatest ∧
      coded (slice whole.value (.int (-2)) (.int 3) false) =
        coded (slice whole.value (.int (-2)) (.int 9) false) ∧
      slice whole.value (.int 4) (.int Int64.maxValue) false = .ok (.ofItems []) ∧
      slice whole.value (.int 3) .null false = .ok (.ofItems []) := by
  intro whole
  have short : (whole.elements.length : Int) ≤ Word.greatest := by decide
  obtain ⟨same, empty, unended⟩ := slice_cut_off whole short (some (-2)) (some 9) false
  exact ⟨short, same.mpr (by decide), empty 4 Int64.maxValue (by decide) (by decide),
    (unended 3 (by decide)).mpr rfl⟩

/-- A start beyond the length is refused without an end and with an end that it lies beyond, although the bounds
are empty when they are cut off, and so is what starts there and ends later. -/
theorem start_beyond_length_refused :
    let items : Value := .ofItems [.int 10, .int 20, .int 30]
    slice items (.int 4) .null false = .error (.sliceOrder 4 3) ∧
      slice items (.int 5) (.int 4) false = .error (.sliceOrder 5 4) ∧
      slice items (.int 3) (.int 3) false = .ok (.ofItems []) ∧
      slice items (.int 4) (.int 5) false = .ok (.ofItems []) :=
  ⟨rfl, rfl, rfl, rfl⟩

end TableScript.Position
