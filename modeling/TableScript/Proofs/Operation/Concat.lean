import TableScript.Operation.Binary
import TableScript.Proofs.Dictionary.Merge

set_option autoImplicit false

namespace TableScript.Operation

variable {a b c : Value}

/-- Dictionaries merge with dictionaries only. -/
def IsDictionary (value : Value) : Prop := ∃ handle entries, value = .dict handle entries

theorem not_isDictionary_ofItems (items : List Value) : ¬ IsDictionary (.ofItems items) :=
  fun ⟨_, _, same⟩ => nomatch same

theorem elements_ofItems (items : List Value) : elements (.ofItems items) = items := rfl

theorem elements_of_isDictionary (dictionary : IsDictionary a) : elements a = [a] := by
  obtain ⟨handle, entries, rfl⟩ := dictionary
  rfl

theorem concat_of_left (other : ¬ IsDictionary a) (b : Value) :
    concat a b = .ofItems (elements a ++ elements b) := by
  cases a with
  | dict handle entries => exact absurd ⟨handle, entries, rfl⟩ other
  | _ => rfl

theorem concat_of_right (a : Value) (other : ¬ IsDictionary b) :
    concat a b = .ofItems (elements a ++ elements b) := by
  cases b with
  | dict handle entries => exact absurd ⟨handle, entries, rfl⟩ other
  | _ => cases a <;> rfl

theorem isDictionary_concat (first : IsDictionary a) (second : IsDictionary b) :
    IsDictionary (concat a b) := by
  obtain ⟨i, left, rfl⟩ := first
  obtain ⟨j, right, rfl⟩ := second
  exact ⟨none, left.merge right, rfl⟩

/-- What is joined element by element is joined with all that follows. -/
theorem concat_concat_left (joined : concat a b = .ofItems (elements a ++ elements b)) (c : Value) :
    concat (concat a b) c = .ofItems (elements a ++ (elements b ++ elements c)) := by
  rw [joined, concat_of_left (not_isDictionary_ofItems _), elements_ofItems, List.append_assoc]

theorem concat_concat_right (a : Value) (joined : concat b c = .ofItems (elements b ++ elements c)) :
    concat a (concat b c) = .ofItems (elements a ++ (elements b ++ elements c)) := by
  rw [joined, concat_of_right a (not_isDictionary_ofItems _), elements_ofItems]

/-- The order of two concatenations matters exactly if the middle value is a dictionary and one, but not both,
of the others are. -/
theorem concat_assoc_iff (a b c : Value) :
    concat (concat a b) c = concat a (concat b c) ↔
      (IsDictionary b → (IsDictionary a ↔ IsDictionary c)) := by
  by_cases middle : IsDictionary b
  · by_cases first : IsDictionary a <;> by_cases last : IsDictionary c
    · refine iff_of_true ?_ fun _ => iff_of_true first last
      obtain ⟨i, entriesA, rfl⟩ := first
      obtain ⟨j, entriesB, rfl⟩ := middle
      obtain ⟨k, entriesC, rfl⟩ := last
      exact congrArg Value.ofEntries (entriesA.merge_assoc entriesB entriesC)
    · refine iff_of_false (fun same => ?_) fun both => last ((both middle).mp first)
      rw [concat_of_right _ last, concat_concat_right a (concat_of_right b last),
        elements_of_isDictionary (isDictionary_concat first middle), elements_of_isDictionary first,
        elements_of_isDictionary middle] at same
      simpa using congrArg List.length (Value.array.inj same).2
    · refine iff_of_false (fun same => ?_) fun both => first ((both middle).mpr last)
      rw [concat_of_left first (concat b c), concat_concat_left (concat_of_left first b),
        elements_of_isDictionary (isDictionary_concat middle last), elements_of_isDictionary middle,
        elements_of_isDictionary last] at same
      simpa using congrArg List.length (Value.array.inj same).2
    · refine iff_of_true ?_ fun _ => iff_of_false first last
      rw [concat_concat_left (concat_of_left first b), concat_concat_right a (concat_of_right b last)]
  · refine iff_of_true ?_ fun dictionary => absurd dictionary middle
    rw [concat_concat_left (concat_of_right a middle), concat_concat_right a (concat_of_left middle c)]

/-- The value holds the needle. -/
def Holds (needle haystack : Value) : Prop := binary needle haystack .member = .ok (.bool true)

theorem binary_member_array (needle : Value) (handle : Handle) (items : List Value) :
    binary needle (.array handle items) .member = .ok (.bool (items.any (equal needle))) := rfl

theorem holds_array {needle : Value} {handle : Handle} {items : List Value} :
    Holds needle (.array handle items) ↔ ∃ item ∈ items, equal needle item = true := by
  rw [Holds, binary_member_array]
  simp

theorem concat_array (i j : Handle) (xs ys : List Value) :
    concat (.array i xs) (.array j ys) = .ofItems (xs ++ ys) := rfl

/-- Merging is associative with the empty dictionary as an identity on both sides; its result has the keys on the
left and then the others on the right, each in their order and once, and under every key the value on the right
if there is one. Concatenation is associative except where a dictionary stands between one and something else,
so it is on dictionaries and on values that are none. A test for membership in two joined arrays succeeds, and
finds what is in the first or in the second. -/
theorem concatenation_laws {α : Type} {left right : Dictionary α} (distinct : left.keys.Nodup)
    (apart : right.keys.Nodup) :
    ((∀ first second third : Dictionary α,
        (first.merge second).merge third = first.merge (second.merge third)) ∧
      left.merge .empty = left ∧ Dictionary.empty.merge left = left ∧
      (left.merge right).keys = left.keys ++ right.keys.filter (· ∉ left.keys) ∧
      (left.merge right).keys.Nodup ∧
      ∀ key, (left.merge right).get? key = (right.get? key).or (left.get? key)) ∧
    ((∀ a b c, IsDictionary a → IsDictionary b → IsDictionary c →
        concat (concat a b) c = concat a (concat b c)) ∧
      (∀ a b c, ¬ IsDictionary a → ¬ IsDictionary b → ¬ IsDictionary c →
        concat (concat a b) c = concat a (concat b c)) ∧
      ∀ a b c, concat (concat a b) c = concat a (concat b c) ↔
        (IsDictionary b → (IsDictionary a ↔ IsDictionary c))) ∧
    ∀ (needle : Value) (i j : Handle) (xs ys : List Value),
      (∃ found, binary needle (concat (.array i xs) (.array j ys)) .member = .ok (.bool found)) ∧
      (Holds needle (concat (.array i xs) (.array j ys)) ↔
        Holds needle (.array i xs) ∨ Holds needle (.array j ys)) := by
  refine ⟨⟨Dictionary.merge_assoc, left.merge_empty, Dictionary.empty_merge distinct,
    Dictionary.keys_merge distinct apart, Dictionary.nodup_keys_merge right distinct,
    left.get?_merge apart⟩, ⟨fun a b c first _ last => ?_, fun a b c _ middle _ => ?_, concat_assoc_iff⟩,
    fun needle i j xs ys => ⟨⟨_, rfl⟩, ?_⟩⟩
  · exact (concat_assoc_iff a b c).mpr fun _ => iff_of_true first last
  · exact (concat_assoc_iff a b c).mpr fun dictionary => absurd dictionary middle
  · rw [concat_array, Value.ofItems, holds_array, holds_array, holds_array]
    simp only [List.mem_append, or_and_right, exists_or]

/-- Two dictionaries that share a key which stands in other places. -/
theorem concatenation_laws_of_overlap :
    let left : Dictionary Nat := ⟨[("x", 1), ("y", 2)]⟩
    let right : Dictionary Nat := ⟨[("z", 3), ("x", 4)]⟩
    (left.keys.Nodup ∧ right.keys.Nodup) ∧ Dictionary.empty.merge left = left ∧
      (left.merge right).keys = ["x", "y"] ++ ["z"] ∧ (left.merge right).get? "x" = (some 4).or (some 1) := by
  intro left right
  have distinct : left.keys.Nodup := by decide
  have apart : right.keys.Nodup := by decide
  obtain ⟨⟨-, -, identity, keys, -, entry⟩, -⟩ := concatenation_laws distinct apart
  exact ⟨⟨distinct, apart⟩, identity, keys, entry "x"⟩

end TableScript.Operation
