import TableScript.Number.Word

set_option autoImplicit false

namespace TableScript.Word

theorem fits_toInt (word : Int64) : Fits word.toInt := by
  have low := word.le_toInt
  have high := word.toInt_lt
  unfold Fits least greatest
  omega

theorem toInt_of_narrow? (i : Int) (word : Int64) (narrowed : narrow? i = some word) :
    word.toInt = i := by
  obtain ⟨⟨low, high⟩, rfl⟩ := (narrow?_eq_some_iff i word).mp narrowed
  unfold least at low
  unfold greatest at high
  exact Int64.toInt_ofInt_of_le (by omega) (by omega)

theorem narrow?_toInt (word : Int64) : narrow? word.toInt = some word :=
  (narrow?_eq_some_iff _ _).mpr ⟨fits_toInt word, by simp⟩

theorem toInt_clamp (amount : Int) : (clamp amount).toInt = max least (min amount greatest) := by
  unfold clamp least greatest
  split
  · rw [Int64.toInt_ofInt_of_le (by omega) (by omega)]
    omega
  · split
    · rw [Int64.toInt_ofInt_of_le (by omega) (by omega)]
      omega
    · rw [Int64.toInt_ofInt_of_le (by omega) (by omega)]
      omega

/-- An integer that has a word is the word nearest to itself. -/
theorem toInt_clamp_of_fits {amount : Int} (fits : Fits amount) : (clamp amount).toInt = amount := by
  obtain ⟨low, high⟩ := fits
  rw [toInt_clamp]
  omega

end TableScript.Word
