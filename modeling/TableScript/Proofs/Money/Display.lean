import Mathlib.Tactic.NormNum
import TableScript.Proofs.Money.Value
import TableScript.Proofs.Number.Decimal

set_option autoImplicit false

namespace TableScript

open NumberReader (Written decimal sign natural isDigit)

theorem Layout.toList_padLeft (width : Nat) (text : String) :
    (padLeft width text).toList = List.replicate (width - text.length) '0' ++ text.toList := by
  rw [padLeft, zeros, String.toList_append, String.toList_ofList]

namespace Money

/-- The digits after the point: the part of the magnitude below one, filled up in front. -/
def fraction (scale magnitude : Nat) : List Char :=
  (Layout.padLeft scale (toString (magnitude % 10 ^ scale))).toList

section Fraction

variable {scale : Nat} (magnitude : Nat)

theorem length_fraction (positive : 0 < scale) : (fraction scale magnitude).length = scale := by
  have below : magnitude % 10 ^ scale < 10 ^ scale := Nat.mod_lt _ (Nat.pow_pos (by decide))
  have digits := (Nat.length_toDigits_le_iff (by decide) positive).mpr below
  rw [fraction, Layout.toList_padLeft, List.length_append, List.length_replicate, ← String.length_toList,
    Nat.toString_eq_repr, Nat.toList_repr]
  omega

theorem natural_fraction : natural (fraction scale magnitude) = magnitude % 10 ^ scale := by
  rw [fraction, Layout.toList_padLeft, NumberReader.natural_zeros, Nat.toString_eq_repr, Nat.toList_repr,
    NumberReader.natural_toDigits]

theorem isDigit_of_mem_fraction {char : Char} (member : char ∈ fraction scale magnitude) : isDigit char := by
  rw [fraction, Layout.toList_padLeft, Nat.toString_eq_repr, Nat.toList_repr] at member
  rcases List.mem_append.mp member with zero | digit
  · rw [List.eq_of_mem_replicate zero]
    rfl
  · exact NumberReader.isDigit_of_mem_toDigits digit

end Fraction

variable (m : Money)

/-- Where nothing is divided, the amount is shown as it is. -/
theorem toList_formatAmount_undivided (undivided : m.scale = 0 ∨ maxDividedScale < m.scale) :
    m.formatAmount.toList = sign (m.amount.toInt < 0) ++ Nat.toDigits 10 m.amount.toInt.natAbs := by
  rw [formatAmount, if_pos undivided, NumberReader.toList_toString]

theorem toList_formatAmount_divided (positive : 0 < m.scale) (divided : m.scale ≤ maxDividedScale) :
    m.formatAmount.toList = sign (m.amount.toInt < 0) ++
      (Nat.toDigits 10 (m.amount.toInt.natAbs / 10 ^ m.scale) ++
        '.' :: fraction m.scale m.amount.toInt.natAbs) := by
  rw [formatAmount, if_neg (by omega)]
  simp only [String.toList_append, Nat.toString_eq_repr, Nat.toList_repr, Nat.pow_eq, List.append_assoc, fraction]
  congr 1
  by_cases negative : m.amount.toInt < 0 <;> simp [negative, sign]

theorem written_toDigits (negative : Bool) (n : Nat) : Written 0 (sign negative ++ Nat.toDigits 10 n) :=
  .whole negative Nat.toDigits_ne_nil fun _ => NumberReader.isDigit_of_mem_toDigits

theorem written_formatAmount (divided : m.scale ≤ maxDividedScale) : Written m.scale m.formatAmount.toList := by
  rcases Nat.eq_zero_or_pos m.scale with zero | positive
  · rw [m.toList_formatAmount_undivided (.inl zero), zero]
    exact written_toDigits _ _
  · have places := length_fraction m.amount.toInt.natAbs positive
    have filled : fraction m.scale m.amount.toInt.natAbs ≠ [] := List.ne_nil_of_length_pos (by omega)
    have pointed : Written (fraction m.scale m.amount.toInt.natAbs).length (sign (m.amount.toInt < 0) ++
        (Nat.toDigits 10 (m.amount.toInt.natAbs / 10 ^ m.scale) ++
          '.' :: fraction m.scale m.amount.toInt.natAbs)) :=
      .pointed _ Nat.toDigits_ne_nil (fun _ => NumberReader.isDigit_of_mem_toDigits) filled
        fun _ => isDigit_of_mem_fraction _
    rw [places] at pointed
    rw [m.toList_formatAmount_divided positive divided]
    exact pointed

/-- The whole part and the part below one make up the magnitude. -/
theorem parts_of_magnitude (scale magnitude : Nat) :
    ((magnitude / 10 ^ scale : Nat) : ℚ) + (magnitude % 10 ^ scale : Nat) / 10 ^ scale = magnitude / 10 ^ scale := by
  have exact : ((10 ^ scale * (magnitude / 10 ^ scale) + magnitude % 10 ^ scale : Nat) : ℚ) = magnitude := by
    rw [Nat.div_add_mod]
  push_cast at exact
  rw [← exact]
  field_simp

theorem decimal_toDigits (n : Int) : decimal (sign (n < 0) ++ Nat.toDigits 10 n.natAbs) = n := by
  have digits : ∀ char ∈ Nat.toDigits 10 n.natAbs, isDigit char :=
    fun _ => NumberReader.isDigit_of_mem_toDigits
  have read := NumberReader.decimal_sign (n < 0) [] Nat.toDigits_ne_nil digits
  rw [List.append_nil, NumberReader.unsigned_whole digits, NumberReader.natural_toDigits] at read
  rw [read]
  simpa using NumberReader.signed_natAbs n 1

theorem decimal_formatAmount_undivided (undivided : m.scale = 0 ∨ maxDividedScale < m.scale) :
    decimal m.formatAmount.toList = m.amount.toInt := by
  rw [m.toList_formatAmount_undivided undivided, decimal_toDigits]

theorem decimal_formatAmount (divided : m.scale ≤ maxDividedScale) : decimal m.formatAmount.toList = m.value := by
  rcases Nat.eq_zero_or_pos m.scale with zero | positive
  · rw [m.decimal_formatAmount_undivided (.inl zero), value, zero, pow_zero, div_one]
  · have digits : ∀ char ∈ Nat.toDigits 10 (m.amount.toInt.natAbs / 10 ^ m.scale), isDigit char :=
      fun _ => NumberReader.isDigit_of_mem_toDigits
    rw [m.toList_formatAmount_divided positive divided,
      NumberReader.decimal_sign _ _ Nat.toDigits_ne_nil digits, NumberReader.unsigned_pointed digits,
      NumberReader.natural_toDigits, natural_fraction, length_fraction _ positive, parts_of_magnitude,
      NumberReader.signed_natAbs, value]

theorem amount_of_formatAmount {a b : Money} (scale : a.scale = b.scale)
    (same : a.formatAmount = b.formatAmount) : a.amount = b.amount := by
  have numbers := congrArg (fun text => decimal text.toList) same
  have amounts : (a.amount.toInt : ℚ) = b.amount.toInt := by
    by_cases divided : a.scale ≤ maxDividedScale
    · rw [a.decimal_formatAmount divided, b.decimal_formatAmount (scale ▸ divided), value, value,
        ← scale] at numbers
      field_simp at numbers
      exact numbers
    · have beyond : maxDividedScale < a.scale := Nat.lt_of_not_le divided
      rwa [a.decimal_formatAmount_undivided (.inr beyond),
        b.decimal_formatAmount_undivided (.inr (scale ▸ beyond))] at numbers
  exact Int64.toInt_inj.mp (Int.cast_injective amounts)

theorem formatAmount_of_inspect {a b : Money} (currency : a.currency = b.currency)
    (same : a.inspect = b.inspect) : a.formatAmount = b.formatAmount := by
  have symbols : a.symbol? = b.symbol? := by rw [symbol?, currency, symbol?]
  unfold inspect at same
  rw [symbols, currency] at same
  split at same
  · exact String.append_right_inj _ |>.mp same
  · exact String.append_right_inj _ |>.mp same

/-- An amount that is not divided is shown without a point. -/
theorem not_written_of_undivided (beyond : maxDividedScale < m.scale) :
    ¬ Written m.scale m.formatAmount.toList := by
  intro written
  have point := written.point_mem (Nat.zero_lt_of_lt beyond)
  rw [m.toList_formatAmount_undivided (.inr beyond)] at point
  rcases List.mem_append.mp point with sign | digit
  · exact NumberReader.point_not_mem_sign _ sign
  · exact NumberReader.ne_point_of_isDigit (NumberReader.isDigit_of_mem_toDigits digit) rfl

/-- What is displayed of an amount. It is an optional minus, digits and one decimal for each place, and denotes
what the amount denotes, exactly up to the largest scale that is divided. Beyond that it is the amount itself. At
one scale and in one currency no other amount looks the same. -/
theorem display_denotes (m : Money) :
    (Written m.scale m.formatAmount.toList ∧ decimal m.formatAmount.toList = m.value ↔
      m.scale ≤ maxDividedScale) ∧
    (maxDividedScale < m.scale →
      Written 0 m.formatAmount.toList ∧ decimal m.formatAmount.toList = m.amount.toInt) ∧
    ∀ other : Money, other.currency = m.currency → other.scale = m.scale → other.inspect = m.inspect →
      other.amount = m.amount := by
  refine ⟨⟨fun ⟨written, _⟩ => ?_, fun divided => ?_⟩, fun beyond => ?_, fun other currency scale same => ?_⟩
  · exact Nat.le_of_not_lt fun beyond => m.not_written_of_undivided beyond written
  · exact ⟨m.written_formatAmount divided, m.decimal_formatAmount divided⟩
  · have written := written_toDigits (m.amount.toInt < 0) m.amount.toInt.natAbs
    rw [← m.toList_formatAmount_undivided (.inr beyond)] at written
    exact ⟨written, m.decimal_formatAmount_undivided (.inr beyond)⟩
  · exact amount_of_formatAmount scale (formatAmount_of_inspect currency same)

/-- The least amount at the largest scale that is divided, and an amount beyond it. -/
theorem display_denotes_of_least :
    let least : Money := ⟨Int64.minValue, "CHF", 19⟩
    let beyond : Money := ⟨-5, "CHF", 20⟩
    (least.scale ≤ maxDividedScale ∧ maxDividedScale < beyond.scale ∧ beyond.inspect = "CHF#-5") ∧
      least.formatAmount = "-0.9223372036854775808" ∧
      (Written 19 least.formatAmount.toList ∧ decimal least.formatAmount.toList = least.value) ∧
      (Written 0 beyond.formatAmount.toList ∧ decimal beyond.formatAmount.toList = -5) ∧
      ∀ amount : Int64, Money.inspect ⟨amount, "CHF", 19⟩ = least.inspect → amount = Int64.minValue := by
  intro least beyond
  obtain ⟨divided, -, alone⟩ := display_denotes least
  obtain ⟨-, undivided, -⟩ := display_denotes beyond
  exact ⟨⟨by decide, by decide, by decide +kernel⟩, by decide +kernel, divided.mpr (by decide),
    undivided (by decide), fun amount same => alone ⟨amount, "CHF", 19⟩ rfl rfl same⟩

/-- One minor unit at a scale of twenty-three is displayed as one. -/
theorem minor_units_displayed :
    let m : Money := ⟨1, "USD", 23⟩
    m.inspect = "$1" ∧ ¬ Written 23 m.formatAmount.toList ∧ decimal m.formatAmount.toList ≠ m.value := by
  intro m
  have shown : m.formatAmount = "1" := by decide +kernel
  refine ⟨by decide +kernel, fun written => ?_, ?_⟩
  · have point := written.point_mem (by decide)
    rw [shown] at point
    exact absurd point (by decide)
  · rw [m.decimal_formatAmount_undivided (.inr (by decide)), value]
    change ((1 : Int) : ℚ) ≠ ((1 : Int) : ℚ) / 10 ^ 23
    norm_num

end Money

end TableScript
