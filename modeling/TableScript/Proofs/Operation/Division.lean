import TableScript.Proofs.Number.Nearest
import TableScript.Proofs.Operation.Money
import TableScript.Proofs.Table.Aggregate

set_option autoImplicit false

namespace TableScript

open Rounding (HalfEven)

namespace Operation

/-- The outcome is money like the dividend or an overflow. It is the exact quotient, rounded to the nearest
amount, if the dividend has no more than 52 bits. -/
structure DividesNearest (m : Money) (divisor : Int) (outcome : Outcome) : Prop where
  shape : (∃ amount, outcome = .ok (.money (m.withAmount amount))) ∨ FailsWith "OP-0003" outcome
  nearest : m.amount.toInt.natAbs < 2 ^ 52 → ∃ amount, outcome = .ok (.money (m.withAmount amount)) ∧
    HalfEven (m.amount.toInt / divisor) amount.toInt

theorem dividesNearest_of_halfEven? {m : Money} {divisor : Double} {negative : Bool} {size : Nat}
    {exact : Int} {operation : Arithmetic} {outcome : Outcome} (rounds : divisor.Rounds negative size)
    (positive : 0 < size)
    (signed : exact = (if negative then -1 else 1) * (size : Int))
    (computed : outcome = moneyResult operation m (Rounding.halfEven? (.ofInt64 m.amount / divisor))) :
    DividesNearest m exact outcome := by
  subst computed signed
  constructor
  · cases Rounding.halfEven? (.ofInt64 m.amount / divisor) with
    | some amount => exact .inl ⟨amount, rfl⟩
    | none => exact .inr ⟨_, rfl, rfl⟩
  · intro small
    obtain ⟨amount, found, nearest⟩ := Double.halfEven?_ofInt64_div positive m.amount small rounds
    refine ⟨amount, by rw [found]; rfl, ?_⟩
    convert nearest using 2
    cases negative <;> simp

theorem DividesNearest.eq_of_one {m : Money} {outcome : Outcome} (divides : DividesNearest m 1 outcome)
    (small : m.amount.toInt.natAbs < 2 ^ 52) : outcome = .ok (.money m) := by
  obtain ⟨amount, rfl, nearest⟩ := divides.nearest small
  rw [Int.cast_one, div_one] at nearest
  rw [← Int64.toInt.inj ((Rounding.halfEven_intCast _).unique nearest)]
  rfl

theorem binary_div_nearest (m : Money) (n : Int64) (nonzero : n.toInt ≠ 0) :
    DividesNearest m n.toInt (binary (.money m) (.int n) .div) := by
  have rounds := Double.rounds_ofInt64 n nonzero
  have computed : binary (.money m) (.int n) .div =
      moneyResult .division m (Rounding.halfEven? (.ofInt64 m.amount / .ofInt64 n)) := by
    change moneyOver m (.ofInt64 n) = _
    rw [moneyOver, rounds.isZero]
    rfl
  have signed : n.toInt = (if n.toInt < 0 then -1 else 1) * (n.toInt.natAbs : Int) := by
    split <;> omega
  exact dividesNearest_of_halfEven? rounds (by omega) (by simpa using signed) computed

end Operation

namespace Aggregate

open Operation (DividesNearest)

theorem filterMap_moneyOf?_kept (values : List Value) :
    (kept false values).filterMap moneyOf? = values.filterMap moneyOf? :=
  filterMap_kept moneyOf? values fun value skipped => by cases value <;> first | rfl | cases skipped

/-- What counts in a sum of money is all money. -/
theorem kept_of_money {values : List Value} {m : Money} (unmixed : ¬ Mixed values)
    (held : .money m ∈ values) : kept false values = (values.filterMap moneyOf?).map .money := by
  have counted : ∀ value ∈ kept false values, (moneyOf? value).map .money = some value := by
    intro value member
    obtain ⟨among, counts⟩ := List.mem_filter.mp member
    cases value with
    | money => rfl
    | int => exact absurd (.inr ⟨m, _, held, among, rfl⟩) unmixed
    | float => exact absurd (.inr ⟨m, _, held, among, rfl⟩) unmixed
    | _ => cases counts
  rw [← filterMap_moneyOf?_kept, List.map_filterMap, List.filterMap_congr counted, List.filterMap_some]

theorem average_eq {table : Table Value} {column : String} {total : Money}
    (sums : sum table column = .ok (.money total)) :
    average table column = Operation.moneyResult .average total (Rounding.halfEven?
      (.ofInt64 total.amount / .ofNat ((contributions table column).filterMap moneyOf?).length)) ∧
    Totals total ((contributions table column).filterMap moneyOf?) := by
  obtain ⟨unmixed, ⟨money, ⟨⟩, found⟩ | number⟩ := sum_eq_ok table column _ sums
  · have totals := moneyTotal?_totals (fun mixed => unmixed ((mixed_kept_iff false _).mp mixed)) found
    rw [filterMap_moneyOf?_kept] at totals
    obtain ⟨m, held, -⟩ := totals.scale_mem
    have all := kept_of_money unmixed (money_mem_iff.mpr held)
    obtain ⟨gathered, -⟩ | ⟨-, mixed⟩ := gather_eq table column "avg" false
    · refine ⟨?_, totals⟩
      have some_value : (kept false (contributions table column)).isEmpty = false := by
        rw [all, List.isEmpty_map, List.isEmpty_eq_false_iff]
        exact List.ne_nil_of_mem held
      have count : (kept false (contributions table column)).length =
          ((contributions table column).filterMap moneyOf?).length := by
        rw [all, List.length_map]
      rw [average, gathered]
      simp only [bind, Except.bind, some_value, found, count]
      cases Rounding.halfEven? (.ofInt64 total.amount /
        .ofNat ((contributions table column).filterMap moneyOf?).length) <;> rfl
    · exact absurd mixed unmixed
  · exact absurd number (numberTotal_ne_money _ total)

theorem sum_of_one {table : Table Value} {column : String} {m : Money}
    (only : kept false (contributions table column) = [.money m]) : sum table column = .ok (.money m) := by
  have unmixed : ¬ Mixed (contributions table column) := by
    rw [← mixed_kept_iff false, only]
    simp [Mixed, isNumber]
  have itself : addAll [m.amountAt? m.scale] = .ok m.amount := by
    have added : Word.add? 0 m.amount = some m.amount := by
      rw [Word.add?, Int64.toInt_zero, Int.zero_add, Word.narrow?_toInt]
    rw [Money.amountAt?, if_pos (Nat.le_refl _)]
    simp [addAll, added]
  obtain ⟨gathered, -⟩ | ⟨-, mixed⟩ := gather_eq table column "sum" false
  · rw [sum, gathered, only]
    simp [moneyTotal?, moneyOf?, itself, bind, Except.bind, pure, Except.pure]
  · exact absurd mixed unmixed

theorem average_nearest {table : Table Value} {column : String} {total : Money}
    (sums : sum table column = .ok (.money total))
    (few : ((contributions table column).filterMap moneyOf?).length < 2 ^ 64) :
    DividesNearest total ((contributions table column).filterMap moneyOf?).length (average table column) := by
  obtain ⟨computed, totals⟩ := average_eq sums
  obtain ⟨m, held, -⟩ := totals.scale_mem
  have positive := List.length_pos_of_mem held
  have rounds := Double.rounds_ofNat (Nat.ne_of_gt positive) few
  exact Operation.dividesNearest_of_halfEven? rounds positive (by simp) computed

/-- Money divided by an integer and the average of money are the exact quotients rounded once, a half going to
the even amount, wherever the amount to divide has no more than 52 bits; then one divides exactly, and the
average of one amount is the amount. Beyond that the outcome is still money of the same currency and scale or
an overflow. -/
theorem money_divides_nearest (m : Money) (table : Table Value) (column : String) :
    (∀ n : Int64, n.toInt ≠ 0 →
      DividesNearest m n.toInt (Operation.binary (.money m) (.int n) .div)) ∧
    (m.amount.toInt.natAbs < 2 ^ 52 → Operation.binary (.money m) (.int 1) .div = .ok (.money m)) ∧
    (∀ total : Money, sum table column = .ok (.money total) →
      let amounts := (contributions table column).filterMap moneyOf?
      amounts.length < 2 ^ 64 →
      Totals total amounts ∧ DividesNearest total amounts.length (average table column)) ∧
    (kept false (contributions table column) = [.money m] → m.amount.toInt.natAbs < 2 ^ 52 →
      average table column = .ok (.money m)) := by
  refine ⟨Operation.binary_div_nearest m, fun small => ?_, fun total sums few => ?_, fun only small => ?_⟩
  · exact (Operation.binary_div_nearest m 1 (by decide)).eq_of_one small
  · exact ⟨(average_eq sums).2, average_nearest sums few⟩
  · have sums := sum_of_one only
    have one : (contributions table column).filterMap moneyOf? = [m] := by
      rw [← filterMap_moneyOf?_kept, only]
      rfl
    have divides := average_nearest sums (by rw [one, List.length_singleton]; decide)
    rw [one] at divides
    exact divides.eq_of_one small

/-- Seven cents over two and the average of seven and zero cents are four cents, the even neighbour; seven
over minus two is minus four. -/
theorem money_divides_nearest_of_cents :
    let cents (amount : Int64) : Money := ⟨amount, "USD", 2⟩
    let paid := single [.money (cents 7), .null, .money (cents 0)]
    let once := single [.text "n/a", .money (cents 7)]
    (((2 : Int64).toInt ≠ 0 ∧ (-2 : Int64).toInt ≠ 0 ∧ (7 : Int64).toInt.natAbs < 2 ^ 52) ∧
      Operation.binary (.money (cents 7)) (.int 2) .div = .ok (.money (cents 4)) ∧
      Operation.binary (.money (cents 7)) (.int (-2)) .div = .ok (.money (cents (-4))) ∧
      Operation.binary (.money (cents 7)) (.int 1) .div = .ok (.money (cents 7))) ∧
    (sum paid "p" = .ok (.money (cents 7)) ∧
      ((contributions paid "p").filterMap moneyOf?).length = 2 ∧
      average paid "p" = .ok (.money (cents 4))) ∧
    kept false (contributions once "p") = [.money (cents 7)] ∧
      average once "p" = .ok (.money (cents 7)) := by
  intro cents paid once
  have half : HalfEven (((7 : Int) : ℚ) / (2 : Int)) 4 := ⟨by norm_num [abs_le], fun _ => by decide⟩
  have negative : HalfEven (((7 : Int) : ℚ) / (-2 : Int)) (-4) := by
    convert half.neg using 1
    norm_num
  have same (amount expected : Int64) (exact : ℚ) (nearest : HalfEven exact amount.toInt)
      (known : HalfEven exact expected.toInt) : amount = expected :=
    Int64.toInt.inj (nearest.unique known)
  have small : (7 : Int64).toInt.natAbs < 2 ^ 52 := by decide
  have two : (2 : Int64).toInt ≠ 0 := by decide
  have minus_two : (-2 : Int64).toInt ≠ 0 := by decide
  have sums : sum paid "p" = .ok (.money (cents 7)) := by rfl
  have amounts : (contributions paid "p").filterMap moneyOf? = [cents 7, cents 0] := by rfl
  have only : kept false (contributions once "p") = [.money (cents 7)] := by rfl
  obtain ⟨divides, one, averages, -⟩ := money_divides_nearest (cents 7) paid "p"
  obtain ⟨-, -, -, single⟩ := money_divides_nearest (cents 7) once "p"
  refine ⟨⟨⟨two, minus_two, small⟩, ?_, ?_, one small⟩, ⟨sums, by rw [amounts]; rfl, ?_⟩, only,
    single only small⟩
  · obtain ⟨amount, quotient, nearest⟩ := (divides 2 two).nearest small
    rw [quotient, same amount 4 _ nearest half]
    rfl
  · obtain ⟨amount, quotient, nearest⟩ := (divides (-2) minus_two).nearest small
    rw [quotient, same amount (-4) _ nearest negative]
    rfl
  · have divides := (averages (cents 7) sums (by rw [amounts]; decide)).2
    rw [amounts] at divides
    obtain ⟨amount, quotient, nearest⟩ := divides.nearest small
    rw [quotient, same amount 4 _ nearest half]
    rfl

/-- An amount of 54 bits divided by one is another amount, and so is its average; the largest amount divided
by one overflows. -/
theorem one_changes_large_amounts :
    let cents (amount : Int64) : Money := ⟨amount, "USD", 2⟩
    Operation.binary (.money (cents 9007199254740993)) (.int 1) .div =
        .ok (.money (cents 9007199254740992)) ∧
      average (single [.money (cents 9007199254740993)]) "p" = .ok (.money (cents 9007199254740992)) ∧
      Operation.binary (.money (cents 9223372036854775807)) (.int 1) .div = .error (.overflow .division) := by
  refine ⟨?_, ?_, ?_⟩ <;> rfl

end Aggregate

end TableScript
