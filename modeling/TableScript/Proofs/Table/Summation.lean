import Mathlib.Algebra.Order.BigOperators.Group.List
import Mathlib.Data.Set.List
import TableScript.Proofs.Table.Aggregate

set_option autoImplicit false

namespace TableScript.Aggregate

/-- The contributions that a sum adds up. -/
def summands (table : Table Value) (column : String) : List Value := kept false (contributions table column)

/-- All integers, or all money of one currency. -/
def Uniform (values : List Value) : Prop :=
  (∀ value ∈ values, ∃ n, value = .int n) ∨
    ∃ currency, ∀ value ∈ values, ∃ m : Money, value = .money m ∧ m.currency = currency

/-- The largest scale of money among the values. -/
def topScale (values : List Value) : Nat :=
  (values.filterMap moneyOf?).foldl (fun scale m => max scale m.scale) 0

/-- What a value adds to a total at a scale, if it reaches that scale. -/
def addend? (scale : Nat) : Value → Option Int64
  | .int n => some n
  | .money m => m.amountAt? scale
  | _ => none

/-- What a value adds to a total, without a bound. -/
def measure (scale : Nat) : Value → Int
  | .int n => n.toInt
  | .money m => m.worth scale
  | _ => 0

/-- The exact total of the values, in minor units of the largest scale where they are money. -/
def total (values : List Value) : Int := (values.map (measure (topScale values))).sum

/-- The sum that shows a total: an integer, or money if the values are money. -/
def shown (values : List Value) (amount : Int64) : Value :=
  match (values.filterMap moneyOf?).head? with
  | some first => .money ⟨amount, first.currency, topScale values⟩
  | none => .int amount

/-- Adding up the values one by one goes through: each of them reaches the scale, and no running total leaves
the 64 bits. -/
structure Stays (scale : Nat) (start : Int) (values : List Value) : Prop where
  reached : ∀ value ∈ values, (addend? scale value).isSome
  running : ∀ front, front <+: values → Word.Fits (start + (front.map (measure scale)).sum)

/-- The outcome of adding up values of one kind in some order: their exact total, or an overflow if adding them up
in that order does not go through. -/
def Adds (values order : List Value) (outcome : Except EvalError Value) : Prop :=
  Stays (topScale values) 0 order ∧ Word.Fits (total values) ∧
      outcome = .ok (shown values (Int64.ofInt (total values))) ∨
    ¬ Stays (topScale values) 0 order ∧ outcome = .error (.overflow .sum)

theorem toInt_of_addend? {scale : Nat} {value : Value} {word : Int64} (found : addend? scale value = some word) :
    word.toInt = measure scale value := by
  cases value with
  | int n =>
      obtain rfl := Option.some.inj found
      rfl
  | money m => exact m.toInt_of_amountAt? scale word found
  | _ => cases found

section Running

variable {scale : Nat} {start : Int} {value : Value} {rest values order : List Value}

/-- The first value is added, and the others are added to what it makes. -/
theorem stays_cons : Stays scale start (value :: rest) ↔
    Word.Fits start ∧ (addend? scale value).isSome ∧ Stays scale (start + measure scale value) rest := by
  constructor
  · rintro ⟨reached, running⟩
    obtain ⟨here, later⟩ := List.forall_mem_cons.mp reached
    refine ⟨by simpa using running [] List.nil_prefix, here, later, ?_⟩
    intro front inside
    have longer := running (value :: front) ((List.prefix_cons_inj value).mpr inside)
    simpa [Int.add_assoc] using longer
  · rintro ⟨fits, here, reached, running⟩
    refine ⟨List.forall_mem_cons.mpr ⟨here, reached⟩, ?_⟩
    intro front inside
    cases front with
    | nil => simpa using fits
    | cons first front =>
        obtain ⟨rfl, shorter⟩ := List.cons_prefix_cons.mp inside
        simpa [Int.add_assoc] using running front shorter

theorem Stays.fits (stays : Stays scale start values) :
    Word.Fits (start + (values.map (measure scale)).sum) := stays.running values (List.prefix_refl values)

/-- The sum of a whole column from any running total. -/
theorem foldlM_addends (scale : Nat) (values : List Value) (start : Int64) :
    let added := (values.map (addend? scale)).foldlM
      (fun total amount =>
        match amount.bind (Word.add? total) with
        | some next => Except.ok next
        | none => .error (EvalError.overflow .sum)) start
    Stays scale start.toInt values ∧
        added = .ok (Int64.ofInt (start.toInt + (values.map (measure scale)).sum)) ∨
      ¬ Stays scale start.toInt values ∧ added = .error (.overflow .sum) := by
  induction values generalizing start with
  | nil =>
      apply Or.inl
      refine ⟨⟨List.forall_mem_nil _, ?_⟩, by simp [pure, Except.pure]⟩
      intro front inside
      rw [List.prefix_nil.mp inside]
      simpa using Word.fits_toInt start
  | cons value rest ih =>
      simp only [List.map_cons, List.foldlM_cons, stays_cons, Word.fits_toInt, true_and, List.sum_cons]
      cases found : addend? scale value with
      | none => exact Or.inr ⟨by simp, rfl⟩
      | some word =>
          have exact := toInt_of_addend? found
          simp only [Option.bind_some, Option.isSome_some, true_and]
          cases sum : Word.add? start word with
          | none =>
              have outside := (Word.narrow?_eq_none_iff _).mp sum
              rw [exact] at outside
              refine Or.inr ⟨?_, rfl⟩
              intro stays
              exact outside (by simpa using stays.running [] List.nil_prefix)
          | some next =>
              have level : next.toInt = start.toInt + measure scale value := by
                rw [Word.toInt_of_narrow? _ _ sum, exact]
              have later := ih next
              rw [level, Int.add_assoc] at later
              exact later

theorem sum_le_zero (negative : ∀ value ∈ values, measure scale value ≤ 0) :
    (values.map (measure scale)).sum ≤ 0 := by
  have bound := List.sum_le_card_nsmul (values.map (measure scale)) 0 (by simpa using negative)
  simpa using bound

/-- Values of one sign only leave the range if their total does. -/
theorem stays_of_sign (reached : ∀ value ∈ values, (addend? scale value).isSome)
    (fits : Word.Fits ((values.map (measure scale)).sum))
    (sign : (∀ value ∈ values, 0 ≤ measure scale value) ∨ ∀ value ∈ values, measure scale value ≤ 0) :
    Stays scale 0 values := by
  refine ⟨reached, ?_⟩
  rintro front ⟨back, rfl⟩
  simp only [List.map_append, List.sum_append] at fits ⊢
  obtain ⟨low, high⟩ := fits
  simp only [Word.Fits, Word.least, Word.greatest] at low high ⊢
  rcases sign with positive | negative
  · have first : 0 ≤ (front.map (measure scale)).sum := by
      apply List.sum_nonneg
      simp only [List.forall_mem_map]
      exact fun value member => positive value (List.mem_append_left back member)
    have second : 0 ≤ (back.map (measure scale)).sum := by
      apply List.sum_nonneg
      simp only [List.forall_mem_map]
      exact fun value member => positive value (List.mem_append_right front member)
    omega
  · have first : (front.map (measure scale)).sum ≤ 0 := by
      apply sum_le_zero
      exact fun value member => negative value (List.mem_append_left back member)
    have second : (back.map (measure scale)).sum ≤ 0 := by
      apply sum_le_zero
      exact fun value member => negative value (List.mem_append_right front member)
    omega

/-- Whether values of one sign stay within the range does not depend on their order. -/
theorem Stays.perm_of_sign (stays : Stays scale 0 order) (shuffled : order.Perm values)
    (sign : (∀ value ∈ values, 0 ≤ measure scale value) ∨ ∀ value ∈ values, measure scale value ≤ 0) :
    Stays scale 0 values := by
  have fits := stays.fits
  rw [Int.zero_add, (shuffled.map (measure scale)).sum_eq] at fits
  exact stays_of_sign (fun value member => stays.reached value (shuffled.mem_iff.mpr member)) fits sign

end Running

section Uniformity

variable {values order : List Value}

theorem filterMap_money (amounts : List Money) : (amounts.map Value.money).filterMap moneyOf? = amounts := by
  rw [List.filterMap_map]
  exact List.filterMap_some

theorem filterMap_integers (numbers : List Int64) : (numbers.map Value.int).filterMap moneyOf? = [] := by
  simp [moneyOf?]

theorem Uniform.perm (uniform : Uniform values) (shuffled : order.Perm values) : Uniform order := by
  rcases uniform with integers | ⟨currency, moneys⟩
  · exact .inl fun value member => integers value (shuffled.mem_iff.mp member)
  · exact .inr ⟨currency, fun value member => moneys value (shuffled.mem_iff.mp member)⟩

theorem Uniform.unmixed (uniform : Uniform values) : ¬ Mixed values := by
  rintro (⟨a, b, heldA, heldB, apart⟩ | ⟨a, number, heldA, held, numbered⟩)
  · rcases uniform with integers | ⟨currency, moneys⟩
    · obtain ⟨n, ⟨⟩⟩ := integers _ heldA
    · obtain ⟨first, ⟨⟩, sharedA⟩ := moneys _ heldA
      obtain ⟨second, ⟨⟩, sharedB⟩ := moneys _ heldB
      exact apart (sharedA.trans sharedB.symm)
  · rcases uniform with integers | ⟨currency, moneys⟩
    · obtain ⟨n, ⟨⟩⟩ := integers _ heldA
    · obtain ⟨m, rfl, -⟩ := moneys _ held
      cases numbered

theorem exists_map {α : Type} {make : α → Value} (each : ∀ value ∈ values, ∃ item, value = make item) :
    ∃ items : List α, items.map make = values := by
  have inside : values ∈ Set.range (List.map make) := by
    rw [Set.range_list_map]
    intro value member
    obtain ⟨item, same⟩ := each value member
    exact ⟨item, same.symm⟩
  exact inside

/-- The values are all integers, or money of one currency with a first amount. -/
theorem Uniform.cases (uniform : Uniform values) :
    (∃ numbers : List Int64, numbers.map .int = values) ∨
      ∃ first rest, (first :: rest).map .money = values ∧
        ∀ m ∈ first :: rest, m.currency = first.currency := by
  rcases uniform with integers | ⟨currency, moneys⟩
  · exact .inl (exists_map integers)
  · obtain ⟨amounts, rfl⟩ := exists_map fun value member => (moneys value member).imp fun _ money => money.1
    have shared : ∀ m ∈ amounts, m.currency = currency := by
      intro m member
      obtain ⟨other, ⟨⟩, same⟩ := moneys _ (List.mem_map_of_mem member)
      exact same
    cases amounts with
    | nil => exact .inl ⟨[], rfl⟩
    | cons first rest =>
        refine .inr ⟨first, rest, rfl, ?_⟩
        intro m member
        rw [shared m member, shared first List.mem_cons_self]

theorem topScale_perm (shuffled : order.Perm values) : topScale order = topScale values := by
  have commutes : RightCommutative fun (scale : Nat) (m : Money) => max scale m.scale :=
    ⟨fun scale a b => by omega⟩
  exact (shuffled.filterMap moneyOf?).foldl_eq 0

theorem total_perm (shuffled : order.Perm values) : total order = total values := by
  rw [total, total, topScale_perm shuffled]
  exact (shuffled.map _).sum_eq

/-- The currency is the same whichever amount comes first. -/
theorem shown_perm (uniform : Uniform values) (shuffled : order.Perm values) (amount : Int64) :
    shown order amount = shown values amount := by
  have moneys := shuffled.filterMap moneyOf?
  unfold shown
  rw [topScale_perm shuffled]
  rcases uniform.cases with ⟨numbers, rfl⟩ | ⟨first, rest, rfl, shared⟩
  · rw [filterMap_integers] at moneys ⊢
    rw [moneys.eq_nil]
  · rw [filterMap_money] at moneys ⊢
    cases found : order.filterMap moneyOf? with
    | nil =>
        rw [found] at moneys
        exact absurd moneys.nil_eq (List.cons_ne_nil first rest).symm
    | cons other others =>
        have member : other ∈ first :: rest := moneys.mem_iff.mp (by simp [found])
        simp [shared other member]

end Uniformity

section Outcome

variable {table : Table Value} {column : String}

theorem numberTotal_integers (numbers : List Int64) :
    numberTotal (numbers.map .int) = (addAll (numbers.map some)).map .int := by
  have plain : (numbers.map Value.int).any isFloat = false := by simp [isFloat]
  have same : (numbers.map Value.int).filterMap integerOf? = numbers := by
    rw [List.filterMap_map]
    exact List.filterMap_some
  rw [numberTotal, plain, same]
  rfl

theorem moneyTotal?_money (first : Money) (rest : List Money) :
    moneyTotal? ((first :: rest).map .money) =
      (addAll (((first :: rest).map Value.money).map
        (addend? (topScale ((first :: rest).map .money))))).map fun amount =>
          some ⟨amount, first.currency, topScale ((first :: rest).map .money)⟩ := by
  have scale : rest.foldl (fun scale m => max scale m.scale) first.scale =
      topScale ((first :: rest).map .money) := by
    rw [topScale, filterMap_money, List.foldl_cons, Nat.zero_max]
  unfold moneyTotal?
  rw [filterMap_money]
  simp only [scale, List.map_map]
  rfl

/-- A sum adds up the summands and shows the total. -/
theorem sum_eq_map (uniform : Uniform (summands table column)) :
    sum table column =
      (addAll ((summands table column).map (addend? (topScale (summands table column))))).map
        (shown (summands table column)) := by
  have unmixed : ¬ Mixed (contributions table column) :=
    fun mixed => uniform.unmixed ((mixed_kept_iff false _).mpr mixed)
  have sums : sum table column = moneyTotal? (summands table column) >>= fun
      | some total => pure (.money total)
      | none => numberTotal (summands table column) := by
    rw [sum, gather_of_unmixed _ _ unmixed]
    rfl
  rw [sums]
  rcases uniform.cases with ⟨numbers, same⟩ | ⟨first, rest, same, -⟩
  · rw [← same]
    have none : moneyTotal? (numbers.map .int) = .ok none := by
      rw [moneyTotal?, filterMap_integers]
    have addends : (numbers.map Value.int).map (addend? (topScale (numbers.map .int))) = numbers.map some := by
      simp [addend?]
    have integers : shown (numbers.map .int) = .int := by
      funext amount
      rw [shown, filterMap_integers]
      rfl
    rw [none, addends, integers, ← numberTotal_integers]
    rfl
  · rw [← same, moneyTotal?_money]
    have money : ∀ amount, shown ((first :: rest).map .money) amount =
        .money ⟨amount, first.currency, topScale ((first :: rest).map .money)⟩ := by
      intro amount
      rw [shown, filterMap_money]
      rfl
    cases addAll (((first :: rest).map Value.money).map (addend? (topScale ((first :: rest).map .money)))) with
    | error error => rfl
    | ok amount => exact congrArg Except.ok (money amount).symm

/-- A column is added up to its exact total, or overflows where a running total does. -/
theorem sum_adds (uniform : Uniform (summands table column)) :
    Adds (summands table column) (summands table column) (sum table column) := by
  have added := foldlM_addends (topScale (summands table column)) (summands table column) 0
  simp only [Int64.toInt_zero, Int.zero_add] at added
  rw [sum_eq_map uniform]
  rcases added with ⟨stays, reaches⟩ | ⟨leaves, overflows⟩
  · have fits := stays.fits
    rw [Int.zero_add] at fits
    exact .inl ⟨stays, fits, congrArg (Except.map _) reaches⟩
  · exact .inr ⟨leaves, congrArg (Except.map _) overflows⟩

end Outcome

theorem summands_perm (table : Table Value) (column : String) {rows : List Row}
    (shuffled : rows.Perm table.rows) :
    (summands (table.withRows rows) column).Perm (summands table column) :=
  (contributions_perm table column shuffled).filter _

theorem Adds.eq_iff {values first second : List Value} {outcome other : Except EvalError Value}
    (adds : Adds values first outcome) (also : Adds values second other) :
    outcome = other ↔ (Stays (topScale values) 0 first ↔ Stays (topScale values) 0 second) := by
  rcases adds with ⟨stays, -, rfl⟩ | ⟨leaves, rfl⟩ <;> rcases also with ⟨stays', -, rfl⟩ | ⟨leaves', rfl⟩ <;>
    simp [*]

/-- What the order of the rows means for a sum of integers, or of money of one currency. In every order it is
the exact total, which does not depend on the order, or an overflow, and this where and only where an amount
does not reach the largest scale or a running total of that order leaves the 64 bits. So two orders have the
same outcome if and only if both go through or neither does, and all orders have the same outcome if the
summands are of one sign, if their total leaves the range or if one of them does not reach the scale. -/
theorem sum_of_orders (table : Table Value) (column : String) (uniform : Uniform (summands table column))
    (rows : List Row) (shuffled : rows.Perm table.rows) :
    let values := summands table column
    let order := summands (table.withRows rows) column
    let scale := topScale values
    Adds values order (sum (table.withRows rows) column) ∧
    (sum (table.withRows rows) column = sum table column ↔ (Stays scale 0 order ↔ Stays scale 0 values)) ∧
    ((∀ value ∈ values, 0 ≤ measure scale value) ∨ (∀ value ∈ values, measure scale value ≤ 0) ∨
        ¬ Word.Fits (total values) ∨ (∃ value ∈ values, addend? scale value = none) →
      sum (table.withRows rows) column = sum table column) := by
  intro values order scale
  have moved : order.Perm values := summands_perm table column shuffled
  have here : Adds values values (sum table column) := sum_adds uniform
  have there : Adds values order (sum (table.withRows rows) column) := by
    have turned : Adds order order (sum (table.withRows rows) column) := sum_adds (uniform.perm moved)
    rw [Adds, topScale_perm moved, total_perm moved, shown_perm uniform moved] at turned
    exact turned
  have same := there.eq_iff here
  refine ⟨there, same, ?_⟩
  intro alike
  apply same.mpr
  have bySign (sign : (∀ value ∈ values, 0 ≤ measure scale value) ∨ ∀ value ∈ values, measure scale value ≤ 0) :
      Stays scale 0 order ↔ Stays scale 0 values := by
    constructor
    · exact fun stays => stays.perm_of_sign moved sign
    · intro stays
      apply stays.perm_of_sign moved.symm
      simpa only [moved.mem_iff] using sign
  have neither (never : ∀ other : List Value, other.Perm values → ¬ Stays scale 0 other) :
      Stays scale 0 order ↔ Stays scale 0 values :=
    iff_of_false (never order moved) (never values (.refl values))
  rcases alike with positive | negative | outside | ⟨value, member, missing⟩
  · exact bySign (.inl positive)
  · exact bySign (.inr negative)
  · apply neither
    intro other turned stays
    have fits := stays.fits
    rw [Int.zero_add, (turned.map (measure scale)).sum_eq] at fits
    exact outside fits
  · apply neither
    intro other turned stays
    have reached := stays.reached value (turned.mem_iff.mpr member)
    simp [missing] at reached

/-- Debts at two scales add up alike in any order. -/
theorem sum_of_orders_of_debts :
    let debts := single [.money ⟨-150, "USD", 2⟩, .text "n/a", .null, .money ⟨-5, "USD", 4⟩]
    let turned := single [.null, .money ⟨-5, "USD", 4⟩, .money ⟨-150, "USD", 2⟩, .text "n/a"]
    Uniform (summands debts "p") ∧ turned.rows.Perm debts.rows ∧
      (∀ value ∈ summands debts "p", measure (topScale (summands debts "p")) value ≤ 0) ∧
      sum turned "p" = sum debts "p" ∧ sum debts "p" = .ok (.money ⟨-15005, "USD", 4⟩) := by
  intro debts turned
  have seen : summands debts "p" = [.money ⟨-150, "USD", 2⟩, .money ⟨-5, "USD", 4⟩] := by rfl
  have uniform : Uniform (summands debts "p") := by
    rw [seen]
    apply Or.inr
    refine ⟨"USD", ?_⟩
    simp
  have shuffled : turned.rows.Perm debts.rows := @List.perm_append_comm _ [_, _] [_, _]
  have negative : ∀ value ∈ summands debts "p", measure (topScale (summands debts "p")) value ≤ 0 := by
    rw [seen]
    decide
  refine ⟨uniform, shuffled, negative, ?_, by rfl⟩
  exact (sum_of_orders debts "p" uniform turned.rows shuffled).2.2 (.inr (.inl negative))

/-- The largest integer, one and minus one: in this order the second running total leaves the range, though the
total does not, and in the other order none does. -/
theorem sum_overflows_on_the_way :
    let rising := single [.int 9223372036854775807, .int 1, .int (-1)]
    let falling := single [.int 9223372036854775807, .int (-1), .int 1]
    Uniform (summands rising "p") ∧ falling.rows.Perm rising.rows ∧
      sum rising "p" = .error (.overflow .sum) ∧ sum falling "p" = .ok (.int 9223372036854775807) := by
  intro rising falling
  have seen : summands rising "p" = [.int 9223372036854775807, .int 1, .int (-1)] := by rfl
  refine ⟨?_, ?_, by rfl, by rfl⟩
  · rw [seen]
    apply Or.inl
    simp
  · exact .cons _ (.swap _ _ _)

end TableScript.Aggregate
