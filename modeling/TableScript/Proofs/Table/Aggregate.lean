import Mathlib.Algebra.BigOperators.Group.List.Basic
import TableScript.Proofs.Money.Value
import TableScript.Table.Aggregate

set_option autoImplicit false

namespace TableScript.Aggregate

/-- A text that writes a number is that number to an aggregate. -/
def numeral : Value → Value
  | .text text => (readNumber? text).getD (.text text)
  | value => value

/-- The cells of a column other than null, those that write a number as numbers. -/
def contributions (table : Table Value) (column : String) : List Value :=
  ((table.rows.map fun row => Row.cell row column).filter fun cell => !cell.isNull).map numeral

def isNumber : Value → Bool
  | .int _ => true
  | .float _ => true
  | _ => false

/-- Money of two currencies, or money and a number. -/
def Mixed (values : List Value) : Prop :=
  (∃ a b : Money, .money a ∈ values ∧ .money b ∈ values ∧ a.currency ≠ b.currency) ∨
    ∃ (a : Money) (number : Value), .money a ∈ values ∧ number ∈ values ∧ isNumber number

theorem Mixed.mono {values more : List Value} (mixed : Mixed values) (subset : ∀ value ∈ values, value ∈ more) :
    Mixed more := by
  obtain ⟨a, b, heldA, heldB, apart⟩ | ⟨a, number, heldA, held, isNumber⟩ := mixed
  · exact .inl ⟨a, b, subset _ heldA, subset _ heldB, apart⟩
  · exact .inr ⟨a, number, subset _ heldA, subset _ held, isNumber⟩

theorem money_mem_iff {values : List Value} {m : Money} :
    Value.money m ∈ values ↔ m ∈ values.filterMap moneyOf? := by
  rw [List.mem_filterMap]
  constructor
  · intro held
    exact ⟨.money m, held, rfl⟩
  · rintro ⟨value, held, found⟩
    cases value with
    | money other => exact Option.some.inj found ▸ held
    | _ => cases found

theorem isSome_head?_iff {values : List Value} :
    ((values.filterMap moneyOf?).head?.map (·.currency)).isSome ↔ ∃ m, Value.money m ∈ values := by
  rw [Option.isSome_map, List.isSome_head?]
  constructor
  · intro listed
    obtain ⟨m, held⟩ := List.exists_mem_of_ne_nil _ listed
    exact ⟨m, money_mem_iff.mpr held⟩
  · rintro ⟨m, held⟩
    exact List.ne_nil_of_mem (money_mem_iff.mp held)

/-- What the check has recorded of the values so far, among which nothing is mixed. -/
structure Seen.Records (seen : Seen) (values : List Value) : Prop where
  currency : seen.currency = (values.filterMap moneyOf?).head?.map (·.currency)
  number : seen.number = values.any isNumber
  unmixed : ¬ Mixed values

theorem records_nil : Seen.Records ⟨none, false⟩ [] where
  currency := rfl
  number := rfl
  unmixed := by simp [Mixed]

/-- What is recorded once the value is recorded, too. -/
def Seen.with (seen : Seen) (value : Value) : Seen :=
  ⟨seen.currency.or ((moneyOf? value).map (·.currency)), seen.number || isNumber value⟩

/-- Whether the value does not go with what is recorded. -/
def Seen.Refuses (seen : Seen) (value : Value) : Prop :=
  (∃ m shared, value = .money m ∧ seen.currency = some shared ∧ shared ≠ m.currency) ∨
    (seen.with value).number ∧ (seen.with value).currency.isSome

variable {seen : Seen} {values : List Value} (method column : String)

theorem accept_eq (seen : Seen) (value : Value) :
    accept method column seen value = .ok (seen.with value) ∧ ¬ seen.Refuses value ∨
      (∃ error, accept method column seen value = .error error) ∧ seen.Refuses value := by
  obtain ⟨known, numbered⟩ := seen
  simp only [accept, bind, Except.bind, pure, Except.pure, throw, throwThe, MonadExceptOf.throw, Seen.Refuses,
    Seen.with]
  cases value with
  | money m =>
    cases known with
    | none => cases numbered <;> simp [moneyOf?, isNumber]
    | some shared =>
      by_cases same : shared = m.currency <;> cases numbered <;> simp [moneyOf?, isNumber, same]
  | _ => cases known <;> cases numbered <;> simp [moneyOf?, isNumber]

section Records

variable (records : seen.Records values) (value : Value)

include records

theorem currency_with :
    (seen.with value).currency = ((values ++ [value]).filterMap moneyOf?).head?.map (·.currency) := by
  rw [List.filterMap_append, List.head?_append, Option.map_or, ← records.currency]
  cases value <;> rfl

theorem number_with : (seen.with value).number = (values ++ [value]).any isNumber := by
  simp [Seen.with, records.number]

/-- Money among the values has the recorded currency. -/
theorem currency_of_mem {m : Money} (held : .money m ∈ values) : seen.currency = some m.currency := by
  have listed := money_mem_iff.mp held
  cases moneys : values.filterMap moneyOf? with
  | nil => simp [moneys] at listed
  | cons first rest =>
    have heldFirst : .money first ∈ values := money_mem_iff.mpr (by simp [moneys])
    have same : first.currency = m.currency := by
      apply Decidable.byContradiction
      intro apart
      exact records.unmixed (.inl ⟨first, m, heldFirst, held, apart⟩)
    rw [records.currency, moneys, List.head?_cons, Option.map_some, same]

theorem mixed_append_iff : Mixed (values ++ [value]) ↔ seen.Refuses value := by
  have beside : (∃ (a : Money) (number : Value), .money a ∈ values ++ [value] ∧ number ∈ values ++ [value] ∧
      isNumber number) ↔ (seen.with value).number ∧ (seen.with value).currency.isSome := by
    rw [number_with records, currency_with records, isSome_head?_iff, List.any_eq_true]
    constructor
    · rintro ⟨a, number, money, held, numbered⟩
      exact ⟨⟨number, held, numbered⟩, a, money⟩
    · rintro ⟨⟨number, held, numbered⟩, a, money⟩
      exact ⟨a, number, money, held, numbered⟩
  have known : ∀ m : Money, .money m ∈ values ++ [value] → seen.currency = some m.currency ∨ value = .money m := by
    intro m held
    rcases List.mem_append.mp held with earlier | last
    · exact .inl (currency_of_mem records earlier)
    · exact .inr (List.mem_singleton.mp last).symm
  constructor
  · rintro (⟨a, b, heldA, heldB, apart⟩ | mixed)
    · rcases known a heldA with shared | rfl
      · rcases known b heldB with same | rfl
        · exact absurd (Option.some.inj (shared.symm.trans same)) apart
        · exact .inl ⟨b, a.currency, rfl, shared, apart⟩
      · rcases known b heldB with shared | same
        · exact .inl ⟨a, b.currency, rfl, shared, apart.symm⟩
        · cases same
          exact absurd rfl apart
    · exact .inr (beside.mp mixed)
  · rintro (⟨m, shared, rfl, recorded, apart⟩ | mixed)
    · have some : seen.currency.isSome := by simp [recorded]
      rw [records.currency] at some
      obtain ⟨first, held⟩ := isSome_head?_iff.mp some
      have same : first.currency = shared :=
        Option.some.inj ((currency_of_mem records held).symm.trans recorded)
      exact .inl ⟨first, m, List.mem_append_left _ held, List.mem_append_right _ List.mem_cons_self,
        same ▸ apart⟩
    · exact .inr (beside.mpr mixed)

theorem accept_records :
    (∃ next, accept method column seen value = .ok next ∧ next.Records (values ++ [value])) ∨
      (∃ error, accept method column seen value = .error error) ∧ Mixed (values ++ [value]) := by
  rw [mixed_append_iff records value]
  obtain ⟨accepted, unrefused⟩ | refused := accept_eq method column seen value
  · exact .inl ⟨_, accepted, currency_with records value, number_with records value,
      fun mixed => unrefused ((mixed_append_iff records value).mp mixed)⟩
  · exact .inr refused

end Records

/-- The check of a whole column. -/
theorem foldlM_accept (records : seen.Records values) (later : List Value) :
    ((∃ last, later.foldlM (accept method column) seen = .ok last) ∧ ¬ Mixed (values ++ later)) ∨
      (∃ error, later.foldlM (accept method column) seen = .error error) ∧ Mixed (values ++ later) := by
  induction later generalizing seen values with
  | nil => exact .inl ⟨⟨seen, rfl⟩, by simpa using records.unmixed⟩
  | cons value rest ih =>
    rw [List.foldlM_cons]
    obtain ⟨next, accepted, recorded⟩ | ⟨⟨error, refused⟩, mixed⟩ := accept_records method column records value
    · have later := ih recorded
      rw [List.append_assoc] at later
      rw [accepted]
      exact later
    · rw [refused]
      refine .inr ⟨⟨error, rfl⟩, mixed.mono fun held member => ?_⟩
      simp only [List.mem_append, List.mem_cons] at member ⊢
      tauto

/-- Whether a contribution counts in a sum. -/
def counts : Value → Bool
  | .money _ => true
  | value => isNumber value

/-- The contributions to an aggregate that keeps other values, or to one that skips them. -/
def kept (keepOther : Bool) (values : List Value) : List Value :=
  values.filter fun value => keepOther || counts value

theorem isNumber_of_readNumber? {text : String} {value : Value} (reads : readNumber? text = some value) :
    isNumber value := by
  simp only [readNumber?] at reads
  split at reads
  · cases reads
    rfl
  · obtain ⟨x, -, rfl⟩ := Option.map_eq_some_iff.mp reads
    rfl

theorem counts_of_isNumber {value : Value} (number : isNumber value) : counts value := by
  cases value <;> first | rfl | cases number

theorem contribution?_eq (keepOther : Bool) (cell : Value) :
    contribution? keepOther cell =
      if !cell.isNull && (keepOther || counts (numeral cell)) then some (numeral cell) else none := by
  cases cell with
  | text text =>
    cases reads : readNumber? text with
    | none => cases keepOther <;> simp [contribution?, numeral, reads, counts, isNumber, Value.isNull]
    | some value =>
      have counted := counts_of_isNumber (isNumber_of_readNumber? reads)
      simp [contribution?, numeral, reads, counted, Value.isNull]
  | _ => cases keepOther <;> rfl

theorem filterMap_contribution? (table : Table Value) (column : String) (keepOther : Bool) :
    (table.rows.filterMap fun row => contribution? keepOther (Row.cell row column)) =
      kept keepOther (contributions table column) := by
  unfold contributions
  induction table.rows with
  | nil => rfl
  | cons row rest ih =>
    rw [List.filterMap_cons, ih, contribution?_eq, kept, kept, List.map_cons, List.filter_cons]
    cases absent : (Row.cell row column).isNull with
    | true => rfl
    | false =>
      rw [Bool.not_false, Bool.true_and, if_pos rfl, List.map_cons, List.filter_cons]
      cases keepOther || counts (numeral (Row.cell row column)) <;> rfl

theorem mixed_kept_iff (keepOther : Bool) (values : List Value) : Mixed (kept keepOther values) ↔ Mixed values := by
  have keeps {value : Value} (held : value ∈ values) (counted : counts value) : value ∈ kept keepOther values :=
    List.mem_filter.mpr ⟨held, by simp [counted]⟩
  constructor
  · exact fun mixed => mixed.mono fun value held => (List.mem_filter.mp held).1
  · rintro (⟨a, b, heldA, heldB, apart⟩ | ⟨a, number, heldA, held, numbered⟩)
    · exact .inl ⟨a, b, keeps heldA rfl, keeps heldB rfl, apart⟩
    · exact .inr ⟨a, number, keeps heldA rfl, keeps held (counts_of_isNumber numbered), numbered⟩

/-- A column is gathered unless its contributions are mixed. -/
theorem gather_eq (table : Table Value) (column method : String) (keepOther : Bool) :
    gather table column method keepOther = .ok (kept keepOther (contributions table column)) ∧
        ¬ Mixed (contributions table column) ∨
      (∃ error, gather table column method keepOther = .error error) ∧ Mixed (contributions table column) := by
  rw [← mixed_kept_iff keepOther, ← filterMap_contribution?]
  simp only [gather]
  obtain ⟨⟨last, accepted⟩, unmixed⟩ | ⟨⟨error, refused⟩, mixed⟩ := foldlM_accept method column records_nil
    (table.rows.filterMap fun row => contribution? keepOther (Row.cell row column))
  · exact .inl ⟨by rw [accepted]; rfl, unmixed⟩
  · exact .inr ⟨⟨error, by rw [refused]; rfl⟩, mixed⟩

theorem gather_of_unmixed {table : Table Value} (unmixed : ¬ Mixed (contributions table column))
    (keepOther : Bool) : gather table column method keepOther = .ok (kept keepOther (contributions table column)) := by
  obtain ⟨gathered, -⟩ | ⟨-, mixed⟩ := gather_eq table column method keepOther
  · exact gathered
  · exact absurd mixed unmixed

section Sums

variable {α : Type}

theorem addAll_from (items : List α) (amount : α → Option Int64) (size : α → Int)
    (reads : ∀ item word, amount item = some word → word.toInt = size item) (start total : Int64)
    (adds : (items.map amount).foldlM
      (fun total amount =>
        match amount.bind (Word.add? total) with
        | some next => Except.ok next
        | none => .error (EvalError.overflow .sum)) start = .ok total) :
    total.toInt = start.toInt + (items.map size).sum := by
  induction items generalizing start with
  | nil =>
    cases adds
    simp
  | cons item rest ih =>
    rw [List.map_cons, List.foldlM_cons] at adds
    cases found : amount item with
    | none =>
      rw [found] at adds
      cases adds
    | some word =>
      cases sum : Word.add? start word with
      | none =>
        simp only [found, Option.bind_some, sum] at adds
        cases adds
      | some next =>
        simp only [found, Option.bind_some, sum] at adds
        have later := ih next adds
        rw [later, Word.toInt_of_narrow? _ _ sum, reads item word found, List.map_cons, List.sum_cons]
        omega

/-- What is added up without leaving the range is the exact sum. -/
theorem toInt_of_addAll (items : List α) (amount : α → Option Int64) (size : α → Int)
    (reads : ∀ item word, amount item = some word → word.toInt = size item) (total : Int64)
    (adds : addAll (items.map amount) = .ok total) : total.toInt = (items.map size).sum := by
  have sum := addAll_from items amount size reads 0 total adds
  simpa using sum

theorem le_foldl_max (amounts : List Money) (start : Nat) :
    start ≤ amounts.foldl (fun scale m => max scale m.scale) start ∧
      ∀ m ∈ amounts, m.scale ≤ amounts.foldl (fun scale m => max scale m.scale) start := by
  induction amounts generalizing start with
  | nil => simp
  | cons first rest ih =>
    obtain ⟨above, each⟩ := ih (max start first.scale)
    rw [List.foldl_cons]
    refine ⟨(Nat.le_max_left _ _).trans above, List.forall_mem_cons.mpr ⟨?_, each⟩⟩
    exact (Nat.le_max_right _ _).trans above

theorem foldl_max_mem (amounts : List Money) (start : Nat) :
    amounts.foldl (fun scale m => max scale m.scale) start = start ∨
      ∃ m ∈ amounts, m.scale = amounts.foldl (fun scale m => max scale m.scale) start := by
  induction amounts generalizing start with
  | nil => exact .inl rfl
  | cons first rest ih =>
    rw [List.foldl_cons]
    rcases ih (max start first.scale) with same | ⟨m, held, reached⟩
    · rw [same]
      rcases Nat.le_total start first.scale with below | above
      · exact .inr ⟨first, List.mem_cons_self, (Nat.max_eq_right below).symm⟩
      · exact .inl (Nat.max_eq_left above)
    · exact .inr ⟨m, List.mem_cons_of_mem _ held, reached⟩

/-- Amounts brought to one scale add up to what they denote. -/
theorem sum_worth (amounts : List Money) (scale : Nat) (reached : ∀ m ∈ amounts, m.scale ≤ scale) :
    (((amounts.map fun m => m.worth scale).sum : Int) : ℚ) = (amounts.map Money.value).sum * 10 ^ scale := by
  induction amounts with
  | nil => simp
  | cons m rest ih =>
    obtain ⟨first, later⟩ := List.forall_mem_cons.mp reached
    rw [List.map_cons, List.sum_cons, Int.cast_add, ih later, ← m.value_mul scale first, List.map_cons,
      List.sum_cons, add_mul]

/-- What a total of money is to the amounts that it is made of. -/
structure Totals (total : Money) (amounts : List Money) : Prop where
  currency : ∀ m ∈ amounts, m.currency = total.currency
  scale_le : ∀ m ∈ amounts, m.scale ≤ total.scale
  scale_mem : ∃ m ∈ amounts, m.scale = total.scale
  value : total.value = (amounts.map Money.value).sum

theorem moneyTotal?_totals {values : List Value} {total : Money} (unmixed : ¬ Mixed values)
    (found : moneyTotal? values = .ok (some total)) : Totals total (values.filterMap moneyOf?) := by
  have shared : ∀ a b : Money, a ∈ values.filterMap moneyOf? → b ∈ values.filterMap moneyOf? →
      a.currency = b.currency := by
    intro a b heldA heldB
    apply Decidable.byContradiction
    intro apart
    exact unmixed (.inl ⟨a, b, money_mem_iff.mpr heldA, money_mem_iff.mpr heldB, apart⟩)
  unfold moneyTotal? at found
  split at found
  · cases found
  next first rest amounts =>
    rw [amounts] at shared ⊢
    obtain ⟨above, each⟩ := le_foldl_max rest first.scale
    have attained := foldl_max_mem rest first.scale
    simp only [bind, Except.bind] at found
    generalize rest.foldl (fun scale m => max scale m.scale) first.scale = scale at found above each attained
    split at found
    · cases found
    next sum adds =>
      cases found
      have reached : ∀ m ∈ first :: rest, m.scale ≤ scale := List.forall_mem_cons.mpr ⟨above, each⟩
      have exact := toInt_of_addAll (first :: rest) (Money.amountAt? · scale) (Money.worth · scale)
        (fun m word => m.toInt_of_amountAt? scale word) sum adds
      refine ⟨fun m held => shared m first held List.mem_cons_self, reached, ?_, ?_⟩
      · rcases attained with own | ⟨m, held, same⟩
        · exact ⟨first, List.mem_cons_self, own.symm⟩
        · exact ⟨m, List.mem_cons_of_mem _ held, same⟩
      · rw [Money.value, exact, sum_worth _ scale reached]
        field_simp

/-- A sum that is an integer is the exact sum of the integers. -/
theorem numberTotal_exact {values : List Value} {total : Int64} (found : numberTotal values = .ok (.int total)) :
    total.toInt = ((values.filterMap integerOf?).map Int64.toInt).sum := by
  unfold numberTotal at found
  split at found
  · cases found
  · cases adds : addAll ((values.filterMap integerOf?).map some) with
    | error error =>
      rw [adds] at found
      cases found
    | ok sum =>
      rw [adds] at found
      cases found
      exact toInt_of_addAll _ some Int64.toInt (fun item word same => by cases same; rfl) _ adds

theorem numberTotal_ne_money (values : List Value) (total : Money) :
    numberTotal values ≠ .ok (.money total) := by
  unfold numberTotal
  split
  · exact nofun
  · cases addAll ((values.filterMap integerOf?).map some) <;> exact nofun

/-- A sum is a total of money if there is money, and a total of numbers otherwise. -/
theorem sum_eq_ok (table : Table Value) (column : String) (outcome : Value) (sums : sum table column = .ok outcome) :
    ¬ Mixed (contributions table column) ∧
      ((∃ total, outcome = .money total ∧ moneyTotal? (kept false (contributions table column)) = .ok (some total)) ∨
        numberTotal (kept false (contributions table column)) = .ok outcome) := by
  unfold sum at sums
  obtain ⟨gathered, unmixed⟩ | ⟨⟨error, refused⟩, -⟩ := gather_eq table column "sum" false
  · rw [gathered] at sums
    simp only [bind, Except.bind] at sums
    refine ⟨unmixed, ?_⟩
    split at sums
    · cases sums
    next found total =>
      cases found with
      | none => exact .inr sums
      | some money =>
        cases sums
        exact .inl ⟨money, rfl, total⟩
  · rw [refused] at sums
    cases sums

theorem filterMap_kept {β : Type} (read : Value → Option β) (values : List Value)
    (reads : ∀ value, counts value = false → read value = none) :
    (kept false values).filterMap read = values.filterMap read := by
  unfold kept
  rw [List.filterMap_filter]
  refine List.filterMap_congr fun value _ => ?_
  cases counted : counts value with
  | true => rfl
  | false => exact (reads value counted).symm

end Sums

theorem gather_refuses {table : Table Value} {column : String} (mixed : Mixed (contributions table column))
    (method : String) (keepOther : Bool) : ∃ error, gather table column method keepOther = .error error := by
  obtain ⟨-, unmixed⟩ | ⟨refused, -⟩ := gather_eq table column method keepOther
  · exact absurd mixed unmixed
  · exact refused

theorem aggregates_refuse {table : Table Value} {column : String} (mixed : Mixed (contributions table column)) :
    ∀ aggregate ∈ [sum, average, least, greatest], ∃ error, aggregate table column = .error error := by
  have refuses := gather_refuses mixed
  intro aggregate member
  simp only [List.mem_cons, List.not_mem_nil, or_false] at member
  rcases member with rfl | rfl | rfl | rfl
  · obtain ⟨error, refused⟩ := refuses "sum" false
    exact ⟨error, by rw [sum, refused]; rfl⟩
  · obtain ⟨error, refused⟩ := refuses "avg" false
    exact ⟨error, by rw [average, refused]; rfl⟩
  · obtain ⟨error, refused⟩ := refuses "min" true
    exact ⟨error, by rw [least, refused]; rfl⟩
  · obtain ⟨error, refused⟩ := refuses "max" true
    exact ⟨error, by rw [greatest, refused]; rfl⟩

theorem contributions_perm (table : Table Value) (column : String) {rows : List Row}
    (shuffled : rows.Perm table.rows) :
    (contributions (table.withRows rows) column).Perm (contributions table column) :=
  ((shuffled.map _).filter _).map _

/-- Mixed contributions have no aggregate, in whatever order the rows stand; all others have a least and a
greatest one. A sum of money has the currency of all amounts and the largest of their scales, and denotes the
sum of what they denote. A sum that is an integer is the exact sum of the integers. -/
theorem aggregates_sound (table : Table Value) (column : String) :
    (Mixed (contributions table column) → ∀ rows, rows.Perm table.rows →
      ∀ aggregate ∈ [sum, average, least, greatest],
        ∃ error, aggregate (table.withRows rows) column = .error error) ∧
    (¬ Mixed (contributions table column) →
      ∀ aggregate ∈ [least, greatest], ∃ value, aggregate table column = .ok value) ∧
    (∀ total, sum table column = .ok (.money total) →
      Totals total ((contributions table column).filterMap moneyOf?)) ∧
    ∀ total, sum table column = .ok (.int total) →
      total.toInt = (((contributions table column).filterMap integerOf?).map Int64.toInt).sum := by
  refine ⟨fun mixed rows shuffled => ?_, fun unmixed => ?_, fun total sums => ?_, fun total sums => ?_⟩
  · exact aggregates_refuse (mixed.mono fun value => (contributions_perm table column shuffled).mem_iff.mpr)
  · intro aggregate member
    simp only [List.mem_cons, List.not_mem_nil, or_false] at member
    rcases member with rfl | rfl
    · exact ⟨_, by rw [least, gather_of_unmixed _ _ unmixed]; rfl⟩
    · exact ⟨_, by rw [greatest, gather_of_unmixed _ _ unmixed]; rfl⟩
  · obtain ⟨unmixed, ⟨money, ⟨⟩, found⟩ | number⟩ := sum_eq_ok table column _ sums
    · rw [← filterMap_kept moneyOf? _ fun value skipped => by cases value <;> first | rfl | cases skipped]
      exact moneyTotal?_totals (fun mixed => unmixed ((mixed_kept_iff false _).mp mixed)) found
    · exact absurd number (numberTotal_ne_money _ total)
  · obtain ⟨-, ⟨money, ⟨⟩, -⟩ | number⟩ := sum_eq_ok table column _ sums
    rw [← filterMap_kept integerOf? _ fun value skipped => by cases value <;> first | rfl | cases skipped]
    exact numberTotal_exact number

/-- A table with one column. -/
def single (cells : List Value) : Table Value := .plain ["p"] (cells.map fun cell => ⟨[("p", cell)]⟩)

/-- A price beside a written number has no average, neither before it nor after it. Prices at two scales, a
text and a null have a sum and a least value; an integer, a written one and a truth value have a sum. -/
theorem aggregates_sound_of_prices :
    let mixed := single [.text " 42 ", .null, .money ⟨5, "USD", 0⟩]
    let prices := single [.money ⟨150, "USD", 2⟩, .text "n/a", .null, .money ⟨-5, "USD", 4⟩]
    let counted := single [.int 1, .text "2", .bool true]
    (Mixed (contributions mixed "p") ∧
      ∃ error, average (single [.money ⟨5, "USD", 0⟩, .text " 42 ", .null]) "p" = .error error) ∧
    (¬ Mixed (contributions prices "p") ∧ ∃ value, least prices "p" = .ok value) ∧
    (sum prices "p" = .ok (.money ⟨14995, "USD", 4⟩) ∧
      Totals ⟨14995, "USD", 4⟩ [⟨150, "USD", 2⟩, ⟨-5, "USD", 4⟩]) ∧
    sum counted "p" = .ok (.int 3) ∧ (3 : Int64).toInt = [1, 2].sum := by
  intro mixed prices counted
  have both : Mixed (contributions mixed "p") := by
    have seen : contributions mixed "p" = [.int 42, .money ⟨5, "USD", 0⟩] := by rfl
    rw [seen]
    exact .inr ⟨⟨5, "USD", 0⟩, .int 42, by simp, by simp, rfl⟩
  have unmixed : ¬ Mixed (contributions prices "p") := by
    have seen : contributions prices "p" =
        [.money ⟨150, "USD", 2⟩, .text "n/a", .money ⟨-5, "USD", 4⟩] := by rfl
    rw [seen]
    simp [Mixed, isNumber]
  have total : sum prices "p" = .ok (.money ⟨14995, "USD", 4⟩) := by rfl
  have three : sum counted "p" = .ok (.int 3) := by rfl
  have rows : (single [.money ⟨5, "USD", 0⟩, .text " 42 ", .null]).rows.Perm mixed.rows :=
    @List.perm_append_comm _ [_] [_, _]
  exact ⟨⟨both, (aggregates_sound mixed "p").1 both _ rows average (by simp)⟩,
    ⟨unmixed, (aggregates_sound prices "p").2.1 unmixed least (by simp)⟩,
    ⟨total, (aggregates_sound prices "p").2.2.1 _ total⟩, three, (aggregates_sound counted "p").2.2.2 _ three⟩

end TableScript.Aggregate
