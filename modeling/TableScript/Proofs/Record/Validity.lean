import TableScript.Proofs.Schema.Shape

set_option autoImplicit false

namespace TableScript

/-- A record that counts as valid has no errors when its data is validated again. -/
def Record.Vouched (record : Record Value) : Prop := record.isValid = true → record.validate.errors = .empty

/-- Neither validated nor given an error. -/
def Record.Unchecked (record : Record Value) : Prop := record.validated = false ∧ record.errors = .empty

/-- A record is unchecked. Other values have nothing to check. -/
def Value.Unchecked : Value → Prop
  | .record _ held => held.Unchecked
  | _ => True

section Numbering

theorem Row.Settles.cell {old new : Row} (settled : Row.Settles old new) (column : String) :
    (Row.cell old column).Settles (Row.cell new column) := by
  obtain ⟨before⟩ := old
  obtain ⟨after⟩ := new
  simp only [Row.Settles, Row.cell, Dictionary.get?] at settled ⊢
  induction settled with
  | nil => exact ⟨0, rfl⟩
  | @cons first second _ _ same _ ih =>
      obtain ⟨key, value⟩ := first
      obtain ⟨later, numbered⟩ := second
      obtain ⟨rfl, settles⟩ := same
      simp only [List.lookup_cons]
      split
      · exact settles
      · exact ih

namespace Validation

/-- Values that hold others. -/
inductive Compound : Value → Prop
  | array (handle : Handle) (items : List Value) : Compound (.array handle items)
  | dict (handle : Handle) (entries : Dictionary (Entry Value)) : Compound (.dict handle entries)
  | table (handle : Handle) (held : Table Value) : Compound (.table handle held)
  | record (handle : Handle) (held : Record Value) : Compound (.record handle held)

theorem acceptsKind_compound {value : Value} (compound : Compound value) (family : TypeFamily) :
    acceptsKind family value = acceptsKind family .null := by
  cases compound <;> cases family <;> rfl

/-- The rules after the first look at numbers and texts only. -/
theorem valueRules_compound {value : Value} (compound : Compound value) (field : Field Value) :
    ∀ rule ∈ valueRules.tail, rule field value = none := by
  have unformatted : formatRule field value = none := by
    unfold formatRule
    split
    · cases compound
    · rfl
  have unmatched : patternRule field value = none := by
    unfold patternRule
    split
    · cases compound
    · rfl
  have unlisted : lowerRule field value = none ∧ upperRule field value = none ∧ enumRule field value = none := by
    cases compound <;> exact ⟨rfl, rfl, rfl⟩
  simp [valueRules, unformatted, unmatched, unlisted]

theorem check_compound {value : Value} (compound : Compound value) (field : Field Value) :
    check field value = typeRule field .null := by
  have present : value.isNull = false := by cases compound <;> rfl
  have others := List.findSome?_eq_none_iff.mpr (valueRules_compound compound field)
  have first : typeRule field value = typeRule field .null := by
    rw [typeRule, typeRule, acceptsKind_compound compound]
  have split : valueRules = typeRule :: valueRules.tail := rfl
  rw [check, present, if_neg Bool.false_ne_true, split, List.findSome?_cons, others, first]
  cases typeRule field .null <;> rfl

theorem check_settles {old new : Value} (settled : old.Settles new) (field : Field Value) :
    check field new = check field old := by
  cases settled.numbered with
  | same => rfl
  | array => rw [check_compound (.array _ _), check_compound (.array _ _)]
  | dict => rw [check_compound (.dict _ _), check_compound (.dict _ _)]
  | table => rw [check_compound (.table _ _), check_compound (.table _ _)]
  | record => rw [check_compound (.record _ _), check_compound (.record _ _)]

theorem errors_settles {old new : Row} (settled : Row.Settles old new) (binding : Schema Value) :
    errors binding new = errors binding old := by
  have same : ∀ field : Field Value,
      check field (Row.cell new field.name) = check field (Row.cell old field.name) :=
    fun field => check_settles (settled.cell field.name) field
  simp only [errors, same]

end Validation

theorem Value.Unchecked.settles {old new : Value} (settled : old.Settles new) (unchecked : old.Unchecked) :
    new.Unchecked := by
  cases settled.numbered with
  | same | record => exact unchecked
  | array | dict | table => trivial

end Numbering

section Validity

theorem FieldErrors.insertSorted_ne_nil (field : String) (error : FieldError)
    (pairs : List (String × FieldError)) : insertSorted field error pairs ≠ [] := by
  cases pairs with
  | nil => nofun
  | cons pair rest =>
      unfold insertSorted
      split
      · nofun
      · split <;> nofun

namespace Record

theorem unchecked_fresh (binding : Schema Value) (data : Row) : (fresh binding data).Unchecked := ⟨rfl, rfl⟩

theorem Unchecked.vouched {record : Record Value} (unchecked : record.Unchecked) : record.Vouched := by
  intro valid
  rw [isValid, unchecked.1] at valid
  cases valid

/-- A record with an attached error is not valid. -/
theorem isValid_withError (record : Record Value) (field : String) (error : FieldError) :
    (record.withError field error).isValid = false := by
  have some := FieldErrors.insertSorted_ne_nil field error record.errors.entries
  simpa [isValid, withError, withValidation, FieldErrors.set, Dictionary.isEmpty] using some

theorem errors_of_isValid {record : Record Value} (valid : record.isValid = true) : record.errors = .empty := by
  have none := (Bool.and_eq_true_iff.mp valid).2
  exact congrArg Dictionary.mk (List.isEmpty_iff.mp none)

end Record

/-- Every valid record can be validated again; nothing is asked of other values. -/
def Law.validity : Law where
  cell _ := True
  schema _ := True
  record := Record.Vouched
  table _ := True

theorem Law.validity_kept : validity.Upheld where
  complete _ := trivial
  cellSettles _ _ := trivial
  declare _ := trivial
  recordSettles settled vouched valid :=
    (Validation.errors_settles settled _).trans (vouched valid)
  tableSettles _ _ := trivial
  create data _ := (Record.unchecked_fresh _ _).vouched
  refresh _ := (Record.unchecked_fresh _ _).vouched
  assign _ _ _ := (Record.unchecked_fresh _ _).vouched
  -- Validating twice gives the errors of the same data.
  validate _ valid := Record.errors_of_isValid valid
  withError field error _ valid := by
    rw [Record.isValid_withError] at valid
    cases valid
  row _ _ _ := (Record.unchecked_fresh _ _).vouched
  unbound _ := trivial
  bound _ _ _ _ := trivial
  grow _ _ _ _ := trivial

end Validity

section Unchecked

/-- A record of the schema that is unchecked. -/
def Method.Renewed (binding : Schema Value) (value : Value) : Prop :=
  ∃ handle made, value = .record handle made ∧ made.schema = binding ∧ made.Unchecked

namespace Method

theorem Renewed.fresh (binding : Schema Value) (data : Row) : Renewed binding (.ofRecord (.fresh binding data)) :=
  ⟨none, _, rfl, rfl, Record.unchecked_fresh binding data⟩

theorem Renewed.settles {binding : Schema Value} {old new : Value} (settled : old.Settles new)
    (renewed : Renewed binding old) : Renewed binding new := by
  obtain ⟨handle, made, rfl, bound, unchecked⟩ := renewed
  cases settled.numbered with
  | same | record => exact ⟨_, _, rfl, bound, unchecked⟩

/-- The methods of a record that give one with other data. -/
def changing : List String := ["set", "update"]

theorem setField_renewed (record : Record Value) (field : String) (value : Value) :
    Gives (fun made => Renewed record.schema (.ofRecord made)) (record.setField field value) := by
  unfold Record.setField
  split
  · exact gives_ok.mpr (Renewed.fresh _ _)
  · exact gives_error _

theorem changing_renewed (run : Evaluator) (handle : Handle) (record : Record Value) {name : String}
    (args : List Value) (changes : name ∈ changing) :
    Makes (Renewed record.schema) (invoke run (.record handle record) name args) := by
  simp only [changing, List.mem_cons, List.not_mem_nil, or_false] at changes
  rcases changes with rfl | rfl
  · refine Eval.check_yields fun _ _ => Eval.check_yields fun field _ => ?_
    cases record.schema.field? field with
    | none => exact Eval.fail_yields _
    | some declared =>
        refine (makes_any _).bind fun value _ => ?_
        refine (Eval.outcome_yields (setField_renewed record field _)).bind fun made renewed => ?_
        exact yields_pure renewed
  · refine Eval.check_yields fun _ _ => Eval.check_yields fun changes _ => ?_
    refine (makes_any _).bind fun row _ => ?_
    exact yields_pure (Renewed.fresh _ _)

/-- What a schema makes of its argument: a record that is unchecked, or a table with the schema. -/
def Bound (binding : Schema Value) (value : Value) : Prop :=
  Renewed binding value ∨ ∃ handle made, value = .table handle made ∧ made.schema = some binding

theorem Bound.settles {binding : Schema Value} {old new : Value} (settled : old.Settles new)
    (bound : Bound binding old) : Bound binding new := by
  rcases bound with renewed | ⟨handle, made, rfl, same⟩
  · exact .inl (renewed.settles settled)
  · cases settled.numbered with
    | same | table => exact .inr ⟨_, _, rfl, same⟩

theorem call_bound (run : Evaluator) (binding : Schema Value) (args : List Value) :
    Makes (Bound binding) (run.call (.schema binding) args) := by
  have tabled (made : Table Value) (same : made.schema = some binding) : Bound binding (.ofTable made) :=
    .inr ⟨none, made, rfl, same⟩
  match args with
  | [arg] =>
    cases arg with
    | dict => exact (makes_any _).bind fun row _ => yields_pure (.inl (Renewed.fresh _ _))
    | array => exact (makes_any _).bind fun rows _ => yields_pure (tabled _ rfl)
    | record => exact yields_pure (.inl (Renewed.fresh _ _))
    | table => exact yields_pure (tabled _ rfl)
    | null | bool | int | float | quantity | text | money | schema | function | error =>
        exact Eval.fail_yields _
  | [] | _ :: _ :: _ => exact Eval.fail_yields _

section Reading

variable {table : Table Value} (unsourced : table.fromDatabase = false)
include unsourced

/-- A row of a table that no query gave is read as a dictionary or an unchecked record. -/
theorem rowValue_unchecked (row : Row) : (table.rowValue row).Unchecked := by
  unfold Table.rowValue
  split
  · trivial
  · rw [unsourced]
    exact Record.unchecked_fresh _ row

theorem index_unchecked (run : Evaluator) (handle : Handle) (subscript : Value) (optional : Bool) :
    Makes Value.Unchecked (run.index (.table handle table) subscript optional) := by
  cases subscript with
  | int place =>
      refine Eval.lift_yields (Position.element_gives place optional trivial fun row _ => ?_)
      exact rowValue_unchecked unsourced row
  | null | bool | float | quantity | text | money | array | dict | table | record | schema | function | error =>
      exact Eval.fail_yields _

theorem find_unchecked (run : Evaluator) (handle : Handle) (args : List Value) :
    Makes Value.Unchecked (invoke run (.table handle table) "find" args) := by
  refine Eval.check_yields fun f _ => (makes_any _).bind fun found _ => yields_pure ?_
  cases found with
  | none => trivial
  | some row => exact rowValue_unchecked unsourced row

/-- An array without validated records among its items. -/
def Unvalidated (value : Value) : Prop := ∃ handle items, value = .array handle items ∧ ∀ item ∈ items, item.Unchecked

omit unsourced in
theorem Unvalidated.settles {old new : Value} (settled : old.Settles new) (unvalidated : Unvalidated old) :
    Unvalidated new := by
  obtain ⟨handle, items, rfl, each⟩ := unvalidated
  cases settled.numbered with
  | same => exact ⟨handle, items, rfl, each⟩
  | array next numbered =>
      refine ⟨_, _, rfl, fun item member => ?_⟩
      obtain ⟨source, held, settles⟩ := source_of_mem numbered member
      exact (each source held).settles settles

theorem rows_unvalidated (run : Evaluator) (handle : Handle) (args : List Value) :
    Makes Unvalidated (invoke run (.table handle table) "rows" args) := by
  refine Eval.lift_yields (gives_bind fun _ _ => gives_pure.mpr ⟨none, table.rowValues, rfl, ?_⟩)
  intro item member
  obtain ⟨row, -, rfl⟩ := List.mem_map.mp member
  exact rowValue_unchecked unsourced row

end Reading

end Method

end Unchecked

section Steps

variable {options : Options} {run : Evaluator} {scope : ScopeId} {machine middle final : Machine}
  {target value : Value} {post : Value → Prop}

/-- What a step gives is what was made for it, with its new collections numbered. -/
theorem Method.Makes.settled {action : Eval Value} (makes : Makes post action)
    (stays : ∀ {old new : Value}, old.Settles new → post old → post new) :
    Makes post (action >>= Eval.settle) :=
  makes.bind fun _ made machine _ => ⟨stays ⟨machine.collections, rfl⟩ made, trivial⟩

namespace Evaluator

open Method (Makes makes_any)

/-- A method call makes what the method makes of the evaluated receiver. -/
theorem method_makes {receiver : Expr} {name : String} {args : List Expr}
    (stays : ∀ {old new : Value}, old.Settles new → post old → post new)
    (makes : ∀ args, Makes post (Method.invoke run target name args))
    (evaluated : run.eval receiver scope machine = .ok target middle)
    (ran : evalStep options run (.method receiver name args) scope machine = .ok value final) : post value := by
  have rest : Makes post ((args.mapM fun arg => run.eval arg scope) >>= fun args =>
      Method.invoke run target name args >>= Eval.settle) :=
    (makes_any _).bind fun args _ => (makes args).settled stays
  simp only [evalStep, evalNode, bind_assoc, bind_of_ok evaluated] at ran
  exact rest.result ran

theorem call_makes {callee : Expr} {args : List Expr}
    (stays : ∀ {old new : Value}, old.Settles new → post old → post new)
    (makes : ∀ args, Makes post (run.call target args))
    (evaluated : run.eval callee scope machine = .ok target middle)
    (ran : evalStep options run (.call callee args) scope machine = .ok value final) : post value := by
  have rest : Makes post ((args.mapM fun arg => run.eval arg scope) >>= fun args =>
      run.call target args >>= Eval.settle) :=
    (makes_any _).bind fun args _ => (makes args).settled stays
  simp only [evalStep, evalNode, bind_assoc, bind_of_ok evaluated] at ran
  exact rest.result ran

theorem index_makes {indexed subscript : Expr} {optional : Bool}
    (stays : ∀ {old new : Value}, old.Settles new → post old → post new)
    (makes : ∀ subscript optional, Makes post (run.index target subscript optional))
    (evaluated : run.eval indexed scope machine = .ok target middle)
    (ran : evalStep options run (.index indexed subscript optional) scope machine = .ok value final) :
    post value := by
  have rest : Makes post (run.eval subscript scope >>= fun subscript =>
      run.index target subscript (optional || options.nullOnBounds) >>= Eval.settle) :=
    (makes_any _).bind fun subscript _ => (makes subscript _).settled stays
  simp only [evalStep, evalNode, bind_assoc, bind_of_ok evaluated] at ran
  exact rest.result ran

end Evaluator

end Steps

theorem Law.vouched_of_throughout {value : Value} (lawful : validity.Throughout value) {handle : Handle}
    {record : Record Value} (deep : (Value.record handle record).Occurs value) : record.Vouched :=
  (lawful _ deep).1

/-- Validity is sound, for every session from its start on. Whatever the commands are, a valid record that
occurs in a reply, under a name or in the value of an expression, at any depth, has no errors when its data is
validated again. Whatever the receiver is like, `set` and `update` give records that are unchecked, and so does
a schema; a table that no query gave is read row by row as dictionaries or unchecked records, also by the
functions that its methods call. -/
theorem Session.validity_sound (options : Options) (commands : List Command) :
    (∀ reply, .ok reply ∈ ((start options).steps commands).1 → ∀ shown ∈ reply.values,
      ∀ handle record, (Value.record handle record).Occurs shown → record.Vouched) ∧
    (∀ value, ((start options).steps commands).2.Holds value →
      ∀ handle record, (Value.record handle record).Occurs value → record.Vouched) ∧
    (∀ fuel expr scope value final,
      (Evaluator.withFuel options fuel).eval expr scope ((start options).steps commands).2.machine =
        .ok value final → ∀ handle record, (Value.record handle record).Occurs value → record.Vouched) ∧
    (∀ run receiver name args scope machine handle record middle value final, name ∈ Method.changing →
      run.eval receiver scope machine = .ok (.record handle record) middle →
      Evaluator.evalStep options run (.method receiver name args) scope machine = .ok value final →
      Method.Renewed record.schema value) ∧
    (∀ run callee args scope machine binding middle value final,
      run.eval callee scope machine = .ok (.schema binding) middle →
      Evaluator.evalStep options run (.call callee args) scope machine = .ok value final →
      Method.Bound binding value) ∧
    ∀ table : Table Value, table.fromDatabase = false →
      (∀ row, (table.rowValue row).Unchecked) ∧
      (∀ run indexed subscript optional scope machine handle middle value final,
        run.eval indexed scope machine = .ok (.table handle table) middle →
        Evaluator.evalStep options run (.index indexed subscript optional) scope machine = .ok value final →
        value.Unchecked) ∧
      ∀ run receiver args scope machine handle middle value final,
        run.eval receiver scope machine = .ok (.table handle table) middle →
        (Evaluator.evalStep options run (.method receiver "find" args) scope machine = .ok value final →
          value.Unchecked) ∧
        (Evaluator.evalStep options run (.method receiver "rows" args) scope machine = .ok value final →
          Method.Unvalidated value) := by
  have kept := Law.validity_kept
  obtain ⟨replies, lawful⟩ := steps_lawful kept commands (start_lawful options) fun _ _ _ _ _ _ => trivial
  refine ⟨?replies, ?bound, ?evaluated, ?changed, ?called, fun table unsourced => ⟨?_, ?indexed, ?read⟩⟩
  case replies =>
    intro reply given shown member handle record
    exact Law.vouched_of_throughout (replies reply given shown member)
  case bound =>
    intro value bound handle record
    exact Law.vouched_of_throughout (lawful value bound)
  case evaluated =>
    intro fuel expr scope value final ran handle record
    have yields := (Evaluator.withFuel_lawful kept options fuel).eval expr scope _ lawful
    rw [ran] at yields
    exact Law.vouched_of_throughout yields.1
  case changed =>
    intro run receiver name args scope machine handle record middle value final changes
    exact Evaluator.method_makes Method.Renewed.settles fun args =>
      Method.changing_renewed run handle record args changes
  case called =>
    intro run callee args scope machine binding middle value final
    exact Evaluator.call_makes Method.Bound.settles (Method.call_bound run binding)
  case indexed =>
    intro run indexed subscript optional scope machine handle middle value final
    exact Evaluator.index_makes Value.Unchecked.settles (Method.index_unchecked unsourced run handle)
  case read =>
    intro run receiver args scope machine handle middle value final evaluated
    refine ⟨?_, ?_⟩
    · exact Evaluator.method_makes Value.Unchecked.settles (Method.find_unchecked unsourced run handle) evaluated
    · exact Evaluator.method_makes Method.Unvalidated.settles (Method.rows_unvalidated unsourced run handle)
        evaluated
  exact Method.rowValue_unchecked unsourced

end TableScript
