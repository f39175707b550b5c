import TableScript.Proofs.Eval.Lawful
import TableScript.Proofs.Query.Cells
import TableScript.Proofs.Schema.Declare
import TableScript.Session.Basic

set_option autoImplicit false

namespace TableScript

/-- The values that a reply shows. -/
def Reply.values : Reply → List Value
  | .value shown => [shown]
  | .schema binding => [.schema binding]
  | .scope exports _ _ => exports.map (·.2)
  | _ => []

/-- The fallbacks of the fields may be stored in rows. -/
def Law.Provides (law : Law) (binding : Schema Value) : Prop :=
  ∀ field ∈ binding.fields, ∀ value, field.fallback = some value → law.cell value

/-- The values of a declaration obey the law. -/
def FieldDecl.Lawful (law : Law) (decl : FieldDecl) : Prop :=
  (∀ value ∈ decl.fallbacks, law.Throughout value) ∧ ∀ pair ∈ decl.metadata, law.Throughout pair.2

namespace Session

/-- The commands one after the other: the outcome of each, and the session afterwards. -/
def steps (session : Session) : List Command → List (Except CommandError Reply) × Session
  | [] => ([], session)
  | command :: rest =>
    let later := (session.step command).2.steps rest
    ((session.step command).1 :: later.1, later.2)

/-- Some name of some scope is bound to the value. -/
def Holds (session : Session) (value : Value) : Prop := session.machine.store.Holds value

def Lawful (law : Law) (session : Session) : Prop := session.machine.store.Lawful law

/-- What the interaction yields where every bound value obeys the law. -/
abbrev Yields {α : Type} (law : Law) (post : α → Prop) (action : Interaction α) : Prop :=
  TableScript.Yields (Lawful law) post action

variable {law : Law} {α : Type} {post : α → Prop}

theorem start_lawful (options : Options) : (start options).Lawful law :=
  Store.create_lawful Store.empty_lawful none

theorem run_yields {action : Eval α} (yields : law.Yields post action) : Yields law post (run action) := by
  intro session before
  have after := yields session.machine before
  simp only [run]
  cases ran : action session.machine with
  | ok value machine =>
      rw [ran] at after
      exact after
  | error failure machine =>
      rw [ran] at after
      exact after

/-- Only errors of the program become values. -/
theorem folded_apply (action : Eval Value) (session : Session) :
    folded action session =
      match run action session with
      | .ok value final => .ok value final
      | .error (.eval error) final => .ok (.error error) final
      | .error other final => .error other final := by
  simp only [folded, tryCatch, tryCatchThe, MonadExceptOf.tryCatch, Bind.bind, EStateM.bind,
    EStateM.tryCatch]
  cases run action session with
  | ok value final => rfl
  | error failure final => cases failure <;> rfl

theorem folded_yields {action : Eval Value} (yields : law.Yields law.Throughout action) :
    Yields law law.Throughout (folded action) := by
  intro session before
  have after := run_yields yields session before
  rw [folded_apply]
  cases ran : run action session with
  | ok value final =>
      rw [ran] at after
      exact after
  | error failure final =>
      rw [ran] at after
      cases failure with
      | eval error => exact ⟨Law.throughout_scalar (.error error), after⟩
      | schema | scope | disorder | outOfFuel => exact after

theorem lift_yields {outcome : Except EvalError α} (gives : Gives post outcome) :
    Yields law post (lift outcome) := by
  cases outcome with
  | ok value => exact yields_pure (gives value rfl)
  | error error => exact yields_throw _

theorem scopeChange_yields {change : Store → ScopeId → Except ScopeError Store}
    (changed : ∀ store scope, store.Lawful law → Gives (Store.Lawful law) (change store scope)) :
    Yields law (fun _ => True) (scopeChange change) := by
  refine yields_get.bind fun session before => ?_
  have allowed := changed session.machine.store session.scope before
  cases made : change session.machine.store session.scope with
  | ok store =>
      rw [made, gives_ok] at allowed
      exact yields_set allowed
  | error error => exact yields_throw _

theorem declare_gives {store : Store} {binding : Binding} (before : store.Lawful law) (scope : ScopeId)
    (name : String) (held : law.Throughout binding.value) :
    Gives (Store.Lawful law) (store.declare scope name binding) := by
  unfold Store.declare
  split
  · exact gives_error _
  · exact gives_ok.mpr (Store.bind_lawful before scope name held)

theorem define_yields {value : Value} (name : String) (held : law.Throughout value) :
    Yields law (fun _ => True) (define name value) := by
  refine scopeChange_yields fun store scope before => declare_gives before scope name ?_
  exact held

section Commands

variable (kept : law.Upheld)
include kept

theorem defineShown_yields {value : Value} (name : String) (held : law.Throughout value) :
    Yields law (fun reply => ∀ shown ∈ reply.values, law.Throughout shown) (defineShown name value) := by
  refine (run_yields (Eval.settle_yields kept.toKept held)).bind fun settled lawful => ?_
  refine (define_yields name lawful).bind fun _ _ => ?_
  exact yields_pure (List.forall_mem_singleton.mpr lawful)

theorem evaluator_yields : Yields law (fun run => run.Lawful law) evaluator :=
  yields_get.bind fun session _ => yields_pure (Evaluator.withFuel_lawful kept session.options _)

theorem eval_yields (expr : Expr) : Yields law law.Throughout (eval expr) := by
  refine (evaluator_yields kept).bind fun run lawful => yields_get.bind fun session _ => ?_
  exact run_yields (lawful.eval expr session.scope)

theorem resolveDeep_yields {value : Value} (held : law.Throughout value) :
    Yields law law.Resolved (resolveDeep value) :=
  (evaluator_yields kept).bind fun _ lawful => run_yields (lawful.resolve value held)

theorem evalPairs_yields (pairs : List (String × Expr)) :
    Yields law (fun evaluated => ∀ pair ∈ evaluated, law.Throughout pair.2) (evalPairs pairs) :=
  Yields.mapM fun pair _ => (eval_yields kept pair.2).bind fun _ held => yields_pure held

theorem evalField_yields (field : FieldSource) : Yields law (FieldDecl.Lawful law) (evalField field) := by
  have fallback : Yields law (fun given => ∀ value, given = some value → law.Throughout value)
      (field.fallback.mapM eval) := by
    cases field.fallback with
    | none => exact yields_pure nofun
    | some expr =>
        refine (eval_yields kept expr).bind fun value held => yields_pure ?_
        rintro other ⟨⟩
        exact held
  refine fallback.bind fun fallback given => ?_
  refine (evalPairs_yields kept field.options).bind fun options optional => ?_
  refine (evalPairs_yields kept field.metadata).bind fun metadata described => yields_pure ⟨?_, described⟩
  intro value member
  rcases List.mem_append.mp member with first | later
  · exact given value (Option.mem_toList.mp first)
  · obtain ⟨option, listed, rfl⟩ := List.mem_map.mp later
    exact optional option listed

theorem rowOf_yields {value : Value} (held : law.Throughout value) :
    Yields law (fun row : Row => row.All law.Stored) (rowOf value) := by
  unfold rowOf
  split
  · exact (evaluator_yields kept).bind fun _ lawful => run_yields (lawful.forceStored kept.toKept held)
  · exact yields_throw _

theorem tableOf_yields {value : Value} (held : law.Throughout value) :
    Yields law (fun table => law.Throughout (.ofTable table)) (tableOf value) := by
  unfold tableOf
  split
  · have each := Law.throughout_array.mp held
    refine (Yields.mapM fun item member => rowOf_yields kept (each item member)).bind fun rows stored => ?_
    refine yields_pure ?_
    cases rows with
    | nil => exact kept.plain_lawful [] stored
    | cons first rest => exact kept.plain_lawful _ stored
  · exact yields_throw _

omit kept in
theorem schemaNamed_yields (name : String) :
    Yields law (fun binding => law.Throughout (.schema binding)) (schemaNamed name) := by
  refine yields_get.bind fun session before => ?_
  split
  · rename_i found
    exact yields_pure (before _ (Store.holds_of_resolve? found))
  · exact yields_throw _

/-- The cells of a query are scalars. -/
theorem queryRow_stored (columns : List String) (cells : List Scalar) :
    (Query.row columns cells).All law.Stored :=
  (Query.row_scalar columns cells).imp fun _ => kept.stored_scalar

theorem queryTable_lawful {binding : Option (Schema Value)} (columns : List String)
    (rows : List (List Scalar)) (bound : ∀ schema, binding = some schema → law.Throughout (.schema schema)) :
    law.Throughout (.ofTable (Query.table columns rows binding)) := by
  cases binding with
  | none =>
      refine Law.throughout_table.mpr ⟨kept.unbound rfl, nofun, fun row member => ?_⟩
      obtain ⟨cells, -, rfl⟩ := List.mem_map.mp member
      exact queryRow_stored kept columns cells
  | some schema =>
      refine kept.bound_lawful rfl rfl (bound schema rfl) fun row member => ?_
      obtain ⟨source, earlier, rfl⟩ := List.mem_map.mp member
      obtain ⟨cells, -, rfl⟩ := List.mem_map.mp earlier
      exact ⟨_, queryRow_stored kept columns cells, rfl⟩

/-- What a reply shows obeys the law, except that a schema is judged by its declaration. -/
theorem perform_yields {command : Command}
    (declares : ∀ name schemaName fields, command ≠ .schema name schemaName fields) :
    Yields law (fun reply => ∀ shown ∈ reply.values, law.Throughout shown) (perform command) := by
  have shows : ∀ {value : Value}, law.Throughout value →
      ∀ shown ∈ (Reply.value value).values, law.Throughout shown :=
    fun held => List.forall_mem_singleton.mpr held
  cases command with
  | schema name schemaName fields => exact absurd rfl (declares name schemaName fields)
  | eval expr => exact (eval_yields kept expr).bind fun value held => yields_pure (shows held)
  | evaluate expr =>
      refine yields_get.bind fun session _ => ?_
      refine (folded_yields ?_).bind fun value held => yields_pure (shows held)
      exact (Evaluator.withFuel_lawful kept .default _).eval expr session.scope
  | inspect expr | debug expr | truthy expr =>
      exact (eval_yields kept expr).bind fun value _ => yields_pure nofun
  | template expr | json expr =>
      refine (eval_yields kept expr).bind fun value held => ?_
      exact (resolveDeep_yields kept held).bind fun resolved _ => yields_pure nofun
  | resolve expr =>
      refine (eval_yields kept expr).bind fun value held => ?_
      exact (resolveDeep_yields kept held).bind fun resolved done => yields_pure (shows done.2)
  | bind name expr =>
      refine (evaluator_yields kept).bind fun run lawful => yields_get.bind fun session _ => ?_
      refine (folded_yields (lawful.eval expr session.scope)).bind fun value held => ?_
      exact defineShown_yields kept name held
  | table name expr =>
      refine (eval_yields kept expr).bind fun value held => ?_
      exact (tableOf_yields kept held).bind fun table made => defineShown_yields kept name made
  | queryTable name columns rows schemaName =>
      have named : Yields law (fun binding => ∀ schema, binding = some schema →
          law.Throughout (.schema schema)) (schemaName.mapM schemaNamed) := by
        cases schemaName with
        | none => exact yields_pure nofun
        | some name =>
            refine (schemaNamed_yields name).bind fun schema held => yields_pure ?_
            rintro other ⟨⟩
            exact held
      refine named.bind fun binding bound => ?_
      exact defineShown_yields kept name (queryTable_lawful kept columns rows bound)
  | queryRecord name columns cells schemaName =>
      refine (schemaNamed_yields schemaName).bind fun schema held => ?_
      have created := kept.create_lawful held (queryRow_stored kept columns cells)
      exact defineShown_yields kept name (kept.validate_lawful created)
  | binary op left right =>
      refine (eval_yields kept left).bind fun a first => (eval_yields kept right).bind fun b second => ?_
      refine (lift_yields (Operation.binary_lawful first second op)).bind fun value held => ?_
      exact yields_pure (shows held)
  | unary op expr =>
      refine (eval_yields kept expr).bind fun value _ => ?_
      exact (lift_yields (Operation.unary_lawful value op)).bind fun value held => yields_pure (shows held)
  | compare left right =>
      exact (eval_yields kept left).bind fun a _ => (eval_yields kept right).bind fun b _ => yields_pure nofun
  | cast typeName expr =>
      refine (eval_yields kept expr).bind fun value held => yields_pure (shows ?_)
      exact Record.cast_lawful held typeName
  | push =>
      refine yields_get.bind fun session _ => ?_
      refine (run_yields (Eval.enclose_yields session.scope)).bind fun scope _ => ?_
      exact Yields.bind (fun _ before => ⟨trivial, before⟩) fun _ (_ : True) => yields_pure nofun
  | pop =>
      refine yields_get.bind fun session before => ?_
      split
      · refine Yields.bind (yields_set ?_) fun _ _ => yields_pure nofun
        exact before
      · exact yields_pure nofun
  | lookup name =>
      refine yields_get.bind fun session before => ?_
      split
      · rename_i found
        exact yields_pure (shows (before _ (Store.holds_of_resolve? found)))
      · exact yields_pure nofun
  | declare name expr exported immutable =>
      refine (eval_yields kept expr).bind fun value held => ?_
      refine (scopeChange_yields fun store scope before => ?_).bind fun _ _ => yields_pure nofun
      exact declare_gives before scope name held
  | assign name expr =>
      refine (eval_yields kept expr).bind fun value held => ?_
      refine (scopeChange_yields fun store scope before => ?_).bind fun _ _ => yields_pure nofun
      unfold Store.assign
      split
      · exact gives_error _
      · exact gives_ok.mpr (Store.overwrite_lawful before scope name held)
  | protect name expr =>
      refine (eval_yields kept expr).bind fun value held => ?_
      refine (scopeChange_yields fun store scope before => ?_).bind fun _ _ => yields_pure nofun
      exact gives_ok.mpr (Store.protect_lawful before scope name held)
  | flags name => exact yields_get.bind fun session _ => yields_pure nofun
  | scope =>
      refine yields_get.bind fun session before => yields_pure fun shown member => ?_
      obtain ⟨pair, exported, rfl⟩ := List.mem_map.mp member
      exact before pair.2 (Store.holds_of_mem_exports exported)
  | options => exact yields_get.bind fun session _ => yields_pure nofun

/-- A declared schema obeys the law if its fallbacks may be stored. -/
theorem declared_lawful {id : Nat} {name : String} {decls : List FieldDecl} {binding : Schema Value}
    (given : ∀ decl ∈ decls, decl.Lawful law) (made : Schema.declare id name decls = .ok binding)
    (provides : law.Provides binding) : law.Throughout (.schema binding) := by
  refine Law.throughout_schema.mpr ⟨kept.declare made, fun field member => ?_⟩
  obtain ⟨decl, listed, follows⟩ := (Schema.declare_declared id name decls binding made).built field member
  refine ⟨fun value same => ⟨provides field member value same, ?_⟩, ?_⟩
  · exact (given decl listed).1 value (follows.fallback value same)
  · rw [follows.metadata]
    exact Dictionary.All.ofList (given decl listed).2

omit kept in
/-- Once the values of the fields are known, a declaration can be refused, and so can the name. -/
theorem declareSchema_apply {session middle : Session} {fields : List FieldSource} {decls : List FieldDecl}
    (ran : fields.mapM evalField session = .ok decls middle) (name schemaName : String) :
    declareSchema name schemaName fields session =
      match Schema.declare middle.schemas schemaName decls with
      | .error error => .error (.schema error) middle
      | .ok binding =>
        match define name (.schema binding) { middle with schemas := middle.schemas + 1 } with
        | .ok _ final => .ok (.schema binding) final
        | .error failure final => .error failure final := by
  rw [declareSchema, bind_of_ok ran, get_bind]
  cases made : Schema.declare middle.schemas schemaName decls with
  | error error => rfl
  | ok binding =>
      simp only [set_bind]
      cases named : define name (.schema binding) { middle with schemas := middle.schemas + 1 } with
      | ok done final => exact bind_of_ok named _
      | error failure final => exact bind_of_error named _

omit kept in
theorem define_error {session final : Session} {name : String} {value : Value} {failure : CommandError}
    (refused : define name value session = .error failure final) : final = session := by
  simp only [define, scopeChange, get_bind] at refused
  cases made : session.machine.store.define session.scope name value with
  | error error =>
      simp only [made] at refused
      cases refused
      rfl
  | ok store =>
      simp only [made] at refused
      cases refused

theorem declareSchema_lawful {session : Session} (lawful : session.Lawful law) (name schemaName : String)
    (fields : List FieldSource)
    (provides : ∀ binding final, declareSchema name schemaName fields session = .ok (.schema binding) final →
      law.Provides binding) :
    Leaves (Lawful law) (fun reply => ∀ shown ∈ reply.values, law.Throughout shown)
      (declareSchema name schemaName fields session) := by
  have evaluated := Yields.mapM (fun field (_ : field ∈ fields) => evalField_yields kept field) session lawful
  cases ran : fields.mapM evalField session with
  | error failure middle =>
      rw [ran] at evaluated
      simp only [declareSchema, Bind.bind, EStateM.bind, ran]
      exact evaluated
  | ok decls middle =>
      rw [ran] at evaluated
      obtain ⟨given, between⟩ := evaluated
      rw [declareSchema_apply ran] at provides ⊢
      cases made : Schema.declare middle.schemas schemaName decls with
      | error error => exact between
      | ok binding =>
          rw [made] at provides
          cases named : define name (.schema binding) { middle with schemas := middle.schemas + 1 } with
          | error failure final =>
              simp only [named]
              cases define_error named
              exact between
          | ok done final =>
              simp only [named] at provides ⊢
              have held := declared_lawful kept given made (provides binding final rfl)
              have defined := define_yields name held { middle with schemas := middle.schemas + 1 } between
              rw [named] at defined
              exact ⟨List.forall_mem_singleton.mpr held, defined.2⟩

/-- One command: what its reply shows obeys the law, and so do the bound values afterwards. -/
theorem step_lawful {session : Session} (lawful : session.Lawful law) (command : Command)
    (provides : ∀ binding, (session.step command).1 = .ok (.schema binding) → law.Provides binding) :
    (∀ reply, (session.step command).1 = .ok reply → ∀ shown ∈ reply.values, law.Throughout shown) ∧
      (session.step command).2.Lawful law := by
  have performed : Leaves (Lawful law) (fun reply => ∀ shown ∈ reply.values, law.Throughout shown)
      (perform command session) := by
    by_cases declares : ∃ name schemaName fields, command = .schema name schemaName fields
    · obtain ⟨name, schemaName, fields, rfl⟩ := declares
      refine declareSchema_lawful kept lawful name schemaName fields fun binding final made => ?_
      apply provides binding
      simp only [step, perform, made]
    · refine perform_yields kept (fun name schemaName fields same => ?_) session lawful
      exact declares ⟨name, schemaName, fields, same⟩
  unfold step
  cases ran : perform command session with
  | ok reply final =>
      rw [ran] at performed
      refine ⟨?_, performed.2⟩
      rintro other ⟨⟩
      exact performed.1
  | error failure final =>
      rw [ran] at performed
      exact ⟨nofun, performed⟩

/-- All commands: what the replies show obeys the law, and so do the bound values at the end. -/
theorem steps_lawful (commands : List Command) {session : Session} (lawful : session.Lawful law)
    (provides : ∀ binding, .ok (.schema binding) ∈ (session.steps commands).1 → law.Provides binding) :
    (∀ reply, .ok reply ∈ (session.steps commands).1 → ∀ shown ∈ reply.values, law.Throughout shown) ∧
      (session.steps commands).2.Lawful law := by
  induction commands generalizing session with
  | nil => exact ⟨nofun, lawful⟩
  | cons command rest ih =>
      simp only [steps, List.mem_cons] at provides ⊢
      obtain ⟨first, next⟩ :=
        step_lawful kept lawful command fun binding made => provides binding (.inl made.symm)
      obtain ⟨others, last⟩ := ih next fun binding member => provides binding (.inr member)
      refine ⟨?_, last⟩
      rintro reply (here | later)
      · exact first reply here.symm
      · exact others reply later

end Commands

end Session

end TableScript
