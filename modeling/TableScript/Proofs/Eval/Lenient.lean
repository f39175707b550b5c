import TableScript.Proofs.Eval.Verdict
import TableScript.Proofs.Scope.Chain

set_option autoImplicit false

namespace TableScript

theorem Table.eq_of_rowSlot {table : Table Value} {index : Int64} {error : EvalError}
    (refused : table.rowSlot index = .error error) : error = .indexRange index table.size := by
  unfold rowSlot at refused
  extract_lets place at refused
  split at refused
  · cases refused
  · cases refused
    rfl

namespace Method

variable {receiver : Value} {name : String} {args : List Value} {error : EvalError}

/-- Only a table refuses to insert a row, and only on account of the position. -/
theorem eq_of_insertRefusal? (refused : insertRefusal? receiver name args = some error) :
    ∃ handle table index row entries, receiver = .table handle table ∧ name = "insertRowAt" ∧
      args = [.int index, .dict row entries] ∧ table.rowSlot index = .error error := by
  unfold insertRefusal? at refused
  split at refused
  · split at refused
    · rename_i placed
      cases refused
      exact ⟨_, _, _, _, _, rfl, rfl, rfl, placed⟩
    · cases refused
  · cases refused

theorem code_of_insertRefusal? (refused : insertRefusal? receiver name args = some error) :
    error.code = "INDEX-0001" := by
  obtain ⟨handle, table, index, row, entries, -, -, -, placed⟩ := eq_of_insertRefusal? refused
  rw [Table.eq_of_rowSlot placed]
  rfl

/-- A call that is refused does nothing else. -/
theorem invoke_of_insertRefusal? (run : Evaluator)
    (refused : insertRefusal? receiver name args = some error) :
    invoke run receiver name args = Eval.fail error := by
  obtain ⟨handle, table, index, row, entries, rfl, rfl, rfl, placed⟩ := eq_of_insertRefusal? refused
  have checked : (liftM (table.rowSlot index) : Eval Nat) = Eval.fail error := by rw [placed]; rfl
  change (liftM (table.rowSlot index) : Eval Nat) >>= _ = Eval.fail error
  rw [checked]
  rfl

end Method

namespace Evaluator

/-- One step of evaluation in which the refusal to insert a row is reported as `mark` says. -/
def relabelStep (mark : EvalError → EvalError) (options : Options) (run : Evaluator) (expr : Expr)
    (scope : ScopeId) : Eval Value :=
  match expr with
  | .method receiver name args => do
    let receiver ← run.eval receiver scope
    let args ← args.mapM fun arg => run.eval arg scope
    match Method.insertRefusal? receiver name args with
    | some error => Eval.fail (mark error)
    | none => Eval.settle (← Method.invoke run receiver name args)
  | expr => evalStep options run expr scope

/-- Evaluation in which every refusal to insert a row is reported as `mark` says. -/
def relabelled (mark : EvalError → EvalError) (options : Options) : Nat → Evaluator
  | 0 => ⟨fun _ _ => throw .outOfFuel, fun _ => throw .outOfFuel⟩
  | fuel + 1 =>
    ⟨relabelStep mark options (relabelled mark options fuel), resolveStep (relabelled mark options fuel)⟩

theorem relabelStep_id (options : Options) (run : Evaluator) :
    relabelStep id options run = evalStep options run := by
  funext expr scope
  unfold relabelStep
  split
  · rw [evalStep_method]
    congr
    funext receiver
    congr
    funext args
    split
    · rename_i refused
      rw [Method.invoke_of_insertRefusal? run refused]
      rfl
    · rfl
  · rfl

/-- Without another report, it is evaluation itself. -/
theorem relabelled_id (options : Options) (fuel : Nat) :
    relabelled id options fuel = withFuel options fuel := by
  induction fuel with
  | zero => rfl
  | succ fuel ih => rw [relabelled, ih, relabelStep_id, withFuel_succ]

end Evaluator

/-- Nothing is owed where the first evaluation fails. -/
def Verdict.extending : Verdict where
  admits _ := True
  answer? _ := none
  plain _ _ := ⟨trivial, fun _ given => nomatch given⟩

theorem Verdict.extending_agrees (fuel : Nat) :
    Verdict.extending.Agrees (Evaluator.withFuel ⟨false⟩ fuel) (Evaluator.withFuel ⟨true⟩ fuel) := by
  have failing : ∀ {α : Type} (failure : Failure) (second : Eval α),
      Verdict.extending.Relates (throw failure) second := by
    intro α failure second machine
    exact ⟨trivial, fun _ given => nomatch given⟩
  induction fuel with
  | zero => exact ⟨fun _ _ => failing _ _, fun _ => failing _ _⟩
  | succ fuel ih =>
      rw [Evaluator.withFuel_succ, Evaluator.withFuel_succ]
      refine ⟨fun expr scope => ?_, ih.follows.resolveStep⟩
      apply (ih.within scope).evalStep
      · exact fun error => failing _ _
      · intro _ name _ _ receiver args
        exact ih.follows.invoke receiver name args fun error _ => failing _ _

/-- A failure with the mark in place of a miss. -/
def Failure.relabel (mark : EvalError → EvalError) : Failure → Failure
  | .error cause => .error (if cause.isMiss then mark cause else cause)
  | failure => failure

/-- Failures are never bounds in the wrong order, and a miss is answered by its mark. -/
def Verdict.relabelling (mark : EvalError → EvalError) : Verdict where
  admits failure := ∀ cause, failure = .error cause → cause.code ≠ "INDEX-0003"
  answer? failure := some (failure.relabel mark)
  plain failure harmless := by
    cases failure with
    | disorder | outOfFuel =>
        refine ⟨?_, fun _ given => (Option.some.inj given).symm⟩
        intro cause same
        cases same
    | error cause =>
        have plain : cause.isMiss = false := harmless
        refine ⟨?_, ?_⟩
        · intro other same crossed
          cases same
          rw [cause.isMiss_iff.mpr (Or.inr crossed)] at plain
          cases plain
        · intro answer given
          simp only [Failure.relabel, plain] at given
          exact (Option.some.inj given).symm

/-- A refused row is answered by the mark of its refusal. -/
theorem Verdict.refusal_matches {α : Type} (mark : EvalError → EvalError) {error : EvalError}
    (coded : error.code = "INDEX-0001") (machine : Machine) :
    (Verdict.relabelling mark).Matches (.error (.error error) machine : EStateM.Result Failure Machine α)
      (.error (.error (mark error)) machine) := by
  refine ⟨?_, ?_⟩
  · intro cause same crossed
    cases same
    rw [coded] at crossed
    exact absurd crossed (by decide)
  · intro answer given
    have missed : error.isMiss = true := error.isMiss_iff.mpr (Or.inl coded)
    simp only [relabelling, Failure.relabel, missed] at given
    rw [← Option.some.inj given]
    rfl

theorem Verdict.relabelling_agrees (mark : EvalError → EvalError) (fuel : Nat) :
    (Verdict.relabelling mark).Agrees (Evaluator.withFuel ⟨true⟩ fuel)
      (Evaluator.relabelled mark ⟨true⟩ fuel) := by
  have exhausted : ∀ {α : Type}, (Verdict.relabelling mark).Relates (throw .outOfFuel : Eval α)
      (throw .outOfFuel) := by
    intro α
    apply relates_self
    intro machine failure final failed
    cases failed
    rfl
  induction fuel with
  | zero => exact ⟨fun _ _ => exhausted, fun _ => exhausted⟩
  | succ fuel ih =>
      rw [Evaluator.withFuel_succ, Evaluator.relabelled]
      refine ⟨fun expr scope => ?_, ih.follows.resolveStep⟩
      have within := ih.within scope
      dsimp only
      unfold Evaluator.relabelStep
      split
      · rename_i target name exprs
        rw [Evaluator.evalStep_method]
        refine Relates.bind (within.eval target) fun receiver => ?_
        refine Relates.bind (within.args exprs) fun args => ?_
        split
        · rename_i error refused
          rw [Method.invoke_of_insertRefusal? _ refused]
          exact fun machine => refusal_matches mark (Method.code_of_insertRefusal? refused) machine
        · rename_i accepted
          refine Relates.bind ?_ fun value => (relabelling mark).simulation.settles value
          apply ih.follows.invoke
          intro error refused
          rw [accepted] at refused
          cases refused
      · rename_i plain
        apply within.evalStep
        · exact fun error => (relabelling mark).simulation.returns Value.null
        · intro target name exprs same
          exact absurd same (plain target name exprs)

/-- Whatever strict evaluation gives a value for, lenient evaluation gives the same value for and leaves the
same machine. Lenient evaluation never fails on bounds in the wrong order, and where it fails on a position,
the position is that of a row to be inserted: if those are reported by any other error, which leaves
evaluation as it is otherwise, then evaluation fails with that error and on the same machine. -/
theorem Evaluator.lenient_extends_strict (fuel : Nat) (expr : Expr) (scope : ScopeId) (machine : Machine) :
    (∀ value final, (withFuel ⟨false⟩ fuel).eval expr scope machine = .ok value final →
      (withFuel ⟨true⟩ fuel).eval expr scope machine = .ok value final) ∧
    (∀ error final, (withFuel ⟨true⟩ fuel).eval expr scope machine = .error (.error error) final →
      error.code ≠ "INDEX-0003" ∧
      (error.code = "INDEX-0001" → ∀ mark,
        (relabelled mark ⟨true⟩ fuel).eval expr scope machine = .error (.error (mark error)) final)) ∧
    relabelled id ⟨true⟩ fuel = withFuel ⟨true⟩ fuel := by
  refine ⟨?_, ?_, relabelled_id ⟨true⟩ fuel⟩
  · intro value final ran
    have extended := (Verdict.extending_agrees fuel).eval expr scope machine
    rw [ran] at extended
    exact extended
  · intro error final ran
    have answered : ∀ mark, (Verdict.relabelling mark).Matches
        (.error (.error error) final : EStateM.Result Failure Machine Value)
        ((relabelled mark ⟨true⟩ fuel).eval expr scope machine) := by
      intro mark
      rw [← ran]
      exact (Verdict.relabelling_agrees mark fuel).eval expr scope machine
    refine ⟨(answered id).1 error rfl, ?_⟩
    intro coded mark
    have missed : error.isMiss = true := error.isMiss_iff.mpr (Or.inl coded)
    apply (answered mark).2
    simp only [Verdict.relabelling, Failure.relabel, missed, ↓reduceIte]

/-- One scope, in which `t` is a table without rows. -/
def Machine.ofEmptyTable (collections : Nat) : Machine :=
  ⟨⟨#[⟨⟨[("t", ⟨.ofTable (.plain [] []), true, false⟩)]⟩, [], none⟩]⟩, 0, collections⟩

theorem Machine.resolve_ofEmptyTable (collections : Nat) :
    Eval.resolve 0 "t" (.ofEmptyTable collections) =
      .ok (.ofTable (.plain [] [])) (.ofEmptyTable collections) := by
  have bound : (ofEmptyTable collections).store.binding? 0 "t" = some ⟨.ofTable (.plain [] []), true, false⟩ := rfl
  exact Eval.resolve_of_found (Store.resolve?_of_binding? bound)

theorem Evaluator.lenient_extends_strict_at_insertion :
    (withFuel ⟨false⟩ 3).eval (.index (.array [.int 7]) (.int 0) false) 0 (.ofEmptyTable 0) =
      .ok (.int 7) (.ofEmptyTable 1) ∧
    (withFuel ⟨true⟩ 3).eval (.index (.array [.int 7]) (.int 0) false) 0 (.ofEmptyTable 0) =
      .ok (.int 7) (.ofEmptyTable 1) ∧
    (withFuel ⟨true⟩ 3).eval (.method (.ident "t") "insertRowAt" [.int 5, .dict 0 []]) 0 (.ofEmptyTable 0) =
      .error (.error (.indexRange 5 0)) (.ofEmptyTable 2) ∧
    (relabelled (fun _ => .immutable "t") ⟨true⟩ 3).eval
      (.method (.ident "t") "insertRowAt" [.int 5, .dict 0 []]) 0 (.ofEmptyTable 0) =
      .error (.error (.immutable "t")) (.ofEmptyTable 2) := by
  have strict : (withFuel ⟨false⟩ 3).eval (.index (.array [.int 7]) (.int 0) false) 0 (.ofEmptyTable 0) =
      .ok (.int 7) (.ofEmptyTable 1) := rfl
  have receiver : (withFuel ⟨true⟩ 2).eval (.ident "t") 0 (.ofEmptyTable 0) =
      .ok (.table (some 0) (.plain [] [])) (.ofEmptyTable 1) := by
    rw [withFuel_succ]
    change (Eval.resolve 0 "t" >>= Eval.settle) (.ofEmptyTable 0) = _
    simp only [bind, EStateM.bind, Machine.resolve_ofEmptyTable]
    rfl
  have lenient : (withFuel ⟨true⟩ 3).eval (.method (.ident "t") "insertRowAt" [.int 5, .dict 0 []]) 0
      (.ofEmptyTable 0) = .error (.error (.indexRange 5 0)) (.ofEmptyTable 2) := by
    rw [withFuel_succ]
    change evalStep ⟨true⟩ (withFuel ⟨true⟩ 2) (.method (.ident "t") "insertRowAt" _) 0 (.ofEmptyTable 0) = _
    rw [evalStep_method]
    simp only [bind, EStateM.bind, receiver]
    rfl
  refine ⟨strict, (lenient_extends_strict 3 _ 0 _).1 _ _ strict, lenient, ?_⟩
  exact ((lenient_extends_strict 3 _ 0 _).2.1 _ _ lenient).2 rfl _

end TableScript
