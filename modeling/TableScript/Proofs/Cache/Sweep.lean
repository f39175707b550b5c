import TableScript.Proofs.Cache.Freshness

set_option autoImplicit false

namespace TableScript

variable {η : Type}

namespace Sweep

/-- When the sweep in progress was started, if there is one. -/
def inProgress : Sweep → List Time
  | .running since => [since]
  | _ => []

theorem length_inProgress_le (sweep : Sweep) : sweep.inProgress.length ≤ 1 := by
  cases sweep with
  | running since => exact Nat.le_refl 1
  | idle | unavailable => exact Nat.zero_le 1

theorem ensure_ne_idle (sweep : Sweep) (now : Time) (canStart : Bool) : sweep.ensure now canStart ≠ .idle := by
  cases sweep with
  | idle => cases canStart <;> simp [ensure]
  | running since | unavailable => simp [ensure]

theorem inProgress_stop (sweep : Sweep) : sweep.stop.inProgress = [] := by
  cases sweep with
  | idle | running since | unavailable => rfl

end Sweep

namespace CacheEvent

/-- What becomes of the sweep: a handle that is stored starts an idle one, and closing or dropping the cache
stops it. -/
def sweepAfter (event : CacheEvent η) (sweep : Sweep) : Sweep :=
  match event with
  | .put _ _ now canStartSweep => sweep.ensure now canStartSweep
  | .close _ => sweep.stop
  | .drop => sweep.stop
  | _ => sweep

/-- The sweep that is started. -/
def starts (event : CacheEvent η) (sweep : Sweep) : List Time :=
  match event, sweep with
  | .put _ _ now true, .idle => [now]
  | _, _ => []

/-- The sweep that is stopped. -/
def stops (event : CacheEvent η) (sweep : Sweep) : List Time :=
  match event with
  | .close _ => sweep.inProgress
  | .drop => sweep.inProgress
  | _ => []

/-- What was in progress or is started is in progress afterwards or is stopped. -/
theorem starts_perm (event : CacheEvent η) (sweep : Sweep) :
    (event.starts sweep ++ sweep.inProgress).Perm
      ((event.sweepAfter sweep).inProgress ++ event.stops sweep) := by
  cases event with
  | put key handle now canStartSweep =>
      cases sweep with
      | idle => cases canStartSweep <;> exact List.Perm.refl _
      | running since => cases canStartSweep <;> exact List.Perm.refl _
      | unavailable => cases canStartSweep <;> exact List.Perm.refl _
  | close cause? =>
      rw [sweepAfter, Sweep.inProgress_stop]
      exact List.Perm.refl _
  | drop =>
      rw [sweepAfter, Sweep.inProgress_stop]
      exact List.Perm.refl _
  | get | evictStale | tick => simp [starts, stops, sweepAfter]

theorem sweepAfter_unavailable (event : CacheEvent η) : event.sweepAfter .unavailable = .unavailable := by
  cases event with
  | put | get | evictStale | tick | close | drop => rfl

end CacheEvent

namespace Cache

variable {cache next : Cache η}

theorem get_sweep (cache : Cache η) (key : String) (healthy : η → Bool) (now usedAt : Time) :
    (cache.get key healthy now usedAt).2.2.sweep = cache.sweep := by
  rcases cache.get_cases key healthy now usedAt with ⟨-, got⟩ | ⟨entry, -, ⟨-, got⟩ | ⟨-, got⟩⟩
  · rw [got]
  · rw [got]
    rfl
  · rw [got]
    rfl

theorem undergo_sweep (event : CacheEvent η) (left : (cache.undergo event).2 = some next) :
    next.sweep = event.sweepAfter cache.sweep := by
  cases event with
  | get key healthy now usedAt =>
      cases left
      exact cache.get_sweep key healthy now usedAt
  | tick now =>
      simp only [undergo] at left
      split at left
      · cases left
        rfl
      · cases left
        rfl
  | put | evictStale | close =>
      cases left
      rfl
  | drop => cases left

/-- An empty cache stays empty until a handle is stored. -/
theorem undergo_of_empty (empty : cache.entries.entries = []) (event : CacheEvent η)
    (quiet : (cache.undergo event).1.stored? = none) (left : (cache.undergo event).2 = some next) :
    next.entries.entries = [] := by
  rw [List.eq_nil_iff_forall_not_mem]
  intro pair member
  have distinct : cache.entries.keys.Nodup := by simp [Dictionary.keys, empty]
  rcases undergo_origin distinct event left pair member with stored | ⟨-, old, held, -⟩
  · simp only [CacheDeed.storedUnder?] at stored
    simp only [CacheDeed.stored?] at quiet
    split at stored
    · rename_i put
      rw [put] at quiet
      cases quiet
    · cases stored
  · rw [empty] at held
    cases held

/-- Nothing is held and no sweep is in progress. -/
def Cleared (cache : Cache η) : Prop :=
  cache.entries.entries = [] ∧ (cache.sweep = .idle ∨ cache.sweep = .unavailable)

theorem cleared_close (cache : Cache η) (cause? : η → Option String) : (cache.close cause?).2.2.Cleared := by
  refine ⟨rfl, ?_⟩
  simp only [close]
  cases cache.sweep with
  | idle | running since => exact Or.inl rfl
  | unavailable => exact Or.inr rfl

theorem Cleared.undergo (cleared : cache.Cleared) (event : CacheEvent η)
    (quiet : (cache.undergo event).1.stored? = none) (left : (cache.undergo event).2 = some next) :
    next.Cleared := by
  obtain ⟨empty, stopped⟩ := cleared
  cases event with
  | put key handle now canStartSweep => cases quiet
  | close cause? =>
      cases left
      exact cache.cleared_close cause?
  | drop => cases left
  | get | evictStale | tick =>
      refine ⟨undergo_of_empty empty _ quiet left, ?_⟩
      rw [undergo_sweep _ left]
      exact stopped

end Cache

namespace CacheLife

/-- The state of the sweep after what has happened. -/
def sweepAfter : List (CacheDeed η) → Sweep
  | [] => .idle
  | deed :: older => deed.event.sweepAfter (sweepAfter older)

/-- Every sweep that was ever started. -/
def sweepsStarted : List (CacheDeed η) → List Time
  | [] => []
  | deed :: older => deed.event.starts (sweepAfter older) ++ sweepsStarted older

/-- Every sweep that was ever stopped. -/
def sweepsStopped : List (CacheDeed η) → List Time
  | [] => []
  | deed :: older => deed.event.stops (sweepAfter older) ++ sweepsStopped older

/-- The sweeps that are in progress. -/
def sweeping (life : CacheLife η) : List Time := (life.cache.map (·.sweep.inProgress)).getD []

theorem sweepsStarted_perm (past : List (CacheDeed η)) :
    (sweepsStarted past).Perm ((sweepAfter past).inProgress ++ sweepsStopped past) := by
  induction past with
  | nil => exact List.Perm.refl _
  | cons deed older ih =>
      have step := deed.event.starts_perm (sweepAfter older)
      have total := ih.append_left (deed.event.starts (sweepAfter older))
      rw [← List.append_assoc] at total
      exact (total.trans (step.append_right _)).trans (.of_eq (List.append_assoc ..))

theorem sweepAfter_append (newer older : List (CacheDeed η)) (failed : sweepAfter older = .unavailable) :
    sweepAfter (newer ++ older) = .unavailable := by
  induction newer with
  | nil => exact failed
  | cons deed newer ih =>
      simp only [List.cons_append, sweepAfter, ih]
      exact deed.event.sweepAfter_unavailable

variable {config : CacheConfig} {life : CacheLife η} {cache : Cache η}

theorem Reached.sweep_eq (reached : Reached config life) (present : life.cache = some cache) :
    cache.sweep = sweepAfter life.past := by
  refine (reached.invariant_of_events (fun _ past cache => cache.sweep = sweepAfter past) rfl ?_ ?_ present).2
  · intro clock past cache next event distinct same forward left
    rw [Cache.undergo_sweep event left, same]
    simp only [sweepAfter, Cache.undergo_event]
  · exact fun same moved => same

/-- A cache that has been dropped is not swept any more. -/
theorem Reached.inProgress_of_dropped (reached : Reached config life) (dropped : life.cache = none) :
    (sweepAfter life.past).inProgress = [] := by
  induction reached with
  | start => cases dropped
  | @after life event reached forward ih =>
      cases before : life.cache with
      | none =>
          rw [after_of_dropped before] at dropped ⊢
          exact ih dropped
      | some cache =>
          rw [after_of_cache before] at dropped ⊢
          cases event with
          | drop => exact Sweep.inProgress_stop _
          | tick now =>
              simp only [Cache.undergo] at dropped
              split at dropped <;> cases dropped
          | put | get | evictStale | close => cases dropped
  | reorder => cases dropped

theorem Reached.sweeping_eq (reached : Reached config life) :
    life.sweeping = (sweepAfter life.past).inProgress := by
  cases present : life.cache with
  | none =>
      rw [reached.inProgress_of_dropped present]
      simp only [sweeping, present, Option.map_none, Option.getD_none]
  | some cache =>
      rw [← reached.sweep_eq present]
      simp only [sweeping, present, Option.map_some, Option.getD_some]

theorem Reached.empty_of_idle (reached : Reached config life) (present : life.cache = some cache)
    (idle : cache.sweep = .idle) : cache.entries.entries = [] := by
  refine (reached.invariant_of_events
    (fun _ _ cache => cache.sweep = .idle → cache.entries.entries = []) (fun _ => rfl) ?_ ?_ present).2 idle
  · intro clock past cache next event distinct empty forward left idle
    rw [Cache.undergo_sweep event left] at idle
    cases event with
    | put key handle now canStartSweep => exact absurd idle (Sweep.ensure_ne_idle _ _ _)
    | close cause? =>
        cases left
        rfl
    | drop => cases left
    | get key healthy now usedAt => exact Cache.undergo_of_empty (empty idle) _ rfl left
    | evictStale now => exact Cache.undergo_of_empty (empty idle) _ rfl left
    | tick now =>
        refine Cache.undergo_of_empty (empty idle) _ ?_ left
        simp only [CacheDeed.stored?, Cache.undergo_event]
  · intro clock past cache entries empty moved idle
    exact List.Perm.eq_nil (moved.trans (.of_eq (empty idle)))

/-- Since the cache was closed no handle has been stored. -/
def ClosedSince (past : List (CacheDeed η)) : Prop :=
  ∃ newer deed older cause?, past = newer ++ deed :: older ∧ deed.event = .close cause? ∧
    ∀ later ∈ newer, later.stored? = none

/-- Either the closing is the latest event, or it was there before and the latest event stores nothing. -/
theorem closedSince_cons {deed : CacheDeed η} {past : List (CacheDeed η)} (closed : ClosedSince (deed :: past)) :
    (∃ cause?, deed.event = .close cause?) ∨ deed.stored? = none ∧ ClosedSince past := by
  obtain ⟨newer, closing, older, cause?, split, closes, quiet⟩ := closed
  cases newer with
  | nil =>
      obtain ⟨rfl, rfl⟩ := List.cons.inj split
      exact Or.inl ⟨cause?, closes⟩
  | cons latest newer =>
      obtain ⟨rfl, rfl⟩ := List.cons.inj split
      refine Or.inr ⟨quiet _ List.mem_cons_self, newer, closing, older, cause?, rfl, closes, ?_⟩
      exact fun later among => quiet later (List.mem_cons_of_mem _ among)

theorem Reached.cleared (reached : Reached config life) (present : life.cache = some cache)
    (closed : ClosedSince life.past) : cache.Cleared := by
  refine (reached.invariant_of_events
    (fun _ past cache => ClosedSince past → cache.Cleared) ?_ ?_ ?_ present).2 closed
  · exact fun _ => ⟨rfl, Or.inl rfl⟩
  · intro clock past cache next event distinct cleared forward left closed
    rcases closedSince_cons closed with ⟨cause?, closes⟩ | ⟨quiet, before⟩
    · rw [Cache.undergo_event] at closes
      subst closes
      cases left
      exact cache.cleared_close cause?
    · exact (cleared before).undergo event quiet left
  · intro clock past cache entries cleared moved closed
    obtain ⟨empty, stopped⟩ := cleared closed
    exact ⟨List.Perm.eq_nil (moved.trans (.of_eq empty)), stopped⟩

/-- At every point of its life a cache with an idle sweep holds nothing. A sweep that could not be started is
never tried again. Every sweep that was started was stopped or is in progress, and never more than one is in
progress. And until a handle is stored again, a closed cache is empty and not swept; that handle starts a
sweep, unless none can be started. -/
theorem sweep_attends (reached : Reached config life) :
    (∀ cache, life.cache = some cache → cache.sweep = .idle → cache.isEmpty = true) ∧
    (∀ earlier before, Reached config earlier → earlier.cache = some before → earlier.past <:+ life.past →
      before.sweep = .unavailable → ∀ cache, life.cache = some cache → cache.sweep = .unavailable) ∧
    ((sweepsStarted life.past).Perm (life.sweeping ++ sweepsStopped life.past) ∧ life.sweeping.length ≤ 1) ∧
    (ClosedSince life.past → ∀ cache, life.cache = some cache → cache.isEmpty = true ∧
      (cache.sweep = .unavailable ∨ cache.sweep = .idle ∧ ∀ key handle now canStartSweep,
        (cache.put key handle now canStartSweep).2.sweep =
          if canStartSweep then .running now else .unavailable)) := by
  refine ⟨?_, ?_, ?_, ?_⟩
  · intro cache present idle
    exact List.isEmpty_iff.mpr (reached.empty_of_idle present idle)
  · intro earlier before past held continues failed cache present
    obtain ⟨newer, split⟩ := continues
    rw [past.sweep_eq held] at failed
    rw [reached.sweep_eq present, ← split]
    exact sweepAfter_append newer earlier.past failed
  · rw [reached.sweeping_eq]
    exact ⟨sweepsStarted_perm life.past, Sweep.length_inProgress_le _⟩
  · intro closed cache present
    obtain ⟨empty, stopped⟩ := reached.cleared present closed
    refine ⟨List.isEmpty_iff.mpr empty, ?_⟩
    rcases stopped with idle | failed
    · refine Or.inr ⟨idle, ?_⟩
      intro key handle now canStartSweep
      simp only [Cache.put, idle, Sweep.ensure]
    · exact Or.inl failed

/-- A cache is closed although its handle cannot be; it is swept again from the next handle on. -/
theorem sweep_attends_after_closing :
    ∃ (life : CacheLife Nat) (cache : Cache Nat), Reached ⟨2, 60, 20⟩ life ∧ life.cache = some cache ∧
      (cache.sweep = .idle → cache.isEmpty = true) ∧
      sweepsStarted life.past = [5] ∧ sweepsStopped life.past = [5] ∧
      (sweepsStarted life.past).Perm (life.sweeping ++ sweepsStopped life.past) ∧
      (cache.put "b" 2 9 true).2.sweep = .running 9 ∧
      (cache.put "b" 2 9 false).2.sweep = .unavailable := by
  have first : Reached ⟨2, 60, 20⟩ ((start ⟨2, 60, 20⟩).after (.put "a" 1 5 true)) :=
    .after _ .start (by decide)
  have second := first.after (.close fun _ => some "stuck") (by decide)
  have third := second.after (.get "a" (fun _ => true) 7 8) (by decide)
  obtain ⟨idle, -, ledger, closed⟩ := sweep_attends third
  obtain ⟨-, failed | ⟨stopped, starts⟩⟩ :=
    closed ⟨[_], _, [_], _, rfl, rfl, by simp [CacheDeed.stored?]⟩ _ rfl
  · exact absurd failed (by decide)
  · exact ⟨_, _, third, rfl, idle _ rfl, by decide, by decide, ledger.1, starts "b" 2 9 true,
      starts "b" 2 9 false⟩

end CacheLife

end TableScript
