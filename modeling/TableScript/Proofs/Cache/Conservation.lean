import TableScript.Proofs.Cache.Turn

set_option autoImplicit false

namespace TableScript

variable {η : Type}

namespace Cache

variable {cache : Cache η}

theorem handles_eq (cache : Cache η) : cache.handles = cache.entries.entries.map (·.2.handle) := by
  simp [handles, Dictionary.values]

theorem handles_of_get? (distinct : cache.entries.keys.Nodup) {key : String} {entry : CachedHandle η}
    (found : cache.entries.get? key = some entry) :
    cache.handles.Perm (entry.handle :: (cache.entries.erase key).entries.map (·.2.handle)) := by
  rw [handles_eq]
  exact (Dictionary.perm_of_get? distinct found).map (·.2.handle)

theorem evict_handles (distinct : cache.entries.keys.Nodup) {key : String} {entry : CachedHandle η}
    (found : cache.entries.get? key = some entry) :
    cache.handles.Perm ((cache.evict key entry).2.handles ++ (cache.evict key entry).1) := by
  rw [handles_eq (cache.evict key entry).2]
  exact (handles_of_get? distinct found).trans (List.perm_append_singleton _ _).symm

theorem get_handles (distinct : cache.entries.keys.Nodup) (key : String) (healthy : η → Bool)
    (now usedAt : Time) :
    cache.handles.Perm ((cache.get key healthy now usedAt).2.2.handles ++
      (cache.get key healthy now usedAt).2.1) := by
  unfold get
  split
  · simp
  · rename_i entry found
    split
    · exact evict_handles distinct found
    split
    · exact evict_handles distinct found
    have placed :=
      Dictionary.insert_perm key { entry with lastUsed := usedAt, recency := cache.uses } distinct
    have same := placed.map fun pair => pair.2.handle
    simpa [handles_eq] using (handles_of_get? distinct found).trans same.symm

theorem put_handles (distinct : cache.entries.keys.Nodup) (key : String) (handle : η) (now : Time)
    (canStartSweep : Bool) :
    (handle :: cache.handles).Perm ((cache.put key handle now canStartSweep).2.handles ++
      (cache.put key handle now canStartSweep).1) := by
  have others : cache.handles.Perm (((cache.entries.get? key).map (·.handle)).toList ++
      (cache.entries.erase key).entries.map (·.2.handle)) := by
    cases found : cache.entries.get? key with
    | none =>
        rw [Dictionary.erase_of_absent (Dictionary.get?_eq_none_iff.mp found), handles_eq]
        exact List.Perm.refl _
    | some entry => exact handles_of_get? distinct found
  have cleared : ((cache.entries.erase key).entries.map (·.2.handle)).Perm
      ((cache.cleared key).2.entries.map (·.2.handle) ++ (cache.cleared key).1) :=
    evictOldest_handles _ (Dictionary.nodup_keys_erase key distinct)
  have placed : (cache.put key handle now canStartSweep).2.handles.Perm
      (handle :: (cache.cleared key).2.entries.map (·.2.handle)) := by
    rw [handles_eq]
    exact (put_entries distinct key handle now canStartSweep).map fun pair => pair.2.handle
  have closed : (cache.put key handle now canStartSweep).1 =
      ((cache.entries.get? key).map (·.handle)).toList ++ (cache.cleared key).1 := rfl
  rw [closed]
  refine ((others.trans (cleared.append_left _)).cons handle).trans ?_
  exact ((List.perm_append_comm_assoc _ _ _).cons handle).trans (placed.symm.append_right _)

theorem evictStale_handles (cache : Cache η) (now : Time) :
    cache.handles.Perm ((cache.evictStale now).2.handles ++ (cache.evictStale now).1) := by
  have parted := (List.filter_append_perm (fun pair => isExpired cache.config now pair.2)
    cache.entries.entries).symm.map fun pair => pair.2.handle
  rw [List.map_append, ← handles_eq] at parted
  rw [handles_eq (cache.evictStale now).2]
  exact parted.trans List.perm_append_comm

/-- What was closed in an event is no longer held, and all else that was held or came in is. -/
theorem undergo_handles (distinct : cache.entries.keys.Nodup) (event : CacheEvent η) :
    ((cache.undergo event).1.stored?.toList ++ cache.handles).Perm
      (((cache.undergo event).2.map (·.handles)).getD [] ++ (cache.undergo event).1.closed) := by
  cases event with
  | put key handle now canStartSweep => exact put_handles distinct key handle now canStartSweep
  | get key healthy now usedAt => exact get_handles distinct key healthy now usedAt
  | evictStale now => exact evictStale_handles cache now
  | tick now =>
      simp only [undergo]
      split
      · exact evictStale_handles cache now
      · simp [CacheDeed.stored?]
  | close cause? => exact List.Perm.refl _
  | drop => exact List.Perm.refl _

end Cache

namespace CacheLife

variable {config : CacheConfig} {life : CacheLife η}

theorem stored_after {cache : Cache η} (present : life.cache = some cache) (event : CacheEvent η) :
    (life.after event).stored = (cache.undergo event).1.stored?.toList ++ life.stored := by
  rw [after_of_cache present]
  simp only [stored, List.filterMap_cons]
  cases (cache.undergo event).1.stored? with
  | none => rfl
  | some handle => rfl

theorem held_of_cache {cache : Cache η} (present : life.cache = some cache) : life.held = cache.handles := by
  simp [held, present]

theorem Reached.balanced (reached : Reached config life) :
    life.stored.Perm (life.held ++ life.closed) := by
  induction reached with
  | start => exact List.Perm.refl _
  | @after life event reached forward ih =>
      cases present : life.cache with
      | none =>
          rw [after_of_dropped present]
          exact ih
      | some cache =>
          have step := cache.undergo_handles (reached.distinct present) event
          have total := ih.append_left (cache.undergo event).1.stored?.toList
          rw [held_of_cache present, ← List.append_assoc] at total
          rw [stored_after present]
          have settled := total.trans (step.append_right life.closed)
          rw [List.append_assoc] at settled
          rw [after_of_cache present]
          exact settled
  | @reorder life cache entries reached present moved ih =>
      have same : (cache.withEntries ⟨entries⟩).handles.Perm cache.handles := by
        simp only [Cache.handles_eq]
        exact moved.map fun pair => pair.2.handle
      rw [held_of_cache present] at ih
      exact ih.trans (same.symm.append_right life.closed)

/-- Nothing is held once an event has emptied the cache or ended it, so all that was stored is closed. -/
theorem Reached.settled (reached : Reached config life) {event : CacheEvent η}
    (ending : event = .drop ∨ ∃ cause?, event = .close cause?) :
    (life.after event).held = [] ∧ (life.after event).closed.Perm life.stored := by
  have readings : event.readings = [] := by
    rcases ending with rfl | ⟨cause?, rfl⟩
    · rfl
    · rfl
  have balanced := (reached.after event (by simp [readings])).balanced
  cases present : life.cache with
  | none =>
      have empty : life.held = [] := by simp [held, present]
      rw [after_of_dropped present, empty] at balanced ⊢
      exact ⟨rfl, balanced.symm⟩
  | some cache =>
      have empty : (life.after event).held = [] := by
        rw [after_of_cache present]
        rcases ending with rfl | ⟨cause?, rfl⟩
        · rfl
        · rfl
      have kept : (life.after event).stored = life.stored := by
        rw [stored_after present]
        rcases ending with rfl | ⟨cause?, rfl⟩
        · rfl
        · rfl
      rw [empty, kept] at balanced
      exact ⟨empty, balanced.symm⟩

/-- At every point of the life of a cache the handles that were ever stored are, counted with repetitions,
those that it holds and those that were closed. So none of them is closed that is still held, none is closed
twice and none is lost. Once the cache is closed or dropped, each has been closed as often as it was
stored. -/
theorem handles_conserved (reached : Reached config life) :
    life.stored.Perm (life.held ++ life.closed) ∧
    (life.stored.Nodup → life.closed.Nodup ∧ ∀ handle ∈ life.held, handle ∉ life.closed) ∧
    (∀ cause?, (life.after (.close cause?)).held = [] ∧
      (life.after (.close cause?)).closed.Perm life.stored) ∧
    (life.after .drop).held = [] ∧ (life.after .drop).closed.Perm life.stored := by
  refine ⟨reached.balanced, ?_, ?_, reached.settled (Or.inl rfl)⟩
  · intro different
    have apart := List.nodup_append.mp (reached.balanced.nodup_iff.mp different)
    exact ⟨apart.2.1, fun handle held closed => apart.2.2 handle held handle closed rfl⟩
  · exact fun cause? => reached.settled (Or.inr ⟨cause?, rfl⟩)

theorem handles_conserved_when_full :
    ∃ life : CacheLife Nat, Reached ⟨1, 60, 20⟩ life ∧ life.stored = [2, 1] ∧ life.held = [2] ∧
      life.closed = [1] ∧ life.stored.Perm (life.held ++ life.closed) ∧
      (life.closed.Nodup ∧ ∀ handle ∈ life.held, handle ∉ life.closed) ∧
      (life.after .drop).held = [] ∧ (life.after .drop).closed.Perm life.stored := by
  have first : Reached ⟨1, 60, 20⟩ ((start ⟨1, 60, 20⟩).after (.put "a" 1 5 true)) :=
    .after _ .start (by decide)
  have second := first.after (.put "b" 2 5 true) (by decide)
  obtain ⟨balanced, apart, _, dropped⟩ := handles_conserved second
  exact ⟨_, second, by decide, by decide, by decide, balanced, apart (by decide), dropped⟩

end CacheLife

end TableScript
