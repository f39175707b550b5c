import TableScript.Proofs.Cache.Eviction
import TableScript.Proofs.Cache.Life

set_option autoImplicit false

namespace TableScript

variable {η : Type}

namespace Cache

/-- The step from one cache to the next, given the clock and the key whose handle was used. -/
inductive Turn (cache next : Cache η) (clock : Time) : Option String → Prop where
  | rest (config : next.config = cache.config) (uses : next.uses = cache.uses)
      (kept : next.entries.entries.Sublist cache.entries.entries) : Turn cache next clock none
  | use {key : String} {used : CachedHandle η} {others : List (String × CachedHandle η)}
      (config : next.config = cache.config) (uses : next.uses = cache.uses + 1)
      (placed : next.entries.entries.Perm ((key, used) :: others))
      (kept : others.Sublist (cache.entries.erase key).entries)
      (bounded : next.size ≤ max cache.size cache.config.limit)
      (timed : used.lastUsed = clock) (recent : used.recency = cache.uses) :
      Turn cache next clock (some key)

variable {cache : Cache η}

theorem evict_turn (cache : Cache η) (key : String) (entry : CachedHandle η) (clock : Time) :
    Turn cache (cache.evict key entry).2 clock none :=
  .rest rfl rfl List.filter_sublist

theorem evictStale_turn (cache : Cache η) (now clock : Time) :
    Turn cache (cache.evictStale now).2 clock none :=
  .rest rfl rfl List.filter_sublist

theorem get_turn (distinct : cache.entries.keys.Nodup) (key : String) (healthy : η → Bool)
    (now usedAt : Time) :
    Turn cache (cache.get key healthy now usedAt).2.2 usedAt
      (if (cache.get key healthy now usedAt).1.isSome then some key else none) := by
  unfold get
  split
  · exact .rest rfl rfl (List.Sublist.refl _)
  · rename_i entry found
    split
    · exact cache.evict_turn key entry usedAt
    split
    · exact cache.evict_turn key entry usedAt
    have placed :=
      Dictionary.insert_perm key { entry with lastUsed := usedAt, recency := cache.uses } distinct
    have spread := Dictionary.perm_of_get? distinct found
    refine .use rfl rfl placed (List.Sublist.refl _) ?_ rfl rfl
    exact Nat.le_trans (Nat.le_of_eq (placed.length_eq.trans spread.length_eq.symm)) (Nat.le_max_left _ _)

/-- The handles without the one under `key`, after room was made for one more. -/
def cleared (cache : Cache η) (key : String) : List η × Dictionary (CachedHandle η) :=
  evictOldest ((cache.entries.erase key).size + 1 - cache.config.limit) (cache.entries.erase key)

theorem cleared_sublist (cache : Cache η) (key : String) :
    (cache.cleared key).2.entries.Sublist (cache.entries.erase key).entries :=
  evictOldest_sublist _ _

theorem size_cleared (distinct : cache.entries.keys.Nodup) (key : String) :
    (cache.cleared key).2.size < cache.config.limit := by
  have reduced : (cache.cleared key).2.size =
      (cache.entries.erase key).size - ((cache.entries.erase key).size + 1 - cache.config.limit) :=
    evictOldest_size _ (Dictionary.nodup_keys_erase key distinct)
  have positive : 1 ≤ cache.config.limit := Nat.le_max_right _ _
  omega

/-- A handle that is stored stands beside those that were left. -/
theorem put_entries (distinct : cache.entries.keys.Nodup) (key : String) (handle : η) (now : Time)
    (canStartSweep : Bool) :
    (cache.put key handle now canStartSweep).2.entries.entries.Perm
      ((key, ⟨handle, now, now, cache.uses⟩) :: (cache.cleared key).2.entries) := by
  have fewer : (cache.cleared key).2.keys.Sublist (cache.entries.erase key).keys :=
    (cache.cleared_sublist key).map Prod.fst
  have absent : key ∉ (cache.cleared key).2.keys :=
    fun member => Dictionary.not_mem_keys_erase (fewer.subset member)
  have placed := Dictionary.insert_perm key ⟨handle, now, now, cache.uses⟩
    (fewer.nodup (Dictionary.nodup_keys_erase key distinct))
  rw [Dictionary.erase_of_absent absent] at placed
  exact placed

theorem put_turn (distinct : cache.entries.keys.Nodup) (key : String) (handle : η) (now : Time)
    (canStartSweep : Bool) :
    Turn cache (cache.put key handle now canStartSweep).2 now (some key) := by
  have placed := cache.put_entries distinct key handle now canStartSweep
  refine .use rfl rfl placed (cache.cleared_sublist key) ?_ rfl rfl
  have room : (cache.cleared key).2.size + 1 ≤ cache.config.limit := size_cleared distinct key
  exact Nat.le_trans (Nat.le_of_eq placed.length_eq) (Nat.le_trans room (Nat.le_max_right _ _))

/-- Every event takes its turn. -/
theorem undergo_turn (distinct : cache.entries.keys.Nodup) (event : CacheEvent η) (clock : Time)
    {next : Cache η} (left : (cache.undergo event).2 = some next) :
    Turn cache next (event.readings.getLastD clock) (cache.undergo event).1.used? := by
  cases event with
  | put key handle now canStartSweep =>
      cases left
      exact put_turn distinct key handle now canStartSweep
  | get key healthy now usedAt =>
      cases left
      exact get_turn distinct key healthy now usedAt
  | evictStale now =>
      cases left
      exact cache.evictStale_turn now now
  | tick now =>
      simp only [undergo] at left ⊢
      split at left
      · cases left
        exact cache.evictStale_turn now now
      · cases left
        exact .rest rfl rfl (List.Sublist.refl _)
  | close cause? =>
      cases left
      exact .rest rfl rfl (List.nil_sublist _)
  | drop => cases left

theorem Turn.distinct {next : Cache η} {clock : Time} {used? : Option String}
    (turn : Turn cache next clock used?) (distinct : cache.entries.keys.Nodup) : next.entries.keys.Nodup := by
  cases turn with
  | rest config uses kept => exact (kept.map Prod.fst).nodup distinct
  | @use key used others config uses placed kept bounded timed recent =>
      have moved : next.entries.keys.Perm (key :: others.map (·.1)) := placed.map Prod.fst
      have fewer : (others.map (·.1)).Sublist (cache.entries.erase key).keys := kept.map Prod.fst
      rw [moved.nodup_iff, List.nodup_cons]
      refine ⟨?_, fewer.nodup (Dictionary.nodup_keys_erase key distinct)⟩
      exact fun member => Dictionary.not_mem_keys_erase (fewer.subset member)

theorem Turn.bounded {next : Cache η} {clock : Time} {used? : Option String}
    (turn : Turn cache next clock used?) :
    next.config = cache.config ∧ next.size ≤ max cache.size cache.config.limit := by
  cases turn with
  | rest config uses kept => exact ⟨config, Nat.le_trans kept.length_le (Nat.le_max_left _ _)⟩
  | use config uses placed kept bounded timed recent => exact ⟨config, bounded⟩

end Cache

namespace CacheLife

variable {config : CacheConfig} {life : CacheLife η}

theorem after_of_cache {cache : Cache η} (present : life.cache = some cache) (event : CacheEvent η) :
    life.after event = ⟨(cache.undergo event).2, event.readings.getLastD life.clock,
      (cache.undergo event).1 :: life.past⟩ := by
  simp only [after, present]

theorem after_of_dropped (dropped : life.cache = none) (event : CacheEvent η) : life.after event = life := by
  simp only [after, dropped]

theorem clock_le_readings {clock : Time} {event : CacheEvent η}
    (forward : (clock :: event.readings).Pairwise (· ≤ ·)) : clock ≤ event.readings.getLastD clock := by
  have last : event.readings.getLastD clock ∈ clock :: event.readings := List.getLastD_mem_cons
  rcases List.mem_cons.mp last with same | later
  · exact Nat.le_of_eq same.symm
  · exact (List.pairwise_cons.mp forward).1 _ later

/-- What holds of a new cache, through every event and in every order of the handles holds through every life,
and a key never stands for two handles. -/
theorem Reached.invariant_of_events (holds : Time → List (CacheDeed η) → Cache η → Prop)
    (start : holds 0 [] (.new config))
    (undergo : ∀ {clock : Time} {past : List (CacheDeed η)} {cache next : Cache η} (event : CacheEvent η),
      cache.entries.keys.Nodup → holds clock past cache →
      (clock :: event.readings).Pairwise (· ≤ ·) → (cache.undergo event).2 = some next →
      holds (event.readings.getLastD clock) ((cache.undergo event).1 :: past) next)
    (reorder : ∀ {clock : Time} {past : List (CacheDeed η)} {cache : Cache η}
      {entries : List (String × CachedHandle η)},
      holds clock past cache → entries.Perm cache.entries.entries →
      holds clock past (cache.withEntries ⟨entries⟩))
    (reached : Reached config life) {cache : Cache η} (present : life.cache = some cache) :
    cache.entries.keys.Nodup ∧ holds life.clock life.past cache := by
  induction reached generalizing cache with
  | start =>
      cases present
      exact ⟨List.nodup_nil, start⟩
  | @after life event reached forward ih =>
      cases before : life.cache with
      | none =>
          rw [after_of_dropped before] at present ⊢
          exact ih present
      | some earlier =>
          obtain ⟨distinct, held⟩ := ih before
          rw [after_of_cache before] at present ⊢
          have taken := Cache.undergo_turn distinct event life.clock present
          exact ⟨taken.distinct distinct, undergo event distinct held forward present⟩
  | reorder reached earlier moved ih =>
      obtain ⟨distinct, held⟩ := ih earlier
      cases present
      exact ⟨(moved.map Prod.fst).nodup_iff.mpr distinct, reorder held moved⟩

/-- As `invariant_of_events`, for what holds through every turn. -/
theorem Reached.invariant (holds : Time → List (CacheDeed η) → Cache η → Prop)
    (start : holds 0 [] (.new config))
    (turn : ∀ {clock later : Time} {past : List (CacheDeed η)} {deed : CacheDeed η} {cache next : Cache η},
      holds clock past cache → clock ≤ later → Cache.Turn cache next later deed.used? →
      holds later (deed :: past) next)
    (reorder : ∀ {clock : Time} {past : List (CacheDeed η)} {cache : Cache η}
      {entries : List (String × CachedHandle η)},
      holds clock past cache → entries.Perm cache.entries.entries →
      holds clock past (cache.withEntries ⟨entries⟩))
    (reached : Reached config life) {cache : Cache η} (present : life.cache = some cache) :
    cache.entries.keys.Nodup ∧ holds life.clock life.past cache := by
  refine reached.invariant_of_events holds start ?_ reorder present
  intro clock past cache next event distinct held forward left
  have taken := Cache.undergo_turn distinct event clock left
  exact turn held (clock_le_readings forward) taken

theorem Reached.distinct (reached : Reached config life) {cache : Cache η}
    (present : life.cache = some cache) : cache.entries.keys.Nodup :=
  (reached.invariant (fun _ _ _ => True) trivial (fun _ _ _ => trivial) (fun _ _ => trivial) present).1

end CacheLife

end TableScript
