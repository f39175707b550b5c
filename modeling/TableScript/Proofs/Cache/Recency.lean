import TableScript.Proofs.Cache.Turn

set_option autoImplicit false

namespace TableScript

variable {η : Type}

namespace CacheLife

/-- The number of the latest event that used the handle under a key; zero if there was none. -/
def lastUse (key : String) : List (CacheDeed η) → Nat
  | [] => 0
  | deed :: older => if deed.used? = some key then older.length + 1 else lastUse key older

theorem lastUse_le (key : String) (past : List (CacheDeed η)) : lastUse key past ≤ past.length := by
  induction past with
  | nil => exact Nat.le_refl 0
  | cons deed older ih =>
      simp only [lastUse, List.length_cons]
      split
      · exact Nat.le_refl _
      · exact Nat.le_succ_of_le ih

theorem lastUse_of_used {key : String} {deed : CacheDeed η} (used : deed.used? = some key)
    (past : List (CacheDeed η)) : lastUse key (deed :: past) = past.length + 1 := by
  simp only [lastUse, used, ↓reduceIte]

theorem lastUse_of_unused {key : String} {deed : CacheDeed η} (unused : deed.used? ≠ some key)
    (past : List (CacheDeed η)) : lastUse key (deed :: past) = lastUse key past := by
  simp only [lastUse, unused, ↓reduceIte]

/-- No event uses two handles. -/
theorem eq_of_lastUse {key other : String} {past : List (CacheDeed η)} (used : 0 < lastUse key past)
    (same : lastUse key past = lastUse other past) : key = other := by
  induction past with
  | nil => cases used
  | cons deed older ih =>
      have bounds := And.intro (lastUse_le key older) (lastUse_le other older)
      by_cases here : deed.used? = some key
      · by_cases there : deed.used? = some other
        · exact Option.some.inj (here.symm.trans there)
        · rw [lastUse_of_used here, lastUse_of_unused there] at same
          omega
      · by_cases there : deed.used? = some other
        · rw [lastUse_of_unused here, lastUse_of_used there] at same
          omega
        · rw [lastUse_of_unused here] at used same
          rw [lastUse_of_unused there] at same
          exact ih used same

end CacheLife

namespace Cache

open CacheLife (lastUse)

/-- Every handle was used, and the later its last use the later its stamp. -/
structure Stamped (clock : Time) (past : List (CacheDeed η)) (cache : Cache η) : Prop where
  timed : ∀ pair ∈ cache.entries.entries, pair.2.lastUsed ≤ clock
  counted : ∀ pair ∈ cache.entries.entries, pair.2.recency < cache.uses
  used : ∀ pair ∈ cache.entries.entries, 0 < lastUse pair.1 past
  ordered : ∀ a ∈ cache.entries.entries, ∀ b ∈ cache.entries.entries, lastUse a.1 past < lastUse b.1 past →
    a.2.lastUsed ≤ b.2.lastUsed ∧ a.2.recency < b.2.recency

variable {cache next : Cache η} {clock later : Time} {past : List (CacheDeed η)} {deed : CacheDeed η}

/-- Stamps stay in order while handles only leave. -/
theorem Stamped.mono (stamped : Stamped clock past cache) (forward : clock ≤ later)
    (uses : next.uses = cache.uses) (kept : next.entries.entries ⊆ cache.entries.entries)
    {extended : List (CacheDeed η)} (same : ∀ key, lastUse key extended = lastUse key past) :
    Stamped later extended next := by
  refine ⟨?_, ?_, ?_, ?_⟩
  · exact fun pair member => Nat.le_trans (stamped.timed pair (kept member)) forward
  · intro pair member
    rw [uses]
    exact stamped.counted pair (kept member)
  · intro pair member
    rw [same]
    exact stamped.used pair (kept member)
  · intro a amember b bmember before
    rw [same, same] at before
    exact stamped.ordered a (kept amember) b (kept bmember) before

/-- The handle that is used gets the latest stamp of all, and its use is the latest one. -/
theorem Stamped.use (stamped : Stamped clock past cache) (forward : clock ≤ later) {key : String}
    {used : CachedHandle η} (taken : deed.used? = some key) (uses : next.uses = cache.uses + 1)
    (split : ∀ pair ∈ next.entries.entries,
      pair = (key, used) ∨ pair ∈ cache.entries.entries ∧ pair.1 ≠ key)
    (timed : used.lastUsed = later) (recent : used.recency = cache.uses) :
    Stamped later (deed :: past) next := by
  have newest := CacheLife.lastUse_of_used taken past
  have same : ∀ pair : String × CachedHandle η, pair.1 ≠ key →
      lastUse pair.1 (deed :: past) = lastUse pair.1 past := by
    intro pair apart
    apply CacheLife.lastUse_of_unused
    rw [taken]
    exact fun equal => apart (Option.some.inj equal).symm
  refine ⟨?_, ?_, ?_, ?_⟩
  · intro pair member
    rcases split pair member with rfl | ⟨old, -⟩
    · exact Nat.le_of_eq timed
    · exact Nat.le_trans (stamped.timed pair old) forward
  · intro pair member
    rw [uses]
    rcases split pair member with rfl | ⟨old, -⟩
    · rw [recent]
      exact Nat.lt_succ_self _
    · exact Nat.lt_succ_of_lt (stamped.counted pair old)
  · intro pair member
    rcases split pair member with rfl | ⟨old, apart⟩
    · rw [newest]
      exact Nat.succ_pos _
    · rw [same pair apart]
      exact stamped.used pair old
  · intro a amember b bmember before
    rcases split a amember with rfl | ⟨aold, apart⟩
    · have latest := CacheLife.lastUse_le b.1 (deed :: past)
      rw [newest] at before
      simp only [List.length_cons] at latest
      omega
    rcases split b bmember with rfl | ⟨bold, bapart⟩
    · rw [timed, recent]
      exact ⟨Nat.le_trans (stamped.timed a aold) forward, stamped.counted a aold⟩
    · rw [same a apart, same b bapart] at before
      exact stamped.ordered a aold b bold before

theorem Stamped.turn (stamped : Stamped clock past cache) (forward : clock ≤ later)
    (turn : Turn cache next later deed.used?) : Stamped later (deed :: past) next := by
  generalize taken : deed.used? = used? at turn
  cases turn with
  | rest config uses kept =>
      apply stamped.mono forward uses kept.subset
      exact fun key => CacheLife.lastUse_of_unused (by simp [taken]) past
  | use config uses placed kept bounded timed recent =>
      refine stamped.use forward taken uses ?_ timed recent
      intro pair member
      rcases List.mem_cons.mp (placed.mem_iff.mp member) with here | other
      · exact Or.inl here
      · exact Or.inr (Dictionary.mem_erase.mp (kept.subset other))

theorem Stamped.reorder (stamped : Stamped clock past cache) {entries : List (String × CachedHandle η)}
    (moved : entries.Perm cache.entries.entries) : Stamped clock past (cache.withEntries ⟨entries⟩) := by
  have uses : (cache.withEntries ⟨entries⟩).uses = cache.uses := rfl
  exact stamped.mono (Nat.le_refl clock) uses moved.subset fun _ => rfl

theorem Stamped.lastUse_ne (stamped : Stamped clock past cache) (distinct : cache.entries.keys.Nodup)
    {a b : String × CachedHandle η} (amember : a ∈ cache.entries.entries)
    (bmember : b ∈ cache.entries.entries) (apart : a ≠ b) : lastUse a.1 past ≠ lastUse b.1 past := by
  intro same
  have key := CacheLife.eq_of_lastUse (stamped.used a amember) same
  have found := Dictionary.get?_of_mem distinct amember
  rw [key, Dictionary.get?_of_mem distinct bmember] at found
  exact apart (Prod.ext key (Option.some.inj found).symm)

/-- Two handles in a cache differ in their stamps, and the stamps tell which one was used first. -/
theorem Stamped.usedBefore_iff (stamped : Stamped clock past cache) (distinct : cache.entries.keys.Nodup)
    {a b : String × CachedHandle η} (amember : a ∈ cache.entries.entries)
    (bmember : b ∈ cache.entries.entries) (apart : a ≠ b) :
    (a.2.lastUsed, a.2.recency) ≠ (b.2.lastUsed, b.2.recency) ∧
      (usedBefore a.2 b.2 = true ↔ lastUse a.1 past < lastUse b.1 past) := by
  rw [Cache.usedBefore_iff]
  simp only [ne_eq, Prod.mk.injEq, Time]
  rcases Nat.lt_or_gt_of_ne (stamped.lastUse_ne distinct amember bmember apart) with before | after
  · have stamps := stamped.ordered a amember b bmember before
    simp only [Time] at stamps
    omega
  · have stamps := stamped.ordered b bmember a amember after
    simp only [Time] at stamps
    omega

/-- One handle was used before all others. -/
theorem Stamped.exists_least (stamped : Stamped clock past cache) (distinct : cache.entries.keys.Nodup)
    (filled : 0 < cache.size) :
    ∃ least ∈ cache.entries.entries, ∀ other ∈ cache.entries.entries, other ≠ least →
      usedBefore least.2 other.2 = true ∧ lastUse least.1 past < lastUse other.1 past := by
  cases chosen : oldest? cache.entries.entries with
  | none =>
      have empty : cache.size = 0 := by simp [size, Dictionary.size, oldest?_eq_none_iff.mp chosen]
      omega
  | some least =>
      obtain ⟨member, unbeaten⟩ := oldest?_spec chosen
      refine ⟨least, member, ?_⟩
      intro other among apart
      have different := stamped.lastUse_ne distinct among member apart
      have later : ¬ lastUse other.1 past < lastUse least.1 past := by
        rw [← (stamped.usedBefore_iff distinct among member apart).2, unbeaten other among]
        exact Bool.false_ne_true
      have before : lastUse least.1 past < lastUse other.1 past := by omega
      exact ⟨(stamped.usedBefore_iff distinct member among apart.symm).2.mpr before, before⟩

/-- A handle that is stored in a full cache takes the place of the oldest one. -/
theorem put_of_full (distinct : cache.entries.keys.Nodup) {key : String} {victim : String × CachedHandle η}
    (absent : key ∉ cache.entries.keys) (full : cache.size = cache.config.limit)
    (chosen : oldest? cache.entries.entries = some victim) (handle : η) (now : Time)
    (canStartSweep : Bool) :
    (cache.put key handle now canStartSweep).1 = [victim.2.handle] ∧
      (cache.put key handle now canStartSweep).2.entries.entries.Perm
        ((key, ⟨handle, now, now, cache.uses⟩) :: (cache.entries.erase victim.1).entries) := by
  have alone : cache.entries.erase key = cache.entries := Dictionary.erase_of_absent absent
  have missing : cache.entries.get? key = none := Dictionary.get?_eq_none_iff.mpr absent
  have cleared : cache.cleared key = ([victim.2.handle], cache.entries.erase victim.1) := by
    have one : cache.entries.size + 1 - cache.config.limit = 1 := by
      change cache.entries.size = _ at full
      omega
    simp only [cleared, alone, one, evictOldest, chosen]
  have placed := put_entries distinct key handle now canStartSweep
  rw [cleared] at placed
  refine ⟨?_, placed⟩
  change ((cache.entries.get? key).map (·.handle)).toList ++ (cache.cleared key).1 = _
  rw [missing, cleared]
  rfl

/-- A handle that is stored under a present key takes the place of the one that was there. -/
theorem put_of_present (distinct : cache.entries.keys.Nodup) {key : String} {old : CachedHandle η}
    (found : cache.entries.get? key = some old) (bounded : cache.size ≤ cache.config.limit) (handle : η)
    (now : Time) (canStartSweep : Bool) :
    (cache.put key handle now canStartSweep).1 = [old.handle] ∧
      (cache.put key handle now canStartSweep).2.entries.entries.Perm
        ((key, ⟨handle, now, now, cache.uses⟩) :: (cache.entries.erase key).entries) := by
  have cleared : cache.cleared key = ([], cache.entries.erase key) := by
    have smaller : cache.size = (cache.entries.erase key).size + 1 :=
      (Dictionary.perm_of_get? distinct found).length_eq
    have none : (cache.entries.erase key).size + 1 - cache.config.limit = 0 := by omega
    simp only [cleared, none, evictOldest]
  have placed := put_entries distinct key handle now canStartSweep
  rw [cleared] at placed
  refine ⟨?_, placed⟩
  change ((cache.entries.get? key).map (·.handle)).toList ++ (cache.cleared key).1 = _
  rw [found, cleared]
  rfl

end Cache

namespace CacheLife

variable {config : CacheConfig} {life : CacheLife η} {cache : Cache η}

theorem Reached.stamped (reached : Reached config life) (present : life.cache = some cache) :
    cache.Stamped life.clock life.past := by
  refine (reached.invariant (fun clock past cache => cache.Stamped clock past) ?_ ?_ ?_ present).2
  · constructor <;> simp [Cache.new, Dictionary.empty]
  · exact fun stamped forward turn => stamped.turn forward turn
  · exact fun stamped moved => stamped.reorder moved

theorem Reached.bounded (reached : Reached config life) (present : life.cache = some cache) :
    cache.config = config ∧ cache.size ≤ config.limit := by
  refine (reached.invariant (fun _ _ cache => cache.config = config ∧ cache.size ≤ config.limit)
    ⟨rfl, Nat.zero_le _⟩ ?_ ?_ present).2
  · intro clock later past deed cache next within forward turn
    obtain ⟨rfl, within⟩ := within
    exact ⟨turn.bounded.1, Nat.le_trans turn.bounded.2 (Nat.max_le.mpr ⟨within, Nat.le_refl _⟩)⟩
  · intro clock past cache entries within moved
    exact ⟨within.1, Nat.le_trans (Nat.le_of_eq moved.length_eq) within.2⟩

/-- The count of uses is exact. -/
theorem Reached.uses_eq (reached : Reached config life) (present : life.cache = some cache) :
    cache.uses = life.past.countP (·.used?.isSome) := by
  refine (reached.invariant (fun _ past cache => cache.uses = past.countP (·.used?.isSome)) rfl ?_ ?_ present).2
  · intro clock later past deed cache next counted forward turn
    generalize taken : deed.used? = used? at turn
    cases turn with
    | rest config uses kept => rw [uses, counted, List.countP_cons_of_neg (by simp [taken])]
    | use config uses placed kept bounded timed recent =>
        rw [uses, counted, List.countP_cons_of_pos (by simp [taken])]
  · exact fun counted moved => counted

/-- Through fewer than 2^64 uses, a counter of 64 bits reads the same as the count, and so do the stamps taken from
it. -/
theorem Reached.counters_fit (reached : Reached config life) (present : life.cache = some cache)
    (few : life.past.countP (·.used?.isSome) < UInt64.size) :
    (UInt64.ofNat cache.uses).toNat = cache.uses ∧
      ∀ pair ∈ cache.entries.entries, (UInt64.ofNat pair.2.recency).toNat = pair.2.recency := by
  rw [← reached.uses_eq present] at few
  refine ⟨UInt64.toNat_ofNat_of_lt few, fun pair member => UInt64.toNat_ofNat_of_lt ?_⟩
  exact Nat.lt_trans ((reached.stamped present).counted pair member) few

section Order

variable {order : List (String × CachedHandle η)} {key : String}

/-- In whatever order the handles are listed, the one that was used before all others makes room. -/
theorem Reached.put_full (reached : Reached config life) (present : life.cache = some cache)
    (moved : order.Perm cache.entries.entries) (absent : cache.contains key = false)
    (full : config.limit ≤ cache.size) {victim : String × CachedHandle η}
    (member : victim ∈ cache.entries.entries)
    (least : ∀ other ∈ cache.entries.entries, other ≠ victim → Cache.usedBefore victim.2 other.2 = true)
    (handle : η) (now : Time) (canStartSweep : Bool) :
    ((cache.withEntries ⟨order⟩).put key handle now canStartSweep).1 = [victim.2.handle] ∧
      ((cache.withEntries ⟨order⟩).put key handle now canStartSweep).2.entries.entries.Perm
        ((key, ⟨handle, now, now, cache.uses⟩) :: (cache.entries.erase victim.1).entries) := by
  have reordered := reached.reorder present moved
  obtain ⟨configured, bounded⟩ := reached.bounded present
  have chosen : Cache.oldest? order = some victim := by
    apply Cache.oldest?_of_least (moved.mem_iff.mpr member)
    exact fun other among apart => least other (moved.mem_iff.mp among) apart
  have missing : key ∉ (cache.withEntries ⟨order⟩).entries.keys := by
    intro held
    have still := (Dictionary.contains_iff cache.entries key).mpr ((moved.map Prod.fst).mem_iff.mp held)
    exact Bool.false_ne_true (absent.symm.trans still)
  have sized : (cache.withEntries ⟨order⟩).size = cache.config.limit := by
    rw [configured]
    exact moved.length_eq.trans (Nat.le_antisymm bounded full)
  obtain ⟨closed, placed⟩ :=
    Cache.put_of_full (reordered.distinct rfl) missing sized chosen handle now canStartSweep
  exact ⟨closed, placed.trans ((moved.filter _).cons _)⟩

/-- In whatever order the handles are listed, the one under the same key makes room. -/
theorem Reached.put_present (reached : Reached config life) (present : life.cache = some cache)
    (moved : order.Perm cache.entries.entries) {old : CachedHandle η}
    (found : cache.entries.get? key = some old) (handle : η) (now : Time) (canStartSweep : Bool) :
    ((cache.withEntries ⟨order⟩).put key handle now canStartSweep).1 = [old.handle] ∧
      ((cache.withEntries ⟨order⟩).put key handle now canStartSweep).2.entries.entries.Perm
        ((key, ⟨handle, now, now, cache.uses⟩) :: (cache.entries.erase key).entries) := by
  have reordered := reached.reorder present moved
  have still : (cache.withEntries ⟨order⟩).entries.get? key = some old :=
    Dictionary.get?_of_mem (reordered.distinct rfl) (moved.mem_iff.mpr (Dictionary.mem_of_get? found))
  have within : (cache.withEntries ⟨order⟩).size ≤ cache.config.limit := by
    rw [(reached.bounded present).1]
    exact (reordered.bounded rfl).2
  obtain ⟨closed, placed⟩ :=
    Cache.put_of_present (reordered.distinct rfl) still within handle now canStartSweep
  exact ⟨closed, placed.trans ((moved.filter _).cons _)⟩

end Order

/-- At every point of its life a cache has at most its limit of handles, and their stamps differ and are in
the order of their last uses. A handle that is stored under a new key in a full cache takes the place of
exactly one, the one whose last use is the longest ago, in whatever order the handles are listed. One that is
stored under a present key takes the place of the one that was there. The count of uses is taken to be unbounded;
a counter of 64 bits reads the same through fewer than 2^64 uses. -/
theorem least_recently_used_leaves (reached : Reached config life) (present : life.cache = some cache) :
    cache.size ≤ max config.capacity 1 ∧
    (∀ a ∈ cache.entries.entries, 0 < lastUse a.1 life.past ∧ ∀ b ∈ cache.entries.entries, a ≠ b →
      (a.2.lastUsed, a.2.recency) ≠ (b.2.lastUsed, b.2.recency) ∧
      (Cache.usedBefore a.2 b.2 = true ↔ lastUse a.1 life.past < lastUse b.1 life.past)) ∧
    (∀ key, cache.contains key = false → max config.capacity 1 ≤ cache.size →
      ∃ victim ∈ cache.entries.entries,
        (∀ other ∈ cache.entries.entries, other ≠ victim →
          lastUse victim.1 life.past < lastUse other.1 life.past) ∧
        ∀ order, List.Perm order cache.entries.entries → ∀ handle now canStartSweep,
          ((cache.withEntries ⟨order⟩).put key handle now canStartSweep).1 = [victim.2.handle] ∧
          ((cache.withEntries ⟨order⟩).put key handle now canStartSweep).2.entries.entries.Perm
            ((key, ⟨handle, now, now, cache.uses⟩) :: (cache.entries.erase victim.1).entries)) ∧
    ∀ key old, cache.entries.get? key = some old →
      ∀ order, List.Perm order cache.entries.entries → ∀ handle now canStartSweep,
        ((cache.withEntries ⟨order⟩).put key handle now canStartSweep).1 = [old.handle] ∧
        ((cache.withEntries ⟨order⟩).put key handle now canStartSweep).2.entries.entries.Perm
          ((key, ⟨handle, now, now, cache.uses⟩) :: (cache.entries.erase key).entries) := by
  have distinct := reached.distinct present
  have stamped := reached.stamped present
  refine ⟨(reached.bounded present).2, ?_, ?_, ?_⟩
  · intro a amember
    refine ⟨stamped.used a amember, ?_⟩
    intro b bmember apart
    exact stamped.usedBefore_iff distinct amember bmember apart
  · intro key absent full
    have filled : 0 < cache.size := Nat.lt_of_lt_of_le (Nat.le_max_right _ _) full
    obtain ⟨victim, member, least⟩ := stamped.exists_least distinct filled
    refine ⟨victim, member, fun other among apart => (least other among apart).2, ?_⟩
    intro order moved
    exact reached.put_full present moved absent full member
      fun other among apart => (least other among apart).1
  · intro key old found order moved
    exact reached.put_present present moved found

theorem least_recently_used_leaves_at_one_reading :
    ∃ (life : CacheLife Nat) (cache : Cache Nat), Reached ⟨2, 60, 20⟩ life ∧ life.cache = some cache ∧
      cache.handles = [1, 2] ∧ cache.size ≤ 2 ∧ cache.contains "c" = false ∧
      ∀ order, List.Perm order cache.entries.entries →
        ((cache.withEntries ⟨order⟩).put "c" 3 5 true).1 = [2] ∧
        ((cache.withEntries ⟨order⟩).put "a" 4 5 true).1 = [1] := by
  have first : Reached ⟨2, 60, 20⟩ ((start ⟨2, 60, 20⟩).after (.put "a" 1 5 true)) :=
    .after _ .start (by decide)
  have second := first.after (.put "b" 2 5 true) (by decide)
  have third := second.after (.get "a" (fun _ => true) 5 5) (by decide)
  obtain ⟨bounded, -, evicts, replaces⟩ := least_recently_used_leaves third rfl
  obtain ⟨victim, -, -, leaves⟩ := evicts "c" (by decide) (by decide)
  refine ⟨_, _, third, rfl, by decide, bounded, by decide, ?_⟩
  intro order moved
  refine ⟨?_, (replaces "a" _ rfl order moved 4 5 true).1⟩
  rw [(leaves order moved 3 5 true).1, ← (leaves _ (List.Perm.refl _) 3 5 true).1]
  decide

end CacheLife

end TableScript
