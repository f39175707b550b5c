import TableScript.Proofs.Cache.Recency

set_option autoImplicit false

namespace TableScript

variable {η : Type}

/-- The handle that was stored under a key, and when. -/
def CacheDeed.storedUnder? (key : String) (deed : CacheDeed η) : Option (η × Time) :=
  match deed.event with
  | .put name handle now _ => if name = key then some (handle, now) else none
  | _ => none

/-- The handle that was last stored under a key, and when. -/
def CacheLife.lastStored? (key : String) (past : List (CacheDeed η)) : Option (η × Time) :=
  past.findSome? (·.storedUnder? key)

/-- Whether a handle that was stored at one time is not too old at another. -/
def CacheConfig.Lasts (config : CacheConfig) (stored now : Time) : Prop :=
  now ≤ stored + config.lifetime * 1000

instance (config : CacheConfig) (stored now : Time) : Decidable (config.Lasts stored now) :=
  inferInstanceAs (Decidable (_ ≤ _))

namespace Cache

open CacheLife (lastStored?)

variable {cache next : Cache η}

theorem isExpired_iff (config : CacheConfig) (now : Time) (entry : CachedHandle η) :
    isExpired config now entry = true ↔ ¬ config.Lasts entry.createdAt now := by
  simp only [isExpired, decide_eq_true_eq, CacheConfig.Lasts, Time]
  omega

/-- The cache after the handle under a key was used. -/
def touch (cache : Cache η) (key : String) (entry : CachedHandle η) (usedAt : Time) : Cache η :=
  { cache with
    entries := cache.entries.insert key { entry with lastUsed := usedAt, recency := cache.uses }
    uses := cache.uses + 1 }

/-- All that a lookup can come to. -/
theorem get_cases (cache : Cache η) (key : String) (healthy : η → Bool) (now usedAt : Time) :
    (cache.entries.get? key = none ∧ cache.get key healthy now usedAt = (none, [], cache)) ∨
      ∃ entry, cache.entries.get? key = some entry ∧
        (¬ (cache.config.Lasts entry.createdAt now ∧ healthy entry.handle = true) ∧
            cache.get key healthy now usedAt = (none, cache.evict key entry) ∨
          (cache.config.Lasts entry.createdAt now ∧ healthy entry.handle = true) ∧
            cache.get key healthy now usedAt = (some entry.handle, [], cache.touch key entry usedAt)) := by
  cases found : cache.entries.get? key with
  | none => exact Or.inl ⟨rfl, by simp only [get, found]⟩
  | some entry =>
      refine Or.inr ⟨entry, rfl, ?_⟩
      have expired := isExpired_iff cache.config now entry
      by_cases lasts : cache.config.Lasts entry.createdAt now
      · have young : isExpired cache.config now entry = false := by simpa [lasts] using expired
        cases well : healthy entry.handle with
        | false =>
            left
            simp only [get, found, young, well, lasts, Bool.false_eq_true, ↓reduceIte, Bool.not_false, and_false,
              not_false_eq_true, true_and]
        | true =>
            right
            simp only [get, found, young, well, lasts, Bool.false_eq_true, ↓reduceIte, Bool.not_true, and_self,
              touch]
      · left
        have old : isExpired cache.config now entry = true := expired.mpr lasts
        simp only [get, found, old, lasts, ↓reduceIte, false_and, not_false_eq_true, true_and]

theorem undergo_event (cache : Cache η) (event : CacheEvent η) : (cache.undergo event).1.event = event := by
  cases event with
  | tick now =>
      simp only [undergo]
      split
      · rfl
      · rfl
  | put | get | evictStale | close | drop => rfl

/-- Every entry holds the handle that was last stored under its key and counts its age from then. -/
def Traced (past : List (CacheDeed η)) (cache : Cache η) : Prop :=
  ∀ pair ∈ cache.entries.entries, lastStored? pair.1 past = some (pair.2.handle, pair.2.createdAt)

/-- What an entry of one cache has from another: the same handle under the same key, stored at the same
time. -/
def Inherits (cache : Cache η) (pair : String × CachedHandle η) : Prop :=
  ∃ old, (pair.1, old) ∈ cache.entries.entries ∧ old.handle = pair.2.handle ∧ old.createdAt = pair.2.createdAt

theorem inherits_of_mem {pair : String × CachedHandle η} (member : pair ∈ cache.entries.entries) :
    cache.Inherits pair := ⟨pair.2, member, rfl, rfl⟩

theorem get_inherits (distinct : cache.entries.keys.Nodup) (key : String) (healthy : η → Bool)
    (now usedAt : Time) :
    ∀ pair ∈ (cache.get key healthy now usedAt).2.2.entries.entries, cache.Inherits pair := by
  intro pair member
  rcases cache.get_cases key healthy now usedAt with ⟨-, got⟩ | ⟨entry, found, ⟨-, got⟩ | ⟨-, got⟩⟩
  · rw [got] at member
    exact inherits_of_mem member
  · rw [got] at member
    exact inherits_of_mem (Dictionary.mem_erase.mp member).1
  · rw [got] at member
    have placed := (Dictionary.insert_perm key _ distinct).mem_iff.mp member
    rcases List.mem_cons.mp placed with rfl | other
    · exact ⟨entry, Dictionary.mem_of_get? found, rfl, rfl⟩
    · exact inherits_of_mem (Dictionary.mem_erase.mp other).1

/-- Where an entry comes from: it was stored just now, or it was there before and is as old as it was. -/
theorem undergo_origin (distinct : cache.entries.keys.Nodup) (event : CacheEvent η)
    (left : (cache.undergo event).2 = some next) :
    ∀ pair ∈ next.entries.entries,
      (cache.undergo event).1.storedUnder? pair.1 = some (pair.2.handle, pair.2.createdAt) ∨
        (cache.undergo event).1.storedUnder? pair.1 = none ∧ cache.Inherits pair := by
  intro pair member
  cases event with
  | put key handle now canStartSweep =>
      cases left
      have placed := (put_entries distinct key handle now canStartSweep).mem_iff.mp member
      rcases List.mem_cons.mp placed with rfl | kept
      · left
        simp only [undergo, CacheDeed.storedUnder?, ↓reduceIte]
      · right
        obtain ⟨old, apart⟩ := Dictionary.mem_erase.mp ((cache.cleared_sublist key).subset kept)
        simp only [undergo, CacheDeed.storedUnder?, apart.symm, ↓reduceIte, true_and]
        exact inherits_of_mem old
  | get key healthy now usedAt =>
      cases left
      exact Or.inr ⟨rfl, get_inherits distinct key healthy now usedAt pair member⟩
  | evictStale now =>
      cases left
      exact Or.inr ⟨rfl, inherits_of_mem (List.filter_sublist.subset member)⟩
  | tick now =>
      simp only [undergo] at left ⊢
      split at left
      · cases left
        exact Or.inr ⟨rfl, inherits_of_mem (List.filter_sublist.subset member)⟩
      · cases left
        exact Or.inr ⟨rfl, inherits_of_mem member⟩
  | close cause? =>
      cases left
      cases member
  | drop => cases left

theorem Traced.undergo {past : List (CacheDeed η)} (traced : cache.Traced past)
    (distinct : cache.entries.keys.Nodup) (event : CacheEvent η)
    (left : (cache.undergo event).2 = some next) : next.Traced ((cache.undergo event).1 :: past) := by
  intro pair member
  simp only [lastStored?, List.findSome?_cons]
  rcases undergo_origin distinct event left pair member with stored | ⟨quiet, old, held, handle, time⟩
  · rw [stored]
  · rw [quiet, ← handle, ← time]
    exact traced _ held

end Cache

namespace CacheLife

variable {config : CacheConfig} {life : CacheLife η} {cache : Cache η}

theorem Reached.traced (reached : Reached config life) (present : life.cache = some cache) :
    cache.Traced life.past := by
  refine (reached.invariant_of_events (fun _ past cache => cache.Traced past) ?_ ?_ ?_ present).2
  · intro pair member
    cases member
  · exact fun event distinct traced forward left => traced.undergo distinct event left
  · exact fun traced moved pair member => traced pair (moved.mem_iff.mp member)

theorem Reached.lastStored (reached : Reached config life) (present : life.cache = some cache) {key : String}
    {entry : CachedHandle η} (found : cache.entries.get? key = some entry) :
    lastStored? key life.past = some (entry.handle, entry.createdAt) :=
  reached.traced present (key, entry) (Dictionary.mem_of_get? found)

/-- What a lookup answers, what it closes and which cache it leaves. -/
structure Lookup (config : CacheConfig) (past : List (CacheDeed η)) (cache : Cache η) (key : String)
    (healthy : η → Bool) (now : Time) (answer : Option η × List η × Cache η) : Prop where
  /-- It finds what the cache holds under the key, if that is well and was stored no longer ago than it
  lasts. -/
  found_iff : ∀ handle, answer.1 = some handle ↔
    (∃ entry, cache.entries.get? key = some entry ∧ entry.handle = handle) ∧
      (∃ stored, lastStored? key past = some (handle, stored) ∧ config.Lasts stored now) ∧
      healthy handle = true
  /-- Otherwise nothing is left under the key, and what was there is closed. -/
  missed : answer.1 = none →
    answer.2.1 = ((cache.entries.get? key).map (·.handle)).toList ∧ answer.2.2.entries.get? key = none
  /-- What is found stays, and does not get younger. -/
  kept : answer.1.isSome → answer.2.1 = [] ∧
    (answer.2.2.entries.get? key).map (fun entry => (entry.handle, entry.createdAt)) =
      (cache.entries.get? key).map fun entry => (entry.handle, entry.createdAt)
  others : ∀ other, other ≠ key → answer.2.2.entries.get? other = cache.entries.get? other

theorem Reached.lookup (reached : Reached config life) (present : life.cache = some cache) (key : String)
    (healthy : η → Bool) (now usedAt : Time) :
    Lookup config life.past cache key healthy now (cache.get key healthy now usedAt) := by
  have configured := (reached.bounded present).1
  rcases cache.get_cases key healthy now usedAt with ⟨absent, got⟩ | ⟨entry, found, outcome⟩
  · rw [got]
    constructor
    · simp [absent]
    · simp [absent]
    · simp
    · exact fun other apart => rfl
  · have stored := reached.lastStored present found
    rw [configured] at outcome
    rcases outcome with ⟨refused, got⟩ | ⟨⟨lasts, well⟩, got⟩
    · rw [got]
      constructor
      · intro handle
        constructor
        · intro some
          cases some
        · rintro ⟨⟨held, same, rfl⟩, ⟨time, last, lasts⟩, well⟩
          rw [found] at same
          cases same
          rw [stored] at last
          cases last
          exact absurd ⟨lasts, well⟩ refused
      · intro missed
        refine ⟨?_, Dictionary.get?_erase_self cache.entries key⟩
        rw [found]
        rfl
      · intro some
        cases some
      · exact fun other apart => Dictionary.get?_erase_of_ne cache.entries apart
    · rw [got]
      constructor
      · intro handle
        constructor
        · intro same
          cases same
          exact ⟨⟨entry, found, rfl⟩, ⟨entry.createdAt, stored, lasts⟩, well⟩
        · rintro ⟨⟨held, same, rfl⟩, -, -⟩
          rw [found] at same
          cases same
          rfl
      · intro missed
        cases missed
      · intro some
        refine ⟨rfl, ?_⟩
        simp only [Cache.touch, Dictionary.get?_insert_self, found, Option.map_some]
      · exact fun other apart => Dictionary.get?_insert_of_ne cache.entries _ apart

/-- What was last stored too long ago is not found. -/
theorem Lookup.eq_none {past : List (CacheDeed η)} {key : String} {healthy : η → Bool} {now : Time}
    {answer : Option η × List η × Cache η} (lookup : Lookup config past cache key healthy now answer)
    (handle : η) (stored : Time) (last : lastStored? key past = some (handle, stored))
    (old : ¬ config.Lasts stored now) : answer.1 = none := by
  rw [Option.eq_none_iff_forall_ne_some]
  intro other found
  obtain ⟨-, ⟨time, since, lasts⟩, -⟩ := (lookup.found_iff other).mp found
  rw [last] at since
  cases since
  exact old lasts

/-- Each answer that was ever given was fresh when it was given. -/
theorem Reached.answered (reached : Reached config life) {newer older : List (CacheDeed η)}
    {deed : CacheDeed η} (split : life.past = newer ++ deed :: older) {key : String} {healthy : η → Bool}
    {now usedAt : Time} (asked : deed.event = .get key healthy now usedAt) {handle : η}
    (found : deed.found = some handle) :
    ∃ stored, lastStored? key older = some (handle, stored) ∧ config.Lasts stored now := by
  induction reached generalizing newer with
  | start =>
      cases newer with
      | nil => cases split
      | cons latest newer => cases split
  | @after life event reached forward ih =>
      cases present : life.cache with
      | none =>
          rw [after_of_dropped present] at split
          exact ih split
      | some cache =>
          rw [after_of_cache present] at split
          cases newer with
          | cons latest newer => exact ih (List.cons.inj split).2
          | nil =>
              obtain ⟨rfl, rfl⟩ := List.cons.inj split
              obtain rfl : event = .get key healthy now usedAt := (cache.undergo_event event).symm.trans asked
              exact (((reached.lookup present key healthy now usedAt).found_iff handle).mp found).2.1
  | reorder reached present moved ih => exact ih split

/-- A sweep leaves exactly what was stored no longer ago than it lasts. -/
theorem Reached.evictStale (reached : Reached config life) (present : life.cache = some cache) (now : Time)
    (pair : String × CachedHandle η) :
    pair ∈ (cache.evictStale now).2.entries.entries ↔ pair ∈ cache.entries.entries ∧
      ∃ stored, lastStored? pair.1 life.past = some (pair.2.handle, stored) ∧ config.Lasts stored now := by
  have young : pair ∈ (cache.evictStale now).2.entries.entries ↔
      pair ∈ cache.entries.entries ∧ config.Lasts pair.2.createdAt now := by
    rw [← (reached.bounded present).1]
    have expired := Cache.isExpired_iff cache.config now pair.2
    simp only [Cache.evictStale, Cache.withEntries, List.mem_filter, Bool.not_eq_true', ← Bool.not_eq_true,
      expired, Decidable.not_not]
  rw [young]
  constructor
  · rintro ⟨member, lasts⟩
    exact ⟨member, pair.2.createdAt, reached.traced present pair member, lasts⟩
  · rintro ⟨member, stored, last, lasts⟩
    rw [reached.traced present pair member] at last
    cases last
    exact ⟨member, lasts⟩

/-- At every point of its life a lookup finds what the cache holds under the key if it is well and was stored
no longer ago than it lasts; otherwise it closes that handle and leaves all others as they are. A sweep leaves
exactly the handles that were stored no longer ago than they last. So no lookup ever found a handle that had
been stored longer ago than that, however often it was used in between. -/
theorem lookups_fresh (reached : Reached config life) :
    (∀ cache, life.cache = some cache →
      (∀ key healthy now usedAt,
        Lookup config life.past cache key healthy now (cache.get key healthy now usedAt)) ∧
      ∀ now pair, pair ∈ (cache.evictStale now).2.entries.entries ↔ pair ∈ cache.entries.entries ∧
        ∃ stored, lastStored? pair.1 life.past = some (pair.2.handle, stored) ∧ config.Lasts stored now) ∧
    ∀ newer deed older, life.past = newer ++ deed :: older →
      ∀ key healthy now usedAt, deed.event = .get key healthy now usedAt →
      ∀ handle, deed.found = some handle →
        ∃ stored, lastStored? key older = some (handle, stored) ∧ config.Lasts stored now := by
  refine ⟨?_, ?_⟩
  · intro cache present
    exact ⟨reached.lookup present, reached.evictStale present⟩
  · intro newer deed older split key healthy now usedAt asked handle found
    exact reached.answered split asked found

/-- Sixty milliseconds after it was stored a handle is found for the last time, also if it was just used. -/
theorem lookups_fresh_for_sixty_milliseconds :
    ∃ (life : CacheLife Nat) (cache : Cache Nat), Reached ⟨2, 60, 20⟩ life ∧ life.cache = some cache ∧
      lastStored? "a" life.past = some (1, 5) ∧
      (cache.get "a" (fun _ => true) 60005 60005).1 = some 1 ∧
      (cache.get "a" (fun _ => true) 60006 60006).1 = none ∧
      (cache.get "a" (fun _ => true) 60006 60006).2.1 = [1] ∧
      (cache.get "a" (fun _ => true) 60006 60006).2.2.entries.get? "b" = cache.entries.get? "b" := by
  have first : Reached ⟨2, 60, 20⟩ ((start ⟨2, 60, 20⟩).after (.put "a" 1 5 true)) :=
    .after _ .start (by decide)
  have second := first.after (.put "b" 2 10 true) (by decide)
  have third := second.after (.get "a" (fun _ => true) 60005 60005) (by decide)
  obtain ⟨lookups, -⟩ := (lookups_fresh third).1 _ rfl
  have early := lookups "a" (fun _ => true) 60005 60005
  have late := lookups "a" (fun _ => true) 60006 60006
  have missed := late.eq_none 1 5 (by decide) (by decide)
  refine ⟨_, _, third, rfl, by decide, ?_, missed, (late.missed missed).1, late.others "b" (by decide)⟩
  exact (early.found_iff 1).mpr ⟨⟨_, rfl, rfl⟩, ⟨5, by decide, by decide⟩, rfl⟩

end CacheLife

end TableScript
