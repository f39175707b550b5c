import TableScript.Cache.Basic

set_option autoImplicit false

namespace TableScript

/-- What can happen to a cache. What its handles answer to a health check and whether they can be closed is
up to the event. -/
inductive CacheEvent (η : Type) where
  | put (key : String) (handle : η) (now : Time) (canStartSweep : Bool)
  /-- The clock is read once for the age of the handle and again when the handle is used. -/
  | get (key : String) (healthy : η → Bool) (now usedAt : Time)
  | evictStale (now : Time)
  /-- A round of the sweep, if it is running. -/
  | tick (now : Time)
  | close (cause? : η → Option String)
  /-- The end of the cache. -/
  | drop

/-- The readings of the clock that an event takes, in order. -/
def CacheEvent.readings {η : Type} : CacheEvent η → List Time
  | .put _ _ now _ => [now]
  | .get _ _ now usedAt => [now, usedAt]
  | .evictStale now => [now]
  | .tick now => [now]
  | .close _ => []
  | .drop => []

/-- An event with what it brought about: the handle that was found, the failure that was reported and the
handles that were closed. -/
structure CacheDeed (η : Type) where
  event : CacheEvent η
  found : Option η
  failure : Option CloseError
  closed : List η

namespace CacheDeed

variable {η : Type}

/-- The handle that was stored. -/
def stored? (deed : CacheDeed η) : Option η :=
  match deed.event with
  | .put _ handle _ _ => some handle
  | _ => none

/-- The key whose handle was used: it was stored, or it was asked for and found. -/
def used? (deed : CacheDeed η) : Option String :=
  match deed.event with
  | .put key _ _ _ => some key
  | .get key _ _ _ => if deed.found.isSome then some key else none
  | _ => none

end CacheDeed

/-- What an event does to a cache, and the cache that is left, if any. -/
def Cache.undergo {η : Type} (cache : Cache η) (event : CacheEvent η) : CacheDeed η × Option (Cache η) :=
  match event with
  | .put key handle now canStartSweep =>
    let (closed, next) := cache.put key handle now canStartSweep
    (⟨event, none, none, closed⟩, some next)
  | .get key healthy now usedAt =>
    let (found, closed, next) := cache.get key healthy now usedAt
    (⟨event, found, none, closed⟩, some next)
  | .evictStale now =>
    let (closed, next) := cache.evictStale now
    (⟨event, none, none, closed⟩, some next)
  | .tick now =>
    match cache.sweep with
    | .running _ =>
      let (closed, next) := cache.evictStale now
      (⟨event, none, none, closed⟩, some next)
    | _ => (⟨event, none, none, []⟩, some cache)
  | .close cause? =>
    let (failure, closed, next) := cache.close cause?
    (⟨event, none, failure, closed⟩, some next)
  | .drop => (⟨event, none, none, cache.handles⟩, none)

structure CacheLife (η : Type) where
  /-- Absent once it has been dropped. -/
  cache : Option (Cache η)
  clock : Time
  /-- All that has happened, the latest first. -/
  past : List (CacheDeed η)

namespace CacheLife

variable {η : Type}

def start (config : CacheConfig) : CacheLife η := ⟨some (.new config), 0, []⟩

/-- Nothing happens to a cache that has been dropped. -/
def after (life : CacheLife η) (event : CacheEvent η) : CacheLife η :=
  match life.cache with
  | none => life
  | some cache =>
    let (deed, next) := cache.undergo event
    ⟨next, event.readings.getLastD life.clock, deed :: life.past⟩

/-- The handles that are in the cache. -/
def held (life : CacheLife η) : List η := (life.cache.map (·.handles)).getD []

/-- Every handle that was ever stored. -/
def stored (life : CacheLife η) : List η := life.past.filterMap (·.stored?)

/-- Every handle that was ever closed. -/
def closed (life : CacheLife η) : List η := life.past.flatMap (·.closed)

/-- The lives that a cache can have. -/
inductive Reached (config : CacheConfig) : CacheLife η → Prop where
  | start : Reached config (start config)
  | after {life : CacheLife η} (event : CacheEvent η) (reached : Reached config life)
      (forward : (life.clock :: event.readings).Pairwise (· ≤ ·)) : Reached config (life.after event)
  | reorder {life : CacheLife η} {cache : Cache η} {entries : List (String × CachedHandle η)}
      (reached : Reached config life) (present : life.cache = some cache)
      (moved : entries.Perm cache.entries.entries) :
      Reached config { life with cache := some (cache.withEntries ⟨entries⟩) }

end CacheLife

end TableScript
