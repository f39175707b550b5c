import TableScript.Dictionary.Basic

set_option autoImplicit false

namespace TableScript

/-- A reading of the clock, in microseconds. -/
abbrev Time := Nat

structure CacheConfig where
  /-- The most handles that are kept; none counts as one. -/
  capacity : Nat
  /-- The age, in milliseconds, after which a handle is too old, however recently it was used. -/
  lifetime : Nat
  /-- The time between two sweeps, in milliseconds. -/
  sweepInterval : Nat
deriving DecidableEq, Repr

namespace CacheConfig

/-- A hundred handles for half an hour, swept every five minutes. -/
def database : CacheConfig := ⟨100, 30 * 60 * 1000, 5 * 60 * 1000⟩

/-- Fewer handles for a shorter time. -/
def fileTransfer : CacheConfig := { database with capacity := 50, lifetime := 15 * 60 * 1000 }

def limit (config : CacheConfig) : Nat := max config.capacity 1

end CacheConfig

/-- Whether old handles are looked for in the background. -/
inductive Sweep where
  /-- Not started, or stopped; the next stored handle starts it. -/
  | idle
  | running (since : Time)
  /-- It could not be started, and no further start is tried. -/
  | unavailable
deriving DecidableEq, Repr

namespace Sweep

/-- Starts an idle sweep, if one can be started. -/
def ensure (now : Time) (canStart : Bool) : Sweep → Sweep
  | .idle => if canStart then .running now else .unavailable
  | other => other

def stop : Sweep → Sweep
  | .unavailable => .unavailable
  | _ => .idle

end Sweep

structure CachedHandle (η : Type) where
  handle : η
  createdAt : Time
  lastUsed : Time
  /-- Tells apart two uses at the same reading of the clock: the count of uses before this one. -/
  recency : Nat
deriving Repr

structure CloseError where
  key : String
  cause : String
deriving DecidableEq, Repr

def CloseError.message (error : CloseError) : String :=
  "failed to close connection `" ++ error.key ++ "`: " ++ error.cause

structure Cache (η : Type) where
  config : CacheConfig
  entries : Dictionary (CachedHandle η)
  /-- The recency of the next use. A counter of 64 bits that wraps has the same value through fewer than 2^64
  uses. -/
  uses : Nat
  sweep : Sweep

namespace Cache

variable {η : Type}

def new (config : CacheConfig) : Cache η := ⟨config, .empty, 0, .idle⟩

def size (cache : Cache η) : Nat := cache.entries.size

def isEmpty (cache : Cache η) : Bool := cache.entries.isEmpty

def contains (cache : Cache η) (key : String) : Bool := cache.entries.contains key

def handles (cache : Cache η) : List η := cache.entries.values.map (·.handle)

def isExpired (config : CacheConfig) (now : Time) (entry : CachedHandle η) : Bool :=
  config.lifetime * 1000 < now - entry.createdAt

def withEntries (cache : Cache η) (entries : Dictionary (CachedHandle η)) : Cache η :=
  { cache with entries := entries }

def evict (cache : Cache η) (key : String) (entry : CachedHandle η) : List η × Cache η :=
  ([entry.handle], cache.withEntries (cache.entries.erase key))

/-- The handle under a key if it is neither too old nor unhealthy; otherwise it is taken out. A handle that
is found counts as used at `usedAt`. -/
def get (cache : Cache η) (key : String) (healthy : η → Bool) (now usedAt : Time) :
    Option η × List η × Cache η :=
  match cache.entries.get? key with
  | none => (none, [], cache)
  | some entry =>
    if isExpired cache.config now entry then (none, cache.evict key entry)
    else if !healthy entry.handle then (none, cache.evict key entry)
    else
      let used := { entry with lastUsed := usedAt, recency := cache.uses }
      (some entry.handle, [],
        { cache with entries := cache.entries.insert key used, uses := cache.uses + 1 })

def usedBefore (a b : CachedHandle η) : Bool :=
  a.lastUsed < b.lastUsed || (a.lastUsed == b.lastUsed && a.recency < b.recency)

def oldest? : List (String × CachedHandle η) → Option (String × CachedHandle η)
  | [] => none
  | first :: rest =>
    some (rest.foldl (fun best pair => if usedBefore pair.2 best.2 then pair else best) first)

def evictOldest : Nat → Dictionary (CachedHandle η) → List η × Dictionary (CachedHandle η)
  | 0, entries => ([], entries)
  | count + 1, entries =>
    match oldest? entries.entries with
    | none => ([], entries)
    | some (key, entry) =>
      let (closed, rest) := evictOldest count (entries.erase key)
      (entry.handle :: closed, rest)

/-- Stores a handle, in place of one under the same key, after making room for it. -/
def put (cache : Cache η) (key : String) (handle : η) (now : Time) (canStartSweep : Bool) :
    List η × Cache η :=
  let replaced := ((cache.entries.get? key).map (·.handle)).toList
  let others := cache.entries.erase key
  let (evicted, kept) := evictOldest (others.size + 1 - cache.config.limit) others
  (replaced ++ evicted,
    { cache with
      entries := kept.insert key ⟨handle, now, now, cache.uses⟩
      uses := cache.uses + 1
      sweep := cache.sweep.ensure now canStartSweep })

def evictStale (cache : Cache η) (now : Time) : List η × Cache η :=
  let stale := cache.entries.entries.filter fun pair => isExpired cache.config now pair.2
  let fresh := cache.entries.entries.filter fun pair => !isExpired cache.config now pair.2
  (stale.map (·.2.handle), cache.withEntries ⟨fresh⟩)

/-- The last sweep that is due by `now`. -/
def lastSweep? (cache : Cache η) (now : Time) : Option Time :=
  match cache.sweep with
  | .running since =>
    let interval := cache.config.sweepInterval * 1000
    if interval = 0 then some now
    else if now < since + interval then none
    else some (since + (now - since) / interval * interval)
  | _ => none

/-- What the sweeps up to `now` take out. What one of them finds too old, each later one finds too old as
well, so the last one decides. -/
def sweepUntil (cache : Cache η) (now : Time) : List η × Cache η :=
  match cache.lastSweep? now with
  | some time => cache.evictStale time
  | none => ([], cache)

/-- The first handle that could not be closed, given the cause for each one that cannot. -/
def closeFailure? (cause? : η → Option String) (entries : List (String × CachedHandle η)) :
    Option CloseError :=
  entries.findSome? fun (key, entry) => (cause? entry.handle).map fun cause => ⟨key, cause⟩

/-- Stops the sweep and takes out every handle, also after one could not be closed. The cache can be used
again. -/
def close (cache : Cache η) (cause? : η → Option String) : Option CloseError × List η × Cache η :=
  (closeFailure? cause? cache.entries.entries, cache.handles,
    { cache with entries := .empty, sweep := cache.sweep.stop })

end Cache

end TableScript
