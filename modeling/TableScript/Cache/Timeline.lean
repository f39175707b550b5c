import TableScript.Cache.Basic

set_option autoImplicit false

namespace TableScript

inductive CacheCommand where
  | put (key handle : String)
  | get (key : String)
  | contains (key : String)
  | isEmpty
  | evictStale
  | close
  | drop
  | sicken (handle : String)
  | heal (handle : String)
  | jam (handle : String)
  | sleep (duration : Nat)
  /-- Waits until so many handles have been closed in all, for five seconds at most. -/
  | awaitClosed (count : Nat)
deriving DecidableEq, Repr

inductive CacheReply where
  | nothing
  | handle (handle : Option String)
  | truth (value : Bool)
  | count (value : Nat)
  | closed (error : Option CloseError)
deriving DecidableEq, Repr

structure Timeline where
  /-- Absent once it has been dropped. -/
  cache : Option (Cache String)
  now : Time
  unhealthy : List String
  jammed : List String
  closed : List String

namespace Timeline

def start (config : CacheConfig) : Timeline := ⟨some (.new config), 0, [], [], []⟩

/-- The clock moves on, and the sweeps that it passes happen. -/
def advance (line : Timeline) (duration : Time) : Timeline :=
  let now := line.now + duration
  match line.cache with
  | none => { line with now := now }
  | some cache =>
    let (closed, cache) := cache.sweepUntil now
    { line with cache := some cache, now := now, closed := line.closed ++ closed }

/-- Closes handles that a change of the cache took out. -/
def settle (line : Timeline) (change : List String × Cache String) : Timeline :=
  { line with cache := some change.2, closed := line.closed ++ change.1 }

def closeCause? (line : Timeline) (handle : String) : Option String :=
  if line.jammed.contains handle then some ("cannot close " ++ handle) else none

def isHealthy (line : Timeline) (handle : String) : Bool := !line.unhealthy.contains handle

/-- Moves the clock by a millisecond at a time until enough handles are closed. -/
def await (count : Nat) : Nat → Timeline → Bool × Timeline
  | 0, line => (decide (count ≤ line.closed.length), line)
  | tries + 1, line =>
    if count ≤ line.closed.length then (true, line) else await count tries (line.advance 1000)

def waitLimit : Nat := 5000

/-- What a command does to a cache that is still there. -/
def use (line : Timeline) (cache : Cache String) : CacheCommand → CacheReply × Timeline
  | .put key handle => (.nothing, line.settle (cache.put key handle line.now true))
  | .get key =>
    let (found, change) := cache.get key line.isHealthy line.now line.now
    (.handle found, line.settle change)
  | .contains key => (.truth (cache.contains key), line)
  | .isEmpty => (.truth cache.isEmpty, line)
  | .evictStale =>
    let change := cache.evictStale line.now
    (.count change.1.length, line.settle change)
  | .close =>
    let (error, change) := cache.close line.closeCause?
    (.closed error, line.settle change)
  | .drop => (.nothing, { line with cache := none, closed := line.closed ++ cache.handles })
  | _ => (.nothing, line)

def step (line : Timeline) (command : CacheCommand) : CacheReply × Timeline :=
  match command with
  | .sicken handle => (.nothing, { line with unhealthy := handle :: line.unhealthy })
  | .heal handle => (.nothing, { line with unhealthy := line.unhealthy.filter (· != handle) })
  | .jam handle => (.nothing, { line with jammed := handle :: line.jammed })
  | .sleep duration => (.nothing, line.advance (duration * 1000))
  | .awaitClosed count =>
    let (reached, line) := await count waitLimit line
    (.truth reached, line)
  | command =>
    let (reply, line) :=
      match line.cache with
      | some cache => line.use cache command
      | none => (.nothing, line)
    (reply, line.advance 1)

end Timeline

end TableScript
