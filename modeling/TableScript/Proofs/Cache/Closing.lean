import TableScript.Proofs.Cache.Conservation

set_option autoImplicit false

namespace TableScript

variable {η : Type}

/-- A call of the callback with its answer, which is the cause if the handle could not be closed. -/
structure CloseCall (η : Type) where
  handle : η
  cause? : Option String
deriving DecidableEq, Repr

/-- What the callback answers for a handle after its earlier calls. -/
abbrev Closer (η : Type) := List (CloseCall η) → η → Option String

/-- Work that calls the callback. The calls are kept in order. -/
abbrev Closing (η α : Type) := StateM (List (CloseCall η)) α

namespace Closer

variable (closer : Closer η)

def call (handle : η) : Closing η (Option String) := fun calls =>
  let cause? := closer calls handle
  (cause?, calls ++ [⟨handle, cause?⟩])

/-- Closes a handle that has left the cache. Nobody learns of a failure. -/
def discard (handle : η) : Closing η Unit := do
  let _ ← closer.call handle

/-- Closes one of all handles; an earlier failure stays the one that is reported. -/
def closeNext (failure : Option CloseError) (pair : String × CachedHandle η) :
    Closing η (Option CloseError) := do
  match ← closer.call pair.2.handle with
  | none => return failure
  | some cause => return failure.or (some ⟨pair.1, cause⟩)

/-- The calls for handles that are closed one after the other. -/
def callsFor (earlier : List (CloseCall η)) : List η → List (CloseCall η)
  | [] => []
  | handle :: rest =>
    let made : CloseCall η := ⟨handle, closer earlier handle⟩
    made :: callsFor (earlier ++ [made]) rest

/-- One call for each handle, in order, and each with the answer that the callback gives after the calls before
it. -/
structure Calls (earlier : List (CloseCall η)) (handles : List η) (calls : List (CloseCall η)) : Prop where
  once : calls.map (·.handle) = handles
  answered : ∀ before made after, calls = before ++ made :: after →
    made.cause? = closer (earlier ++ before) made.handle

end Closer

/-- Closes a whole cache: it is empty before the first call. -/
def Cache.closeAll (closer : Closer η) (cache : Cache η) : Closing η (Option CloseError × Cache η) := do
  let left := { cache with entries := .empty, sweep := cache.sweep.stop }
  let failure ← cache.entries.entries.foldlM closer.closeNext none
  return (failure, left)

/-- Any other event: the handles that it takes out are closed one by one once they are out. -/
def Cache.attend (closer : Closer η) (cache : Cache η) (event : CacheEvent η) :
    Closing η (CacheDeed η × Option (Cache η)) := do
  let outcome := cache.undergo event
  outcome.1.closed.forM closer.discard
  return outcome

/-- The first failure among the calls for the handles of the entries. -/
def reported? (entries : List (String × CachedHandle η)) (calls : List (CloseCall η)) : Option CloseError :=
  (entries.zip calls).findSome? fun (pair, call) => call.cause?.map fun cause => ⟨pair.1, cause⟩

namespace Closer

variable (closer : Closer η)

theorem map_handle_callsFor (earlier : List (CloseCall η)) (handles : List η) :
    (closer.callsFor earlier handles).map (·.handle) = handles := by
  induction handles generalizing earlier with
  | nil => rfl
  | cons handle rest ih => rw [callsFor, List.map_cons, ih]

theorem answer_callsFor {earlier before after : List (CloseCall η)} {made : CloseCall η} {handles : List η}
    (split : closer.callsFor earlier handles = before ++ made :: after) :
    made.cause? = closer (earlier ++ before) made.handle := by
  induction handles generalizing earlier before with
  | nil =>
    rw [callsFor] at split
    exact absurd split.symm (by simp)
  | cons handle rest ih =>
    rw [callsFor] at split
    cases before with
    | nil =>
      obtain ⟨rfl, -⟩ := List.cons.inj split
      rw [List.append_nil]
    | cons first before =>
      obtain ⟨rfl, later⟩ := List.cons.inj split
      have answered := ih later
      rwa [List.append_assoc, List.singleton_append] at answered

theorem callsFor_calls (earlier : List (CloseCall η)) (handles : List η) :
    closer.Calls earlier handles (closer.callsFor earlier handles) :=
  ⟨closer.map_handle_callsFor earlier handles, fun _ _ _ split => closer.answer_callsFor split⟩

theorem forM_discard (handles : List η) (earlier : List (CloseCall η)) :
    handles.forM closer.discard earlier = ((), earlier ++ closer.callsFor earlier handles) := by
  induction handles generalizing earlier with
  | nil => rw [callsFor, List.append_nil]; rfl
  | cons handle rest ih =>
    change rest.forM closer.discard (earlier ++ [⟨handle, closer earlier handle⟩]) = _
    rw [ih, callsFor, List.append_assoc, List.singleton_append]

theorem closeNext_eq (failure : Option CloseError) (pair : String × CachedHandle η)
    (earlier : List (CloseCall η)) :
    closer.closeNext failure pair earlier =
      (failure.or ((closer earlier pair.2.handle).map fun cause => ⟨pair.1, cause⟩),
        earlier ++ [⟨pair.2.handle, closer earlier pair.2.handle⟩]) := by
  simp only [closeNext, call, bind, StateT.bind]
  cases closer earlier pair.2.handle with
  | none =>
    rw [Option.map_none, Option.or_none]
    rfl
  | some cause => rfl

/-- The loop over all handles: an answer changes what is reported, never which calls are made. -/
theorem foldlM_closeNext (entries : List (String × CachedHandle η)) (failure : Option CloseError)
    (earlier : List (CloseCall η)) :
    entries.foldlM closer.closeNext failure earlier =
      (failure.or (reported? entries (closer.callsFor earlier (entries.map (·.2.handle)))),
        earlier ++ closer.callsFor earlier (entries.map (·.2.handle))) := by
  induction entries generalizing failure earlier with
  | nil =>
    rw [List.map_nil, callsFor, List.append_nil, reported?, List.zip_nil_left, List.findSome?_nil, Option.or_none]
    rfl
  | cons pair rest ih =>
    have step : (pair :: rest).foldlM closer.closeNext failure earlier =
        rest.foldlM closer.closeNext (closer.closeNext failure pair earlier).1
          (closer.closeNext failure pair earlier).2 := rfl
    rw [step, closeNext_eq, ih, List.map_cons, callsFor, Option.or_assoc, List.append_assoc,
      List.singleton_append]
    unfold reported?
    rw [List.zip_cons_cons, List.findSome?_cons]
    cases closer earlier pair.2.handle with
    | none => rfl
    | some cause => rfl

/-- A callback that answers by the handle alone. -/
theorem callsFor_const (cause? : η → Option String) (earlier : List (CloseCall η)) (handles : List η) :
    callsFor (fun _ => cause?) earlier handles = handles.map fun handle => ⟨handle, cause? handle⟩ := by
  induction handles generalizing earlier with
  | nil => rfl
  | cons handle rest ih => rw [callsFor, List.map_cons, ih]

end Closer

theorem reported?_map (cause? : η → Option String) (entries : List (String × CachedHandle η)) :
    reported? entries ((entries.map (·.2.handle)).map fun handle => ⟨handle, cause? handle⟩) =
      Cache.closeFailure? cause? entries := by
  unfold reported? Cache.closeFailure?
  induction entries with
  | nil => rfl
  | cons pair rest ih =>
    rw [List.map_cons, List.map_cons, List.zip_cons_cons, List.findSome?_cons, List.findSome?_cons, ih]

/-- Nothing is reported if and only if no call failed. -/
theorem reported?_eq_none_iff {entries : List (String × CachedHandle η)} {calls : List (CloseCall η)}
    (once : calls.map (·.handle) = entries.map (·.2.handle)) :
    reported? entries calls = none ↔ ∀ call ∈ calls, call.cause? = none := by
  have lengths : calls.length ≤ entries.length := by
    have equal := congrArg List.length once
    rw [List.length_map, List.length_map] at equal
    exact Nat.le_of_eq equal
  have paired : (∀ call ∈ (entries.zip calls).map Prod.snd, call.cause? = none) ↔
      ∀ pair ∈ entries.zip calls, pair.2.cause? = none := List.forall_mem_map
  rw [List.map_snd_zip lengths] at paired
  rw [paired, reported?, List.findSome?_eq_none_iff]
  simp only [Option.map_eq_none_iff]

/-- The call beside an entry is the call for its handle. -/
theorem handle_of_mem_zip {entries : List (String × CachedHandle η)} {calls : List (CloseCall η)}
    (once : calls.map (·.handle) = entries.map (·.2.handle)) :
    ∀ pair ∈ entries.zip calls, pair.2.handle = pair.1.2.handle := by
  induction entries generalizing calls with
  | nil => exact fun pair none => nomatch none
  | cons entry rest ih =>
    cases calls with
    | nil => exact fun pair none => nomatch none
    | cons call calls =>
      obtain ⟨same, others⟩ := List.cons.inj once
      exact List.forall_mem_cons.mpr ⟨same, ih others⟩

/-- What is reported is the key of an entry with the answer to its own call, and all calls before it
succeeded. -/
theorem exists_of_reported? {entries : List (String × CachedHandle η)} {calls : List (CloseCall η)}
    (once : calls.map (·.handle) = entries.map (·.2.handle)) {error : CloseError}
    (failed : reported? entries calls = some error) :
    ∃ front entry back, entries.zip calls = front ++ ((error.key, entry), ⟨entry.handle, some error.cause⟩) :: back ∧
      ∀ pair ∈ front, pair.2.cause? = none := by
  obtain ⟨front, ⟨⟨key, entry⟩, call⟩, back, split, found, first⟩ := List.findSome?_eq_some_iff.mp failed
  obtain ⟨cause, answer, rfl⟩ := Option.map_eq_some_iff.mp found
  have member : ((key, entry), call) ∈ entries.zip calls := by
    rw [split]
    exact List.mem_append_right front List.mem_cons_self
  have own : call = ⟨entry.handle, some cause⟩ := by
    rw [← handle_of_mem_zip once _ member, ← answer]
  rw [own] at split
  exact ⟨front, entry, back, split, fun pair earlier => Option.map_eq_none_iff.mp (first pair earlier)⟩

namespace Cache

variable (closer : Closer η) (cache : Cache η) (earlier : List (CloseCall η))

theorem closeAll_eq :
    cache.closeAll closer earlier =
      ((reported? cache.entries.entries (closer.callsFor earlier cache.handles),
          { cache with entries := .empty, sweep := cache.sweep.stop }),
        earlier ++ closer.callsFor earlier cache.handles) := by
  have looped := closer.foldlM_closeNext cache.entries.entries none earlier
  rw [← handles_eq, Option.none_or] at looped
  simp only [closeAll, bind, StateT.bind, looped]
  rfl

theorem attend_eq (event : CacheEvent η) :
    cache.attend closer event earlier =
      (cache.undergo event, earlier ++ closer.callsFor earlier (cache.undergo event).1.closed) := by
  simp only [attend, bind, StateT.bind, closer.forM_discard]
  rfl

theorem failure_undergo {event : CacheEvent η} (single : ∀ cause?, event ≠ .close cause?) :
    (cache.undergo event).1.failure = none := by
  cases event with
  | close cause? => exact absurd rfl (single cause?)
  | tick now =>
    simp only [undergo]
    split <;> rfl
  | put | get | evictStale | drop => rfl

end Cache

namespace CacheLife

variable {config : CacheConfig} {life : CacheLife η} {cache : Cache η}

/-- What closing a whole cache comes to, and the calls that it makes. -/
structure Closes (closer : Closer η) (earlier : List (CloseCall η)) (cache : Cache η)
    (failure : Option CloseError) (left : Cache η) (calls : List (CloseCall η)) : Prop where
  /-- Every handle is closed, whatever the calls before it came to. -/
  all : closer.Calls earlier cache.handles calls
  emptied : left.isEmpty = true
  succeeds_iff : failure = none ↔ ∀ call ∈ calls, call.cause? = none
  /-- What is reported is the key of an entry with the answer to its own call, the first one that failed. -/
  first : ∀ error, failure = some error → ∃ front entry back,
    cache.entries.entries.zip calls =
        front ++ ((error.key, entry), ⟨entry.handle, some error.cause⟩) :: back ∧
      cache.entries.get? error.key = some entry ∧ ∀ pair ∈ front, pair.2.cause? = none

theorem Reached.closes (reached : Reached config life) (present : life.cache = some cache) (closer : Closer η)
    (earlier : List (CloseCall η)) :
    Closes closer earlier cache (reported? cache.entries.entries (closer.callsFor earlier cache.handles))
      { cache with entries := .empty, sweep := cache.sweep.stop } (closer.callsFor earlier cache.handles) := by
  have all := closer.callsFor_calls earlier cache.handles
  have once := all.once.trans cache.handles_eq
  refine ⟨all, rfl, reported?_eq_none_iff once, fun error failed => ?_⟩
  obtain ⟨front, entry, back, split, first⟩ := exists_of_reported? once failed
  have paired : ((error.key, entry), ⟨entry.handle, some error.cause⟩) ∈
      cache.entries.entries.zip (closer.callsFor earlier cache.handles) := by
    rw [split]
    exact List.mem_append_right front List.mem_cons_self
  exact ⟨front, entry, back, split, Dictionary.get?_of_mem (reached.distinct present) (List.of_mem_zip paired).1,
    first⟩

/-- Closing a cache at any point of its life, whatever the callback answers: it is called once for each handle,
also after it failed, the cache is empty, and the first failure is reported with its key, if there is one. With a
callback that answers by the handle alone this is `Cache.close`. In every other event the callback is called once
for each handle that leaves; what it answers changes neither the outcome nor what is left, and is not reported. -/
theorem closing_complete (reached : Reached config life) (present : life.cache = some cache)
    (closer : Closer η) (earlier : List (CloseCall η)) :
    (∃ failure left calls, cache.closeAll closer earlier = ((failure, left), earlier ++ calls) ∧
      Closes closer earlier cache failure left calls) ∧
    (∀ cause?, cache.closeAll (fun _ => cause?) earlier =
      (((cache.close cause?).1, (cache.close cause?).2.2),
        earlier ++ (cache.close cause?).2.1.map fun handle => ⟨handle, cause? handle⟩)) ∧
    ∀ event, (∀ cause?, event ≠ .close cause?) → ∃ calls,
      cache.attend closer event earlier = (cache.undergo event, earlier ++ calls) ∧
      closer.Calls earlier (cache.undergo event).1.closed calls ∧
      (cache.undergo event).1.failure = none ∧
      ((cache.undergo event).1.stored?.toList ++ cache.handles).Perm
        (((cache.undergo event).2.map (·.handles)).getD [] ++ (cache.undergo event).1.closed) := by
  refine ⟨?_, ?_, ?_⟩
  · exact ⟨_, _, _, cache.closeAll_eq closer earlier, reached.closes present closer earlier⟩
  · intro cause?
    rw [Cache.closeAll_eq, Closer.callsFor_const]
    rw [cache.handles_eq, reported?_map, ← cache.handles_eq]
    rfl
  · intro event single
    exact ⟨_, cache.attend_eq closer earlier event, closer.callsFor_calls earlier _, cache.failure_undergo single,
      cache.undergo_handles (reached.distinct present) event⟩

/-- Only the first call succeeds. Closing calls for all three handles and reports the second one; a lookup that
finds it unwell takes it out although it cannot be closed. -/
theorem closing_complete_after_failure :
    let closer : Closer Nat := fun calls _ => if calls = [] then none else some "stuck"
    let lookup : CacheEvent Nat := .get "b" (fun _ => false) 8 8
    ∃ (life : CacheLife Nat) (cache : Cache Nat), Reached ⟨3, 60, 20⟩ life ∧ life.cache = some cache ∧
      (∃ left calls, cache.closeAll closer [] = ((some ⟨"b", "stuck"⟩, left), calls) ∧
        calls.map (·.handle) = [1, 2, 3] ∧ left.isEmpty = true) ∧
      (∀ cause?, lookup ≠ .close cause?) ∧
      cache.attend closer lookup [⟨1, none⟩] = (cache.undergo lookup, [⟨1, none⟩, ⟨2, some "stuck"⟩]) ∧
      (cache.undergo lookup).1.closed = [2] := by
  intro closer lookup
  have first : Reached ⟨3, 60, 20⟩ ((start ⟨3, 60, 20⟩).after (.put "a" 1 5 true)) := .after _ .start (by decide)
  have second := first.after (.put "b" 2 6 true) (by decide)
  have third := second.after (.put "c" 3 7 true) (by decide)
  have other : ∀ cause?, lookup ≠ .close cause? := nofun
  obtain ⟨⟨failure, left, calls, closed, closes⟩, -, -⟩ := closing_complete third rfl closer []
  obtain ⟨-, -, single⟩ := closing_complete third rfl closer [⟨1, none⟩]
  obtain ⟨made, attended, called, -, -⟩ := single lookup other
  obtain rfl : some ⟨"b", "stuck"⟩ = failure := congrArg (·.1.1) closed
  have answers : [⟨2, some "stuck"⟩] = made := congrArg (·.2.tail) attended
  rw [← answers] at attended called
  exact ⟨_, _, third, rfl, ⟨left, _, closed, closes.all.once, closes.emptied⟩, other, attended, called.once.symm⟩

end CacheLife

end TableScript
