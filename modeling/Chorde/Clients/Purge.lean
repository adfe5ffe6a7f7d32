import Chorde.Clients.Decorated

/-!
# Purging stale entries

`InprocCacheClient.purge(timeout)` collects, in an `iteritems` scan of the
container, the keys whose expiry is before `time.time() - timeout`, then pops each
one and returns what it popped. When the container changes under the scan, the next
step of `iteritems` raises `RuntimeError`, and `purge` starts over on a `keys()`
snapshot.

The snapshot scan looks each item up by `v`, the variable the first scan unpacked
values into, and not by the key `k`: it calls `cache_get(v)` and rebinds `v` to what
it finds, `None` on a miss. It reads the entry of the key it walks only when a chain
of such lookups happens to lead there. The model takes the container as both scans
find it; the change that made the first one raise is another thread's.
-/

namespace Chorde.Purge

open Inproc Decorated

/-- How the `iteritems` scan ends: it runs through, or the container changes under it
and it raises `RuntimeError` after `scanned` items. -/
inductive Scan where
  | complete
  | interrupted (scanned : Nat)
  deriving DecidableEq, Repr

/-- The `UnboundLocalError` of reading a local variable no statement has bound yet. -/
inductive PurgeError where
  | unboundLocal (name : String)
  deriving DecidableEq, Repr

/-- The container's `(key, (value, timestamp))` items in iteration order. -/
def items (store : PyStore) : List (PyVal × Entry PyVal) :=
  store.keys.filterMap fun key => (store.find? key).map (key, ·)

/-- An entry older than the cutoff `time.time() - timeout`. -/
def Stale (store : PyStore) (cutoff : Int) (key : PyVal) : Bool :=
  match store.find? key with
  | some entry => decide (entry.expiry < cutoff)
  | none => false

/-- The `iteritems` scan run through: the keys of the stale entries, in order. -/
def staleKeys (store : PyStore) (cutoff : Int) : List PyVal :=
  store.keys.filter (Stale store cutoff)

/-- The snapshot scan over `cache.keys()`, with `v` as the first scan left it: each
step runs `v = cache_get(v)` and, when something is found, unpacks
`v, timestamp = v` and collects the key walked if `timestamp` is before the cutoff. -/
def snapshotScan (store : PyStore) (cutoff : Int) : PyVal → List PyVal → List PyVal
  | _, [] => []
  | v, key :: rest =>
    match store.find? v with
    | none => snapshotScan store cutoff .none rest
    | some entry =>
      if entry.expiry < cutoff then key :: snapshotScan store cutoff entry.value rest
      else snapshotScan store cutoff entry.value rest

/-- `cache.pop(k, None)` for each collected key in turn: what each pop returned, and
the container after them. -/
def popAll (store : PyStore) : List PyVal → List (Option (Entry PyVal)) × PyStore
  | [] => ([], store)
  | key :: rest => (store.find? key :: (popAll (store.erase key) rest).1, (popAll (store.erase key) rest).2)

/-- `InprocCacheClient.purge(timeout)` at clock reading `now`: the popped entries it
returns and the container after, or the error of the snapshot scan reading `v`
before the first scan bound it. -/
def purge (store : PyStore) (timeout now : Int) (scan : Scan) :
    Except PurgeError (List (Option (Entry PyVal)) × PyStore) :=
  match scan with
  | .complete => .ok (popAll store (staleKeys store (now - timeout)))
  | .interrupted scanned =>
    match ((items store).take scanned).getLast? with
    | some (_, entry) => .ok (popAll store (snapshotScan store (now - timeout) entry.value store.keys))
    | none =>
      match store.keys with
      | [] => .ok ([], store)
      | _ :: _ => .error (.unboundLocal "v")

/-! ## The pops -/

theorem find?_popAll (store : PyStore) (keys : List PyVal) (probe : PyVal) :
    (popAll store keys).2.find? probe = if probe ∈ keys then none else store.find? probe := by
  induction keys generalizing store with
  | nil => simp [popAll]
  | cons key rest inductionHypothesis =>
    simp only [popAll, inductionHypothesis, Store.find?_erase, List.mem_cons]
    by_cases same : probe = key <;> simp [same]

/-- Popping distinct keys returns the entry each one held. -/
theorem popped_popAll (store : PyStore) {keys : List PyVal} (distinct : keys.Nodup) :
    (popAll store keys).1 = keys.map store.find? := by
  induction keys generalizing store with
  | nil => rfl
  | cons key rest inductionHypothesis =>
    obtain ⟨fresh, distinctRest⟩ := List.nodup_cons.mp distinct
    simp only [popAll, List.map_cons, inductionHypothesis _ distinctRest, List.cons.injEq, true_and]
    refine List.map_congr_left fun other listed => ?_
    have apart : other ≠ key := fun same => fresh (same ▸ listed)
    simp [apart]

/-! ## The scan run through -/

/-- A purge whose scan runs through removes exactly the entries stale beyond the
timeout, leaves every other entry as it was, and returns the removed entries in
iteration order. -/
theorem purge_complete_removes_stale (store : PyStore) (timeout now : Int) :
    ∃ removed after, purge store timeout now .complete = .ok (removed, after) ∧
      (∀ key, after.find? key = if Stale store (now - timeout) key then none else store.find? key) ∧
      removed = (store.keys.filter (Stale store (now - timeout))).map store.find? := by
  refine ⟨_, _, rfl, fun key => ?_, popped_popAll store (store.keys_nodup.filter _)⟩
  rw [find?_popAll, staleKeys]
  by_cases stale : Stale store (now - timeout) key = true
  · have listed : key ∈ store.keys := by
      rw [store.mem_keys]
      unfold Stale at stale
      split at stale <;> simp_all
    simp [stale, listed]
  · simp [stale]

/-! ## The snapshot scan -/

/-- Every listed key has an item. -/
theorem items_eq_nil (store : PyStore) : items store = [] ↔ store.keys = [] := by
  constructor
  · intro empty
    cases listed : store.keys with
    | nil => rfl
    | cons key rest =>
      obtain ⟨entry, stored⟩ := Option.isSome_iff_exists.mp
        ((store.mem_keys key).mp (by simp [listed]))
      simp [items, listed, stored] at empty
  · intro empty
    simp [items, empty]

/-- While `v` names no key, and `None` names none, the snapshot scan finds nothing. -/
theorem snapshotScan_of_absent {store : PyStore} {cutoff : Int} (noneAbsent : store.find? .none = none)
    {v : PyVal} (absent : store.find? v = none) (keys : List PyVal) :
    snapshotScan store cutoff v keys = [] := by
  induction keys generalizing v with
  | nil => rfl
  | cons key rest inductionHypothesis => simp [snapshotScan, absent, inductionHypothesis noneAbsent]

/-- A purge whose first scan is interrupted removes nothing, stale or not, from a
container none of whose values is also one of its keys and which has no `None` key:
the snapshot scan finds nothing by `v`. Interrupted before the first item, it raises
`UnboundLocalError` instead. -/
theorem purge_interrupted_removes_nothing (store : PyStore) (timeout now : Int) (scanned : Nat)
    (noneAbsent : store.find? .none = none)
    (valuesAbsent : ∀ key entry, store.find? key = some entry → store.find? entry.value = none) :
    purge store timeout now (.interrupted scanned) =
      if scanned = 0 ∧ store.keys ≠ [] then .error (.unboundLocal "v") else .ok ([], store) := by
  simp only [purge]
  split
  · rename_i key entry last
    have inItems : (key, entry) ∈ items store :=
      List.mem_of_mem_take (List.mem_of_getLast?_eq_some last)
    have stored : store.find? key = some entry := by
      simp only [items, List.mem_filterMap, Option.map_eq_some', Prod.mk.injEq] at inItems
      obtain ⟨_, _, _, found, rfl, rfl⟩ := inItems
      exact found
    have begun : scanned ≠ 0 := by
      rintro rfl
      simp at last
    simp [snapshotScan_of_absent noneAbsent (valuesAbsent key entry stored), popAll, begun]
  · rename_i nothing
    rw [List.getLast?_eq_none_iff, List.take_eq_nil_iff, items_eq_nil] at nothing
    split <;> simp_all

theorem purge_interrupted_removes_nothing_stale_entry :
    (put (Store.empty : PyStore) (.str "k") (.str "v") 0 0).find? .none = none ∧
      (∀ key entry, (put (Store.empty : PyStore) (.str "k") (.str "v") 0 0).find? key = some entry →
        (put (Store.empty : PyStore) (.str "k") (.str "v") 0 0).find? entry.value = none) ∧
      purge (put (Store.empty : PyStore) (.str "k") (.str "v") 0 0) 0 10 (.interrupted 1) =
        if 1 = 0 ∧ (put (Store.empty : PyStore) (.str "k") (.str "v") 0 0).keys ≠ [] then
          .error (.unboundLocal "v")
        else .ok ([], put (Store.empty : PyStore) (.str "k") (.str "v") 0 0) := by
  have noneAbsent : (put (Store.empty : PyStore) (.str "k") (.str "v") 0 0).find? .none = none := by
    simp [put]
  have valuesAbsent : ∀ key entry, (put (Store.empty : PyStore) (.str "k") (.str "v") 0 0).find? key = some entry →
      (put (Store.empty : PyStore) (.str "k") (.str "v") 0 0).find? entry.value = none := by
    intro key entry stored
    by_cases same : key = .str "k" <;> simp [put, same] at stored
    subst stored
    simp [put]
  exact ⟨noneAbsent, valuesAbsent, purge_interrupted_removes_nothing _ 0 10 1 noneAbsent valuesAbsent⟩

/-! ## The janitor

`cachePurge(timeout)` takes the registered caches in the order the registry yields
them and calls each one's `purge(timeout)`; an exception from one ends the loop and
propagates. `CacheJanitorThread.run` calls `cachePurge` once per round and swallows
whatever it raises, so a purge that raises ends that round for every cache after it.
-/

/-- `cachePurge(timeout)` at clock reading `now`, over the registered caches with how
each one's `iteritems` scan ends: every cache after the loop, and the error of the
purge that raised, if one did. -/
def cachePurge (timeout now : Int) : List (PyStore × Scan) → List PyStore × Option PurgeError
  | [] => ([], none)
  | (store, scan) :: rest =>
    match purge store timeout now scan with
    | .ok (_, after) => (after :: (cachePurge timeout now rest).1, (cachePurge timeout now rest).2)
    | .error raised => (store :: rest.map Prod.fst, some raised)

/-- `cacheClear()`: every registered cache cleared. -/
def cacheClear (caches : List PyStore) : List PyStore :=
  caches.map Inproc.clear

end Chorde.Purge
