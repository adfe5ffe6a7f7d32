import Mathlib.Logic.Function.Basic
import Mathlib.Data.List.Nodup

/-!
# The in-process TTL store and its cache-client operations

`InprocCacheClient` keeps `(value, expiry)` tuples in an LRU container, with an
absolute wall-clock expiry. Every operation reads the clock once; the model takes
that reading as the argument `now`. Times are whole seconds: the code only adds,
subtracts and compares them.

The container is the mapping the client relies on, with its keys in iteration
order. Capacity eviction and LRU recency reordering belong to the container and
are left out. The single-threaded semantics here is the reference for the
interleaved store calls of `Chorde.Atomicity`.

`BaseCacheClient.get` and the generic `BaseCacheClient.add` are written over the
same store, so the operations can be compared on one notion of validity. They do
not share one: `contains` needs `now < expiry`, `get` and `add` accept
`now ≤ expiry`, and `get` with a default returns stale values.
-/

namespace Chorde.Inproc

variable {K V : Type}

/-- A stored `(value, expiry)` tuple; the expiry is absolute wall-clock time. -/
structure Entry (V : Type) where
  value : V
  expiry : Int
  deriving DecidableEq, Repr

/-- The LRU container's contents. A key is listed exactly when it has an entry, and
no key is listed twice, so the list is the container's iteration order. -/
structure Store (K V : Type) where
  keys : List K
  find? : K → Option (Entry V)
  keys_nodup : keys.Nodup
  mem_keys : ∀ key, key ∈ keys ↔ (find? key).isSome

/-- `CacheMissError(key)`, raised by a lookup of an absent key without a default. -/
structure CacheMissError (K : Type) where
  key : K
  deriving DecidableEq, Repr

namespace Store

/-- A freshly constructed container. -/
def empty : Store K V where
  keys := []
  find? := fun _ => none
  keys_nodup := List.nodup_nil
  mem_keys := by simp

@[simp] theorem find?_empty (key : K) : (empty : Store K V).find? key = none := rfl

/-- Two containers with the same keys in the same order and the same entries are
the same container. -/
@[ext] theorem ext {first second : Store K V} (sameKeys : first.keys = second.keys)
    (sameEntries : ∀ key, first.find? key = second.find? key) : first = second := by
  cases first
  cases second
  cases sameKeys
  simp only [mk.injEq, true_and]
  exact funext sameEntries

variable [DecidableEq K]

/-- Item assignment `store[key] = entry`: a new key joins the iteration order at
its end, an existing key keeps its place. -/
def set (store : Store K V) (key : K) (entry : Entry V) : Store K V where
  keys := if key ∈ store.keys then store.keys else store.keys ++ [key]
  find? := Function.update store.find? key (some entry)
  keys_nodup := by
    split
    · exact store.keys_nodup
    · exact store.keys_nodup.append (List.nodup_singleton key) (by simpa)
  mem_keys := by
    intro other
    by_cases same : other = key
    · subst same
      split <;> simp_all
    · have listed := store.mem_keys other
      split <;> simp_all

/-- Item deletion `del store[key]`, or `store.pop(key)`: an absent key is left as
it is (the caller swallows the `CacheMissError`). -/
def erase (store : Store K V) (key : K) : Store K V where
  keys := store.keys.erase key
  find? := Function.update store.find? key none
  keys_nodup := store.keys_nodup.erase key
  mem_keys := by
    intro other
    rw [store.keys_nodup.mem_erase_iff, store.mem_keys other]
    by_cases same : other = key
    · subst same
      simp
    · simp [same]

@[simp] theorem find?_set (store : Store K V) (key other : K) (entry : Entry V) :
    (store.set key entry).find? other =
      if other = key then some entry else store.find? other := by
  simp [set, Function.update_apply]

@[simp] theorem find?_erase (store : Store K V) (key other : K) :
    (store.erase key).find? other = if other = key then none else store.find? other := by
  simp [erase, Function.update_apply]

/-- Assigning the entry a key already holds changes nothing. -/
theorem set_of_find? {store : Store K V} {key : K} {entry : Entry V}
    (stored : store.find? key = some entry) : store.set key entry = store := by
  have listed : key ∈ store.keys := (store.mem_keys key).mpr (by simp [stored])
  ext other
  · simp [set, listed]
  · by_cases same : other = key <;> simp [same, stored]

end Store

/-- `InprocCacheClient.getTtl`: the value and `expiry - now`, which is negative for
a stale entry. An absent key gives `(default, -1)`, or raises without a default;
`none` stands for the `NONE` sentinel, that is no default passed. -/
def getTtl (store : Store K V) (key : K) (default : Option V) (now : Int) :
    Except (CacheMissError K) (V × Int) :=
  match store.find? key, default with
  | some entry, _ => .ok (entry.value, entry.expiry - now)
  | none, none => .error ⟨key⟩
  | none, some fallback => .ok (fallback, -1)

/-- `BaseCacheClient.get` over `getTtl`: without a default, a negative ttl raises. -/
def get (store : Store K V) (key : K) (default : Option V) (now : Int) :
    Except (CacheMissError K) V :=
  match getTtl store key default now with
  | .error miss => .error miss
  | .ok (value, ttl) => if ttl < 0 ∧ default.isNone then .error ⟨key⟩ else .ok value

/-- `InprocCacheClient.contains`: present with a remaining ttl strictly above the
margin, which defaults to `0`. -/
def contains (store : Store K V) (key : K) (margin : Option Int) (now : Int) : Bool :=
  match store.find? key with
  | none => false
  | some entry => decide (entry.expiry - now > margin.getD 0)

/-- `InprocCacheClient.clear`. -/
def clear (_store : Store K V) : Store K V :=
  Store.empty

variable [DecidableEq K]

/-- `InprocCacheClient.put`: unconditionally store `(value, now + ttl)`. -/
def put (store : Store K V) (key : K) (value : V) (ttl now : Int) : Store K V :=
  store.set key ⟨value, now + ttl⟩

/-- `InprocCacheClient.add`, with its `setdefault` and its stale-entry override
done back to back. An absent key gets the new entry; a present one is replaced
only when `expiry < now`. -/
def add (store : Store K V) (key : K) (value : V) (ttl now : Int) : Bool × Store K V :=
  match store.find? key with
  | none => (true, store.set key ⟨value, now + ttl⟩)
  | some current =>
    if current.expiry < now then (true, store.set key ⟨value, now + ttl⟩)
    else (false, store)

/-- `InprocCacheClient.delete`: a missing key is not an error. -/
def delete (store : Store K V) (key : K) : Store K V :=
  store.erase key

/-- `InprocCacheClient.expire`, its `pop` and `setdefault` back to back: a present
entry keeps its value and now expires at `now`. -/
def expire (store : Store K V) (key : K) (now : Int) : Store K V :=
  match store.find? key with
  | none => store
  | some entry => (store.erase key).set key ⟨entry.value, now⟩

section Locality

variable {store other : Store K V} {key : K}

theorem find?_put (value : V) (ttl now : Int) (probe : K) :
    (put store key value ttl now).find? probe =
      if probe = key then some ⟨value, now + ttl⟩ else store.find? probe := by
  simp [put]

theorem find?_delete (probe : K) :
    (delete store key).find? probe = if probe = key then none else store.find? probe := by
  simp [delete]

theorem find?_add_of_ne (value : V) (ttl now : Int) {probe : K} (apart : probe ≠ key) :
    (add store key value ttl now).2.find? probe = store.find? probe := by
  unfold add
  split <;> (try split) <;> simp [apart]

theorem find?_expire_of_ne (now : Int) {probe : K} (apart : probe ≠ key) :
    (expire store key now).find? probe = store.find? probe := by
  unfold expire
  split <;> simp [apart]

variable {otherKey : K}

/-- `add` answers, and leaves the key's entry, from that entry alone: two containers
holding the same entry under two keys answer alike and keep holding alike. -/
theorem add_congr (same : store.find? key = other.find? otherKey) (value : V) (ttl now : Int) :
    (add store key value ttl now).1 = (add other otherKey value ttl now).1 ∧
      (add store key value ttl now).2.find? key =
        (add other otherKey value ttl now).2.find? otherKey := by
  unfold add
  rw [same]
  split <;> (try split) <;> simp [same]

theorem expire_congr (same : store.find? key = other.find? otherKey) (now : Int) :
    (expire store key now).find? key = (expire other otherKey now).find? otherKey := by
  unfold expire
  rw [same]
  split <;> simp [same]

omit [DecidableEq K] in
theorem contains_congr (same : store.find? key = other.find? otherKey) (margin : Option Int)
    (now : Int) : contains store key margin now = contains other otherKey margin now := by
  unfold contains
  rw [same]

omit [DecidableEq K] in
theorem getTtl_congr (same : store.find? key = other.find? key) (default : Option V)
    (now : Int) : getTtl store key default now = getTtl other key default now := by
  unfold getTtl
  rw [same]

omit [DecidableEq K] in
/-- `getTtl` answers from the key's entry alone; a miss names the key asked for. -/
theorem getTtl_rekey (same : store.find? key = other.find? otherKey) (default : Option V)
    (now : Int) :
    getTtl store key default now =
      match getTtl other otherKey default now with
      | .ok found => .ok found
      | .error _ => .error ⟨key⟩ := by
  unfold getTtl
  rw [same]
  split <;> simp_all

end Locality

/-! ## One notion of validity? -/

section Lookup

omit [DecidableEq K]

variable {store : Store K V} {key : K} {now : Int}

theorem getTtl_of_find? {entry : Entry V} (stored : store.find? key = some entry)
    (default : Option V) : getTtl store key default now = .ok (entry.value, entry.expiry - now) := by
  simp [getTtl, stored]

/-- With a default, `get` returns the stored value, stale or not. -/
theorem get_default_of_find? {entry : Entry V} (stored : store.find? key = some entry)
    (fallback : V) : get store key (some fallback) now = .ok entry.value := by
  simp [get, getTtl_of_find? stored]

variable [DecidableEq K]

/-- `InprocCacheClient.add` refuses an entry not past its expiry. -/
theorem add_of_find? {entry : Entry V} (stored : store.find? key = some entry) (value : V)
    (ttl : Int) : add store key value ttl now =
      if now ≤ entry.expiry then (false, store) else (true, put store key value ttl now) := by
  by_cases live : now ≤ entry.expiry
  · simp [add, stored, live]
  · simp [add, stored, live, Int.not_le.mp live, put]

theorem add_of_absent (absent : store.find? key = none) (value : V) (ttl : Int) :
    add store key value ttl now = (true, put store key value ttl now) := by
  simp [add, absent, put]

end Lookup

end Chorde.Inproc
