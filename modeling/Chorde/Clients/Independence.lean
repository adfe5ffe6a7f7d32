import Chorde.Clients.Atomicity

/-!
# Operations on distinct keys

Any number of cache-client operations run at once, each on its own key, as an
interleaving of their atomic store calls over the whole container. At each step the
schedule names the operation that makes its next call. A store call reads its key's
entry, and leaves it by item assignment or removal; a call that changes nothing
(`get`, or `setdefault` on a present key) writes back what it read, which leaves the
container as it was.

Interference stays on one key, as long as the container has room. Whatever the
schedule, operations on pairwise distinct keys give the results, and leave the
entries, of running them one after the other. This holds for `add` and `expire` too,
whose two calls `Chorde.Atomicity` finds interleaved with another operation on the
same key.

The container is `store_class(size)`, an LRU container that makes room for a new
key by evicting one when it is full. Eviction couples keys: at size 1, a `put` of one
key between another key's `expire` pop and reinsert is evicted by the reinsert, which
no order of the two gives. Which entry the container evicts is decided by its
recency order, which is not among this repository's sources, so it is a parameter.
With room for every key the operations name, no store call evicts, and the container
behaves as the plain mapping of `Chorde.Inproc`.
-/

namespace Chorde.Atomicity

open Inproc

variable {K V : Type}

/-- An operation alone on its key's entry `cell`, after `calls` of its store calls. -/
def alone (key : K) (call : Call V) (cell : Option (Entry V)) : Nat → Progress K V × Option (Entry V)
  | 0 => (.start, cell)
  | calls + 1 => storeCall key call (alone key call cell calls).1 (alone key call cell calls).2

section Alone

variable (key : K) (call : Call V) (cell : Option (Entry V))

/-- Two calls are all an operation makes. -/
theorem alone_two_returned : ∃ result, (alone key call cell 2).1 = .returned result := by
  apply callsLeft_eq_zero.mp
  have opening := callsLeft_storeCall key call .start cell
  have closing := callsLeft_storeCall key call (alone key call cell 1).1 (alone key call cell 1).2
  simp only [alone, Progress.callsLeft] at opening closing ⊢
  omega

variable {key call cell}

theorem alone_add_of_returned {calls : Nat} {result : Returned K V}
    (returned : (alone key call cell calls).1 = .returned result) (more : Nat) :
    alone key call cell (calls + more) = alone key call cell calls := by
  induction more with
  | zero => rfl
  | succ more inductionHypothesis =>
    show storeCall key call (alone key call cell (calls + more)).1 (alone key call cell (calls + more)).2 = _
    rw [inductionHypothesis, returned, storeCall_returned]
    exact Prod.ext returned.symm rfl

/-- Once it has returned, an operation stands where it stands after both its calls. -/
theorem alone_of_returned {calls : Nat} {result : Returned K V}
    (returned : (alone key call cell calls).1 = .returned result) :
    alone key call cell calls = runAlone key call cell := by
  match calls, returned with
  | 0, returned => cases returned
  | 1, returned => exact (alone_add_of_returned returned 1).symm
  | calls + 2, returned =>
    obtain ⟨_, twice⟩ := alone_two_returned key call cell
    rw [Nat.add_comm, alone_add_of_returned twice]
    rfl

end Alone

variable [DecidableEq K]

/-- Leave a key's entry after a store call: item assignment of an entry, or removal
when the call leaves none. -/
def writeCell (store : Store K V) (key : K) : Option (Entry V) → Store K V
  | some entry => store.set key entry
  | none => store.erase key

@[simp] theorem find?_writeCell (store : Store K V) (key probe : K) (cell : Option (Entry V)) :
    (writeCell store key cell).find? probe = if probe = key then cell else store.find? probe := by
  cases cell <;> simp [writeCell]

/-- Leave a key's entry in a container of `size` entries: item assignment of a key
the container lacks, when it is full, first evicts the key `victim` picks. -/
def writeBounded (size : Nat) (victim : Store K V → K) (store : Store K V) (key : K) :
    Option (Entry V) → Store K V
  | some entry =>
    if key ∉ store.keys ∧ size ≤ store.keys.length then (store.erase (victim store)).set key entry
    else store.set key entry
  | none => store.erase key

/-- Below its size, the container evicts nothing. -/
theorem writeBounded_of_room {size : Nat} {victim : Store K V → K} {store : Store K V} {key : K}
    (room : key ∉ store.keys → store.keys.length < size) (cell : Option (Entry V)) :
    writeBounded size victim store key cell = writeCell store key cell := by
  cases cell with
  | none => rfl
  | some entry =>
    have full : ¬ (key ∉ store.keys ∧ size ≤ store.keys.length) := fun ⟨absent, full⟩ =>
      Nat.not_lt.mpr full (room absent)
    simp only [writeBounded, full, if_false, writeCell]

/-- Operations in flight over the whole container: each one's progress, by its
position, and the container. -/
structure Flight (K V : Type) where
  progress : Nat → Progress K V
  store : Store K V

/-- The operation at `index` makes its next store call on its key, leaving the
entry it returns by `write`. -/
def stepAt (write : Store K V → K → Option (Entry V) → Store K V) (operations : List (K × Call V))
    (flight : Flight K V) (index : Nat) : Flight K V :=
  match operations[index]? with
  | some (key, call) =>
    ⟨Function.update flight.progress index
        (storeCall key call (flight.progress index) (flight.store.find? key)).1,
      write flight.store key (storeCall key call (flight.progress index) (flight.store.find? key)).2⟩
  | none => flight

/-- Where a schedule leads operations that start together on `store`. -/
def interleaveAll (write : Store K V → K → Option (Entry V) → Store K V) (operations : List (K × Call V))
    (store : Store K V) (schedule : List Nat) : Flight K V :=
  schedule.foldl (stepAt write operations) ⟨fun _ => .start, store⟩

/-- The operations run one after the other: each one's result, and the container
after the last. -/
def sequentially : List (K × Call V) → Store K V → List (Returned K V) × Store K V
  | [], store => ([], store)
  | (key, call) :: rest, store =>
    ((call.onStore store key).1 :: (sequentially rest (call.onStore store key).2).1,
      (sequentially rest (call.onStore store key).2).2)

/-! ## One operation on the whole container -/

/-- An operation leaves every other key's entry alone. -/
theorem Call.onStore_frame (call : Call V) (store : Store K V) {key probe : K} (apart : probe ≠ key) :
    (call.onStore store key).2.find? probe = store.find? probe := by
  rcases call with ⟨operation, now⟩
  cases operation <;>
    simp [Call.onStore, find?_put, find?_delete, find?_add_of_ne _ _ _ apart, find?_expire_of_ne _ apart, apart]

/-- An operation answers, and leaves its key's entry, from that entry alone. -/
theorem Call.onStore_congr (call : Call V) {store other : Store K V} {key : K}
    (same : store.find? key = other.find? key) :
    (call.onStore store key).1 = (call.onStore other key).1 ∧
      (call.onStore store key).2.find? key = (call.onStore other key).2.find? key := by
  have alone := runAlone_eq_onStore key call store
  rw [same, runAlone_eq_onStore key call other] at alone
  simp only [Prod.mk.injEq, Progress.returned.injEq] at alone
  exact ⟨alone.1.symm, alone.2.symm⟩

/-! ## Interleaved runs -/

variable {operations : List (K × Call V)}

omit [DecidableEq K] in
theorem key_ne_of_index_ne (distinct : (operations.map Prod.fst).Nodup) {index other : Nat}
    {key otherKey : K} {call otherCall : Call V} (found : operations[index]? = some (key, call))
    (otherFound : operations[other]? = some (otherKey, otherCall)) (apart : other ≠ index) :
    otherKey ≠ key := by
  rintro rfl
  have bound : other < (operations.map Prod.fst).length := by
    simpa using (List.getElem?_eq_some_iff.mp otherFound).1
  exact apart (List.getElem?_inj bound distinct (by simp [List.getElem?_map, found, otherFound]))

/-- Each operation stands where `made index` of its calls alone on its key's entry
in `store` leave it, and every key no operation names keeps its entry. -/
structure Tracks (operations : List (K × Call V)) (store : Store K V) (made : Nat → Nat)
    (flight : Flight K V) : Prop where
  own : ∀ index key call, operations[index]? = some (key, call) →
    (flight.progress index, flight.store.find? key) = alone key call (store.find? key) (made index)
  others : ∀ probe, probe ∉ operations.map Prod.fst → flight.store.find? probe = store.find? probe

variable {store : Store K V} {made : Nat → Nat} {flight : Flight K V}

/-- A store call moves its own operation one call on, and touches no other
operation's key. -/
theorem Tracks.stepAt (distinct : (operations.map Prod.fst).Nodup)
    (tracks : Tracks operations store made flight) (index : Nat) :
    Tracks operations store (Function.update made index (made index + 1))
      (stepAt writeCell operations flight index) := by
  unfold Atomicity.stepAt
  cases moving : operations[index]? with
  | none =>
    refine ⟨fun other key call found => ?_, tracks.others⟩
    have apart : other ≠ index := by
      rintro rfl
      simp [moving] at found
    simpa [Function.update_noteq apart] using tracks.own other key call found
  | some operation =>
    obtain ⟨key, call⟩ := operation
    have before := tracks.own index key call moving
    refine ⟨fun other otherKey otherCall found => ?_, fun probe absent => ?_⟩
    · by_cases same : other = index
      · subst same
        obtain ⟨rfl, rfl⟩ : key = otherKey ∧ call = otherCall := by simpa [moving] using found
        simp only [Function.update_same, find?_writeCell, if_true, alone, ← before]
      · have keysApart := key_ne_of_index_ne distinct moving found same
        simpa [Function.update_noteq same, keysApart] using tracks.own other otherKey otherCall found
    · have apart : probe ≠ key := by
        rintro rfl
        exact absent (List.mem_map.mpr ⟨(probe, call), List.getElem?_mem moving, rfl⟩)
      simp [apart, tracks.others probe absent]

/-- Along every schedule, each operation has made as many calls as the schedule
names it, as if alone on its key. -/
theorem tracks_interleaveAll (distinct : (operations.map Prod.fst).Nodup) (store : Store K V)
    (schedule : List Nat) :
    Tracks operations store schedule.count (interleaveAll writeCell operations store schedule) := by
  induction schedule using List.reverseRecOn with
  | nil => exact ⟨fun _ _ _ _ => rfl, fun _ _ => rfl⟩
  | append_singleton schedule index inductionHypothesis =>
    have counted : (schedule ++ [index]).count = Function.update schedule.count index (schedule.count index + 1) := by
      funext other
      by_cases same : other = index
      · subst same
        simp [List.count_append]
      · simp [List.count_append, Function.update_noteq same, List.count_singleton, Ne.symm same]
    rw [counted, interleaveAll, List.foldl_append]
    exact inductionHypothesis.stepAt distinct index

/-! ## The operations one after the other -/

/-- Run one after the other, operations on distinct keys each answer as on the
first container and leave their key's entry as they would there; other keys keep
theirs. -/
theorem sequentially_of_distinct (distinct : (operations.map Prod.fst).Nodup) (store : Store K V) :
    (sequentially operations store).1 = operations.map (fun operation => (operation.2.onStore store operation.1).1) ∧
      (∀ (index : Nat) (key : K) (call : Call V), operations[index]? = some (key, call) →
        (sequentially operations store).2.find? key = (call.onStore store key).2.find? key) ∧
      ∀ probe, probe ∉ operations.map Prod.fst → (sequentially operations store).2.find? probe = store.find? probe := by
  induction operations generalizing store with
  | nil => exact ⟨rfl, fun _ _ _ found => by simp at found, fun _ _ => rfl⟩
  | cons operation rest inductionHypothesis =>
    obtain ⟨key, call⟩ := operation
    rw [List.map_cons, List.nodup_cons] at distinct
    obtain ⟨fresh, distinctRest⟩ := distinct
    obtain ⟨results, entries, others⟩ := inductionHypothesis distinctRest (call.onStore store key).2
    have unmoved : ∀ otherKey ∈ rest.map Prod.fst,
        (call.onStore store key).2.find? otherKey = store.find? otherKey := fun otherKey listed =>
      call.onStore_frame store fun same => fresh (same ▸ listed)
    refine ⟨?_, fun index otherKey otherCall found => ?_, fun probe absent => ?_⟩
    · simp only [sequentially, results, List.map_cons, List.cons.injEq, true_and]
      refine List.map_congr_left fun other listed => ?_
      exact (other.2.onStore_congr (unmoved other.1 (List.mem_map_of_mem _ listed))).1
    · cases index with
      | zero =>
        obtain ⟨rfl, rfl⟩ : key = otherKey ∧ call = otherCall := by simpa using found
        exact others key fresh
      | succ index =>
        have listed : otherKey ∈ rest.map Prod.fst :=
          List.mem_map.mpr ⟨_, List.getElem?_mem (by simpa using found), rfl⟩
        rw [sequentially, entries index otherKey otherCall (by simpa using found)]
        exact (otherCall.onStore_congr (unmoved otherKey listed)).2
    · simp only [List.map_cons, List.mem_cons, not_or] at absent
      rw [sequentially, others probe absent.2]
      exact call.onStore_frame store absent.1

/-- Every complete interleaving over the plain mapping of the store calls of
operations on pairwise distinct keys gives each operation the result it gets when the
operations run one after the other, and leaves the container with the same entries. -/
theorem sequential_of_distinct_keys (distinct : (operations.map Prod.fst).Nodup) (store : Store K V)
    (schedule : List Nat)
    (complete : ∀ index < operations.length,
      ∃ result, (interleaveAll writeCell operations store schedule).progress index = .returned result) :
    (List.range operations.length).map (interleaveAll writeCell operations store schedule).progress =
        (sequentially operations store).1.map .returned ∧
      ∀ probe, (interleaveAll writeCell operations store schedule).store.find? probe =
        (sequentially operations store).2.find? probe := by
  have tracks := tracks_interleaveAll distinct store schedule
  obtain ⟨results, entries, others⟩ := sequentially_of_distinct distinct store
  have finished : ∀ (index : Nat) (key : K) (call : Call V), operations[index]? = some (key, call) →
      ((interleaveAll writeCell operations store schedule).progress index,
        (interleaveAll writeCell operations store schedule).store.find? key) =
        (.returned (call.onStore store key).1, (call.onStore store key).2.find? key) := by
    intro index key call found
    obtain ⟨result, returned⟩ := complete index (List.getElem?_eq_some_iff.mp found).1
    have standing := tracks.own index key call found
    rw [standing, alone_of_returned ((Prod.mk.inj standing).1.symm.trans returned), runAlone_eq_onStore]
  refine ⟨List.ext_getElem (by simp [results]) fun index inRange _ => ?_, fun probe => ?_⟩
  · have inBounds : index < operations.length := by simpa using inRange
    have found : operations[index]? = some operations[index] := List.getElem?_eq_getElem inBounds
    simp [results, (Prod.mk.inj (finished index _ _ found)).1]
  · by_cases named : probe ∈ operations.map Prod.fst
    · obtain ⟨⟨key, call⟩, listed, rfl⟩ := List.mem_map.mp named
      obtain ⟨index, bound, found⟩ := List.getElem_of_mem listed
      have atIndex : operations[index]? = some (key, call) := List.getElem?_eq_some_iff.mpr ⟨bound, found⟩
      rw [(Prod.mk.inj (finished index key call atIndex)).2, entries index key call atIndex]
    · rw [tracks.others probe named, others probe named]

/-! ## A container with room -/

/-- A key the container lacks that an operation names leaves the container below the
keys it started with and the keys the operations name. -/
theorem Tracks.length_lt (tracks : Tracks operations store made flight) {key : K}
    (named : key ∈ operations.map Prod.fst) (absent : key ∉ flight.store.keys) :
    flight.store.keys.length < store.keys.length + operations.length := by
  have within : flight.store.keys ⊆ store.keys ++ (operations.map Prod.fst).erase key := by
    intro probe listed
    by_cases mentioned : probe ∈ operations.map Prod.fst
    · have apart : probe ≠ key := fun same => absent (same ▸ listed)
      exact List.mem_append_right _ ((List.mem_erase_of_ne apart).mpr mentioned)
    · have present := (flight.store.mem_keys probe).mp listed
      rw [tracks.others probe mentioned] at present
      exact List.mem_append_left _ ((store.mem_keys probe).mpr present)
  have bound := (List.subperm_of_subset flight.store.keys_nodup within).length_le
  rw [List.length_append, List.length_erase_of_mem named, List.length_map] at bound
  have nonempty : 0 < operations.length := by simpa using List.length_pos_of_mem named
  omega

variable {size : Nat} {victim : Store K V → K}

/-- With room for every key the operations name, a store call evicts nothing. -/
theorem stepAt_bounded (tracks : Tracks operations store made flight)
    (room : store.keys.length + operations.length ≤ size) (index : Nat) :
    stepAt (writeBounded size victim) operations flight index = stepAt writeCell operations flight index := by
  unfold stepAt
  split
  · next key call found =>
    have named : key ∈ operations.map Prod.fst := List.mem_map.mpr ⟨_, List.getElem?_mem found, rfl⟩
    rw [writeBounded_of_room fun absent => Nat.lt_of_lt_of_le (tracks.length_lt named absent) room]
  · rfl

/-- With room for every key the operations name, no schedule makes the container
evict: it runs as the plain mapping. -/
theorem interleaveAll_bounded (distinct : (operations.map Prod.fst).Nodup)
    (room : store.keys.length + operations.length ≤ size) (schedule : List Nat) :
    interleaveAll (writeBounded size victim) operations store schedule =
      interleaveAll writeCell operations store schedule := by
  induction schedule using List.reverseRecOn with
  | nil => rfl
  | append_singleton schedule index inductionHypothesis =>
    simp only [interleaveAll, List.foldl_append, List.foldl_cons, List.foldl_nil] at inductionHypothesis ⊢
    rw [inductionHypothesis]
    exact stepAt_bounded (tracks_interleaveAll distinct store schedule) room index

/-- Operations on pairwise distinct keys of an LRU container of `size` entries with
room for every key they name, whatever it would evict: every complete interleaving of
their store calls, whatever the schedule, gives each operation the result it gets
when the operations run one after the other, and leaves the container with the same
entries. -/
theorem distinct_keys_linearizable (operations : List (K × Call V))
    (distinct : (operations.map Prod.fst).Nodup) (size : Nat) (victim : Store K V → K) (store : Store K V)
    (room : store.keys.length + operations.length ≤ size) (schedule : List Nat)
    (complete : ∀ index < operations.length, ∃ result,
      (interleaveAll (writeBounded size victim) operations store schedule).progress index = .returned result) :
    (List.range operations.length).map (interleaveAll (writeBounded size victim) operations store schedule).progress =
        (sequentially operations store).1.map .returned ∧
      ∀ probe, (interleaveAll (writeBounded size victim) operations store schedule).store.find? probe =
        (sequentially operations store).2.find? probe := by
  rw [interleaveAll_bounded distinct room] at complete ⊢
  exact sequential_of_distinct_keys distinct store schedule complete

/-- At size 1, `expire` on key `0` and `put` on key `1`: the `put` between `expire`'s
pop and its reinsert is evicted by the reinsert, while running either operation's
calls back to back leaves key `1`. -/
example :
    (interleaveAll (writeBounded 1 fun store => store.keys.headD 0) [(0, ⟨.expire, 3⟩), (1, ⟨.put 8 10, 3⟩)]
        (put Store.empty 0 7 10 0) [0, 1, 0]).store.keys = [0] ∧
      (interleaveAll (writeBounded 1 fun store => store.keys.headD 0) [(0, ⟨.expire, 3⟩), (1, ⟨.put 8 10, 3⟩)]
        (put Store.empty 0 7 10 0) [0, 0, 1]).store.keys = [1] ∧
      (interleaveAll (writeBounded 1 fun store => store.keys.headD 0) [(0, ⟨.expire, 3⟩), (1, ⟨.put 8 10, 3⟩)]
        (put Store.empty 0 7 10 0) [1, 0, 0]).store.keys = [1] := by
  decide

/-- `expire` on key `0` and `delete` on key `1` of a container of size 4 holding both,
with `delete` between `expire`'s pop and its reinsert. -/
theorem distinct_keys_linearizable_expire_delete :
    ((([(0, ⟨.expire, 3⟩), (1, ⟨.delete, 3⟩)] : List (Nat × Call Nat)).map Prod.fst).Nodup ∧
      (put (put Store.empty 0 7 10 0) 1 8 10 0).keys.length + 2 ≤ 4 ∧
      (∀ index < 2, ∃ result,
        (interleaveAll (writeBounded 4 fun store => store.keys.headD 0) [(0, ⟨.expire, 3⟩), (1, ⟨.delete, 3⟩)]
          (put (put Store.empty 0 7 10 0) 1 8 10 0) [0, 1, 0]).progress index = .returned result)) ∧
      (List.range 2).map (interleaveAll (writeBounded 4 fun store => store.keys.headD 0)
          [(0, ⟨.expire, 3⟩), (1, ⟨.delete, 3⟩)] (put (put Store.empty 0 7 10 0) 1 8 10 0) [0, 1, 0]).progress =
        (sequentially [(0, ⟨.expire, 3⟩), (1, ⟨.delete, 3⟩)]
          (put (put Store.empty 0 7 10 0) 1 8 10 0)).1.map .returned ∧
      ∀ probe, (interleaveAll (writeBounded 4 fun store => store.keys.headD 0)
          [(0, ⟨.expire, 3⟩), (1, ⟨.delete, 3⟩)] (put (put Store.empty 0 7 10 0) 1 8 10 0) [0, 1, 0]).store.find? probe =
        (sequentially [(0, ⟨.expire, 3⟩), (1, ⟨.delete, 3⟩)]
          (put (put Store.empty 0 7 10 0) 1 8 10 0)).2.find? probe := by
  have complete : ∀ index < 2, ∃ result,
      (interleaveAll (writeBounded 4 fun store => store.keys.headD 0) [(0, ⟨.expire, 3⟩), (1, ⟨.delete, 3⟩)]
        (put (put Store.empty 0 7 10 0) 1 8 10 0) [0, 1, 0]).progress index = .returned result := by
    intro index small
    match index, small with
    | 0, _ => exact ⟨_, rfl⟩
    | 1, _ => exact ⟨_, rfl⟩
  exact ⟨⟨by decide, by decide, complete⟩, distinct_keys_linearizable _ (by decide) 4 _ _ (by decide) _ complete⟩

end Chorde.Atomicity
