import Chorde.Clients.Inproc

/-!
# Interleaved store calls on one key

Over the native LRU container each call (`setdefault`, `get`, `pop`, item
assignment, item deletion) is atomic, but `add` and `expire` make two of them:
`add` overrides a stale entry by a second assignment after its `setdefault`, and
`expire` pops the entry and reinserts it with `setdefault`. Two operations on one
key run as an interleaving of their store calls, chosen by a schedule.

Only the key's own entry matters, so the container is reduced to the entry it
holds for that key. Run alone, each operation's calls give exactly the
`Chorde.Inproc` function. Interleaved, `expire` is not atomic by design: its
pop-and-reinsert lets a concurrent `delete` be undone and a concurrent `getTtl`
miss. The remaining pairs are linearizable except `add` against a writing `put`
or `add`, whose stale override loses an update.
-/

namespace Chorde.Atomicity

open Inproc

variable {K V : Type}

/-- The cache-client operations whose store calls interleave. -/
inductive Operation (V : Type) where
  | put (value : V) (ttl : Int)
  | add (value : V) (ttl : Int)
  | delete
  | expire
  | getTtl (default : Option V)

/-- An operation with the clock reading it takes. -/
structure Call (V : Type) where
  operation : Operation V
  now : Int

/-- What an operation returns: `None`, `add`'s flag, or `getTtl`'s answer. -/
inductive Returned (K V : Type) where
  | none
  | added (stored : Bool)
  | found (answer : Except (CacheMissError K) (V × Int))

/-- Where an operation stands between its store calls. -/
inductive Progress (K V : Type) where
  | start
  | overriding (entry : Entry V)
  | reinserting (value : V)
  | returned (result : Returned K V)

/-- One atomic store call of `call` on the key's entry `cell`. `add`'s check of the
entry `setdefault` returned and `expire`'s unpacking of the popped entry are local
to the thread, so they belong to the call before them. A returned operation makes
no further call. -/
def storeCall (key : K) (call : Call V) :
    Progress K V → Option (Entry V) → Progress K V × Option (Entry V)
  | .start, cell =>
    match call.operation, cell with
    | .put value ttl, _ => (.returned .none, some ⟨value, call.now + ttl⟩)
    | .add value ttl, none => (.returned (.added true), some ⟨value, call.now + ttl⟩)
    | .add value ttl, some current =>
      if current.expiry < call.now then (.overriding ⟨value, call.now + ttl⟩, cell)
      else (.returned (.added false), cell)
    | .delete, _ => (.returned .none, none)
    | .expire, none => (.returned .none, none)
    | .expire, some entry => (.reinserting entry.value, none)
    | .getTtl _, some entry => (.returned (.found (.ok (entry.value, entry.expiry - call.now))), cell)
    | .getTtl none, none => (.returned (.found (.error ⟨key⟩)), cell)
    | .getTtl (some fallback), none => (.returned (.found (.ok (fallback, -1))), cell)
  | .overriding entry, _ => (.returned (.added true), some entry)
  | .reinserting value, none => (.returned .none, some ⟨value, call.now⟩)
  | .reinserting _, some entry => (.returned .none, some entry)
  | .returned result, cell => (.returned result, cell)

/-- Both operations' progress and the key's entry. -/
structure Config (K V : Type) where
  first : Progress K V
  second : Progress K V
  cell : Option (Entry V)

/-- Let the first (`true`) or the second (`false`) operation make its next call. -/
def advance (key : K) (first second : Call V) (config : Config K V) : Bool → Config K V
  | true =>
    ⟨(storeCall key first config.first config.cell).1, config.second,
      (storeCall key first config.first config.cell).2⟩
  | false =>
    ⟨config.first, (storeCall key second config.second config.cell).1,
      (storeCall key second config.second config.cell).2⟩

/-- The configuration a schedule leads to. -/
def interleave (key : K) (first second : Call V) (schedule : List Bool)
    (config : Config K V) : Config K V :=
  schedule.foldl (advance key first second) config

/-- An operation run alone: its at most two calls back to back. -/
def runAlone (key : K) (call : Call V) (cell : Option (Entry V)) :
    Progress K V × Option (Entry V) :=
  storeCall key call (storeCall key call .start cell).1 (storeCall key call .start cell).2

/-- What `Chorde.Inproc` computes for the call on the whole container: the result
and the container after it. -/
def Call.onStore [DecidableEq K] (call : Call V) (store : Store K V) (key : K) :
    Returned K V × Store K V :=
  match call.operation with
  | .put value ttl => (.none, put store key value ttl call.now)
  | .add value ttl => (.added (add store key value ttl call.now).1, (add store key value ttl call.now).2)
  | .delete => (.none, delete store key)
  | .expire => (.none, expire store key call.now)
  | .getTtl default => (.found (getTtl store key default call.now), store)

/-- Run alone, an operation's store calls return what its `Chorde.Inproc` function
returns and leave the key's entry as that function leaves it. -/
theorem runAlone_eq_onStore [DecidableEq K] (key : K) (call : Call V) (store : Store K V) :
    runAlone key call (store.find? key) =
      (.returned (call.onStore store key).1, (call.onStore store key).2.find? key) := by
  rcases call with ⟨operation, now⟩
  cases operation with
  | put value ttl => simp [runAlone, storeCall, Call.onStore, put]
  | add value ttl =>
    cases stored : store.find? key with
    | none => simp [runAlone, storeCall, Call.onStore, add_of_absent stored, put]
    | some current =>
      by_cases live : now ≤ current.expiry
      · simp [runAlone, storeCall, Call.onStore, add_of_find? stored, live, stored,
          Int.not_lt.mpr live]
      · simp [runAlone, storeCall, Call.onStore, add_of_find? stored, live, put,
          Int.not_le.mp live]
  | delete => simp [runAlone, storeCall, Call.onStore, delete]
  | expire =>
    cases stored : store.find? key <;> simp [runAlone, storeCall, Call.onStore, expire, stored]
  | getTtl default =>
    cases stored : store.find? key <;> cases default <;>
      simp [runAlone, storeCall, Call.onStore, getTtl, stored]

/-- Both operations have returned. -/
def Complete (config : Config K V) : Prop :=
  (∃ result, config.first = .returned result) ∧ ∃ result, config.second = .returned result

/-- The first operation run alone, then the second. -/
def firstThenSecond (key : K) (first second : Call V) (cell : Option (Entry V)) : Config K V :=
  ⟨(runAlone key first cell).1, (runAlone key second (runAlone key first cell).2).1,
    (runAlone key second (runAlone key first cell).2).2⟩

/-- The second operation run alone, then the first. -/
def secondThenFirst (key : K) (first second : Call V) (cell : Option (Entry V)) : Config K V :=
  ⟨(runAlone key first (runAlone key second cell).2).1, (runAlone key second cell).1,
    (runAlone key first (runAlone key second cell).2).2⟩

/-- The results and the final entry equal those of the two operations run one after
the other, in one order or the other, from the entry `cell`. -/
def Sequential (key : K) (first second : Call V) (cell : Option (Entry V))
    (config : Config K V) : Prop :=
  config = firstThenSecond key first second cell ∨ config = secondThenFirst key first second cell

/-- Every complete interleaving of the two calls' store calls is sequential. -/
def Linearizable (key : K) (first second : Call V) : Prop :=
  ∀ (cell : Option (Entry V)) (schedule : List Bool),
    Complete (interleave key first second schedule ⟨.start, .start, cell⟩) →
      Sequential key first second cell (interleave key first second schedule ⟨.start, .start, cell⟩)

/-- Per-key linearizability of every pair of operations. -/
def PerKeyLinearizable (K V : Type) : Prop :=
  ∀ (key : K) (first second : Call V), Linearizable key first second

/-- `expire` and `delete` on a present entry: `delete` lands between `expire`'s pop
and its reinsert, finds nothing to delete, and the reinsert brings the entry back,
while either sequential order leaves the key absent. -/
theorem not_per_key_linearizable : ¬ PerKeyLinearizable Nat Nat := by
  intro linearizable
  have sequential := linearizable 0 ⟨.expire, 1⟩ ⟨.delete, 1⟩ (some ⟨0, 5⟩) [true, false, true]
    ⟨⟨_, rfl⟩, ⟨_, rfl⟩⟩
  simp [Sequential, interleave, advance, firstThenSecond, secondThenFirst, runAlone,
    storeCall] at sequential

/-- Each of the other interfering pairs fails too. `getTtl` between `expire`'s pop and
its reinsert misses the key, where either order finds it. `add` there finds the key
absent and stores, where either order refuses. An `add` overriding a stale entry
loses the `put` or the `add` that landed between its `setdefault` and its override,
where one order refuses the `add` and the other keeps the later write. -/
theorem interfering_pairs_not_linearizable :
    ¬ Linearizable 0 (⟨.expire, 1⟩ : Call Nat) ⟨.getTtl none, 1⟩ ∧
      ¬ Linearizable 0 (⟨.expire, 1⟩ : Call Nat) ⟨.add 7 5, 1⟩ ∧
      ¬ Linearizable 0 (⟨.add 7 5, 1⟩ : Call Nat) ⟨.put 8 5, 1⟩ ∧
      ¬ Linearizable 0 (⟨.add 7 5, 1⟩ : Call Nat) ⟨.add 8 5, 1⟩ := by
  refine ⟨fun linearizable => ?_, fun linearizable => ?_, fun linearizable => ?_, fun linearizable => ?_⟩
  · have sequential := linearizable (some ⟨0, 5⟩) [true, false, true] ⟨⟨_, rfl⟩, ⟨_, rfl⟩⟩
    simp [Sequential, interleave, advance, firstThenSecond, secondThenFirst, runAlone, storeCall] at sequential
  · have sequential := linearizable (some ⟨0, 5⟩) [true, false, true] ⟨⟨_, rfl⟩, ⟨_, rfl⟩⟩
    simp [Sequential, interleave, advance, firstThenSecond, secondThenFirst, runAlone, storeCall] at sequential
  · have sequential := linearizable (some ⟨0, 0⟩) [true, false, true] ⟨⟨_, rfl⟩, ⟨_, rfl⟩⟩
    simp [Sequential, interleave, advance, firstThenSecond, secondThenFirst, runAlone, storeCall] at sequential
  · have sequential := linearizable (some ⟨0, 0⟩) [true, false, true, false] ⟨⟨_, rfl⟩, ⟨_, rfl⟩⟩
    simp [Sequential, interleave, advance, firstThenSecond, secondThenFirst, runAlone, storeCall] at sequential

/-! ## Reducing a schedule to four effective calls -/

/-- Store calls an operation still has to make. -/
def Progress.callsLeft : Progress K V → Nat
  | .start => 2
  | .overriding _ => 1
  | .reinserting _ => 1
  | .returned _ => 0

/-- The configuration seen with the two operations' roles exchanged. -/
def Config.swap (config : Config K V) : Config K V :=
  ⟨config.second, config.first, config.cell⟩

section Schedules

variable (key : K) (first second : Call V)

@[simp] theorem storeCall_returned (result : Returned K V) (cell : Option (Entry V)) :
    storeCall key first (.returned result) cell = (.returned result, cell) := rfl

/-- Each call uses up at least one of the operation's calls. -/
theorem callsLeft_storeCall (progress : Progress K V) (cell : Option (Entry V)) :
    (storeCall key first progress cell).1.callsLeft ≤ progress.callsLeft - 1 := by
  unfold storeCall
  split
  · split <;> (try split) <;> simp [Progress.callsLeft]
  all_goals simp [Progress.callsLeft]

theorem callsLeft_eq_zero {progress : Progress K V} :
    progress.callsLeft = 0 ↔ ∃ result, progress = .returned result := by
  cases progress <;> simp [Progress.callsLeft]

theorem interleave_cons (step : Bool) (word : List Bool) (config : Config K V) :
    interleave key first second (step :: word) config =
      interleave key first second word (advance key first second config step) := rfl

theorem interleave_append (word more : List Bool) (config : Config K V) :
    interleave key first second (word ++ more) config =
      interleave key first second more (interleave key first second word config) :=
  List.foldl_append _ _ _ _

/-- Exchanging the roles exchanges which operation each step of the schedule moves. -/
theorem interleave_swap (word : List Bool) (config : Config K V) :
    interleave key first second word config =
      (interleave key second first (word.map (!·)) config.swap).swap := by
  induction word generalizing config with
  | nil => rfl
  | cons step rest inductionHypothesis =>
    rw [interleave_cons, inductionHypothesis, List.map_cons, interleave_cons]
    cases step <;> rfl

/-- The first operation is moved by the `true` steps only, one call each until it
has returned. -/
theorem first_callsLeft_interleave (word : List Bool) (config : Config K V) :
    (interleave key first second word config).first.callsLeft = 0 ∨
      (interleave key first second word config).first.callsLeft + word.count true ≤
        config.first.callsLeft := by
  induction word generalizing config with
  | nil => simp [interleave]
  | cons step rest inductionHypothesis =>
    rw [interleave_cons]
    rcases inductionHypothesis (advance key first second config step) with done | fewer
    · exact .inl done
    · cases step with
      | true =>
        have used := callsLeft_storeCall key first config.first config.cell
        simp only [advance, List.count_cons_self] at fewer ⊢
        omega
      | false => simpa [advance, List.count_cons] using Or.inr fewer

theorem count_map_not (word : List Bool) (value : Bool) :
    (word.map (!·)).count value = word.count (!value) := by
  induction word with
  | nil => rfl
  | cons step rest inductionHypothesis =>
    cases step <;> cases value <;> simp [List.count_cons, inductionHypothesis]

theorem second_callsLeft_interleave (word : List Bool) (config : Config K V) :
    (interleave key first second word config).second.callsLeft = 0 ∨
      (interleave key first second word config).second.callsLeft + word.count false ≤
        config.second.callsLeft := by
  rw [interleave_swap]
  simpa [Config.swap, count_map_not] using
    first_callsLeft_interleave key second first (word.map (!·)) config.swap

/-- A step of an operation that has returned changes nothing. -/
theorem advance_of_returned {config : Config K V} {step : Bool}
    (done : (if step then config.first else config.second).callsLeft = 0) :
    advance key first second config step = config := by
  rcases config with ⟨firstProgress, secondProgress, cell⟩
  cases step <;> obtain ⟨result, rfl⟩ := callsLeft_eq_zero.mp done <;> rfl

/-- Every schedule reaches what a word of at most two steps of each operation
reaches: later steps of an operation that has returned change nothing. -/
theorem exists_bounded_word (schedule : List Bool) (config : Config K V)
    (fresh : config.first.callsLeft ≤ 2 ∧ config.second.callsLeft ≤ 2) :
    ∃ word : List Bool, word.count true ≤ 2 ∧ word.count false ≤ 2 ∧
      interleave key first second schedule config = interleave key first second word config := by
  induction schedule using List.reverseRecOn with
  | nil => exact ⟨[], by simp, by simp, rfl⟩
  | append_singleton rest step inductionHypothesis =>
    obtain ⟨word, trues, falses, same⟩ := inductionHypothesis
    rw [interleave_append, same]
    by_cases done : (if step then (interleave key first second word config).first
        else (interleave key first second word config).second).callsLeft = 0
    · exact ⟨word, trues, falses, advance_of_returned key first second done⟩
    · refine ⟨word ++ [step], ?_, ?_, (interleave_append key first second word [step] config).symm⟩
      all_goals
        have firstUsed := first_callsLeft_interleave key first second word config
        have secondUsed := second_callsLeft_interleave key first second word config
        cases step <;> simp [List.count_append, List.count_cons] at done ⊢ <;> omega

/-- Steps after both operations have returned change nothing. -/
theorem interleave_of_complete {config : Config K V} (complete : Complete config)
    (word : List Bool) : interleave key first second word config = config := by
  obtain ⟨⟨firstResult, firstDone⟩, ⟨secondResult, secondDone⟩⟩ := complete
  induction word with
  | nil => rfl
  | cons step rest inductionHypothesis =>
    rw [interleave_cons, advance_of_returned key first second (by cases step <;> simp [firstDone, secondDone, Progress.callsLeft]),
      inductionHypothesis]

/-- The interleavings of exactly two steps of each operation. -/
def fullWords : List (List Bool) :=
  [[true, true, false, false], [true, false, true, false], [true, false, false, true],
    [false, true, true, false], [false, true, false, true], [false, false, true, true]]

theorem count_true_add_count_false (word : List Bool) :
    word.count true + word.count false = word.length := by
  induction word with
  | nil => rfl
  | cons step rest inductionHypothesis => cases step <;> simp [List.count_cons] <;> omega

theorem mem_fullWords {word : List Bool} (trues : word.count true = 2)
    (falses : word.count false = 2) : word ∈ fullWords := by
  have length : word.length = 4 := by rw [← count_true_add_count_false]; omega
  match word, length with
  | [a, b, c, d], _ =>
    exact (by decide : ∀ a b c d : Bool, [a, b, c, d].count true = 2 → [a, b, c, d].count false = 2 →
      [a, b, c, d] ∈ fullWords) a b c d trues falses

/-- A complete run of any schedule ends where one of the six four-step words does. -/
theorem exists_full_word (schedule : List Bool) (cell : Option (Entry V))
    (complete : Complete (interleave key first second schedule ⟨.start, .start, cell⟩)) :
    ∃ word ∈ fullWords, interleave key first second schedule ⟨.start, .start, cell⟩ =
      interleave key first second word ⟨.start, .start, cell⟩ := by
  obtain ⟨word, trues, falses, same⟩ :=
    exists_bounded_word key first second schedule ⟨.start, .start, cell⟩ (by simp [Progress.callsLeft])
  refine ⟨word ++ (List.replicate (2 - word.count true) true ++
      List.replicate (2 - word.count false) false), mem_fullWords ?_ ?_, ?_⟩
  · simp [List.count_append, List.count_replicate]; omega
  · simp [List.count_append, List.count_replicate]; omega
  · rw [interleave_append, ← same, interleave_of_complete key first second complete]

end Schedules

/-! ## Which pairs are linearizable -/

/-- The pairs with an interleaving that no sequential order explains: `expire`
against `delete`, `getTtl` or `add` (its pop-and-reinsert window), and `add`
against `put` or `add` (its stale override). -/
def Interferes : Operation V → Operation V → Bool
  | .expire, .delete | .delete, .expire => true
  | .expire, .getTtl _ | .getTtl _, .expire => true
  | .expire, .add _ _ | .add _ _, .expire => true
  | .add _ _, .put _ _ | .put _ _, .add _ _ | .add _ _, .add _ _ => true
  | _, _ => false

theorem interferes_comm (one other : Operation V) : Interferes one other = Interferes other one := by
  cases one <;> cases other <;> rfl

/-- `put`, `delete` and `getTtl` make a single store call. -/
def Operation.singleCall : Operation V → Bool
  | .put _ _ => true
  | .delete => true
  | .getTtl _ => true
  | .add _ _ => false
  | .expire => false

/-- The second operation's single call between the first operation's two. -/
def secondInside (key : K) (first second : Call V) (cell : Option (Entry V)) : Config K V :=
  let opening := storeCall key first .start cell
  let inside := storeCall key second .start opening.2
  let closing := storeCall key first opening.1 inside.2
  ⟨closing.1, inside.1, closing.2⟩

section Words

variable (key : K) (first second : Call V) (cell : Option (Entry V))

/-- A single-call operation has returned after its call. -/
theorem storeCall_single {call : Call V} (single : call.operation.singleCall = true)
    (cell other : Option (Entry V)) :
    storeCall key call (storeCall key call .start cell).1 other =
      ((storeCall key call .start cell).1, other) := by
  rcases call with ⟨operation, now⟩
  cases operation <;> simp [Operation.singleCall] at single <;> (try cases ‹Option V›) <;>
    cases cell <;> rfl

/-- With a single-call second operation, each four-step word runs the operations
one after the other or puts the second's call between the first's two. -/
theorem word_of_second_single (single : second.operation.singleCall = true) {word : List Bool}
    (member : word ∈ fullWords) :
    interleave key first second word ⟨.start, .start, cell⟩ = firstThenSecond key first second cell ∨
      interleave key first second word ⟨.start, .start, cell⟩ = secondThenFirst key first second cell ∨
      interleave key first second word ⟨.start, .start, cell⟩ = secondInside key first second cell := by
  simp only [fullWords, List.mem_cons, List.mem_singleton, List.not_mem_nil, or_false] at member
  rcases member with rfl | rfl | rfl | rfl | rfl | rfl <;>
    simp [interleave, advance, firstThenSecond, secondThenFirst, secondInside, runAlone,
      storeCall_single key single]

/-- Between two single-call operations there is nothing to interleave. -/
theorem secondInside_of_single (firstSingle : first.operation.singleCall = true)
    (single : second.operation.singleCall = true) :
    secondInside key first second cell = firstThenSecond key first second cell := by
  simp only [secondInside, firstThenSecond, runAlone, storeCall_single key firstSingle,
    storeCall_single key single]

/-- A single call between the two calls of a compatible operation changes nothing
a sequential order would not: a stale entry `add` replaces is replaced as well
after a `delete` or beside a `getTtl`, and a `put` between `expire`'s pop and
reinsert keeps its entry, as a `put` after `expire` does. -/
theorem secondInside_sequential (single : second.operation.singleCall = true)
    (compatible : Interferes first.operation second.operation = false) :
    Sequential key first second cell (secondInside key first second cell) := by
  rcases first with ⟨operation, now⟩
  cases operation
  case add value ttl =>
    rcases second with ⟨other, later⟩
    cases other <;> simp only [Operation.singleCall, Interferes, reduceCtorEq] at single compatible
    all_goals
      rcases cell with _ | current
      · simp [Sequential, secondInside, firstThenSecond, secondThenFirst, runAlone, storeCall]
      · by_cases stale : current.expiry < now <;>
          simp [Sequential, secondInside, firstThenSecond, secondThenFirst, runAlone, storeCall, stale]
  case expire =>
    rcases second with ⟨other, later⟩
    cases other <;> simp [Operation.singleCall, Interferes] at single compatible
    rcases cell with _ | current <;>
      simp [Sequential, secondInside, firstThenSecond, secondThenFirst, runAlone, storeCall]
  all_goals exact .inl (secondInside_of_single key _ second cell rfl single)

/-- Two `expire`s: whichever pops first reinserts, and the other finds nothing to
pop, which is what the other running first and reinserting would leave behind. -/
theorem expire_expire_sequential (now later : Int) {word : List Bool} (member : word ∈ fullWords) :
    Sequential key ⟨.expire, now⟩ ⟨.expire, later⟩ cell
      (interleave key ⟨.expire, now⟩ ⟨.expire, later⟩ word ⟨.start, .start, cell⟩) := by
  simp only [fullWords, List.mem_cons, List.mem_singleton, List.not_mem_nil, or_false] at member
  rcases member with rfl | rfl | rfl | rfl | rfl | rfl <;> rcases cell with _ | current <;>
    simp [Sequential, interleave, advance, firstThenSecond, secondThenFirst, runAlone, storeCall]

theorem sequential_swap {config : Config K V} (sequential : Sequential key second first cell config) :
    Sequential key first second cell config.swap := by
  rcases sequential with rfl | rfl
  · exact .inr rfl
  · exact .inl rfl

theorem map_not_mem_fullWords {word : List Bool} (member : word ∈ fullWords) :
    word.map (!·) ∈ fullWords := by
  simp only [fullWords, List.mem_cons, List.mem_singleton, List.not_mem_nil, or_false] at member
  rcases member with rfl | rfl | rfl | rfl | rfl | rfl <;> decide

theorem full_word_sequential_of_single (single : second.operation.singleCall = true)
    (compatible : Interferes first.operation second.operation = false) {word : List Bool}
    (member : word ∈ fullWords) :
    Sequential key first second cell (interleave key first second word ⟨.start, .start, cell⟩) := by
  rcases word_of_second_single key first second cell single member with same | same | same <;>
    rw [same]
  · exact .inl rfl
  · exact .inr rfl
  · exact secondInside_sequential key first second cell single compatible

end Words

/-- Every pair of operations outside the interfering ones is linearizable on one
key: whatever the schedule of their store calls, the results and the final entry
are those of one sequential order. -/
theorem linearizable_of_compatible (key : K) (first second : Call V)
    (compatible : Interferes first.operation second.operation = false) :
    Linearizable key first second := by
  intro cell schedule complete
  obtain ⟨word, member, same⟩ := exists_full_word key first second schedule cell complete
  rw [same]
  by_cases single : second.operation.singleCall = true
  · exact full_word_sequential_of_single key first second cell single compatible member
  by_cases firstSingle : first.operation.singleCall = true
  · rw [interleave_swap]
    exact sequential_swap key first second cell (full_word_sequential_of_single key second first
      cell firstSingle (by rwa [interferes_comm]) (map_not_mem_fullWords member))
  · rcases first with ⟨operation, now⟩
    rcases second with ⟨other, later⟩
    cases operation <;> cases other <;>
      simp [Operation.singleCall, Interferes] at single firstSingle compatible
    exact expire_expire_sequential key cell now later member

theorem linearizable_of_compatible_add_delete :
    Interferes (.add (0 : Nat) 5) .delete = false ∧
      Linearizable (0 : Nat) (⟨.add 0 5, 1⟩ : Call Nat) ⟨.delete, 2⟩ :=
  ⟨rfl, linearizable_of_compatible 0 ⟨.add 0 5, 1⟩ ⟨.delete, 2⟩ rfl⟩

end Chorde.Atomicity
