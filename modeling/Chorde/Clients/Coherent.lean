import Chorde.Coherence.Deletion

/-!
# The coherent client and its deferred computation

`CoherentDefer.undefer` loops: it asks `expired()`, then `query_pending(key,
expired, timeout, True)`, and runs its callable only on a `None`; on `OOB_UPDATE` it
asks `expired()` again, and otherwise it waits with `wait_done` or gives up. What
the three oracles answer in each pass is a `Round`. `CoherentWrapperClient`
publishes its puts, deletions and clears through the manager, and `put_coherently`
on a synchronous client undefers on the spot with `done()` in a `finally`.

Every call the wrapper or the deferred computation makes is recorded as an
`Effect`, in order; the properties are about the list of effects of every run.
-/

namespace Chorde.Coherent

open Inproc Decorated Coherence

/-- The exception a callable or the wrapped client's `put` raises; it propagates
unchanged. -/
inductive Raised where
  | callable
  | put
  deriving DecidableEq, Repr

/-- A `manager.fire_done(keys)` a callable makes. -/
inductive Announcement where
  | fireDone (keys : List PyVal)
  deriving DecidableEq, Repr

/-- A callable as a `Defer` holds one: on an argument tuple, the announcements it
makes and what it returns, `none` for the `NONE` sentinel. -/
abbrev Callable := List PyVal → List Announcement × Option PyVal

/-- A plain `Defer`: a callable and the arguments it will be called with. -/
structure Defer where
  callable : Callable
  args : List PyVal

/-- A `CoherentDefer` as `put_coherently` builds it: the key, the coherence timeout,
`wait_time` (`none` for `None`, an unbounded wait), and what its callable returns
on its arguments, or that it raises. -/
structure CoherentDefer where
  key : PyVal
  timeout : Int
  waitTime : Option Int
  outcome : Except Raised (Option PyVal)

/-- A value handed to the wrapped client's `put`. -/
inductive Handed where
  | value (value : PyVal)
  | defer (defer : Defer)
  | coherentDefer (defer : CoherentDefer)

/-- A call made on an oracle, the manager, the callable or the wrapped client, with
the answer where it steers what follows. -/
inductive Effect where
  | expired (answer : Bool)
  | queryPending (key : PyVal) (timeout : Int) (lock : Bool) (answer : Answer)
  | waitDone (key : PyVal) (timeout : Option Int) (answer : Bool)
  | callable
  | markDone (key : PyVal)
  | fireDone (keys : List PyVal)
  | clientPut (key : PyVal) (value : Handed) (ttl : Int)

/-- A call on one of the oracles `undefer` consults. -/
def Effect.Asks : Effect → Prop
  | .expired _ | .queryPending .. | .waitDone .. => True
  | _ => False

/-! ## `CoherentDefer` -/

/-- What `expired()`, `query_pending` and `wait_done` answer in one pass of
`undefer`'s loop: the opening `expired()`, the answer of `query_pending`, the
`expired()` asked after an `OOB_UPDATE`, and `wait_done`. A pass reads only the
answers its path asks for. -/
structure Round where
  expired : Bool
  computer : Answer
  recheck : Bool
  waited : Bool

/-- How one pass of the loop ends: `undefer` returns, with whether it set
`computed`, or it goes round again. -/
inductive Pass where
  | returned (result : Except Raised (Option PyVal)) (computed : Bool)
  | again

namespace CoherentDefer

/-- The end of a pass that found someone else computing, after the calls `asked`:
with a `wait_time`, `wait_done` decides between giving up and another pass;
without one, it gives up. -/
def waitOrAbandon (defer : CoherentDefer) (round : Round) (asked : List Effect) : List Effect × Pass :=
  if defer.waitTime ≠ some 0 then
    (asked ++ [.waitDone defer.key defer.waitTime round.waited],
      if round.waited then .returned (.ok none) false else .again)
  else (asked, .returned (.ok none) false)

/-- One pass of `undefer`'s loop. -/
def pass (defer : CoherentDefer) (round : Round) : List Effect × Pass :=
  if round.expired then
    let asked := [Effect.expired true, .queryPending defer.key defer.timeout true round.computer]
    match round.computer with
    | .none => (asked ++ [.callable], .returned defer.outcome true)
    | .oobUpdate =>
      if round.recheck then defer.waitOrAbandon round (asked ++ [.expired true])
      else (asked ++ [.expired false], .returned (.ok none) false)
    | .contact _ => defer.waitOrAbandon round asked
  else ([.expired false], .returned (.ok none) false)

/-- `undefer`, one pass per round of answers: the calls made, and what it returns
with the final `computed`, or `none` while it is still looping. -/
def undefer (defer : CoherentDefer) : List Round → List Effect × Option (Except Raised (Option PyVal) × Bool)
  | [] => ([], none)
  | round :: rest =>
    match defer.pass round with
    | (effects, .returned result computed) => (effects, some (result, computed))
    | (effects, .again) => (effects ++ (defer.undefer rest).1, (defer.undefer rest).2)

/-- `done()`: `mark_done(key)` if the callable ran. -/
def done (defer : CoherentDefer) (computed : Bool) : List Effect :=
  if computed then [.markDone defer.key] else []

/-- What the callable's result leads a synchronous `put_coherently` to store. -/
def stored (defer : CoherentDefer) (ttl : Int) : List Effect :=
  match defer.outcome with
  | .ok (some value) => [.clientPut defer.key (.value value) ttl]
  | _ => []

end CoherentDefer

/-! ## `CoherentWrapperClient` -/

namespace CoherentWrapperClient

/-- `put_coherently` on a client that is asynchronous or not, for the
`CoherentDefer` it builds; `putRaises` tells whether the wrapped client's `put`
raises. An asynchronous client is handed the `CoherentDefer`. A synchronous one is
handed what `undefer` returns unless that is `NONE`, and `done()` runs in the
`finally` whatever happens. The calls made, and how the call ends, `none` while
`undefer` is still looping. -/
def putCoherently (async : Bool) (defer : CoherentDefer) (ttl : Int) (rounds : List Round)
    (putRaises : Bool) : List Effect × Option (Except Raised Unit) :=
  if async then
    ([.clientPut defer.key (.coherentDefer defer) ttl], some (if putRaises then .error .put else .ok ()))
  else
    match defer.undefer rounds with
    | (effects, none) => (effects, none)
    | (effects, some (.error raised, computed)) => (effects ++ defer.done computed, some (.error raised))
    | (effects, some (.ok none, computed)) => (effects ++ defer.done computed, some (.ok ()))
    | (effects, some (.ok (some value), computed)) =>
      (effects ++ [.clientPut defer.key (.value value) ttl] ++ defer.done computed,
        some (if putRaises then .error .put else .ok ()))

/-- The `done_after` a quick-refresh `put` splices into a `Defer`: it calls the
original callable, announces `fire_done([key])` unless that returned `NONE`, and,
having no `return` of its own, returns `None`. -/
def doneAfter (key : PyVal) (callable : Callable) : Callable := fun args =>
  ((callable args).1 ++ (if (callable args).2.isSome then [.fireDone [key]] else []), some .none)

/-- `put(key, value, ttl)` with `quickRefresh` the manager's `quick_refresh` and
`async` the wrapped client's: the calls made. -/
def put (quickRefresh async : Bool) (key : PyVal) (value : Handed) (ttl : Int) : List Effect :=
  if quickRefresh then
    match async, value with
    | true, .defer defer => [.clientPut key (.defer { defer with callable := doneAfter key defer.callable }) ttl]
    | _, _ => [.clientPut key value ttl, .fireDone [key]]
  else [.clientPut key value ttl]

/-- `coherence.CLEAR`: the module `chorde.mq.coherence` defines no `CLEAR`. -/
def coherenceCLEAR : Except AttributeError PyVal :=
  .error (.attributeError "CLEAR")

/-- `delete(key)`: the wrapped client's `delete`, then `fire_deletion(key)`. -/
def delete (client : PyStore) (manager : Manager) (key : PyVal) :
    PyStore × Manager × Except AttributeError Message :=
  (Inproc.delete client key, (fireDeletion manager key).1, (fireDeletion manager key).2)

/-- `clear()`: the wrapped client's `clear`, then `fire_deletion(coherence.CLEAR)`. -/
def clear (client : PyStore) (manager : Manager) : PyStore × Manager × Except AttributeError Message :=
  match coherenceCLEAR with
  | .ok sentinel => (Inproc.clear client, (fireDeletion manager sentinel).1, (fireDeletion manager sentinel).2)
  | .error missing => (Inproc.clear client, manager, .error missing)

end CoherentWrapperClient

/-! ## The exits of `undefer` and `put_coherently` -/

namespace CoherentDefer

variable (defer : CoherentDefer)

/-- A pass that finds someone else computing only asks the oracles, none of them
a `query_pending` that returned `None`, and either gives up with `NONE` or goes round
again. -/
theorem waitOrAbandon_asks (round : Round) {asked : List Effect}
    (asks : ∀ effect ∈ asked, effect.Asks ∧ effect ≠ .queryPending defer.key defer.timeout true .none) :
    ∃ more, (∀ effect ∈ more, effect.Asks ∧ effect ≠ .queryPending defer.key defer.timeout true .none) ∧
      (defer.waitOrAbandon round asked = (more, .again) ∨
        defer.waitOrAbandon round asked = (more, .returned (.ok none) false)) := by
  unfold waitOrAbandon
  split
  · exact ⟨asked ++ [.waitDone defer.key defer.waitTime round.waited],
      List.forall_mem_append.mpr ⟨asks, by simp [Effect.Asks]⟩, by cases waited : round.waited <;> simp [waited]⟩
  · exact ⟨asked, asks, .inr rfl⟩

/-- One pass either only asks the oracles, with no `query_pending` returning `None`,
and gives up with `NONE` or goes round again; or its `expired()` says expired and
`query_pending` returns `None`, and it runs the callable right after, setting
`computed` and returning what the callable does. -/
theorem pass_cases (round : Round) :
    (∃ asked, (∀ effect ∈ asked, effect.Asks ∧ effect ≠ .queryPending defer.key defer.timeout true .none) ∧
      (defer.pass round = (asked, .again) ∨ defer.pass round = (asked, .returned (.ok none) false))) ∨
    defer.pass round = ([.expired true] ++ [.queryPending defer.key defer.timeout true .none, .callable],
      .returned defer.outcome true) := by
  unfold pass
  split
  · split
    · next none => exact .inr (by simp [none])
    · next oobUpdate =>
      split
      · exact .inl (defer.waitOrAbandon_asks round (by simp [Effect.Asks, oobUpdate]))
      · exact .inl ⟨_, by simp [Effect.Asks, oobUpdate], .inr rfl⟩
    · next contact => exact .inl (defer.waitOrAbandon_asks round (by simp [Effect.Asks, contact]))
  · exact .inl ⟨_, by simp [Effect.Asks], .inr rfl⟩

/-- Over every sequence of oracle answers, `undefer` either only asks the oracles,
with no `query_pending` returning `None`, returning `NONE` without setting `computed`
if it returns at all; or it ends by running its callable once, right after the first
`query_pending(key, expired, timeout, True)` that returned `None`, and returns what
the callable does with `computed` set. -/
theorem undefer_cases (rounds : List Round) :
    ∃ asked, (∀ effect ∈ asked, effect.Asks ∧ effect ≠ .queryPending defer.key defer.timeout true .none) ∧
      (((defer.undefer rounds).1 = asked ∧
          ((defer.undefer rounds).2 = none ∨ (defer.undefer rounds).2 = some (.ok none, false))) ∨
        defer.undefer rounds =
          (asked ++ [.queryPending defer.key defer.timeout true .none, .callable], some (defer.outcome, true))) := by
  induction rounds with
  | nil => exact ⟨[], by simp, .inl ⟨rfl, .inl rfl⟩⟩
  | cons round rest inductionHypothesis =>
    rcases defer.pass_cases round with ⟨asked, asks, again | gaveUp⟩ | computed
    · obtain ⟨later, laterAsks, ending⟩ := inductionHypothesis
      refine ⟨asked ++ later, List.forall_mem_append.mpr ⟨asks, laterAsks⟩, ?_⟩
      rcases ending with ⟨effects, ending⟩ | computed
      · exact .inl ⟨by simp [undefer, again, effects], by simpa [undefer, again] using ending⟩
      · exact .inr (by simp [undefer, again, computed])
    · exact ⟨asked, asks, .inl ⟨by simp [undefer, gaveUp], .inr (by simp [undefer, gaveUp])⟩⟩
    · exact ⟨[.expired true], by simp [Effect.Asks], .inr (by simp [undefer, computed])⟩

end CoherentDefer

namespace CoherentWrapperClient

/-- On a synchronous client, `put_coherently` either only asks the oracles, with no
`query_pending` returning `None`, storing nothing and calling no `mark_done`, and
returns normally if it returns; or it runs the callable right after the first
`query_pending` that returned `None`, then stores the callable's value if it returned
one other than `NONE`, and calls `mark_done(key)` once, also when the callable or the
`put` raises. -/
theorem putCoherently_cases (defer : CoherentDefer) (ttl : Int) (rounds : List Round) (putRaises : Bool) :
    ∃ asked, (∀ effect ∈ asked, effect.Asks ∧ effect ≠ .queryPending defer.key defer.timeout true .none) ∧
      ((putCoherently false defer ttl rounds putRaises = (asked, none) ∨
          putCoherently false defer ttl rounds putRaises = (asked, some (.ok ()))) ∨
        (putCoherently false defer ttl rounds putRaises).1 =
          asked ++ [.queryPending defer.key defer.timeout true .none, .callable] ++ defer.stored ttl ++
            [.markDone defer.key]) := by
  obtain ⟨asked, asks, ⟨effects, ending⟩ | computed⟩ := defer.undefer_cases rounds
  · refine ⟨asked, asks, .inl ?_⟩
    rcases ending with ending | ending
    · have undeferred : defer.undefer rounds = (asked, none) := Prod.ext effects ending
      exact .inl (by simp [putCoherently, undeferred])
    · have undeferred : defer.undefer rounds = (asked, some (.ok none, false)) := Prod.ext effects ending
      exact .inr (by simp [putCoherently, undeferred, CoherentDefer.done])
  · refine ⟨asked, asks, .inr ?_⟩
    rcases outcome : defer.outcome with raised | _ | value <;>
      simp [putCoherently, computed, outcome, CoherentDefer.done, CoherentDefer.stored]

end CoherentWrapperClient

/-- `CoherentDefer.undefer` and a synchronous `put_coherently`, over every sequence of
answers from `expired()`, `query_pending` and `wait_done`: the callable runs at most
once, and it runs exactly when a `query_pending(key, expired, timeout, True)` returns
`None`, right after the first that does; every other exit returns `NONE`, a value is
stored exactly when the callable ran and returned one other than `NONE`, and
`mark_done(key)` is called once if the callable ran and never otherwise, also when
the callable or the `put` raises. -/
theorem coherent_defer_exit_paths (defer : CoherentDefer) (rounds : List Round) (ttl : Int) (putRaises : Bool) :
    (∃ asked, (∀ effect ∈ asked, effect.Asks ∧ effect ≠ .queryPending defer.key defer.timeout true .none) ∧
      (((defer.undefer rounds).1 = asked ∧
          ((defer.undefer rounds).2 = none ∨ (defer.undefer rounds).2 = some (.ok none, false))) ∨
        defer.undefer rounds =
          (asked ++ [.queryPending defer.key defer.timeout true .none, .callable], some (defer.outcome, true)))) ∧
    ∃ asked, (∀ effect ∈ asked, effect.Asks ∧ effect ≠ .queryPending defer.key defer.timeout true .none) ∧
      ((CoherentWrapperClient.putCoherently false defer ttl rounds putRaises = (asked, none) ∨
          CoherentWrapperClient.putCoherently false defer ttl rounds putRaises = (asked, some (.ok ()))) ∨
        (CoherentWrapperClient.putCoherently false defer ttl rounds putRaises).1 =
          asked ++ [.queryPending defer.key defer.timeout true .none, .callable] ++ defer.stored ttl ++
            [.markDone defer.key]) :=
  ⟨defer.undefer_cases rounds, CoherentWrapperClient.putCoherently_cases defer ttl rounds putRaises⟩

/-! ## Quick-refresh puts -/

/-- With `quick_refresh` set, an asynchronous client is handed, for a plain `Defer`,
a `Defer` of the same arguments whose callable announces `fire_done([key])` exactly
when the original returns something other than `NONE`, and returns `None` whatever
the original returned. -/
theorem quick_refresh_put_returns_none (key : PyVal) (ttl : Int) (defer : Defer) :
    ∃ handed, CoherentWrapperClient.put true true key (.defer defer) ttl = [.clientPut key (.defer handed) ttl] ∧
      handed.args = defer.args ∧
      (handed.callable handed.args).2 = some .none ∧
      (handed.callable handed.args).1 =
        (defer.callable defer.args).1 ++ if (defer.callable defer.args).2.isSome then [.fireDone [key]] else [] :=
  ⟨_, rfl, rfl, rfl, rfl⟩

/-! ## Deletions and clears -/

/-- A `clear` reaches no peer: naming `coherence.CLEAR` raises `AttributeError` once
the wrapped client is cleared, before `fire_deletion` runs. And a `del` whatever its
payload only deletes that key: every other entry of a peer's private cache stays. -/
theorem clear_reaches_no_peer (client : PyStore) (sender peer : Manager) (sentinel : PyVal) (txid : Txid)
    (key : PyVal) (apart : key ≠ sentinel) :
    (CoherentWrapperClient.clear client sender).2.2 = .error (.attributeError "CLEAR") ∧
      (onDeletion peer (txid, sentinel)).1.privateCache.find? key = peer.privateCache.find? key := by
  refine ⟨rfl, ?_⟩
  simp [(onDeletion_deletes peer txid sentinel key).1, apart]

theorem clear_reaches_no_peer_holding_entry :
    (.str "k" : PyVal) ≠ .str "CLEAR" ∧
      (CoherentWrapperClient.clear (Store.empty : PyStore) ⟨false, 0, Store.empty⟩).2.2 =
          .error (.attributeError "CLEAR") ∧
      (onDeletion ⟨false, 0, put Store.empty (.str "k") (.str "v") 60 0⟩ (0, .str "CLEAR")).1.privateCache.find?
          (.str "k") =
        (put (Store.empty : PyStore) (.str "k") (.str "v") 60 0).find? (.str "k") :=
  ⟨by decide, clear_reaches_no_peer Store.empty ⟨false, 0, Store.empty⟩ ⟨false, 0, put Store.empty (.str "k") (.str "v") 60 0⟩
    (.str "CLEAR") 0 (.str "k") (by decide)⟩

end Chorde.Coherent
