import Chorde.Clients.Decorated

/-!
# Namespace wrappers

`NamespaceWrapper` decorates every key `k` as `(namespace, revision, k)` and
clears by advancing the revision: it records the new revision under
`(namespace, 'REVMARK')` for an hour and then clears the inner client, which on
a shared store may remove nothing. `NamespaceMirrorWrapper` reads its namespace
and revision from a reference wrapper and drops every assignment to them.

Two namespaces never meet: the decorated keys of different namespaces differ,
and each call reads and writes its own decorated key only. A clear through the
wrapper itself hides every earlier entry from it and its mirrors, whose clients
then see a private store that was emptied. A clear through a mirror advances
nothing, so on a store whose `clear()` removes nothing it hides nothing.
-/

namespace Chorde.Namespace

open Inproc Decorated

/-- `(namespace, revision, key)`: the inner key `NamespaceWrapper` uses for `key`. -/
def decorate (space revision key : PyVal) : PyVal :=
  .tuple [space, revision, key]

/-- `(namespace, 'REVMARK')`: where a namespace's revision is recorded. -/
def revMark (space : PyVal) : PyVal :=
  .tuple [space, .str "REVMARK"]

theorem decorate_injective (space revision : PyVal) :
    Function.Injective (decorate space revision) := by
  intro key other same
  simpa [decorate] using same

theorem decorate_ne_revMark (space revision key other : PyVal) :
    decorate space revision key ≠ revMark other := by
  simp [decorate, revMark]

/-- A `NamespaceWrapper`'s namespace and its current revision. -/
structure NamespaceWrapper where
  «namespace» : PyVal
  revision : PyVal

namespace NamespaceWrapper

/-- The `DecoratedWrapper` it is: only a key decorator. -/
def wrapper (namespaced : NamespaceWrapper) : DecoratedWrapper :=
  keyed (decorate namespaced.«namespace» namespaced.revision)

/-- `NamespaceWrapper(namespace, client)`: the revision starts at
`client.get((namespace, 'REVMARK'), 0)`. A `get` with a default does not raise. -/
def construct (space : PyVal) (store : PyStore) (now : Int) : NamespaceWrapper :=
  ⟨space, match get store (revMark space) (some (.int 0)) now with
    | .ok revision => revision
    | .error _ => .int 0⟩

/-- `NamespaceWrapper.clear`: advance the revision, record it under REVMARK with a
ttl of 3600, then call the inner client's `clear`. -/
def clear (innerClear : PyStore → PyStore) (namespaced : NamespaceWrapper) (store : PyStore)
    (now : Int) : Except ClientError (NamespaceWrapper × PyStore) :=
  match namespaced.revision.addOne with
  | none => .error .typeError
  | some next =>
    .ok (⟨namespaced.«namespace», next⟩,
      innerClear (put store (revMark namespaced.«namespace») next 3600 now))

/-- `clear()` through a `NamespaceMirrorWrapper` of `reference`: `revision += 1`
reads the reference's revision and the setter drops the sum, so REVMARK gets the
unchanged revision before the inner client's `clear`. -/
def mirrorClear (innerClear : PyStore → PyStore) (reference : NamespaceWrapper) (store : PyStore)
    (now : Int) : Except ClientError PyStore :=
  match reference.revision.addOne with
  | none => .error .typeError
  | some _ => .ok (innerClear (put store (revMark reference.«namespace») reference.revision 3600 now))

end NamespaceWrapper

/-! ## Isolation of two namespaces -/

/-- Calls through two wrappers `first` (`true`) and `second` (`false`) over one inner
client, each tagged with the wrapper it went through. -/
def runTwo (first second : NamespaceWrapper) :
    PyStore → List (Bool × Request × Int) → List (Bool × Reply) × PyStore
  | store, [] => ([], store)
  | store, (viaFirst, request, now) :: rest =>
    let (reply, next) := (if viaFirst then first else second).wrapper.call store now request
    let (replies, final) := runTwo first second next rest
    ((viaFirst, reply) :: replies, final)

/-- Two containers hold the same entries in a wrapper's key space. -/
def AgreeOn (namespaced : NamespaceWrapper) (store other : PyStore) : Prop :=
  ∀ key, store.find? (decorate namespaced.«namespace» namespaced.revision key) =
    other.find? (decorate namespaced.«namespace» namespaced.revision key)

section Isolation

variable {first second : NamespaceWrapper}

/-- A call through `first` leaves `second`'s key space alone. -/
theorem agreeOn_call_other (apart : first.«namespace» ≠ second.«namespace») {store other : PyStore}
    (agree : AgreeOn second store other) (now : Int) (request : Request) :
    AgreeOn second (first.wrapper.call store now request).2 other := by
  intro key
  have away : decorate second.«namespace» second.revision key ≠ first.wrapper.innerKey request := by
    simp [NamespaceWrapper.wrapper, DecoratedWrapper.innerKey, keyed, decorate, Ne.symm apart]
  rw [DecoratedWrapper.call_frame _ now request store away]
  exact agree key

/-- Containers that agree on `second`'s key space answer its calls alike and still
agree after them. -/
theorem agreeOn_call_self {store other : PyStore} (agree : AgreeOn second store other)
    (now : Int) (request : Request) :
    (second.wrapper.call store now request).1 = (second.wrapper.call other now request).1 ∧
      AgreeOn second (second.wrapper.call store now request).2
        (second.wrapper.call other now request).2 := by
  have atKey := agree request.key
  obtain ⟨reply, entry⟩ := DecoratedWrapper.call_congr second.wrapper now request atKey
  refine ⟨reply, fun key => ?_⟩
  by_cases same : key = request.key
  · subst same
    exact entry
  · have away : decorate second.«namespace» second.revision key ≠ second.wrapper.innerKey request :=
      (decorate_injective _ _).ne same
    rw [DecoratedWrapper.call_frame _ now request store away,
      DecoratedWrapper.call_frame _ now request other away]
    exact agree key

/-- Each call through `second` returns, in any interleaving with calls through a
wrapper of another namespace over the same inner client, what it returns when
those calls are removed. -/
theorem namespace_isolation (apart : first.«namespace» ≠ second.«namespace») (store : PyStore)
    (calls : List (Bool × Request × Int)) :
    (runTwo first second store calls).1.filter (fun tagged => !tagged.1) =
      (runTwo first second store (calls.filter (fun call => !call.1))).1 := by
  suffices general : ∀ (other : PyStore), AgreeOn second store other →
      (runTwo first second store calls).1.filter (fun tagged => !tagged.1) =
        (runTwo first second other (calls.filter (fun call => !call.1))).1 from
    general store fun _ => rfl
  induction calls generalizing store with
  | nil => intro other _; rfl
  | cons call rest inductionHypothesis =>
    intro other agree
    obtain ⟨viaFirst, request, now⟩ := call
    cases viaFirst with
    | true =>
      simpa [runTwo] using inductionHypothesis _ other (agreeOn_call_other apart agree now request)
    | false =>
      obtain ⟨reply, stillAgree⟩ := agreeOn_call_self agree now request
      simp [runTwo, reply, inductionHypothesis _ _ stillAgree]

theorem namespace_isolation_of_put :
    (⟨.str "a", .int 0⟩ : NamespaceWrapper).«namespace» ≠ (⟨.str "b", .int 0⟩ : NamespaceWrapper).«namespace» ∧
      (runTwo ⟨.str "a", .int 0⟩ ⟨.str "b", .int 0⟩ Store.empty
          [(true, .put (.str "k") (.str "v") 60, 0), (false, .get (.str "k") none, 1)]).1.filter
          (fun tagged => !tagged.1) =
        (runTwo ⟨.str "a", .int 0⟩ ⟨.str "b", .int 0⟩ Store.empty
          ([(true, .put (.str "k") (.str "v") 60, 0), (false, .get (.str "k") none, 1)].filter
            (fun call => !call.1))).1 :=
  ⟨by decide, namespace_isolation (by decide) Store.empty _⟩

end Isolation

/-! ## What a clear hides -/

/-- The key `inner` stands for under `space` and `revision`, if it is a decorated one. -/
def undecorate (space revision : PyVal) : PyVal → Option PyVal
  | .tuple [other, otherRevision, key] =>
    if other = space ∧ otherRevision = revision then some key else none
  | _ => none

theorem undecorate_eq_some {space revision inner key : PyVal} :
    undecorate space revision inner = some key ↔ inner = decorate space revision key := by
  constructor
  · intro found
    match inner, found with
    | .tuple [other, otherRevision, _], found =>
      simp only [undecorate, Option.ite_none_right_eq_some, Option.some.injEq] at found
      obtain ⟨⟨rfl, rfl⟩, rfl⟩ := found
      rfl
  · rintro rfl
    simp [undecorate, decorate]

/-- The container a wrapper's clients see: the entries under its current revision. -/
def view (namespaced : NamespaceWrapper) (store : PyStore) : PyStore where
  keys := store.keys.filterMap (undecorate namespaced.«namespace» namespaced.revision)
  find? key := store.find? (decorate namespaced.«namespace» namespaced.revision key)
  keys_nodup := store.keys_nodup.filterMap fun _ _ key first second => by
    rw [Option.mem_def, undecorate_eq_some] at first second
    rw [first, second]
  mem_keys key := by
    simp [List.mem_filterMap, undecorate_eq_some, store.mem_keys]

theorem rekeyed_view (namespaced : NamespaceWrapper) (store : PyStore) :
    Rekeyed (decorate namespaced.«namespace» namespaced.revision) store (view namespaced store) :=
  fun _ => rfl

/-- Every entry of `pruned` is one of `store`: what removals leave. -/
def Shrinks (pruned store : PyStore) : Prop :=
  ∀ key entry, pruned.find? key = some entry → store.find? key = some entry

/-- A wrapper `W` of a namespace over an inner client, as `W` and its mirrors use it. -/
structure Watched where
  wrapper : NamespaceWrapper
  store : PyStore

/-- What happens to the inner client: a call through `W` or one of its mirrors (a
mirror reads `W`'s namespace and revision), a clear through `W` or through a
mirror, and the removal of one entry by the inner client's purge or eviction. Calls
and clears through another `NamespaceWrapper` of the namespace are not among them:
such a wrapper keeps a revision counter of its own. -/
inductive Action where
  | call (request : Request) (now : Int)
  | clear (now : Int)
  | mirrorClear (now : Int)
  | evict (key : PyVal)

/-- One action, with the reply its caller gets. A raising clear changes nothing. -/
def watchedStep (innerClear : PyStore → PyStore) (watched : Watched) : Action → Reply × Watched
  | .call request now =>
    ((watched.wrapper.wrapper.call watched.store now request).1,
      ⟨watched.wrapper, (watched.wrapper.wrapper.call watched.store now request).2⟩)
  | .clear now =>
    match watched.wrapper.clear innerClear watched.store now with
    | .ok (wrapper, store) => (.none, ⟨wrapper, store⟩)
    | .error error => (.raised error, watched)
  | .mirrorClear now =>
    match NamespaceWrapper.mirrorClear innerClear watched.wrapper watched.store now with
    | .ok store => (.none, ⟨watched.wrapper, store⟩)
    | .error error => (.raised error, watched)
  | .evict key => (.none, ⟨watched.wrapper, watched.store.erase key⟩)

/-- A run of actions, with every reply. -/
def runWatched (innerClear : PyStore → PyStore) : Watched → List Action → List Reply × Watched
  | watched, [] => ([], watched)
  | watched, action :: rest =>
    let (reply, next) := watchedStep innerClear watched action
    let (replies, final) := runWatched innerClear next rest
    (reply :: replies, final)

/-- What a namespace promises its clients, over a plain container: each call answers
as `InprocCacheClient` does (up to the key a miss names), a clear through the
wrapper empties the container, and a clear through a mirror or the inner client's
purge only removes entries. -/
inductive PlainRun : PyStore → List Action → List Reply → PyStore → Prop
  | done (store : PyStore) : PlainRun store [] [] store
  | call {store final : PyStore} {request : Request} {now : Int} {rest replies} :
    PlainRun (plainCall store now request).2 rest replies final →
    PlainRun store (.call request now :: rest)
      ((plainCall store now request).1.forgetMissKey :: replies) final
  | clear {store final : PyStore} {now : Int} {rest replies} :
    PlainRun Store.empty rest replies final → PlainRun store (.clear now :: rest) (.none :: replies) final
  | mirrorClear {store pruned final : PyStore} {now : Int} {rest replies} : Shrinks pruned store →
    PlainRun pruned rest replies final → PlainRun store (.mirrorClear now :: rest) (.none :: replies) final
  | evict {store pruned final : PyStore} {key : PyVal} {rest replies} : Shrinks pruned store →
    PlainRun pruned rest replies final → PlainRun store (.evict key :: rest) (.none :: replies) final

/-- `W`'s revision is an integer and no entry of the namespace sits under a later one,
so the revision a clear moves to holds nothing yet. -/
structure Fresh (watched : Watched) : Prop where
  revision_int : ∃ current, watched.wrapper.revision = .int current
  no_later : ∀ (later current : Int) (key : PyVal),
    watched.wrapper.revision = .int current →
    (watched.store.find? (decorate watched.wrapper.«namespace» (.int later) key)).isSome →
    later ≤ current

/-- `plain` is the container `W`'s clients see. -/
def Watched.Shows (watched : Watched) (plain : PyStore) : Prop :=
  Rekeyed (decorate watched.wrapper.«namespace» watched.wrapper.revision) watched.store plain

/-- Entries under decorated keys only disappear. -/
def KeepsDecorated (pruned store : PyStore) : Prop :=
  ∀ space revision key entry, pruned.find? (decorate space revision key) = some entry →
    store.find? (decorate space revision key) = some entry

@[simp] theorem runWatched_cons (innerClear : PyStore → PyStore) (watched : Watched)
    (action : Action) (rest : List Action) :
    runWatched innerClear watched (action :: rest) =
      ((watchedStep innerClear watched action).1 ::
          (runWatched innerClear (watchedStep innerClear watched action).2 rest).1,
        (runWatched innerClear (watchedStep innerClear watched action).2 rest).2) := rfl

section Removals

variable {wrapper : NamespaceWrapper} {store pruned plain : PyStore}

theorem keepsDecorated_clearing {innerClear : PyStore → PyStore}
    (shrinks : ∀ store, Shrinks (innerClear store) store) (store : PyStore) (space value : PyVal)
    (now : Int) : KeepsDecorated (innerClear (put store (revMark space) value 3600 now)) store := by
  intro _ _ _ _ found
  simpa [find?_put, decorate_ne_revMark] using shrinks _ _ _ found

theorem keepsDecorated_erase (store : PyStore) (key : PyVal) : KeepsDecorated (store.erase key) store := by
  intro _ _ _ _ found
  simp only [Store.find?_erase] at found
  split at found
  · cases found
  · exact found

theorem fresh_of_keeps (fresh : Fresh ⟨wrapper, store⟩) (keeps : KeepsDecorated pruned store) :
    Fresh ⟨wrapper, pruned⟩ where
  revision_int := fresh.revision_int
  no_later later current key current_eq kept := by
    obtain ⟨entry, found⟩ := Option.isSome_iff_exists.mp kept
    exact fresh.no_later later current key current_eq (by simp [keeps _ _ _ _ found])

/-- Removals seen through `W`: what its clients see only loses entries. -/
theorem shrinks_view_of_keeps (shows : Watched.Shows ⟨wrapper, store⟩ plain)
    (keeps : KeepsDecorated pruned store) : Shrinks (view wrapper pruned) plain := by
  intro key entry found
  rw [← shows key]
  exact keeps _ _ _ _ found

end Removals

section Steps

variable {innerClear : PyStore → PyStore} {watched : Watched} {plain : PyStore}

/-- A call through `W` or a mirror answers as the plain client on what `W`'s clients
see, and keeps the namespace fresh. -/
theorem watchedStep_call (innerClear : PyStore → PyStore) (fresh : Fresh watched) (shows : watched.Shows plain) (request : Request)
    (now : Int) :
    (watchedStep innerClear watched (.call request now)).1.forgetMissKey =
        (plainCall plain now request).1.forgetMissKey ∧
      (watchedStep innerClear watched (.call request now)).2.Shows (plainCall plain now request).2 ∧
      Fresh (watchedStep innerClear watched (.call request now)).2 := by
  obtain ⟨reply, related⟩ := keyed_call_refines (decorate_injective _ _) shows now request
  refine ⟨reply, related, fresh.revision_int, fun later current key current_eq stored => ?_⟩
  dsimp only [watchedStep] at current_eq stored
  by_cases written : decorate watched.wrapper.«namespace» (.int later) key =
      watched.wrapper.wrapper.innerKey request
  · simp only [NamespaceWrapper.wrapper, DecoratedWrapper.innerKey, keyed, decorate,
      DecoratedWrapper.apply_some, current_eq, PyVal.tuple.injEq, List.cons.injEq,
      PyVal.int.injEq] at written
    exact written.2.1.le
  · rw [DecoratedWrapper.call_frame _ now request _ written] at stored
    exact fresh.no_later later current key current_eq stored

/-- A clear through `W` moves it to a revision that holds nothing. -/
theorem watchedStep_clear (shrinks : ∀ store, Shrinks (innerClear store) store)
    (fresh : Fresh watched) (now : Int) :
    (watchedStep innerClear watched (.clear now)).1 = .none ∧
      (watchedStep innerClear watched (.clear now)).2.Shows Store.empty ∧
      Fresh (watchedStep innerClear watched (.clear now)).2 := by
  obtain ⟨⟨space, revision⟩, store⟩ := watched
  obtain ⟨current, rfl⟩ := fresh.revision_int
  have keeps := keepsDecorated_clearing shrinks store space (.int (current + 1)) now
  have step : watchedStep innerClear ⟨⟨space, .int current⟩, store⟩ (.clear now) =
      (.none, ⟨⟨space, .int (current + 1)⟩,
        innerClear (put store (revMark space) (.int (current + 1)) 3600 now)⟩) := rfl
  rw [step]
  refine ⟨rfl, fun key => ?_, ⟨current + 1, rfl⟩, fun later next key next_eq stored => ?_⟩
  · cases found : (innerClear (put store (revMark space) (.int (current + 1)) 3600 now)).find?
        (decorate space (.int (current + 1)) key) with
    | none => rfl
    | some entry =>
      have older := fresh.no_later (current + 1) current key rfl (by simp [keeps _ _ _ _ found])
      omega
  · obtain ⟨entry, found⟩ := Option.isSome_iff_exists.mp stored
    have older := fresh.no_later later current key rfl (by simp [keeps _ _ _ _ found])
    simp only [PyVal.int.injEq] at next_eq
    omega

/-- A clear through a mirror only removes what `W`'s clients see. -/
theorem watchedStep_mirrorClear (shrinks : ∀ store, Shrinks (innerClear store) store)
    (fresh : Fresh watched) (now : Int) :
    (watchedStep innerClear watched (.mirrorClear now)).1 = .none ∧
      (watchedStep innerClear watched (.mirrorClear now)).2.wrapper = watched.wrapper ∧
      KeepsDecorated (watchedStep innerClear watched (.mirrorClear now)).2.store watched.store := by
  obtain ⟨⟨space, revision⟩, store⟩ := watched
  obtain ⟨current, rfl⟩ := fresh.revision_int
  exact ⟨rfl, rfl, keepsDecorated_clearing shrinks store space _ now⟩

theorem watchedStep_evict (innerClear : PyStore → PyStore) (key : PyVal) :
    (watchedStep innerClear watched (.evict key)).1 = .none ∧
      (watchedStep innerClear watched (.evict key)).2.wrapper = watched.wrapper ∧
      KeepsDecorated (watchedStep innerClear watched (.evict key)).2.store watched.store :=
  ⟨rfl, rfl, keepsDecorated_erase watched.store key⟩

/-- After a removal `W`'s clients see the entries left under its revision, which the
container they saw before held too. -/
theorem shows_after_removal {next : Watched} (fresh : Fresh watched) (shows : watched.Shows plain)
    (sameWrapper : next.wrapper = watched.wrapper) (keeps : KeepsDecorated next.store watched.store) :
    Fresh next ∧ next.Shows (view next.wrapper next.store) ∧
      Shrinks (view next.wrapper next.store) plain := by
  obtain ⟨wrapper, store⟩ := next
  subst sameWrapper
  exact ⟨fresh_of_keeps fresh keeps, rekeyed_view _ _, shrinks_view_of_keeps shows keeps⟩

/-- Every run from a fresh namespace answers as a plain client would on what `W`'s
clients see, and leaves the namespace fresh. -/
theorem runWatched_refines (shrinks : ∀ store, Shrinks (innerClear store) store)
    (actions : List Action) (fresh : Fresh watched) (shows : watched.Shows plain) :
    Fresh (runWatched innerClear watched actions).2 ∧
      ∃ final, PlainRun plain actions ((runWatched innerClear watched actions).1.map Reply.forgetMissKey)
        final ∧ (runWatched innerClear watched actions).2.Shows final := by
  induction actions generalizing watched plain with
  | nil => exact ⟨fresh, plain, .done plain, shows⟩
  | cons action rest inductionHypothesis =>
    simp only [runWatched_cons, List.map_cons]
    cases action with
    | call request now =>
      obtain ⟨reply, stillShows, stillFresh⟩ := watchedStep_call innerClear fresh shows request now
      obtain ⟨freshAfter, final, run, finalShows⟩ := inductionHypothesis stillFresh stillShows
      exact ⟨freshAfter, final, reply ▸ .call run, finalShows⟩
    | clear now =>
      obtain ⟨reply, emptied, stillFresh⟩ := watchedStep_clear shrinks fresh now
      obtain ⟨freshAfter, final, run, finalShows⟩ := inductionHypothesis stillFresh emptied
      exact ⟨freshAfter, final, reply ▸ .clear run, finalShows⟩
    | mirrorClear now =>
      obtain ⟨reply, sameWrapper, keeps⟩ := watchedStep_mirrorClear shrinks fresh now
      obtain ⟨stillFresh, stillShows, pruned⟩ := shows_after_removal fresh shows sameWrapper keeps
      obtain ⟨freshAfter, final, run, finalShows⟩ := inductionHypothesis stillFresh stillShows
      exact ⟨freshAfter, final, reply ▸ .mirrorClear pruned run, finalShows⟩
    | evict key =>
      obtain ⟨reply, sameWrapper, keeps⟩ := watchedStep_evict innerClear key
      obtain ⟨stillFresh, stillShows, pruned⟩ := shows_after_removal fresh shows sameWrapper keeps
      obtain ⟨freshAfter, final, run, finalShows⟩ := inductionHypothesis stillFresh stillShows
      exact ⟨freshAfter, final, reply ▸ .evict pruned run, finalShows⟩

end Steps

theorem fresh_empty (wrapper : NamespaceWrapper) (current : Int)
    (revision_eq : wrapper.revision = .int current) : Fresh ⟨wrapper, Store.empty⟩ where
  revision_int := ⟨current, revision_eq⟩
  no_later _ _ _ _ stored := by simp [Store.find?_empty] at stored

/-- Another `NamespaceWrapper` `V` of the namespace, built after a clear through `W`
over a shared store whose `clear()` removes nothing, counts its revisions on its own:
after `V` clears and writes, `W`'s next clear moves `W` to `V`'s revision, and `W`
reads what `V` wrote before that clear. -/
example :
    let cleared := (NamespaceWrapper.clear id ⟨.str "ns", .int 0⟩ Store.empty 0).toOption
    let other := cleared.map fun wrapper => NamespaceWrapper.construct (.str "ns") wrapper.2 1
    (do
      let (watched, store) ← cleared
      let (other, store) ← (other.bind fun other => (NamespaceWrapper.clear id other store 2).toOption)
      let store := (other.wrapper.call store 3 (.put (.str "k") (.str "x") 60)).2
      let (watched, store) ← (NamespaceWrapper.clear id watched store 4).toOption
      pure (watched.wrapper.call store 5 (.get (.str "k") none)).1) = some (.value (.str "x")) := by
  rfl

/-- A clear through a mirror, over an inner client whose `clear()` removes nothing,
hides nothing: the mirror's setter drops `revision += 1`, so a value put before the
clear is read back after it. -/
theorem mirror_clear_keeps_entries :
    (runWatched id ⟨⟨.str "ns", .int 0⟩, Store.empty⟩
      [.call (.put (.str "k") (.str "v") 60) 0, .mirrorClear 1, .call (.get (.str "k") none) 2]).1 =
      [.none, .none, .value (.str "v")] := rfl

section Clearing

variable {innerClear : PyStore → PyStore} {watched : Watched}

/-- A clear through `W` itself hides every earlier entry from `W` and its mirrors:
whatever ran before, every later reply is one a plain client gives that starts empty
at the clear and sees only the later calls, clears and removals. -/
theorem clear_hides_earlier_entries (shrinks : ∀ store, Shrinks (innerClear store) store)
    (fresh : Fresh watched) (before after : List Action) (now : Int) :
    ∃ final, PlainRun Store.empty after
      ((runWatched innerClear
          (watchedStep innerClear (runWatched innerClear watched before).2 (.clear now)).2
          after).1.map Reply.forgetMissKey) final := by
  obtain ⟨freshBefore, -⟩ :=
    runWatched_refines shrinks before fresh (rekeyed_view watched.wrapper watched.store)
  obtain ⟨-, emptied, freshCleared⟩ := watchedStep_clear shrinks freshBefore now
  obtain ⟨-, final, run, -⟩ := runWatched_refines shrinks after freshCleared emptied
  exact ⟨final, run⟩

end Clearing

theorem clear_hides_earlier_entries_of_put :
    (∀ store, Shrinks (id store) store) ∧ Fresh ⟨⟨.str "ns", .int 0⟩, Store.empty⟩ ∧
      ∃ final, PlainRun Store.empty [.call (.get (.str "k") none) 2]
        ((runWatched id (watchedStep id (runWatched id ⟨⟨.str "ns", .int 0⟩, Store.empty⟩
            [.call (.put (.str "k") (.str "v") 60) 0]).2 (.clear 1)).2
          [.call (.get (.str "k") none) 2]).1.map Reply.forgetMissKey) final :=
  ⟨fun _ _ _ found => found, fresh_empty _ 0 rfl,
    clear_hides_earlier_entries (fun _ _ _ found => found) (fresh_empty _ 0 rfl)
      [.call (.put (.str "k") (.str "v") 60) 0] [.call (.get (.str "k") none) 2] 1⟩

/-! ## Wrappers constructed later -/

/-- The namespace's REVMARK entry, while stored, holds `W`'s revision. -/
def MarkCurrent (watched : Watched) : Prop :=
  ∀ entry, watched.store.find? (revMark watched.wrapper.«namespace») = some entry →
    entry.value = watched.wrapper.revision

section Marks

variable {innerClear : PyStore → PyStore} {watched : Watched}

/-- A wrapper constructed while the REVMARK entry is stored starts at `W`'s revision. -/
theorem construct_of_markCurrent (current : MarkCurrent watched)
    (marked : (watched.store.find? (revMark watched.wrapper.«namespace»)).isSome) (now : Int) :
    NamespaceWrapper.construct watched.wrapper.«namespace» watched.store now = watched.wrapper := by
  obtain ⟨entry, found⟩ := Option.isSome_iff_exists.mp marked
  simp [NamespaceWrapper.construct, get_default_of_find? found, current entry found]

theorem markCurrent_writing (shrinks : ∀ store, Shrinks (innerClear store) store)
    (wrapper : NamespaceWrapper) (store : PyStore) (now : Int) :
    MarkCurrent ⟨wrapper, innerClear (put store (revMark wrapper.«namespace») wrapper.revision 3600 now)⟩ := by
  intro entry found
  have written := shrinks _ _ _ found
  simp only [find?_put, if_true, Option.some.injEq] at written
  rw [← written]

/-- Every step keeps the REVMARK entry current: calls do not touch it, clears write
`W`'s revision to it, and removals only take it away. -/
theorem markCurrent_step (shrinks : ∀ store, Shrinks (innerClear store) store)
    (current : MarkCurrent watched) (action : Action) :
    MarkCurrent (watchedStep innerClear watched action).2 := by
  obtain ⟨⟨space, revision⟩, store⟩ := watched
  cases action with
  | call request now =>
    intro entry found
    have away : revMark space ≠ (NamespaceWrapper.wrapper ⟨space, revision⟩).innerKey request :=
      fun same => decorate_ne_revMark _ _ _ _ same.symm
    rw [watchedStep, DecoratedWrapper.call_frame _ now request _ away] at found
    exact current entry found
  | clear now =>
    simp only [watchedStep, NamespaceWrapper.clear]
    cases revision.addOne with
    | none => exact current
    | some next => exact markCurrent_writing shrinks ⟨space, next⟩ store now
  | mirrorClear now =>
    simp only [watchedStep, NamespaceWrapper.mirrorClear]
    cases revision.addOne with
    | none => exact current
    | some _ => exact markCurrent_writing shrinks ⟨space, revision⟩ store now
  | evict key =>
    intro entry found
    simp only [watchedStep, Store.find?_erase] at found
    split at found
    · cases found
    · exact current entry found

theorem markCurrent_run (shrinks : ∀ store, Shrinks (innerClear store) store)
    (actions : List Action) (current : MarkCurrent watched) :
    MarkCurrent (runWatched innerClear watched actions).2 := by
  induction actions generalizing watched with
  | nil => exact current
  | cons action rest inductionHypothesis =>
    exact inductionHypothesis (markCurrent_step shrinks current action)

/-- A clear through `W` writes its new revision to REVMARK. -/
theorem markCurrent_clear (shrinks : ∀ store, Shrinks (innerClear store) store)
    (fresh : Fresh watched) (now : Int) : MarkCurrent (watchedStep innerClear watched (.clear now)).2 := by
  obtain ⟨⟨space, revision⟩, store⟩ := watched
  obtain ⟨current, rfl⟩ := fresh.revision_int
  exact markCurrent_writing shrinks ⟨space, .int (current + 1)⟩ store now

/-- A `NamespaceWrapper` of the namespace constructed at any time after a clear
through `W`, while the REVMARK entry is still stored, is `W` as it then stands, and so
sees what `W`'s clients see. -/
theorem construct_after_clear (shrinks : ∀ store, Shrinks (innerClear store) store)
    (fresh : Fresh watched) (before after : List Action) (now later : Int) :
    let final := (runWatched innerClear
      (watchedStep innerClear (runWatched innerClear watched before).2 (.clear now)).2 after).2
    (final.store.find? (revMark final.wrapper.«namespace»)).isSome →
      NamespaceWrapper.construct final.wrapper.«namespace» final.store later = final.wrapper := by
  intro final marked
  obtain ⟨freshBefore, -⟩ :=
    runWatched_refines shrinks before fresh (rekeyed_view watched.wrapper watched.store)
  exact construct_of_markCurrent
    (markCurrent_run shrinks after (markCurrent_clear shrinks freshBefore now)) marked later

end Marks

theorem construct_after_clear_of_put :
    (∀ store, Shrinks (id store) store) ∧ Fresh ⟨⟨.str "ns", .int 0⟩, Store.empty⟩ ∧
      NamespaceWrapper.construct (.str "ns")
          (watchedStep id (runWatched id ⟨⟨.str "ns", .int 0⟩, Store.empty⟩
            [.call (.put (.str "k") (.str "v") 60) 0]).2 (.clear 1)).2.store 5 =
        ⟨.str "ns", .int 1⟩ :=
  ⟨fun _ _ _ found => found, fresh_empty _ 0 rfl,
    construct_after_clear (fun _ _ _ found => found) (fresh_empty ⟨.str "ns", .int 0⟩ 0 rfl)
      [.call (.put (.str "k") (.str "v") 60) 0] [] 1 5 rfl⟩

end Chorde.Namespace
