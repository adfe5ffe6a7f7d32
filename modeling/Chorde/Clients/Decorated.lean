import Chorde.Clients.Inproc

/-!
# Python values and the decorating wrapper

Clients above the store see Python objects: keys and values alike, and the
`(value, ttl)` tuples `getTtl` returns. `PyVal` is the part of them the wrappers
build and compare: `None`, integers, strings and tuples, equal exactly when
Python's `==` says so.

`DecoratedWrapper` maps keys through `key_decorator` and values through
`value_decorator` on the way in, and applies `value_undecorator` on the way out.
It applies the undecorator to the whole `(value, ttl)` tuple `getTtl` returns,
and to the `(default, -1)` tuple of a miss, instead of to the value. With only a
key decorator, as `NamespaceWrapper` has, the wrapper is transparent: it behaves
as a plain client whose entries are the inner entries under decorated keys.
-/

namespace Chorde

/-- The Python values the cache clients exchange. -/
inductive PyVal where
  | none
  | int (value : Int)
  | str (value : String)
  | tuple (items : List PyVal)
  deriving Repr

mutual
/-- Python equality of two values, decided structurally through tuples. -/
def PyVal.decEq : (first second : PyVal) → Decidable (first = second)
  | .none, .none => isTrue rfl
  | .int m, .int n =>
    if same : m = n then isTrue (same ▸ rfl) else isFalse fun equal => same (PyVal.int.inj equal)
  | .str m, .str n =>
    if same : m = n then isTrue (same ▸ rfl) else isFalse fun equal => same (PyVal.str.inj equal)
  | .tuple items, .tuple others =>
    match PyVal.decEqItems items others with
    | isTrue same => isTrue (same ▸ rfl)
    | isFalse differ => isFalse fun equal => differ (PyVal.tuple.inj equal)
  | .none, .int _ | .none, .str _ | .none, .tuple _ => isFalse nofun
  | .int _, .none | .int _, .str _ | .int _, .tuple _ => isFalse nofun
  | .str _, .none | .str _, .int _ | .str _, .tuple _ => isFalse nofun
  | .tuple _, .none | .tuple _, .int _ | .tuple _, .str _ => isFalse nofun
/-- Python equality of two tuples' items, element by element. -/
def PyVal.decEqItems : (items others : List PyVal) → Decidable (items = others)
  | [], [] => isTrue rfl
  | [], _ :: _ | _ :: _, [] => isFalse nofun
  | item :: rest, other :: more =>
    match PyVal.decEq item other, PyVal.decEqItems rest more with
    | isTrue head, isTrue tail => isTrue (head ▸ tail ▸ rfl)
    | isFalse differ, _ => isFalse fun equal => differ (List.cons.inj equal).1
    | _, isFalse differ => isFalse fun equal => differ (List.cons.inj equal).2
end

instance : DecidableEq PyVal := PyVal.decEq

/-- Python's `x + 1`: defined on integers, a `TypeError` otherwise. -/
def PyVal.addOne : PyVal → Option PyVal
  | .int value => some (.int (value + 1))
  | _ => none

/-- Python 2's `x < 0`: `None` sorts below every number, strings and tuples above. -/
def PyVal.ltZero : PyVal → Bool
  | .none => true
  | .int value => decide (value < 0)
  | .str _ => false
  | .tuple _ => false

end Chorde

namespace Chorde.Decorated

open Inproc

/-- The inner client's container, keyed and valued by Python objects. -/
abbrev PyStore := Store PyVal PyVal

/-- The exceptions a client call lets through: a cache miss naming its key, the
`ValueError` of unpacking something other than a pair in `get`, and the
`TypeError` of adding `1` to a revision that is not an integer. -/
inductive ClientError where
  | cacheMiss (key : PyVal)
  | unpack
  | typeError
  deriving DecidableEq, Repr

/-- A Python-level cache-client call. `none` for a default is the `NONE` sentinel. -/
inductive Request where
  | put (key value : PyVal) (ttl : Int)
  | add (key value : PyVal) (ttl : Int)
  | delete (key : PyVal)
  | expire (key : PyVal)
  | getTtl (key : PyVal) (default : Option PyVal)
  | get (key : PyVal) (default : Option PyVal)
  | contains (key : PyVal) (margin : Option Int)

/-- What a call returns to its caller, or raises. -/
inductive Reply where
  | none
  | flag (answer : Bool)
  | value (answer : PyVal)
  | raised (error : ClientError)
  deriving DecidableEq, Repr

/-- The tuple `(value, ttl)` as Python builds it. -/
def pair (value : PyVal) (ttl : Int) : PyVal :=
  .tuple [value, .int ttl]

/-- A returned object, or the exception raised instead. -/
def Reply.ofAnswer : Except ClientError PyVal → Reply
  | .ok answer => .value answer
  | .error error => .raised error

/-- `InprocCacheClient.getTtl` as a Python object: the `(value, ttl)` tuple. -/
def plainGetTtl (store : PyStore) (key : PyVal) (default : Option PyVal) (now : Int) :
    Except ClientError PyVal :=
  match getTtl store key default now with
  | .ok (answer, ttl) => .ok (pair answer ttl)
  | .error miss => .error (.cacheMiss miss.key)

/-- `BaseCacheClient.get` over a `getTtl` answer: unpack `rv, ttl`, and raise a miss
for the caller's key on a negative ttl without a default. -/
def baseGet (key : PyVal) (default : Option PyVal) : Except ClientError PyVal → Reply
  | .error error => .raised error
  | .ok (.tuple [answer, ttl]) =>
    if ttl.ltZero && default.isNone then .raised (.cacheMiss key) else .value answer
  | .ok _ => .raised .unpack

/-- `InprocCacheClient` answering a call on its own container. -/
def plainCall (store : PyStore) (now : Int) : Request → Reply × PyStore
  | .put key value ttl => (.none, put store key value ttl now)
  | .add key value ttl => (.flag (add store key value ttl now).1, (add store key value ttl now).2)
  | .delete key => (.none, delete store key)
  | .expire key => (.none, expire store key now)
  | .getTtl key default => (.ofAnswer (plainGetTtl store key default now), store)
  | .get key default => (baseGet key default (plainGetTtl store key default now), store)
  | .contains key margin => (.flag (contains store key margin now), store)

/-- `DecoratedWrapper(client, key_decorator, value_decorator, value_undecorator)`;
`none` is a decorator left at `None`. -/
structure DecoratedWrapper where
  keyDecorator : Option (PyVal → PyVal)
  valueDecorator : Option (PyVal → PyVal)
  valueUndecorator : Option (PyVal → PyVal)

namespace DecoratedWrapper

/-- Apply an optional decorator, as `if self.key_decorator: key = ...` does. -/
def apply : Option (PyVal → PyVal) → PyVal → PyVal
  | some decorate, value => decorate value
  | none, value => value

@[simp] theorem apply_none (value : PyVal) : apply none value = value := rfl

@[simp] theorem apply_some (decorate : PyVal → PyVal) (value : PyVal) :
    apply (some decorate) value = decorate value := rfl

/-- `DecoratedWrapper.getTtl`: the inner answer is a fresh tuple, never the default
object itself, so the undecorator, when set, is applied to the whole tuple. -/
def getTtl (wrapper : DecoratedWrapper) (store : PyStore) (key : PyVal)
    (default : Option PyVal) (now : Int) : Except ClientError PyVal :=
  (plainGetTtl store (apply wrapper.keyDecorator key) default now).map
    (apply wrapper.valueUndecorator)

/-- A call through the wrapper, on the inner client's container. -/
def call (wrapper : DecoratedWrapper) (store : PyStore) (now : Int) : Request → Reply × PyStore
  | .put key value ttl =>
    plainCall store now (.put (apply wrapper.keyDecorator key) (apply wrapper.valueDecorator value) ttl)
  | .add key value ttl =>
    plainCall store now (.add (apply wrapper.keyDecorator key) (apply wrapper.valueDecorator value) ttl)
  | .delete key => plainCall store now (.delete (apply wrapper.keyDecorator key))
  | .expire key => plainCall store now (.expire (apply wrapper.keyDecorator key))
  | .getTtl key default => (.ofAnswer (wrapper.getTtl store key default now), store)
  | .get key default => (baseGet key default (wrapper.getTtl store key default now), store)
  | .contains key margin => plainCall store now (.contains (apply wrapper.keyDecorator key) margin)

end DecoratedWrapper

/-- The key a call names. -/
def Request.key : Request → PyVal
  | .put key _ _ => key
  | .add key _ _ => key
  | .delete key => key
  | .expire key => key
  | .getTtl key _ => key
  | .get key _ => key
  | .contains key _ => key

namespace DecoratedWrapper

/-- The inner key a call through the wrapper reads and writes. -/
def innerKey (wrapper : DecoratedWrapper) (request : Request) : PyVal :=
  apply wrapper.keyDecorator request.key

variable (wrapper : DecoratedWrapper) (now : Int) (request : Request)

/-- A call leaves every other inner key's entry alone. -/
theorem call_frame (store : PyStore) {probe : PyVal} (apart : probe ≠ wrapper.innerKey request) :
    (wrapper.call store now request).2.find? probe = store.find? probe := by
  cases request <;> simp only [innerKey, Request.key] at apart <;>
    simp [call, plainCall, find?_put, find?_delete, find?_add_of_ne _ _ _ apart,
      find?_expire_of_ne _ apart, apart]

/-- A call answers, and leaves its inner key's entry, from that entry alone. -/
theorem call_congr {store other : PyStore}
    (same : store.find? (wrapper.innerKey request) = other.find? (wrapper.innerKey request)) :
    (wrapper.call store now request).1 = (wrapper.call other now request).1 ∧
      (wrapper.call store now request).2.find? (wrapper.innerKey request) =
        (wrapper.call other now request).2.find? (wrapper.innerKey request) := by
  cases request <;> simp only [innerKey, Request.key] at same ⊢ <;>
    simp [call, plainCall, getTtl, plainGetTtl, find?_put, find?_delete, (add_congr same _ _ _).1,
      (add_congr same _ _ _).2, expire_congr same, getTtl_congr same, contains_congr same, same]

end DecoratedWrapper

/-- The plain client is the wrapper with every decorator left at `None`. -/
theorem plainCall_eq_call (store : PyStore) (now : Int) (request : Request) :
    plainCall store now request = (⟨none, none, none⟩ : DecoratedWrapper).call store now request := by
  cases request <;> try rfl
  all_goals
    simp only [plainCall, DecoratedWrapper.call, DecoratedWrapper.getTtl, DecoratedWrapper.apply_none]
    cases plainGetTtl store _ _ now <;> rfl

/-! ## A key-decorating wrapper is a plain client on the decorated keys -/

/-- A wrapper with only a key decorator, as `NamespaceWrapper` is. -/
def keyed (decorate : PyVal → PyVal) : DecoratedWrapper :=
  ⟨some decorate, none, none⟩

/-- The plain container holds under each key what the inner one holds under the
decorated key. -/
def Rekeyed (decorate : PyVal → PyVal) (inner plain : PyStore) : Prop :=
  ∀ key, inner.find? (decorate key) = plain.find? key

/-- A reply with the key a cache miss names erased: the one detail in which the
wrapper differs, since the inner client's miss names the decorated key. -/
def Reply.forgetMissKey : Reply → Reply
  | .raised (.cacheMiss _) => .raised (.cacheMiss .none)
  | other => other

section Keyed

variable {decorate : PyVal → PyVal} {inner plain : PyStore}

/-- The inner and the plain call on corresponding keys answer alike, up to the key
a miss names, and leave corresponding entries. -/
theorem keyed_call_on_key (now : Int) (request : Request)
    (same : inner.find? (decorate request.key) = plain.find? request.key) :
    ((keyed decorate).call inner now request).1.forgetMissKey =
        (plainCall plain now request).1.forgetMissKey ∧
      ((keyed decorate).call inner now request).2.find? (decorate request.key) =
        (plainCall plain now request).2.find? request.key := by
  cases request <;> simp only [Request.key] at same ⊢
  case put => simp [DecoratedWrapper.call, plainCall, find?_put, keyed]
  case add => simp [DecoratedWrapper.call, plainCall, keyed, add_congr same]
  case delete => simp [DecoratedWrapper.call, plainCall, find?_delete, keyed]
  case expire => simp [DecoratedWrapper.call, plainCall, keyed, expire_congr same]
  case contains => simp [DecoratedWrapper.call, plainCall, keyed, contains_congr same, same]
  all_goals
    rename_i key default
    have rekeyed := getTtl_rekey same default now
    cases found : getTtl plain key default now <;>
      simp [DecoratedWrapper.call, plainCall, DecoratedWrapper.getTtl, plainGetTtl, keyed, rekeyed,
        found, Reply.ofAnswer, Reply.forgetMissKey, baseGet, Except.map, same]

theorem plainCall_frame (store : PyStore) (now : Int) (request : Request) {probe : PyVal}
    (apart : probe ≠ request.key) : (plainCall store now request).2.find? probe = store.find? probe := by
  rw [plainCall_eq_call]
  exact DecoratedWrapper.call_frame _ now request store apart

/-- One call through a wrapper whose only decorator is an injective key decorator
answers as the plain client on the re-keyed container, up to the key a miss names,
and keeps the two containers related. -/
theorem keyed_call_refines (injective : Function.Injective decorate)
    (related : Rekeyed decorate inner plain) (now : Int) (request : Request) :
    ((keyed decorate).call inner now request).1.forgetMissKey =
        (plainCall plain now request).1.forgetMissKey ∧
      Rekeyed decorate ((keyed decorate).call inner now request).2 (plainCall plain now request).2 := by
  obtain ⟨reply, atKey⟩ := keyed_call_on_key now request (related request.key)
  refine ⟨reply, fun key => ?_⟩
  by_cases same : key = request.key
  · subst same
    exact atKey
  · have decoratedApart : decorate key ≠ (keyed decorate).innerKey request := injective.ne same
    rw [DecoratedWrapper.call_frame _ now request inner decoratedApart,
      plainCall_frame plain now request same]
    exact related key

end Keyed

/-- A sequence of calls, each with its clock reading, and the replies in order. -/
def runCalls (answer : PyStore → Int → Request → Reply × PyStore) :
    PyStore → List (Request × Int) → List Reply × PyStore
  | store, [] => ([], store)
  | store, (request, now) :: rest =>
    let (reply, next) := answer store now request
    let (replies, final) := runCalls answer next rest
    (reply :: replies, final)

/-! ## What `getTtl` gives back after a `put` -/

/-- A value decorator that boxes a value in a one-tuple. -/
def boxValue (value : PyVal) : PyVal :=
  .tuple [value]

/-- Its inverse: unbox a one-tuple, leave anything else as it is. -/
def unboxValue : PyVal → PyVal
  | .tuple [value] => value
  | other => other

theorem unboxValue_boxValue (value : PyVal) : unboxValue (boxValue value) = value := rfl

/-- A wrapper with an injective key decorator and the boxing value decorators. -/
def boxingWrapper : DecoratedWrapper :=
  ⟨some fun key => .tuple [.str "app", key], some boxValue, some unboxValue⟩

/-- At `put(1, "v", 60)` then `getTtl(1)`, the boxing wrapper returns
`(("v",), 60)`: the undecorator met the `(value, ttl)` tuple, not the value. The
plain client returns `("v", 60)`. -/
theorem boxing_getTtl_diverges :
    (runCalls boxingWrapper.call Store.empty
        [(.put (.int 1) (.str "v") 60, 0), (.getTtl (.int 1) none, 0)]).1 =
      [.none, .value (.tuple [.tuple [.str "v"], .int 60])] ∧
    (runCalls plainCall Store.empty
        [(.put (.int 1) (.str "v") 60, 0), (.getTtl (.int 1) none, 0)]).1 =
      [.none, .value (.tuple [.str "v", .int 60])] := by
  constructor <;> rfl

/-- Over every sequence of calls, a wrapper whose only decorator is an injective key
decorator, as `NamespaceWrapper`'s is, answers as a plain `InprocCacheClient` on
the container of the inner entries under decorated keys, up to the key a miss
names. -/
theorem keyed_runCalls_refines {decorate : PyVal → PyVal} (injective : Function.Injective decorate)
    {inner plain : PyStore} (related : Rekeyed decorate inner plain) (calls : List (Request × Int)) :
    (runCalls (keyed decorate).call inner calls).1.map Reply.forgetMissKey =
        (runCalls plainCall plain calls).1.map Reply.forgetMissKey ∧
      Rekeyed decorate (runCalls (keyed decorate).call inner calls).2 (runCalls plainCall plain calls).2 := by
  induction calls generalizing inner plain with
  | nil => exact ⟨rfl, related⟩
  | cons call rest inductionHypothesis =>
    obtain ⟨reply, stillRelated⟩ := keyed_call_refines injective related call.2 call.1
    obtain ⟨replies, finallyRelated⟩ := inductionHypothesis stillRelated
    exact ⟨by simp [runCalls, reply, replies], finallyRelated⟩

theorem keyed_runCalls_refines_on_tagged_keys :
    Function.Injective (fun key : PyVal => PyVal.tuple [.str "app", key]) ∧
      Rekeyed (fun key => .tuple [.str "app", key]) Store.empty Store.empty ∧
      (runCalls (keyed fun key => .tuple [.str "app", key]).call Store.empty
          [(.put (.str "k") (.str "v") 60, 0), (.get (.str "k") none, 1)]).1.map Reply.forgetMissKey =
        (runCalls plainCall Store.empty
          [(.put (.str "k") (.str "v") 60, 0), (.get (.str "k") none, 1)]).1.map Reply.forgetMissKey ∧
      Rekeyed (fun key => .tuple [.str "app", key])
        (runCalls (keyed fun key => .tuple [.str "app", key]).call Store.empty
          [(.put (.str "k") (.str "v") 60, 0), (.get (.str "k") none, 1)]).2
        (runCalls plainCall Store.empty [(.put (.str "k") (.str "v") 60, 0), (.get (.str "k") none, 1)]).2 :=
  have tagged : Function.Injective (fun key : PyVal => PyVal.tuple [.str "app", key]) :=
    fun _ _ same => by simpa using same
  ⟨tagged, fun _ => rfl, keyed_runCalls_refines tagged (fun _ => rfl) _⟩

end Chorde.Decorated
