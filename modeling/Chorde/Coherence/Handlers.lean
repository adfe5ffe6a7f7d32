import Mathlib.Logic.Function.Basic

/-!
# Coherence handlers for one key

`CoherenceManager` keeps two tables per node: `pending`, the transaction id under
which this node computes a key, and `group_pending`, which only the broker's copy
matters for, mapping a key to the `(txid, contact)` of the node computing it. Every
handler touches the entries of the key it is about and no other, so the tables are
modelled for one key: an optional txid and an optional holder.

A node's contact list `p2p_pub_binds` is `[identity]`; it is modelled by the node's
identity. The broker answers a listener's `pendq` with `json.dumps` of the entry it
held, which the listener reads back as `[txid, contact]` and returns the last item of.
-/

namespace Chorde.Coherence

/-- A node's identity, which is also its contact list. -/
abbrev NodeId := Nat

/-- A transaction id drawn from `itertools.cycle(xrange(0x7FFFFFFF))`. -/
abbrev Txid := Nat

/-- The period of a node's transaction ids. -/
def txidPeriod : Nat := 0x7FFFFFFF

/-- A `group_pending` entry: `(txid, contact)` of the node computing the key. -/
structure Hold where
  txid : Txid
  contact : NodeId
  deriving DecidableEq, Repr

/-- What `query_pending` returns: the contact list of the node computing the key,
`None` (the caller now holds the computation lock), or `OOB_UPDATE`. -/
inductive Answer where
  | contact (node : NodeId)
  | none
  | oobUpdate
  deriving DecidableEq, Repr

/-- One node's tables, for the key. -/
structure Tables where
  pending : Option Txid
  groupPending : Option Hold
  deriving DecidableEq, Repr

/-! ## `_query_pending_locally`, one step at a time -/

/-- The table reads of `_query_pending_locally` on node `self`: the answer if they
settle it, `none` if `expired()` must be asked. -/
def localRead (tables : Tables) (self : NodeId) : Option Answer :=
  match tables.groupPending, tables.pending with
  | some hold, _ => some (.contact hold.contact)
  | none, some _ => some (.contact self)
  | none, none => none

/-- The table writes of `_query_pending_locally` with `optimistic_lock` under the txid
just drawn: the lock is recorded in both tables. -/
def localWrite (self : NodeId) (txid : Txid) : Tables :=
  ⟨some txid, some ⟨txid, self⟩⟩

/-- `_query_pending_locally` run from start to end without interruption, with
`expired()` answering `expired` and `txid` the id it would draw. -/
def queryPendingLocally (tables : Tables) (self : NodeId) (txid : Txid) (expired lock : Bool) :
    Answer × Tables :=
  match localRead tables self with
  | some answer => (answer, tables)
  | none =>
    if expired then (.none, if lock then localWrite self txid else tables)
    else (.oobUpdate, tables)

/-! ## The listener's path -/

/-- `_on_pending_query` on the broker's entry for the key, for a `pendq` that carries
a txid exactly when it asks for the lock, as `query_pending` sends it: the reply (the
entry held before) and the entry after. -/
def onPendingQuery (groupPending : Option Hold) (txid : Option Txid) (contact : NodeId) :
    Option Hold × Option Hold :=
  match txid, groupPending with
  | some txid, none => (none, some ⟨txid, contact⟩)
  | _, held => (held, held)

/-- What `query_pending` on a listener returns once the broker's reply is read:
the holder's contact, or after a null reply `None` if `expired()` still says so and
`OOB_UPDATE` if not. -/
def listenerAnswer (reply : Option Hold) (expired : Bool) : Answer :=
  match reply with
  | some hold => .contact hold.contact
  | none => if expired then .none else .oobUpdate

/-- `_on_done` for the key, on the decoded `(txid, contact)`: the entry is removed
only if it is that holder's. -/
def onDone (groupPending : Option Hold) (done : Hold) : Option Hold :=
  if groupPending = some done then none else groupPending

@[simp] theorem onDone_self (done : Hold) : onDone (some done) done = none := by
  simp [onDone]

theorem onDone_of_ne {groupPending : Option Hold} {done : Hold}
    (other : groupPending ≠ some done) : onDone groupPending done = groupPending := by
  simp [onDone, other]

/-! ## `mark_done` and `_on_done` over the whole table

The broker registers `_on_done` with `listen_decode`, as it does `_on_pending` and
`_on_pending_query`, so the handler is given the decoded `(txid, keys, contact)`.
Its siblings unpack that tuple; `_on_done` hands it to `decode_payload` once more.
-/

section Done

variable {Key : Type} [DecidableEq Key]

/-- A `done` payload, decoded: `(txid, keys, contact)`. -/
structure DonePayload (Key : Type) where
  txid : Txid
  keys : List Key
  contact : NodeId
  deriving DecidableEq, Repr

/-- `mark_done(key)` on node `self` with its `pending` table: the txid is popped
(`KeyError` where there is none) and `(txid, [key], contact)` published on `done`. -/
def markDone (pending : Key → Option Txid) (self : NodeId) (key : Key) :
    Option ((Key → Option Txid) × DonePayload Key) :=
  match pending key with
  | some txid => some (Function.update pending key none, ⟨txid, [key], self⟩)
  | none => none

/-- `_on_done` on the broker's `group_pending`, given the payload `listen_decode`
decoded. `decodePayload` is what `self.ipsub.decode_payload` returns on it, `none`
where it raises (`IPSub` is not among this repository's sources). Each key the
result lists loses its entry if that entry is `(txid, contact)`. -/
def onDoneTable (decodePayload : DonePayload Key → Option (DonePayload Key))
    (groupPending : Key → Option Hold) (payload : DonePayload Key) : Key → Option Hold :=
  match decodePayload payload with
  | some decoded =>
    decoded.keys.foldl (fun table key => Function.update table key (onDone (table key) ⟨decoded.txid, decoded.contact⟩))
      groupPending
  | none => groupPending

/-- The loop of `_on_done` deletes exactly the listed keys whose entry is the sender's. -/
theorem foldl_onDone (done : Hold) (keys : List Key) (groupPending : Key → Option Hold) (probe : Key) :
    keys.foldl (fun table key => Function.update table key (onDone (table key) done)) groupPending probe =
      if probe ∈ keys ∧ groupPending probe = some done then none else groupPending probe := by
  induction keys generalizing groupPending with
  | nil => simp
  | cons key rest inductionHypothesis =>
    rw [List.foldl_cons, inductionHypothesis]
    by_cases same : probe = key
    · subst same
      by_cases held : groupPending probe = some done <;> simp [held, onDone]
    · simp [same]

/-- A holder's `mark_done` publishes its txid and contact for the key, and the broker
releases the key's entry exactly when the second decoding yields a payload that lists
the key under that same txid and contact: whether it does is up to `decode_payload`
on an already decoded tuple, and where it raises the entry stays. -/
theorem done_releases_only_if_decoded_again (decodePayload : DonePayload Key → Option (DonePayload Key))
    (pending : Key → Option Txid) (groupPending : Key → Option Hold) (key : Key) (txid : Txid)
    (contact : NodeId) (computing : pending key = some txid) (held : groupPending key = some ⟨txid, contact⟩) :
    ∃ after payload, markDone pending contact key = some (after, payload) ∧
      (onDoneTable decodePayload groupPending payload key = none ↔
        ∃ decoded, decodePayload payload = some decoded ∧ key ∈ decoded.keys ∧
          decoded.txid = txid ∧ decoded.contact = contact) := by
  refine ⟨Function.update pending key none, ⟨txid, [key], contact⟩, by simp [markDone, computing], ?_⟩
  unfold onDoneTable
  cases decodePayload ⟨txid, [key], contact⟩ with
  | none => simp [held]
  | some decoded =>
    simp only [foldl_onDone, held]
    split_ifs with released <;> simp_all [eq_comm]

theorem done_releases_only_if_decoded_again_when_decoding_raises :
    (fun _ => some 0 : Nat → Option Txid) 5 = some 0 ∧
      (fun _ => some ⟨0, 1⟩ : Nat → Option Hold) 5 = some ⟨0, 1⟩ ∧
      ∃ after payload, markDone (fun _ => some 0 : Nat → Option Txid) 1 5 = some (after, payload) ∧
        (onDoneTable (fun _ => none) (fun _ => some ⟨0, 1⟩) payload 5 = none ↔
          ∃ decoded, (none : Option (DonePayload Nat)) = some decoded ∧ 5 ∈ decoded.keys ∧
            decoded.txid = 0 ∧ decoded.contact = 1) :=
  ⟨rfl, rfl, done_releases_only_if_decoded_again (fun _ => none) (fun _ => some 0) (fun _ => some ⟨0, 1⟩) 5 0 1 rfl rfl⟩

end Done

/-! ## The two paths compared -/

/-- A listener `listener` asks the broker `broker`, whose tables are `tables`, with
`expired()` answering `expired` throughout and the reply read at the first poll:
the answer and the broker's entry after the query. -/
def listenerQuery (tables : Tables) (listener : NodeId) (txid : Txid) (expired lock : Bool) :
    Answer × Option Hold :=
  let (reply, entry) := onPendingQuery tables.groupPending (if lock then some txid else none) listener
  (listenerAnswer reply expired, entry)

/-- The listener's query and the broker's own answer alike, and leave the broker's
entry alike up to the holder it names. -/
def PathsAgree (tables : Tables) (broker listener : NodeId) (brokerTxid listenerTxid : Txid)
    (expired lock : Bool) : Prop :=
  (listenerQuery tables listener listenerTxid expired lock).1 =
      (queryPendingLocally tables broker brokerTxid expired lock).1 ∧
    (listenerQuery tables listener listenerTxid expired lock).2.isSome =
      (queryPendingLocally tables broker brokerTxid expired lock).2.groupPending.isSome

instance (tables : Tables) (broker listener : NodeId) (brokerTxid listenerTxid : Txid)
    (expired lock : Bool) :
    Decidable (PathsAgree tables broker listener brokerTxid listenerTxid expired lock) :=
  inferInstanceAs (Decidable (_ ∧ _))

/-- On an empty broker entry and an `expired()` that says the key is fresh, a
listener's locking query leaves the broker holding a lock for it while the broker's
own query records nothing, though both return `OOB_UPDATE`. -/
theorem listener_records_unused_lock :
    listenerQuery ⟨none, none⟩ 1 7 false true = (.oobUpdate, some ⟨7, 1⟩) ∧
      queryPendingLocally ⟨none, none⟩ 0 3 false true = (.oobUpdate, ⟨none, none⟩) ∧
      ¬ PathsAgree ⟨none, none⟩ 0 1 3 7 false true :=
  ⟨rfl, rfl, by decide⟩

/-- The two paths agree exactly when the broker's entry is set, or when the broker
holds no lock of its own and a locking query finds the key expired. They part when
the broker's own `pending` is set without an entry, which it then answers with its own
contact while the listener is granted the lock, and when a locking query finds the
key fresh, where only the listener's leaves an entry behind. -/
theorem paths_agree_iff (tables : Tables) (broker listener : NodeId)
    (brokerTxid listenerTxid : Txid) (expired lock : Bool) :
    PathsAgree tables broker listener brokerTxid listenerTxid expired lock ↔
      tables.groupPending.isSome ∨ (tables.pending = none ∧ (lock → expired)) := by
  obtain ⟨pending, groupPending⟩ := tables
  cases groupPending with
  | some hold =>
    cases lock <;> simp [PathsAgree, listenerQuery, queryPendingLocally, localRead,
      onPendingQuery, listenerAnswer]
  | none =>
    cases pending <;> cases expired <;> cases lock <;>
      simp [PathsAgree, listenerQuery, queryPendingLocally, localRead, localWrite,
        onPendingQuery, listenerAnswer]

end Chorde.Coherence
