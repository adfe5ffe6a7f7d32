import Chorde.Coherence.Cluster

/-!
# A lock stays until a done releases it

Whatever the interleaving, calm or not, the broker keeps the entry it holds for the
key until one of three steps: `_on_done` handles a `done` whose decoded
`(txid, contact)` is that entry, the broker's own local query writes its lock over
it, or another node becomes the broker. `_on_pending_query` never replaces an entry,
and it answers every query it handles meanwhile with the entry, so every reply the
broker sends in that time names the holder. A listener that reads such a reply
returns the holder's contact list, whatever `expired()` says.

A listener's query that falls back to `_query_pending_locally` after a `ZMQError`
writes only its own node's tables, so it keeps the broker's entry too.

So an entry whose holder will never send its `done` (the lock a listener is granted
when `expired()` says fresh at its re-check, or one whose `done` does not decode back
to it) is never released by the protocol, and is only lost by a local overwrite or a
broker change.
-/

namespace Chorde.Coherence

/-- An action that, taken in `cluster`, may take the broker's entry `hold` away: the
handling of a `done` that decodes to `hold`, a write of a local query on the broker,
or a change of broker. -/
def Releases (decodePayload : Hold → Option Hold) (hold : Hold) (cluster : Cluster) : Action → Bool
  | .handleDone index =>
    match cluster.threads index with
    | some thread =>
      match thread.done with
      | some txid => decide (decodePayload ⟨txid, thread.node⟩ = some hold)
      | none => false
    | none => false
  | .write index =>
    match cluster.threads index with
    | some thread => decide (thread.node = cluster.broker)
    | none => false
  | .enterBroker node => decide (node ≠ cluster.broker)
  | _ => false

/-- No step of the run, taken where the run has led, releases `hold`. -/
def KeepsLock (decodePayload : Hold → Option Hold) (hold : Hold) : Cluster → List Action → Prop
  | _, [] => True
  | cluster, action :: rest => Releases decodePayload hold cluster action = false ∧
      match step decodePayload cluster action with
      | some next => KeepsLock decodePayload hold next rest
      | none => True

instance keepsLockDecidable (decodePayload : Hold → Option Hold) (hold : Hold) :
    (cluster : Cluster) → (actions : List Action) → Decidable (KeepsLock decodePayload hold cluster actions)
  | _, [] => isTrue trivial
  | cluster, action :: rest =>
    match stepped : step decodePayload cluster action with
    | some next =>
      have : Decidable (KeepsLock decodePayload hold next rest) := keepsLockDecidable decodePayload hold next rest
      decidable_of_iff (Releases decodePayload hold cluster action = false ∧ KeepsLock decodePayload hold next rest)
        (by simp [KeepsLock, stepped])
    | none => decidable_of_iff (Releases decodePayload hold cluster action = false) (by simp [KeepsLock, stepped])

namespace Cluster

variable (cluster : Cluster)

@[simp] theorem setThread_entry (index : Nat) (thread : Thread) :
    (cluster.setThread index thread).entry = cluster.entry := rfl

@[simp] theorem draw_entry (node : NodeId) : (cluster.draw node).2.entry = cluster.entry := by
  simp [entry]

@[simp] theorem settle_entry (index : Nat) (thread : Thread) (answer : Answer) :
    (cluster.settle index thread answer).entry = cluster.entry := by
  unfold settle
  split <;> simp [entry]

@[simp] theorem start_entry (index : Nat) (node : NodeId) : (cluster.start index node).entry = cluster.entry := by
  unfold start
  split
  · split <;> rfl
  · simp

end Cluster

/-- Every reply in flight for a call is one that was in flight for it at `start`, or
names `hold`. -/
def RepliesFrom (start : Cluster) (hold : Hold) (cluster : Cluster) : Prop :=
  ∀ index thread, cluster.threads index = some thread → ∀ reply ∈ thread.replies,
    reply = some hold ∨ ∃ earlier, start.threads index = some earlier ∧ reply ∈ earlier.replies

section Kept

variable {decodePayload : Hold → Option Hold} {hold : Hold} {start cluster next : Cluster}

/-- Replacing one call by one whose replies are its old ones or `hold`. -/
theorem RepliesFrom.update (replies : RepliesFrom start hold cluster) {index : Nat} {thread : Thread}
    (threads : next.threads = Function.update cluster.threads index (some thread))
    (within : ∀ reply ∈ thread.replies,
      reply = some hold ∨ ∃ before, cluster.threads index = some before ∧ reply ∈ before.replies) :
    RepliesFrom start hold next := by
  intro other found present reply listed
  rw [threads, Function.update_apply] at present
  split at present
  · subst_vars
    cases present
    rcases within reply listed with named | ⟨before, present, listed⟩
    · exact .inl named
    · exact replies _ before present reply listed
  · exact replies other found present reply listed

/-- A step that keeps the call's replies. -/
theorem RepliesFrom.keep (replies : RepliesFrom start hold cluster) {index : Nat} {thread thread' : Thread}
    (present : cluster.threads index = some thread)
    (threads : next.threads = Function.update cluster.threads index (some thread'))
    (same : thread'.replies = thread.replies) : RepliesFrom start hold next :=
  replies.update threads fun _ listed => .inr ⟨thread, present, same ▸ listed⟩

theorem RepliesFrom.setThread (replies : RepliesFrom start hold cluster) {base : Cluster} {index : Nat}
    {thread thread' : Thread} (present : cluster.threads index = some thread)
    (threads : base.threads = cluster.threads) (same : thread'.replies = thread.replies) :
    RepliesFrom start hold (base.setThread index thread') :=
  replies.keep present (by rw [Cluster.setThread, threads]) same

end Kept

end Chorde.Coherence
