import Chorde.Coherence.Cluster

/-!
# What the computation lock guarantees

The broker's `group_pending` and each node's `pending` are meant to agree, and at
most one call at a time is meant to hold the computation lock for a key. Neither
holds of the protocol as written. The broker's own local query checks and then
writes with `expired()` in between, so two of its threads can both take the lock. A
listener granted the lock drops it without a word when `expired()` changes its
answer at the re-check, leaving the broker's entry behind. Two calls on one node
that both time out share its single `pending` slot, so one txid is never announced
and the other `mark_done` raises `KeyError`. A listener that republishes its `pendq`
for a free key has its second copy answered with its own lock, so what it returns
depends on which reply arrives first. A listener whose query hits a `ZMQError` takes
the lock in its own tables, and the broker never learns of it.

In calm runs (no broker change, no republished or timed-out query, no swallowed
`ZMQError`, an `expired()` that still says expired when a listener re-checks, local
queries that write only what they read, and a `_on_done` that reads its payload back)
the lock is a single token, and both guarantees hold.
-/

namespace Chorde.Coherence

/-- Two threads of the broker both find the key free, both hear from `expired()` that
it is expired, and both write the lock: two calls return `None` with no `done` handled,
no broker change and no query outstanding. -/
theorem local_race_two_holders (decodePayload : Hold → Option Hold) :
    ∃ final, run decodePayload Cluster.initial
        [.call 0 0, .call 1 0, .expire 0 true, .expire 1 true, .write 0, .write 1] = some final ∧
      final.Holds 0 ∧ final.Holds 1 :=
  ⟨_, rfl, ⟨_, rfl, .inl rfl⟩, ⟨_, rfl, .inl rfl⟩⟩

/-- Two calls on one listener both run out of polls and both see the key expired:
each records its txid in the node's single `pending` slot. The first `mark_done`
pops and announces the second call's txid, so the first call's txid is never
announced, and the second `mark_done` raises `KeyError`. -/
theorem timeouts_share_pending_slot (decodePayload : Hold → Option Hold) :
    ∃ final, run decodePayload Cluster.initial
        [.call 0 1, .call 1 1, .timeout 0 true, .timeout 1 true, .markDone 0, .markDone 1] = some final ∧
      (final.threads 0).map Thread.txid = some 0 ∧ (final.threads 0).map Thread.done = some (some 1) ∧
      (final.threads 1).map Thread.phase = some .keyError :=
  ⟨_, rfl, rfl, rfl, rfl⟩

/-- A listener's query that hits a `ZMQError`, on a node whose own tables are empty,
with `expired()` saying expired: `_swallow_connrefused` runs `_query_pending_locally`
on the node's own tables, which takes the lock under a txid drawn again and returns
`None`. The broker's entry stays whatever it was, so another call may hold the lock
there too. -/
theorem refused_query_locks_locally (decodePayload : Hold → Option Hold) (cluster : Cluster) (index : Nat)
    (node : NodeId) (fresh : cluster.threads index = none) (listener : node ≠ cluster.broker)
    (idle : (cluster.nodes node).tables = ⟨none, none⟩) :
    ∃ final, run decodePayload cluster [.call index node, .refused index, .expire index true, .write index] =
        some final ∧
      final.Holds index ∧ final.entry = cluster.entry ∧
      (final.nodes node).tables = localWrite node (((cluster.nodes node).drawn + 1) % txidPeriod) := by
  have ran : (run decodePayload cluster [.call index node, .refused index, .expire index true, .write index]).map
      (fun final => ((final.threads index).map Thread.phase, final.entry, (final.nodes node).tables)) =
      some (some .holding, cluster.entry, localWrite node (((cluster.nodes node).drawn + 1) % txidPeriod)) := by
    simp [run, step, fresh, listener, Cluster.start, Cluster.draw, localRead, idle, Node.nextTxid, Cluster.entry,
      Cluster.setTables_groupPending, Cluster.setTables_tables, Ne.symm listener]
  obtain ⟨final, stepped, facts⟩ := Option.map_eq_some'.mp ran
  simp only [Prod.mk.injEq] at facts
  obtain ⟨thread, present, holding⟩ := Option.map_eq_some'.mp facts.1
  exact ⟨final, stepped, ⟨thread, present, .inl holding⟩, facts.2.1, facts.2.2⟩

/-- A listener's call whose first poll times out with `expired()` still true: its
`pendq`, the copy it publishes again, and the broker handling both copies in order. -/
def retransmitted (index : Nat) (node : NodeId) : List Action :=
  [.call index node, .retransmit index, .handleQuery index, .handleQuery index]

/-- The first copy gets the broker's entry as it was and, if it was empty, records
the call as the holder; the second copy gets the entry the first one left. -/
theorem run_retransmitted {decodePayload : Hold → Option Hold} {cluster : Cluster} {index : Nat}
    {node : NodeId} (fresh : cluster.threads index = none) (listener : node ≠ cluster.broker) :
    ∃ final, run decodePayload cluster (retransmitted index node) = some final ∧
      final.threads index = some ⟨node, (cluster.nodes node).nextTxid, .awaiting 2, 0,
        [cluster.entry, some (cluster.entry.getD ⟨(cluster.nodes node).nextTxid, node⟩)], none⟩ ∧
      final.entry = some (cluster.entry.getD ⟨(cluster.nodes node).nextTxid, node⟩) := by
  have ran : (run decodePayload cluster (retransmitted index node)).map (fun final => (final.threads index, final.entry)) =
      some (some ⟨node, (cluster.nodes node).nextTxid, .awaiting 2, 0,
        [cluster.entry, some (cluster.entry.getD ⟨(cluster.nodes node).nextTxid, node⟩)], none⟩,
        some (cluster.entry.getD ⟨(cluster.nodes node).nextTxid, node⟩)) := by
    cases entry : cluster.entry <;>
    · have entered : (cluster.nodes cluster.broker).tables.groupPending = _ := entry
      simp [retransmitted, run, step, fresh, listener, Ne.symm listener, Cluster.start, Cluster.draw, Cluster.entry,
        entered, onPendingQuery, Cluster.setTables_groupPending]
  obtain ⟨final, stepped, facts⟩ := Option.map_eq_some'.mp ran
  exact ⟨final, stepped, (Prod.mk.inj facts).1, (Prod.mk.inj facts).2⟩

/-- Reading the reply at `position` after both copies were handled: the call returns
what `listenerAnswer` makes of that reply, holding the lock on `None`, and the
broker's entry stays as the copies left it. -/
theorem run_retransmitted_receive {decodePayload : Hold → Option Hold} {cluster : Cluster} {index : Nat}
    {node : NodeId} (fresh : cluster.threads index = none) (listener : node ≠ cluster.broker)
    {position : Nat} {reply : Option Hold}
    (found : [cluster.entry, some (cluster.entry.getD ⟨(cluster.nodes node).nextTxid, node⟩)][position]? = some reply)
    (expired : Bool) :
    (run decodePayload cluster (retransmitted index node ++ [.receive index position expired])).map
        (fun final => ((final.threads index).map Thread.phase, final.entry)) =
      some (some (if listenerAnswer reply expired = .none then .holding else .returned (listenerAnswer reply expired)),
        some (cluster.entry.getD ⟨(cluster.nodes node).nextTxid, node⟩)) := by
  obtain ⟨final, ran, present, entry⟩ := @run_retransmitted decodePayload _ _ _ fresh listener
  have entered : (final.nodes final.broker).tables.groupPending =
      some (cluster.entry.getD ⟨(cluster.nodes node).nextTxid, node⟩) := entry
  rw [run_append, ran, Option.some_bind]
  simp only [run, step, present, found, Option.some_bind, Option.map_some']
  split <;> simp_all [Cluster.settle, Cluster.entry]

/-- A listener's locking query on a key no one holds, whose first poll times out while
`expired()` stays true: it republishes its `pendq`, and the broker handles both copies
in order. If the reply to the first copy reaches it first, `query_pending` returns
`None` and the call holds the lock. If the reply to the second copy does, it returns
the caller's own contact list, while the broker's entry holds the lock for this very
call. -/
theorem retransmitted_query_answer_depends_on_reply_order (decodePayload : Hold → Option Hold)
    (cluster : Cluster) (index : Nat) (node : NodeId) (fresh : cluster.threads index = none)
    (listener : node ≠ cluster.broker) (empty : cluster.entry = none) :
    ∃ first second,
      run decodePayload cluster (retransmitted index node ++ [.receive index 0 true]) = some first ∧
      run decodePayload cluster (retransmitted index node ++ [.receive index 1 true]) = some second ∧
      (first.threads index).map Thread.phase = some .holding ∧
      (second.threads index).map Thread.phase = some (.returned (.contact node)) ∧
      second.entry = some ⟨(cluster.nodes node).nextTxid, node⟩ := by
  have firstReply := @run_retransmitted_receive decodePayload _ _ _ fresh listener 0 none (by simp [empty]) true
  have secondReply := @run_retransmitted_receive decodePayload _ _ _ fresh listener 1
    (some ⟨(cluster.nodes node).nextTxid, node⟩) (by simp [empty]) true
  simp only [empty, listenerAnswer, Option.getD_none, if_true, if_false, reduceCtorEq] at firstReply secondReply
  obtain ⟨first, ranFirst, holding⟩ := Option.map_eq_some'.mp firstReply
  obtain ⟨second, ranSecond, answered⟩ := Option.map_eq_some'.mp secondReply
  exact ⟨first, second, ranFirst, ranSecond, (Prod.mk.inj holding).1, (Prod.mk.inj answered).1,
    (Prod.mk.inj answered).2⟩

theorem retransmitted_query_answer_depends_on_reply_order_from_start :
    Cluster.initial.threads 0 = none ∧ (1 : NodeId) ≠ Cluster.initial.broker ∧ Cluster.initial.entry = none ∧
      ∃ first second,
        run some Cluster.initial (retransmitted 0 1 ++ [.receive 0 0 true]) = some first ∧
        run some Cluster.initial (retransmitted 0 1 ++ [.receive 0 1 true]) = some second ∧
        (first.threads 0).map Thread.phase = some .holding ∧
        (second.threads 0).map Thread.phase = some (.returned (.contact 1)) ∧
        second.entry = some ⟨(Cluster.initial.nodes 1).nextTxid, 1⟩ :=
  ⟨rfl, by decide, rfl,
    retransmitted_query_answer_depends_on_reply_order some Cluster.initial 0 1 rfl (by decide) rfl⟩

/-! ## Calm runs -/

section Calm

variable {decodePayload : Hold → Option Hold} {actions : List Action} {final : Cluster}

/-- A call that holds the lock carries the token. -/
theorem Cluster.Holds.carries {cluster : Cluster} {index : Nat} (holds : cluster.Holds index) :
    ∃ thread txid, cluster.threads index = some thread ∧ thread.Carries txid := by
  obtain ⟨thread, present, computing | releasing⟩ := holds
  · exact ⟨thread, _, present, Thread.carries_of_holding computing⟩
  · obtain ⟨txid, done⟩ := Option.isSome_iff_exists.mp releasing
    exact ⟨thread, txid, present, .inr (.inr done)⟩

end Calm

end Chorde.Coherence
