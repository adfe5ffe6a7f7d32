import Chorde.Coherence.Handlers
import Mathlib.Logic.Function.Basic
import Mathlib.Data.Option.Defs

/-!
# The single-flight protocol as a cluster

Nodes, one of them the broker, run `query_pending(key, expired, timeout, True)`
calls and, when a call returns `None`, the caller's later `mark_done(key)`. A call
on the broker runs `_query_pending_locally`, whose table reads, `expired()` call
and table writes are separate steps: `expired()` re-checks the shared cache and
other threads run meanwhile. A call on a listener publishes a `pendq`, may publish it
again when a poll times out, and reads the broker's reply, or gives up when every
poll has timed out. The broker handles each `pendq` and each `done` in one step.

The messages in flight are kept with the call that sent them or that they answer:
copies of its `pendq`, the broker's replies on their way back, and its `done`.
Each step is an `Action`; `step` is `none` where the action is not possible, and
every answer of `expired()` is a parameter of the action that asks it.

`query_pending` and `mark_done` are decorated with `_swallow_connrefused`: a
`ZMQError` inside a listener's query makes it run `_query_pending_locally` on its own
node's tables instead, whose reads, `expired()` and writes are the same steps as the
broker's local query; a `ZMQError` in `mark_done`'s publish leaves the popped txid
unannounced. Copies of the `pendq` already published stay in flight.

`_on_done` decodes its payload once more with `decode_payload`; what that returns
on a payload already decoded is a parameter of the model, `decodePayload`.
-/

namespace Chorde.Coherence

/-- A node: its tables for the key, and how many txids it has drawn. -/
structure Node where
  tables : Tables
  drawn : Nat
  deriving DecidableEq, Repr

/-- The txid the node's next `self.txid` returns. -/
def Node.nextTxid (node : Node) : Txid :=
  node.drawn % txidPeriod

/-- Where a call stands: the broker's local query between its reads and its
`expired()` or between that and its writes; a listener waiting on its reply after
publishing its `pendq` `sent` times; returned something other than `None`; holding
the lock, computing; done, after `mark_done` published its `done`; or failed in
`mark_done` with a `KeyError`. -/
inductive Phase where
  | localExpiring
  | localWriting
  | awaiting (sent : Nat)
  | returned (answer : Answer)
  | holding
  | finished
  | keyError
  deriving DecidableEq, Repr

/-- A call, on `node`, with the messages in flight for it. `txid` is drawn when a
listener publishes its `pendq`, and when the broker writes its lock. -/
structure Thread where
  node : NodeId
  txid : Txid
  phase : Phase
  queries : Nat
  replies : List (Option Hold)
  done : Option Txid
  deriving DecidableEq, Repr

/-- The nodes, the broker, and the calls so far. -/
structure Cluster where
  nodes : NodeId → Node
  broker : NodeId
  threads : Nat → Option Thread

/-- A cluster before any call, with node `0` as the broker. -/
def Cluster.initial : Cluster :=
  ⟨fun _ => ⟨⟨none, none⟩, 0⟩, 0, fun _ => none⟩

/-- The broker's `group_pending` entry for the key. -/
def Cluster.entry (cluster : Cluster) : Option Hold :=
  (cluster.nodes cluster.broker).tables.groupPending

/-- A node's `pending` entry for the key. -/
def Cluster.pending (cluster : Cluster) (node : NodeId) : Option Txid :=
  (cluster.nodes node).tables.pending

/-- One step of the protocol. -/
inductive Action where
  /-- A call of `query_pending` starts on `node`. -/
  | call (thread : Nat) (node : NodeId)
  /-- The broker's local query asks `expired()`. -/
  | expire (thread : Nat) (expired : Bool)
  /-- The broker's local query draws a txid and writes the lock. -/
  | write (thread : Nat)
  /-- A listener's poll timed out with `expired()` true: it publishes its `pendq` again. -/
  | retransmit (thread : Nat)
  /-- A listener reads the reply at `reply`, asking `expired()` after a null one. -/
  | receive (thread : Nat) (reply : Nat) (expired : Bool)
  /-- Every poll of a listener timed out; it asks `expired()`. -/
  | timeout (thread : Nat) (expired : Bool)
  /-- The caller of a call that returned `None` calls `mark_done`. -/
  | markDone (thread : Nat)
  /-- The broker handles one copy of the call's `pendq`. -/
  | handleQuery (thread : Nat)
  /-- The broker handles the call's `done`. -/
  | handleDone (thread : Nat)
  /-- `node` becomes the broker. -/
  | enterBroker (node : NodeId)
  /-- A `ZMQError` in the call's `query_pending` or `mark_done`, which
  `_swallow_connrefused` catches. -/
  | refused (thread : Nat)
  deriving DecidableEq, Repr

namespace Cluster

/-- Replace a call. -/
def setThread (cluster : Cluster) (index : Nat) (thread : Thread) : Cluster :=
  { cluster with threads := Function.update cluster.threads index (some thread) }

/-- Replace a node. -/
def setNode (cluster : Cluster) (node : NodeId) (next : Node) : Cluster :=
  { cluster with nodes := Function.update cluster.nodes node next }

/-- Replace a node's tables. -/
def setTables (cluster : Cluster) (node : NodeId) (tables : Tables) : Cluster :=
  cluster.setNode node { cluster.nodes node with tables := tables }

/-- Draw a txid on `node`: `self.txid`. -/
def draw (cluster : Cluster) (node : NodeId) : Txid × Cluster :=
  ((cluster.nodes node).nextTxid,
    cluster.setNode node { cluster.nodes node with drawn := (cluster.nodes node).drawn + 1 })

/-- The `query_pending` call starting on `node`: the broker's local reads, or a
listener's first `pendq`. -/
def start (cluster : Cluster) (index : Nat) (node : NodeId) : Cluster :=
  if node = cluster.broker then
    match localRead (cluster.nodes node).tables node with
    | some answer => cluster.setThread index ⟨node, 0, .returned answer, 0, [], none⟩
    | none => cluster.setThread index ⟨node, 0, .localExpiring, 0, [], none⟩
  else
    let (txid, drawn) := cluster.draw node
    drawn.setThread index ⟨node, txid, .awaiting 1, 1, [], none⟩

/-- A call's `query_pending` returns `answer`; on `None` the node records the lock
under the call's txid, as the listener path does. -/
def settle (cluster : Cluster) (index : Nat) (thread : Thread) (answer : Answer) : Cluster :=
  match answer with
  | .none =>
    (cluster.setTables thread.node { (cluster.nodes thread.node).tables with pending := some thread.txid }).setThread
      index { thread with phase := .holding }
  | answer => cluster.setThread index { thread with phase := .returned answer }

end Cluster

/-- One step, with `decodePayload` what `_on_done`'s decoding returns, `none` where
it raises. -/
def step (decodePayload : Hold → Option Hold) (cluster : Cluster) : Action → Option Cluster
  | .call index node =>
    match cluster.threads index with
    | none => some (cluster.start index node)
    | some _ => none
  | .expire index expired =>
    match cluster.threads index with
    | some thread =>
      if thread.phase = .localExpiring then
        some (cluster.setThread index
          { thread with phase := if expired then .localWriting else .returned .oobUpdate })
      else none
    | none => none
  | .write index =>
    match cluster.threads index with
    | some thread =>
      if thread.phase = .localWriting then
        let (txid, drawn) := cluster.draw thread.node
        some ((drawn.setTables thread.node (localWrite thread.node txid)).setThread index
          { thread with txid := txid, phase := .holding })
      else none
    | none => none
  | .retransmit index =>
    match cluster.threads index with
    | some thread =>
      match thread.phase with
      | .awaiting sent =>
        if sent < 4 then
          some (cluster.setThread index
            { thread with phase := .awaiting (sent + 1), queries := thread.queries + 1 })
        else none
      | _ => none
    | none => none
  | .receive index position expired =>
    match cluster.threads index with
    | some thread =>
      match thread.phase, thread.replies[position]? with
      | .awaiting _, some reply =>
        some (cluster.settle index { thread with replies := thread.replies.eraseIdx position }
          (listenerAnswer reply expired))
      | _, _ => none
    | none => none
  | .timeout index expired =>
    match cluster.threads index with
    | some thread =>
      match thread.phase with
      | .awaiting _ => some (cluster.settle index thread (if expired then .none else .oobUpdate))
      | _ => none
    | none => none
  | .markDone index =>
    match cluster.threads index with
    | some thread =>
      if thread.phase = .holding then
        match cluster.pending thread.node with
        | some txid =>
          some ((cluster.setTables thread.node
              { (cluster.nodes thread.node).tables with pending := none }).setThread index
            { thread with phase := .finished, done := some txid })
        | none => some (cluster.setThread index { thread with phase := .keyError })
      else none
    | none => none
  | .handleQuery index =>
    match cluster.threads index with
    | some thread =>
      if thread.queries = 0 then none
      else
        let (reply, entry) := onPendingQuery cluster.entry (some thread.txid) thread.node
        some ((cluster.setTables cluster.broker
            { (cluster.nodes cluster.broker).tables with groupPending := entry }).setThread index
          { thread with queries := thread.queries - 1, replies := thread.replies ++ [reply] })
    | none => none
  | .handleDone index =>
    match cluster.threads index with
    | some thread =>
      match thread.done with
      | some txid =>
        let released :=
          match decodePayload ⟨txid, thread.node⟩ with
          | some decoded =>
            cluster.setTables cluster.broker
              { (cluster.nodes cluster.broker).tables with groupPending := onDone cluster.entry decoded }
          | none => cluster
        some (released.setThread index { thread with done := none })
      | none => none
    | none => none
  | .enterBroker node => some { cluster with broker := node }
  | .refused index =>
    match cluster.threads index with
    | some thread =>
      match thread.phase with
      | .awaiting _ =>
        match localRead (cluster.nodes thread.node).tables thread.node with
        | some answer => some (cluster.setThread index { thread with phase := .returned answer })
        | none => some (cluster.setThread index { thread with phase := .localExpiring })
      | .holding =>
        match cluster.pending thread.node with
        | some _ =>
          some ((cluster.setTables thread.node
              { (cluster.nodes thread.node).tables with pending := none }).setThread index
            { thread with phase := .finished })
        | none => none
      | _ => none
    | none => none

/-- The actions in turn, `none` as soon as one is not possible. -/
def run (decodePayload : Hold → Option Hold) : Cluster → List Action → Option Cluster
  | cluster, [] => some cluster
  | cluster, action :: rest => (step decodePayload cluster action).bind fun next => run decodePayload next rest

theorem run_append (decodePayload : Hold → Option Hold) (cluster : Cluster) (actions more : List Action) :
    run decodePayload cluster (actions ++ more) =
      (run decodePayload cluster actions).bind fun next => run decodePayload next more := by
  induction actions generalizing cluster with
  | nil => rfl
  | cons action rest inductionHypothesis =>
    simp only [List.cons_append, run]
    cases step decodePayload cluster action <;> simp [inductionHypothesis]

/-- A call has returned `None` and the broker has not handled its `done` yet. -/
def Cluster.Holds (cluster : Cluster) (index : Nat) : Prop :=
  ∃ thread, cluster.threads index = some thread ∧ (thread.phase = .holding ∨ thread.done.isSome)

namespace Cluster

variable (cluster : Cluster)

@[simp] theorem setThread_threads (index : Nat) (thread : Thread) (other : Nat) :
    (cluster.setThread index thread).threads other =
      if other = index then some thread else cluster.threads other := by
  simp [setThread, Function.update_apply]

@[simp] theorem setThread_nodes (index : Nat) (thread : Thread) :
    (cluster.setThread index thread).nodes = cluster.nodes := rfl

@[simp] theorem setThread_broker (index : Nat) (thread : Thread) :
    (cluster.setThread index thread).broker = cluster.broker := rfl

@[simp] theorem setNode_threads (node : NodeId) (next : Node) :
    (cluster.setNode node next).threads = cluster.threads := rfl

@[simp] theorem setNode_broker (node : NodeId) (next : Node) :
    (cluster.setNode node next).broker = cluster.broker := rfl

@[simp] theorem setNode_nodes (node : NodeId) (next : Node) (other : NodeId) :
    (cluster.setNode node next).nodes other = if other = node then next else cluster.nodes other := by
  simp [setNode, Function.update_apply]

theorem setTables_tables (node : NodeId) (tables : Tables) (other : NodeId) :
    ((cluster.setTables node tables).nodes other).tables =
      if other = node then tables else (cluster.nodes other).tables := by
  by_cases same : other = node <;> simp [setTables, same]

theorem setTables_pending (node : NodeId) (tables : Tables) (other : NodeId) :
    ((cluster.setTables node tables).nodes other).tables.pending =
      if other = node then tables.pending else (cluster.nodes other).tables.pending := by
  rw [setTables_tables]
  split <;> rfl

theorem setTables_groupPending (node : NodeId) (tables : Tables) (other : NodeId) :
    ((cluster.setTables node tables).nodes other).tables.groupPending =
      if other = node then tables.groupPending else (cluster.nodes other).tables.groupPending := by
  rw [setTables_tables]
  split <;> rfl

@[simp] theorem setTables_threads (node : NodeId) (tables : Tables) :
    (cluster.setTables node tables).threads = cluster.threads := rfl

@[simp] theorem setTables_broker (node : NodeId) (tables : Tables) :
    (cluster.setTables node tables).broker = cluster.broker := rfl

@[simp] theorem setTables_groupPending_pending (node : NodeId) (entry : Option Hold) (other : NodeId) :
    ((cluster.setTables node { (cluster.nodes node).tables with groupPending := entry }).nodes
      other).tables.pending = (cluster.nodes other).tables.pending := by
  by_cases same : other = node <;> simp [same, setTables_tables]

@[simp] theorem setTables_pending_groupPending (node : NodeId) (pending : Option Txid) (other : NodeId) :
    ((cluster.setTables node { (cluster.nodes node).tables with pending := pending }).nodes
      other).tables.groupPending = (cluster.nodes other).tables.groupPending := by
  by_cases same : other = node <;> simp [same, setTables_tables]

@[simp] theorem setTables_groupPending_groupPending (node : NodeId) (entry : Option Hold) (other : NodeId) :
    ((cluster.setTables node { (cluster.nodes node).tables with groupPending := entry }).nodes
      other).tables.groupPending = if other = node then entry else (cluster.nodes other).tables.groupPending := by
  simp [setTables_groupPending]

@[simp] theorem setTables_pending_pending (node : NodeId) (pending : Option Txid) (other : NodeId) :
    ((cluster.setTables node { (cluster.nodes node).tables with pending := pending }).nodes
      other).tables.pending = if other = node then pending else (cluster.nodes other).tables.pending := by
  simp [setTables_pending]

@[simp] theorem draw_threads (node : NodeId) : (cluster.draw node).2.threads = cluster.threads := rfl

@[simp] theorem draw_broker (node : NodeId) : (cluster.draw node).2.broker = cluster.broker := rfl

@[simp] theorem draw_tables (node other : NodeId) :
    ((cluster.draw node).2.nodes other).tables = (cluster.nodes other).tables := by
  by_cases same : other = node <;> simp [draw, same]

end Cluster

/-! ## Calm runs keep one lock token -/

/-- The call carries the lock under `txid`: a null reply from the broker is on its
way to it, it computes under `txid`, or its `done` for `txid` is on its way. -/
def Thread.Carries (thread : Thread) (txid : Txid) : Prop :=
  ((∃ sent, thread.phase = .awaiting sent) ∧ none ∈ thread.replies ∧ thread.txid = txid) ∨
    (thread.phase = .holding ∧ thread.txid = txid) ∨ thread.done = some txid

/-- A step of a calm run: the broker never changes, no listener republishes its
`pendq` or runs out of polls, no `ZMQError` is swallowed, `expired()` still says the
key is expired when a listener reads a null reply, and the broker's local query
writes only while its tables are as it read them. -/
def Calm (cluster : Cluster) : Action → Prop
  | .enterBroker _ | .retransmit _ | .timeout _ _ | .refused _ => False
  | .receive _ _ expired => expired = true
  | .write index => ∀ thread ∈ cluster.threads index, (cluster.nodes thread.node).tables = ⟨none, none⟩
  | _ => True

instance (cluster : Cluster) (action : Action) : Decidable (Calm cluster action) := by
  cases action <;> unfold Calm <;> infer_instance

/-- The actions of a calm run, each calm where it is taken. -/
def CalmRun (decodePayload : Hold → Option Hold) : Cluster → List Action → Prop
  | _, [] => True
  | cluster, action :: rest => Calm cluster action ∧
      match step decodePayload cluster action with
      | some next => CalmRun decodePayload next rest
      | none => True

instance calmRunDecidable (decodePayload : Hold → Option Hold) :
    (cluster : Cluster) → (actions : List Action) → Decidable (CalmRun decodePayload cluster actions)
  | _, [] => isTrue trivial
  | cluster, action :: rest =>
    match stepped : step decodePayload cluster action with
    | some next =>
      have : Decidable (CalmRun decodePayload next rest) := calmRunDecidable decodePayload next rest
      decidable_of_iff (Calm cluster action ∧ CalmRun decodePayload next rest) (by simp [CalmRun, stepped])
    | none => decidable_of_iff (Calm cluster action) (by simp [CalmRun, stepped])

/-- What each call satisfies on its own in a calm run: one `pendq` or one reply in
flight at a time, a `pendq` only while waiting for its reply, local queries only on
the broker, and a `done` only after `mark_done`. -/
structure Thread.Shaped (thread : Thread) (broker : NodeId) : Prop where
  one_message : thread.queries + thread.replies.length ≤ 1
  queries_awaiting : thread.queries ≠ 0 → ∃ sent, thread.phase = .awaiting sent
  local_broker : thread.phase = .localExpiring ∨ thread.phase = .localWriting → thread.node = broker
  done_finished : thread.done.isSome → thread.phase = .finished

/-- The lock token. The broker's entry names a holder exactly when that call carries
the lock, and at most one call does; a node's `pending` is set exactly while one of
its calls computes, under that call's txid. -/
structure Token (cluster : Cluster) : Prop where
  entry_iff : ∀ txid node, cluster.entry = some ⟨txid, node⟩ ↔
    ∃ index thread, cluster.threads index = some thread ∧ thread.node = node ∧ thread.Carries txid
  unique : ∀ index other thread thread' txid txid', cluster.threads index = some thread →
    cluster.threads other = some thread' → thread.Carries txid → thread'.Carries txid' → index = other
  pending_holding : ∀ node txid, cluster.pending node = some txid →
    ∃ index thread, cluster.threads index = some thread ∧ thread.node = node ∧ thread.phase = .holding
  holding_pending : ∀ index thread, cluster.threads index = some thread → thread.phase = .holding →
    cluster.pending thread.node = some thread.txid
  shaped : ∀ index thread, cluster.threads index = some thread → thread.Shaped cluster.broker

section Preservation

variable {cluster next : Cluster} {index : Nat} {thread : Thread}

/-- After one call is replaced, a call is that one or one that was there before. -/
theorem threads_cases (threads : next.threads = Function.update cluster.threads index (some thread))
    {other : Nat} {found : Thread} (present : next.threads other = some found) :
    (other = index ∧ found = thread) ∨ (other ≠ index ∧ cluster.threads other = some found) := by
  rw [threads, Function.update_apply] at present
  split at present
  · exact .inl ⟨by assumption, (Option.some.inj present).symm⟩
  · exact .inr ⟨by assumption, present⟩

/-- Replacing a call that carries no lock and does not compute by another such call,
tables and broker left alone, keeps the token. -/
theorem Token.quiet (token : Token cluster) (broker : next.broker = cluster.broker)
    (tables : ∀ node, (next.nodes node).tables = (cluster.nodes node).tables)
    (threads : next.threads = Function.update cluster.threads index (some thread))
    (idle : ∀ previous, cluster.threads index = some previous →
      (∀ txid, ¬ previous.Carries txid) ∧ previous.phase ≠ .holding)
    (carriesNothing : ∀ txid, ¬ thread.Carries txid) (notHolding : thread.phase ≠ .holding)
    (shaped : thread.Shaped cluster.broker) : Token next where
  entry_iff txid node := by
    rw [show next.entry = cluster.entry by simp [Cluster.entry, broker, tables], token.entry_iff]
    constructor
    · rintro ⟨other, found, present, atNode, carries⟩
      have away : other ≠ index := fun same => (idle found (same ▸ present)).1 txid carries
      exact ⟨other, found, by rw [threads, Function.update_noteq away, present], atNode, carries⟩
    · rintro ⟨other, found, present, atNode, carries⟩
      rcases threads_cases threads present with ⟨-, rfl⟩ | ⟨-, before⟩
      · exact absurd carries (carriesNothing txid)
      · exact ⟨other, found, before, atNode, carries⟩
  unique first second found found' txid txid' present present' carries carries' := by
    rcases threads_cases threads present with ⟨-, rfl⟩ | ⟨-, before⟩
    · exact absurd carries (carriesNothing txid)
    rcases threads_cases threads present' with ⟨-, rfl⟩ | ⟨-, before'⟩
    · exact absurd carries' (carriesNothing txid')
    exact token.unique first second found found' txid txid' before before' carries carries'
  pending_holding node txid pending := by
    obtain ⟨other, found, present, atNode, holding⟩ :=
      token.pending_holding node txid (by simpa [Cluster.pending, tables] using pending)
    have away : other ≠ index := fun same => (idle found (same ▸ present)).2 holding
    exact ⟨other, found, by rw [threads, Function.update_noteq away, present], atNode, holding⟩
  holding_pending other found present holding := by
    rcases threads_cases threads present with ⟨-, rfl⟩ | ⟨-, before⟩
    · exact absurd holding notHolding
    · simpa [Cluster.pending, tables] using token.holding_pending other found before holding
  shaped other found present := by
    rw [broker]
    rcases threads_cases threads present with ⟨-, rfl⟩ | ⟨-, before⟩
    · exact shaped
    · exact token.shaped other found before

theorem Thread.carries_of_holding {thread : Thread} (holding : thread.phase = .holding) :
    thread.Carries thread.txid :=
  .inr (.inl ⟨holding, rfl⟩)

/-- A step of the one call that can carry the lock, with the broker's entry and its
node's `pending` following what the call carries after it, keeps the token. -/
theorem Token.solo (token : Token cluster) {previous : Thread} (broker : next.broker = cluster.broker)
    (threads : next.threads = Function.update cluster.threads index (some thread))
    (before : cluster.threads index = some previous) (sameNode : thread.node = previous.node)
    (alone : ∀ other found txid, other ≠ index → cluster.threads other = some found → ¬ found.Carries txid)
    (entry : ∀ txid node, next.entry = some ⟨txid, node⟩ ↔ node = thread.node ∧ thread.Carries txid)
    (pending : ∀ node, next.pending node =
      if node = thread.node then (if thread.phase = .holding then some thread.txid else none)
      else cluster.pending node)
    (shaped : thread.Shaped cluster.broker) : Token next where
  entry_iff txid node := by
    rw [entry]
    constructor
    · rintro ⟨rfl, carries⟩
      exact ⟨index, thread, by simp [threads], rfl, carries⟩
    · rintro ⟨other, found, present, rfl, carries⟩
      rcases threads_cases threads present with ⟨-, rfl⟩ | ⟨away, earlier⟩
      · exact ⟨rfl, carries⟩
      · exact absurd carries (alone other found txid away earlier)
  unique first second found found' txid txid' present present' carries carries' := by
    rcases threads_cases threads present with ⟨rfl, -⟩ | ⟨away, earlier⟩
    · rcases threads_cases threads present' with ⟨rfl, -⟩ | ⟨away', earlier'⟩
      · rfl
      · exact absurd carries' (alone second found' txid' away' earlier')
    · exact absurd carries (alone first found txid away earlier)
  pending_holding node txid set := by
    rw [pending] at set
    split at set
    · rename_i atNode
      split at set
      · exact ⟨index, thread, by simp [threads], atNode.symm, by assumption⟩
      · cases set
    · rename_i away
      obtain ⟨other, found, present, rfl, holding⟩ := token.pending_holding node txid set
      by_cases same : other = index
      · subst same
        rw [before] at present
        cases present
        exact absurd sameNode.symm away
      · exact absurd (Thread.carries_of_holding holding) (alone other found _ same present)
  holding_pending other found present holding := by
    rcases threads_cases threads present with ⟨-, rfl⟩ | ⟨away, earlier⟩
    · simp [pending, holding]
    · exact absurd (Thread.carries_of_holding holding) (alone other found _ away earlier)
  shaped other found present := by
    rw [broker]
    rcases threads_cases threads present with ⟨-, rfl⟩ | ⟨-, earlier⟩
    · exact shaped
    · exact token.shaped other found earlier

/-- While the broker's entry is empty no call carries the lock. -/
theorem Token.none_carries (token : Token cluster) (empty : cluster.entry = none) {other : Nat}
    {found : Thread} (present : cluster.threads other = some found) (txid : Txid) : ¬ found.Carries txid :=
  fun carries => by
    have := (token.entry_iff txid found.node).mpr ⟨other, found, present, rfl, carries⟩
    rw [empty] at this
    cases this

/-- Once a call carries the lock, no other does. -/
theorem Token.others_carry_nothing (token : Token cluster) {previous : Thread} {held : Txid}
    (before : cluster.threads index = some previous) (carries : previous.Carries held) :
    ∀ other found txid, other ≠ index → cluster.threads other = some found → ¬ found.Carries txid :=
  fun other found txid away present carries' =>
    away (token.unique other index found previous txid held present before carries' carries)

variable {decodePayload : Hold → Option Hold}

theorem Token.call (token : Token cluster) {node : NodeId}
    (stepped : step decodePayload cluster (.call index node) = some next) : Token next := by
  simp only [step] at stepped
  split at stepped
  · rename_i fresh
    cases stepped
    unfold Cluster.start
    split
    · rename_i atBroker
      split <;>
        refine token.quiet rfl (fun _ => rfl) rfl (by simp [fresh]) ?_ ?_ ⟨?_, ?_, ?_, ?_⟩ <;>
        simp [Thread.Carries, atBroker]
    · refine token.quiet rfl (fun _ => by simp) rfl (by simp [fresh]) ?_ ?_ ⟨?_, ?_, ?_, ?_⟩ <;>
        simp [Thread.Carries]
  · cases stepped

/-- A call whose `done` is on its way has finished. -/
theorem Thread.Shaped.done_none {thread : Thread} {broker : NodeId} (shaped : thread.Shaped broker)
    (unfinished : thread.phase ≠ .finished) : thread.done = none := by
  cases done : thread.done with
  | none => rfl
  | some _ => exact absurd (shaped.done_finished (by simp [done])) unfinished

theorem Thread.Shaped.replies_le_one {thread : Thread} {broker : NodeId}
    (shaped : thread.Shaped broker) : thread.replies.length ≤ 1 := by
  have := shaped.one_message
  omega

theorem Token.expire (token : Token cluster) {expired : Bool}
    (stepped : step decodePayload cluster (.expire index expired) = some next) : Token next := by
  simp only [step] at stepped
  split at stepped
  · rename_i thread present
    split at stepped
    · rename_i expiring
      cases stepped
      have shaped := token.shaped index thread present
      have noDone := shaped.done_none (by simp [expiring])
      have noQuery : thread.queries = 0 := by
        by_contra sent
        obtain ⟨_, awaiting⟩ := shaped.queries_awaiting sent
        simp [expiring] at awaiting
      have oneReply := shaped.replies_le_one
      refine token.quiet rfl (fun _ => rfl) rfl ?_ ?_ ?_ ⟨?_, ?_, ?_, ?_⟩
      · intro previous found
        rw [present] at found
        cases found
        simp [Thread.Carries, expiring, noDone]
      all_goals cases expired <;>
        simp [Thread.Carries, noDone, noQuery, oneReply, shaped.local_broker (.inl expiring)]
    · cases stepped
  · cases stepped

/-- A call that is not waiting on a reply has no `pendq` in flight. -/
theorem Thread.Shaped.queries_zero {thread : Thread} {broker : NodeId} (shaped : thread.Shaped broker)
    (notAwaiting : ∀ sent, thread.phase ≠ .awaiting sent) : thread.queries = 0 := by
  by_contra sent
  obtain ⟨waiting, awaiting⟩ := shaped.queries_awaiting sent
  exact notAwaiting waiting awaiting

theorem Token.write (token : Token cluster) (calm : Calm cluster (.write index))
    (stepped : step decodePayload cluster (.write index) = some next) : Token next := by
  simp only [step] at stepped
  split at stepped
  · rename_i thread present
    split at stepped
    · rename_i writing
      cases stepped
      have shaped := token.shaped index thread present
      have atBroker := shaped.local_broker (.inr writing)
      have empty : (cluster.nodes thread.node).tables = ⟨none, none⟩ := by
        simpa [Calm, present] using calm
      have noDone := shaped.done_none (by simp [writing])
      have noQuery := shaped.queries_zero (by simp [writing])
      have oneReply := shaped.replies_le_one
      refine token.solo rfl rfl present rfl ?_ ?_ ?_ ⟨?_, ?_, ?_, ?_⟩
      · exact fun _ _ txid _ present =>
          token.none_carries (by simp [Cluster.entry, ← atBroker, empty]) present txid
      · intro txid node
        simp [Cluster.entry, Cluster.setTables_groupPending, atBroker, localWrite, Thread.Carries, noDone,
          eq_comm, and_comm]
      · intro node
        by_cases same : node = thread.node <;>
          simp [Cluster.pending, Cluster.setTables_pending, localWrite, same]
      all_goals simp [noQuery, noDone, oneReply]
    · cases stepped
  · cases stepped

/-- The reply a waiting call reads is its only message in flight. -/
theorem Thread.Shaped.only_reply {thread : Thread} {broker : NodeId} (shaped : thread.Shaped broker)
    {position : Nat} {reply : Option Hold} (found : thread.replies[position]? = some reply) :
    thread.replies = [reply] ∧ position = 0 ∧ thread.queries = 0 := by
  have one := shaped.one_message
  rcases replies : thread.replies with _ | ⟨first, _ | ⟨second, rest⟩⟩
  · simp [replies] at found
  · rw [replies] at found one
    cases position with
    | zero => simp_all
    | succ _ => simp at found
  · rw [replies] at one
    simp at one
    omega

/-- A step that passes the lock from one form to another within a call, under the
same txid, leaves the broker's entry as the token has it. -/
theorem Token.entry_of_carrier (token : Token cluster) {previous : Thread} (held : Txid)
    (present : cluster.threads index = some previous) (carried : ∀ txid, previous.Carries txid ↔ txid = held)
    (carries : ∀ txid, thread.Carries txid ↔ txid = held) (sameNode : thread.node = previous.node)
    (sameEntry : next.entry = cluster.entry) (txid : Txid) (node : NodeId) :
    next.entry = some ⟨txid, node⟩ ↔ node = thread.node ∧ thread.Carries txid := by
  have alone := token.others_carry_nothing present ((carried held).mpr rfl)
  rw [sameEntry, token.entry_iff, carries, sameNode]
  constructor
  · rintro ⟨other, found, again, rfl, carriesThere⟩
    have same : other = index := by_contra fun away => alone other found txid away again carriesThere
    subst same
    rw [present] at again
    cases again
    exact ⟨rfl, (carried txid).mp carriesThere⟩
  · rintro ⟨rfl, rfl⟩
    exact ⟨index, previous, present, rfl, (carried _).mpr rfl⟩

theorem Token.receive (token : Token cluster) {position : Nat} {expired : Bool}
    (calm : Calm cluster (.receive index position expired))
    (stepped : step decodePayload cluster (.receive index position expired) = some next) : Token next := by
  have isExpired : expired = true := calm
  subst isExpired
  simp only [step] at stepped
  split at stepped
  · rename_i thread present
    split at stepped
    · rename_i sent reply awaiting found
      cases stepped
      have shaped := token.shaped index thread present
      have noDone := shaped.done_none (by simp [awaiting])
      obtain ⟨only, rfl, noQuery⟩ := shaped.only_reply found
      cases reply with
      | some hold =>
        refine token.quiet rfl (fun _ => rfl) rfl ?_ ?_ ?_ ⟨?_, ?_, ?_, ?_⟩
        · intro previous again
          rw [present] at again
          cases again
          simp [Thread.Carries, awaiting, noDone, only]
        all_goals simp [Cluster.settle, listenerAnswer, Thread.Carries, noDone, noQuery, only]
      | none =>
        have granted : thread.Carries thread.txid := .inl ⟨⟨sent, awaiting⟩, by simp [only], rfl⟩
        have alone := token.others_carry_nothing present granted
        refine token.solo rfl rfl present rfl alone ?_ ?_ ⟨?_, ?_, ?_, ?_⟩
        · refine token.entry_of_carrier thread.txid present ?_ ?_ rfl ?_
          · simp [Thread.Carries, awaiting, noDone, only, eq_comm]
          · simp [Thread.Carries, noDone, eq_comm]
          · by_cases atBroker : cluster.broker = thread.node <;>
              simp [Cluster.settle, listenerAnswer, Cluster.entry, atBroker]
        · intro node
          by_cases same : node = thread.node <;>
            simp [Cluster.settle, listenerAnswer, Cluster.pending, same]
        all_goals simp [Cluster.settle, listenerAnswer, noDone, noQuery, only]
    · cases stepped
  · cases stepped

theorem Token.markDone (token : Token cluster)
    (stepped : step decodePayload cluster (.markDone index) = some next) : Token next := by
  simp only [step] at stepped
  split at stepped
  · rename_i thread present
    split at stepped
    · rename_i holding
      have shaped := token.shaped index thread present
      have noDone := shaped.done_none (by simp [holding])
      have noQuery := shaped.queries_zero (by simp [holding])
      have pending := token.holding_pending index thread present holding
      rw [pending] at stepped
      cases stepped
      have computing := Thread.carries_of_holding holding
      refine token.solo rfl rfl present rfl (token.others_carry_nothing present computing)
        (token.entry_of_carrier thread.txid present ?_ ?_ rfl ?_) ?_ ⟨?_, ?_, ?_, ?_⟩
      · simp [Thread.Carries, holding, noDone, eq_comm]
      · simp [Thread.Carries, eq_comm]
      · by_cases atBroker : cluster.broker = thread.node <;> simp [Cluster.entry, atBroker]
      · intro node
        by_cases same : node = thread.node <;> simp [Cluster.pending, same]
      all_goals simp [noQuery, shaped.replies_le_one]
    · cases stepped
  · cases stepped

/-- A node none of whose calls compute has no `pending` entry. -/
theorem Token.pending_none (token : Token cluster) (node : NodeId)
    (idle : ∀ other found, cluster.threads other = some found → found.node = node →
      found.phase ≠ .holding) : cluster.pending node = none := by
  cases set : cluster.pending node with
  | none => rfl
  | some txid =>
    obtain ⟨other, found, present, atNode, holding⟩ := token.pending_holding node txid set
    exact absurd holding (idle other found present atNode)

theorem Token.handleQuery (token : Token cluster)
    (stepped : step decodePayload cluster (.handleQuery index) = some next) : Token next := by
  simp only [step] at stepped
  split at stepped
  · rename_i thread present
    split at stepped
    · cases stepped
    · rename_i queried
      cases stepped
      have shaped := token.shaped index thread present
      obtain ⟨sent, awaiting⟩ := shaped.queries_awaiting queried
      have noDone := shaped.done_none (by simp [awaiting])
      have one := shaped.one_message
      have onlyQuery : thread.queries = 1 ∧ thread.replies = [] := by
        constructor
        · omega
        · exact List.eq_nil_of_length_eq_zero (by omega)
      cases entry : cluster.entry with
      | some hold =>
        refine token.quiet rfl (fun node => ?_) rfl ?_ ?_ ?_ ⟨?_, ?_, ?_, ?_⟩
        · simp only [onPendingQuery, entry, Cluster.setThread_nodes, Cluster.setTables_tables]
          split
          · subst_vars
            rw [← entry]
            rfl
          · rfl
        · intro previous again
          rw [present] at again
          cases again
          simp [Thread.Carries, awaiting, noDone, onlyQuery.2]
        all_goals simp [onPendingQuery, Thread.Carries, awaiting, noDone, onlyQuery]
      | none =>
        refine token.solo rfl rfl present rfl
          (fun _ _ txid _ again => token.none_carries entry again txid) ?_ ?_ ⟨?_, ?_, ?_, ?_⟩
        · intro txid node
          simp [Cluster.entry, onPendingQuery, entry, Thread.Carries, awaiting, onlyQuery, noDone,
            eq_comm, and_comm]
        · intro node
          have idle := token.pending_none thread.node fun other found again _ holding =>
            token.none_carries entry again _ (Thread.carries_of_holding holding)
          by_cases same : node = thread.node
          · simp [Cluster.pending, same, awaiting, ← idle]
          · simp [Cluster.pending, same]
        all_goals simp [onPendingQuery, entry, awaiting, noDone, onlyQuery]
  · cases stepped

theorem Token.handleDone (token : Token cluster) (decodes : ∀ hold, decodePayload hold = some hold)
    (stepped : step decodePayload cluster (.handleDone index) = some next) : Token next := by
  simp only [step, decodes] at stepped
  split at stepped
  · rename_i thread present
    split at stepped
    · rename_i txid done
      cases stepped
      have shaped := token.shaped index thread present
      have finished := shaped.done_finished (by simp [done])
      have releasing : thread.Carries txid := .inr (.inr done)
      have entry := (token.entry_iff txid thread.node).mpr ⟨index, thread, present, rfl, releasing⟩
      have alone := token.others_carry_nothing present releasing
      refine token.solo rfl rfl present rfl alone ?_ ?_ ⟨?_, ?_, ?_, ?_⟩
      · intro held node
        have entered : (cluster.nodes cluster.broker).tables.groupPending = some ⟨txid, thread.node⟩ := entry
        simp [Cluster.entry, entered, Thread.Carries, finished]
      · intro node
        have idle := token.pending_none thread.node fun other found again _ holding => by
          by_cases same : other = index
          · subst same
            rw [present] at again
            cases again
            simp [finished] at holding
          · exact alone other found _ same again (Thread.carries_of_holding holding)
        by_cases same : node = thread.node
        · simp [Cluster.pending, same, finished, ← idle]
        · simp [Cluster.pending, same]
      all_goals simp [finished, shaped.replies_le_one, shaped.queries_zero (by simp [finished])]
    · cases stepped
  · cases stepped

end Preservation

end Chorde.Coherence
