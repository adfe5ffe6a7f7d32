import Chorde.Clients.Decorated
import Chorde.Coherence.Handlers

/-!
# Deletion broadcasts

`fire_deletion(key)` draws a txid, creates the waiter for acknowledgements, and
publishes `(txid, key)` on `del`. A peer's `_on_deletion` deletes the key from its
private cache, ignoring a miss, and in synchronous mode publishes `delack` with the
txid.

The waiter of a synchronous manager is a `SyncWaiter`, whose constructor calls
`manager.listen_decode(manager.ackprefix, ...)`. `CoherenceManager` defines neither
name, so in synchronous mode `fire_deletion` raises `AttributeError` after drawing
its txid and before publishing anything.
-/

namespace Chorde.Coherence

open Inproc Decorated

/-- A deletion message on the bus: `del` with its `(txid, key)`, or `delack` with the
txid it acknowledges. -/
inductive Message where
  | del (txid : Txid) (key : PyVal)
  | delack (txid : Txid)
  deriving DecidableEq, Repr

/-- What deletion reads and changes of a `CoherenceManager`: whether it is
synchronous, how many txids it has drawn, and its private cache. -/
structure Manager where
  synchronous : Bool
  drawn : Nat
  privateCache : PyStore

/-- `AttributeError` for a name an object does not define. -/
inductive AttributeError where
  | attributeError (name : String)
  deriving DecidableEq, Repr

/-- `self.txid`: the next id of the cycle, and the manager having drawn it. -/
def Manager.draw (manager : Manager) : Txid × Manager :=
  (manager.drawn % txidPeriod, { manager with drawn := manager.drawn + 1 })

/-- `self.waiter(self, txid)`: a `NoopWaiter`, or the `SyncWaiter` whose constructor
looks up `manager.listen_decode`, which a `CoherenceManager` lacks. -/
def Manager.waiter (manager : Manager) : Except AttributeError Unit :=
  if manager.synchronous then .error (.attributeError "listen_decode") else .ok ()

/-- `fire_deletion(key)`: the manager after drawing a txid, and the `del` published,
or the error raised before publishing. -/
def fireDeletion (manager : Manager) (key : PyVal) : Manager × Except AttributeError Message :=
  let (txid, drawn) := manager.draw
  (drawn, manager.waiter.map fun _ => .del txid key)

/-- `_on_deletion` on a peer, for the payload `(txid, key)`: the peer after deleting
the key from its private cache, and what it publishes. -/
def onDeletion (peer : Manager) (payload : Txid × PyVal) : Manager × List Message :=
  ({ peer with privateCache := delete peer.privateCache payload.2 },
    if peer.synchronous then [.delack payload.1] else [])

/-- A peer handling a `del` keeps no entry for its key and every other entry as it
was, and acknowledges the txid exactly when it is synchronous. -/
theorem onDeletion_deletes (peer : Manager) (txid : Txid) (key probe : PyVal) :
    (onDeletion peer (txid, key)).1.privateCache.find? probe =
        (if probe = key then none else peer.privateCache.find? probe) ∧
      (onDeletion peer (txid, key)).2 = if peer.synchronous then [.delack txid] else [] := by
  simp [onDeletion, find?_delete]

/-- `fire_deletion` publishes `del` with the txid it draws exactly when the manager is
asynchronous. -/
theorem fireDeletion_publishes (manager : Manager) (key : PyVal) :
    (fireDeletion manager key).2 =
      if manager.synchronous then .error (.attributeError "listen_decode")
      else .ok (.del (manager.drawn % txidPeriod) key) := by
  cases synchronous : manager.synchronous <;>
    simp [fireDeletion, Manager.waiter, Manager.draw, synchronous, Except.map]

end Chorde.Coherence
