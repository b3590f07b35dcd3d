import StorageAppliance.Python
import StorageAppliance.Library.Dict

/-!
# Replication engine

Operations are sent to the peers of a node (`activecluster/replication.py`).

A send holds on to the peer object it was made for.  A peer that is removed and
added again is a new object, so peers carry the number of the object, and the
outcome of a send reaches the peer only while the object is still configured.

`_sync_replicate` is cut where it waits for its sends: `startSync` runs up to
the wait and `finishSync` from its end.  The times of operations, the latencies
and the lag of peers are left out, because no modelled function reads them.
-/

namespace StorageAppliance.ActiveCluster

open StorageAppliance.Python
open StorageAppliance.Library

/-- Replication mode. -/
inductive ReplicationMode where
  | sync
  | async
deriving DecidableEq, Repr

/-- Replication link state. -/
inductive ReplicationState where
  | healthy
  | degraded
  | broken
  | syncing
deriving DecidableEq, Repr

/-- Remote replication peer. -/
structure ReplicationPeer where
  nodeId : String
  object : Nat
  state : ReplicationState := .healthy
deriving DecidableEq

/-- The type of an operation with its data. -/
inductive OperationData where
  | write (offset : ℤ) (blockId fingerprint data : String)
  | delete (blockId : String)
deriving DecidableEq

/-- Operation to replicate. -/
structure ReplicationOperation where
  sequenceNumber : Nat
  volumeId : String
  data : OperationData
deriving DecidableEq

/-- Replication statistics. -/
structure ReplicationStats where
  operationsReplicated : Nat := 0
  operationsPending : ℤ := 0
  replicationErrors : Nat := 0
deriving DecidableEq

/-- The peers, the journal and the statistics of a node. -/
structure ReplicationEngine where
  nodeId : String
  mode : ReplicationMode := .sync
  peers : Dict String ReplicationPeer := Dict.empty
  objects : Nat := 0
  journal : List ReplicationOperation := []
  sequenceNumber : Nat := 0
  stats : ReplicationStats := {}
deriving DecidableEq

/-- How a send ends: with status 200, another status or an exception. -/
inductive SendOutcome where
  | accepted
  | refused
  | failed
deriving DecidableEq, Repr

/-- A send to a peer, with its outcome once there is one. -/
structure Send where
  nodeId : String
  object : Nat
  outcome : Option SendOutcome := none
deriving DecidableEq

/-- How far a synchronous replication gets before it waits. -/
inductive SyncStart where
  | answered (answer : Bool)
  | sending (sends : List Send)
deriving DecidableEq

namespace ReplicationEngine

/-! ## Peers -/

/-- Add a replication peer. -/
def addPeer (self : ReplicationEngine) (nodeId : String) :
    ReplicationEngine :=
  { self with
    peers :=
      self.peers.set nodeId
        { nodeId := nodeId, object := self.objects, state := .syncing }
    objects := self.objects + 1 }

/-- Remove a replication peer. -/
def removePeer (self : ReplicationEngine) (nodeId : String) :
    Bool × ReplicationEngine :=
  match self.peers.get? nodeId with
  | some _ => (true, { self with peers := self.peers.erase nodeId })
  | none => (false, self)

/-- Put the link to a peer into a state. -/
def setPeerState (self : ReplicationEngine) (nodeId : String)
    (state : ReplicationState) : ReplicationEngine :=
  { self with
    peers := self.peers.modify nodeId fun peer =>
      { peer with state := state } }

/-! ## Operations -/

/-- Number a new operation. -/
def newOperation (self : ReplicationEngine) (volumeId : String)
    (data : OperationData) : ReplicationOperation × ReplicationEngine :=
  ({ sequenceNumber := self.sequenceNumber + 1
     volumeId := volumeId
     data := data },
    { self with sequenceNumber := self.sequenceNumber + 1 })

/-- Queue an operation for asynchronous replication. -/
def queueForAsync (self : ReplicationEngine)
    (operation : ReplicationOperation) : ReplicationEngine :=
  { self with
    journal := self.journal ++ [operation]
    stats :=
      { self.stats with
        operationsPending := self.stats.operationsPending + 1 } }

/-- The peers that an operation is sent to. -/
def contacted (self : ReplicationEngine) : List ReplicationPeer :=
  self.peers.values.filter fun peer => peer.state ≠ .broken

/-- Count an operation whose sends have ended, and decide its success. -/
def finishSync (self : ReplicationEngine) (sends : List Send) :
    Bool × ReplicationEngine :=
  let successCount :=
    sends.countP fun send => send.outcome = some .accepted
  (successCount > 0 || self.peers.items.isEmpty,
    { self with
      stats :=
        { self.stats with
          operationsReplicated := self.stats.operationsReplicated + 1 } })

/-- Synchronously replicate an operation, up to the wait for its sends. -/
def startSync (self : ReplicationEngine) : SyncStart × ReplicationEngine :=
  if self.peers.items.isEmpty then
    (.answered true, self)
  else
    match self.contacted with
    | [] =>
        let (answer, finished) := self.finishSync []
        (.answered answer, finished)
    | peer :: rest =>
        (.sending ((peer :: rest).map fun peer =>
          { nodeId := peer.nodeId, object := peer.object }), self)

/-- Count a failed send. -/
def recordError (self : ReplicationEngine) : ReplicationEngine :=
  { self with
    stats :=
      { self.stats with
        replicationErrors := self.stats.replicationErrors + 1 } }

/-- Put a peer object into a state, if it is still configured. -/
def setObjectState (self : ReplicationEngine) (send : Send)
    (state : ReplicationState) : ReplicationEngine :=
  { self with
    peers := self.peers.modify send.nodeId fun peer =>
      if peer.object = send.object then
        { peer with state := state }
      else
        peer }

/-- End a send to a peer. -/
def sendToPeer (self : ReplicationEngine) (send : Send) :
    SendOutcome → ReplicationEngine
  | .accepted => self.setObjectState send .healthy
  | .refused => self.recordError
  | .failed => (self.setObjectState send .degraded).recordError

end ReplicationEngine

end StorageAppliance.ActiveCluster
