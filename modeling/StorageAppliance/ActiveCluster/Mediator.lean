import Mathlib.Data.List.MinMax
import Mathlib.Data.String.Basic
import Mathlib.Data.Rat.Floor
import StorageAppliance.Library.Dict

/-!
# Mediator

The view that one node has of the cluster (`activecluster/mediator.py`): which
nodes there are, which of them it holds for healthy, and which one it takes for
the primary.  Times are rational numbers of seconds.

A heartbeat makes its receiver hold the sender for healthy.  What the sender
says about the primary is ignored, and so is the answer to a heartbeat: a node
learns of a new primary from its own elections only.

`_check_node_health` starts an election as a task of its own; `electionTasks`
counts the tasks that have not run yet.  Addresses and votes are left out,
because no modelled function reads them.
-/

namespace StorageAppliance.ActiveCluster

open StorageAppliance.Library

/-- Node role in the cluster. -/
inductive NodeRole where
  | primary
  | secondary
  | witness
deriving DecidableEq, Repr

/-- Quorum state. -/
inductive QuorumState where
  | hasQuorum
  | noQuorum
  | splitBrain
deriving DecidableEq, Repr

/-- Information about a cluster node. -/
structure NodeInfo where
  nodeId : String
  role : NodeRole
  isHealthy : Bool := true
  lastHeartbeat : ℚ := 0
deriving DecidableEq

/-- Mediator statistics. -/
structure MediatorStats where
  heartbeatsSent : Nat := 0
  heartbeatsReceived : Nat := 0
  electionsHeld : Nat := 0
deriving DecidableEq

/-- The view of one node. -/
structure Mediator where
  nodeId : String
  failureThresholdMs : ℤ := 5000
  nodes : Dict String NodeInfo := Dict.empty
  currentPrimary : Option String := none
  electionTasks : Nat := 0
  stats : MediatorStats := {}
deriving DecidableEq

/-- A heartbeat on its way. -/
structure Heartbeat where
  sourceNode : String
  targetNode : String
  timestamp : ℚ
  currentPrimary : Option String
deriving DecidableEq

/-- The answer to a heartbeat. -/
structure HeartbeatResponse where
  nodeId : String
  currentPrimary : Option String
  timestamp : ℚ
deriving DecidableEq

/-- The role of a node once the primary is known. -/
def NodeInfo.assignRole (node : NodeInfo) (isPrimary : Bool) : NodeInfo :=
  if isPrimary then
    { node with role := .primary }
  else if node.role = .primary then
    { node with role := .secondary }
  else
    node

/-- A node that can be elected. -/
def NodeInfo.isCandidate (node : NodeInfo) : Bool :=
  node.isHealthy && (node.role = .primary || node.role = .secondary)

namespace Mediator

/-! ## Membership -/

/-- Add a node to the cluster. -/
def addNode (self : Mediator) (now : ℚ) (nodeId : String)
    (role : NodeRole) : Mediator :=
  { self with
    nodes :=
      self.nodes.set nodeId
        { nodeId := nodeId, role := role, lastHeartbeat := now } }

/-- Register this node with the mediator. -/
def registerSelf (self : Mediator) (now : ℚ) (role : NodeRole) :
    Mediator :=
  self.addNode now self.nodeId role

/-- Remove a node from the cluster. -/
def removeNode (self : Mediator) (nodeId : String) : Bool × Mediator :=
  match self.nodes.get? nodeId with
  | some _ => (true, { self with nodes := self.nodes.erase nodeId })
  | none => (false, self)

/-! ## Heartbeats -/

/-- The heartbeat sent to another node of the view. -/
def heartbeat? (self : Mediator) (now : ℚ) (targetNode : String) :
    Option Heartbeat :=
  if targetNode = self.nodeId then
    none
  else
    (self.nodes.get? targetNode).map fun _ =>
      { sourceNode := self.nodeId
        targetNode := targetNode
        timestamp := now
        currentPrimary := self.currentPrimary }

/-- Count a heartbeat that was answered. -/
def recordAnswer (self : Mediator) : Mediator :=
  { self with
    stats :=
      { self.stats with
        heartbeatsSent := self.stats.heartbeatsSent + 1 } }

/-- Receive a heartbeat from another node. -/
def receiveHeartbeat (self : Mediator) (now : ℚ) (sourceNode : String) :
    HeartbeatResponse × Mediator :=
  let received :=
    match self.nodes.get? sourceNode with
    | some _ =>
        { self with
          nodes :=
            self.nodes.modify sourceNode fun node =>
              { node with lastHeartbeat := now, isHealthy := true }
          stats :=
            { self.stats with
              heartbeatsReceived := self.stats.heartbeatsReceived + 1 } }
    | none => self
  ({ nodeId := self.nodeId
     currentPrimary := self.currentPrimary
     timestamp := now }, received)

/-- The node has been silent for too long and is still held for healthy. -/
def hasFailed (self : Mediator) (now : ℚ) (nodeId : String)
    (node : NodeInfo) : Bool :=
  nodeId ≠ self.nodeId &&
    (now - node.lastHeartbeat) * 1000 > self.failureThresholdMs &&
    node.isHealthy

/-- Check the health of all nodes based on heartbeats. -/
def checkNodeHealth (self : Mediator) (now : ℚ) : Mediator :=
  { self with
    nodes :=
      self.nodes.mapValues fun nodeId node =>
        if self.hasFailed now nodeId node then
          { node with isHealthy := false }
        else
          node
    electionTasks :=
      self.electionTasks +
        (self.nodes.items.countP fun item =>
          self.hasFailed now item.1 item.2 &&
            some item.1 = self.currentPrimary) }

/-! ## Quorum and elections -/

/-- Current quorum state. -/
def getQuorumState (self : Mediator) : QuorumState :=
  let totalNodes := self.nodes.items.length
  let healthyNodes := self.nodes.values.countP NodeInfo.isHealthy
  let quorumSize := totalNodes / 2 + 1
  if healthyNodes ≥ quorumSize then .hasQuorum else .noQuorum

/-- Check if the cluster has quorum. -/
def hasQuorum (self : Mediator) : Bool :=
  self.getQuorumState = .hasQuorum

/-- The healthy node with the lowest identifier that can be primary. -/
def bestCandidate (self : Mediator) : Option NodeInfo :=
  (self.nodes.values.filter NodeInfo.isCandidate).argmin NodeInfo.nodeId

/-- Initiate a primary election. -/
def initiateElection (self : Mediator) : Option String × Mediator :=
  if self.hasQuorum then
    let held :=
      { self with
        stats :=
          { self.stats with
            electionsHeld := self.stats.electionsHeld + 1 } }
    match self.bestCandidate with
    | none => (none, held)
    | some newPrimary =>
        (some newPrimary.nodeId,
          { held with
            currentPrimary := some newPrimary.nodeId
            nodes :=
              self.nodes.mapValues fun _ node =>
                node.assignRole (node.nodeId = newPrimary.nodeId) })
  else
    (none, self)

/-- Run an election that a health check has started. -/
def runElectionTask (self : Mediator) : Mediator :=
  if self.electionTasks = 0 then
    self
  else
    { self with
      electionTasks := self.electionTasks - 1 }.initiateElection.2

/-- Current primary node. -/
def getPrimary (self : Mediator) : Option String :=
  self.currentPrimary

/-- Manually set the primary node. -/
def setPrimary (self : Mediator) (nodeId : String) : Bool × Mediator :=
  match self.nodes.get? nodeId with
  | none => (false, self)
  | some _ =>
      (true,
        { self with
          currentPrimary := some nodeId
          nodes :=
            self.nodes.mapValues fun key node =>
              node.assignRole (key = nodeId) })

/-- The node that an election would choose. -/
def successor (self : Mediator) : Option String :=
  if self.hasQuorum then
    self.bestCandidate.map NodeInfo.nodeId
  else
    none

end Mediator

open Mediator

/-! ## What an election does -/

variable {self : Mediator}

/-- An election answers with the successor. -/
theorem initiateElection_fst (self : Mediator) :
    self.initiateElection.1 = self.successor := by
  rw [initiateElection, successor]
  split
  · cases self.bestCandidate <;> rfl
  · rfl

/-- Without a successor an election leaves the primary alone. -/
theorem initiateElection_unsettled
    (none : self.successor = none) :
    self.initiateElection.2.currentPrimary = self.currentPrimary := by
  rw [successor] at none
  rw [initiateElection]
  split
  · rename_i quorum
    rw [if_pos quorum, Option.map_eq_none_iff] at none
    rw [none]
  · rfl

/-- And it changes no node. -/
theorem initiateElection_unsettled_nodes
    (none : self.successor = none) :
    self.initiateElection.2.nodes = self.nodes := by
  rw [successor] at none
  rw [initiateElection]
  split
  · rename_i quorum
    rw [if_pos quorum, Option.map_eq_none_iff] at none
    rw [none]
  · rfl

/-- An election makes the successor the primary. -/
theorem initiateElection_settled
    {newPrimary : String}
    (elected : self.successor = some newPrimary) :
    self.initiateElection.2.currentPrimary = some newPrimary := by
  rw [successor] at elected
  rw [initiateElection]
  split
  · rename_i quorum
    rw [if_pos quorum, Option.map_eq_some_iff] at elected
    rcases elected with ⟨node, best, same⟩
    simp only [best, same]
  · rename_i noQuorum
    rw [if_neg noQuorum] at elected
    cases elected

theorem initiateElection_nodeId (self : Mediator) :
    self.initiateElection.2.nodeId = self.nodeId := by
  rw [initiateElection]
  split
  · split <;> rfl
  · rfl

theorem assignRole_isHealthy (info : NodeInfo) (isPrimary : Bool) :
    (info.assignRole isPrimary).isHealthy = info.isHealthy := by
  rw [NodeInfo.assignRole]
  split
  · rfl
  · split <;> rfl

/-- An election only changes roles. -/
theorem initiateElection_nodes (mediator : Mediator) :
    ∃ update : String → NodeInfo → NodeInfo,
      (∀ key info, (update key info).isHealthy = info.isHealthy) ∧
        (mediator.initiateElection.2.nodes =
            mediator.nodes.mapValues update ∨
          mediator.initiateElection.2.nodes = mediator.nodes) := by
  rw [Mediator.initiateElection]
  split
  · cases mediator.bestCandidate with
    | none => exact ⟨fun _ info => info, fun _ _ => rfl, Or.inr rfl⟩
    | some newPrimary =>
        refine
          ⟨fun _ info =>
              info.assignRole (info.nodeId = newPrimary.nodeId),
            ?_, Or.inl rfl⟩
        intro key info
        exact assignRole_isHealthy info _
  · exact ⟨fun _ info => info, fun _ _ => rfl, Or.inr rfl⟩

/-- Quorum is a majority of healthy members. -/
theorem hasQuorum_iff {mediator : Mediator} :
    mediator.hasQuorum = true ↔
      mediator.nodes.items.length <
        2 * mediator.nodes.values.countP NodeInfo.isHealthy := by
  rw [Mediator.hasQuorum, decide_eq_true_iff, Mediator.getQuorumState]
  split
  · rename_i enough
    simp only [true_iff]
    omega
  · rename_i few
    simp only [reduceCtorEq, false_iff]
    omega

/-- An election keeps the quorum of the view. -/
theorem initiateElection_hasQuorum (mediator : Mediator) :
    mediator.initiateElection.2.hasQuorum = mediator.hasQuorum := by
  have state :
      mediator.initiateElection.2.getQuorumState =
        mediator.getQuorumState := by
    rcases initiateElection_nodes mediator with
      ⟨update, sameHealth, mapped | same⟩
    · have healthy :
          (mediator.nodes.mapValues update).values.countP
              NodeInfo.isHealthy =
            mediator.nodes.values.countP NodeInfo.isHealthy := by
        simp only [Dict.values, Dict.mapValues, List.map_map,
          List.countP_map]
        apply List.countP_congr
        intro item _
        simp [sameHealth]
      have length :
          (mediator.nodes.mapValues update).items.length =
            mediator.nodes.items.length :=
        List.length_map _
      simp only [Mediator.getQuorumState, mapped, healthy, length]
    · simp only [Mediator.getQuorumState, same]
  rw [Mediator.hasQuorum, state, Mediator.hasQuorum]

end StorageAppliance.ActiveCluster
