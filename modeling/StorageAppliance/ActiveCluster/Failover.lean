import StorageAppliance.Python
import StorageAppliance.ActiveCluster.Mediator

/-!
# Failover controller

The failover of one node (`activecluster/failover.py`): it watches the primary
that its mediator knows and has the mediator elect another one when that primary
is down.  Times and durations of events are left out, because no modelled
function reads them.

When the failed primary is up again, the controller fails back to it.  The
cluster calls both checks in turn (`monitorCluster`); the state it derives from
them is left out.

The callbacks belong to the application.  A call that may run one takes what the
callback does: return, or raise an exception.
-/

namespace StorageAppliance.ActiveCluster

open StorageAppliance.Python
open StorageAppliance.Library

/-- Failover state. -/
inductive FailoverState where
  | normal
  | failingOver
  | failedOver
  | failingBack
deriving DecidableEq, Repr

/-- Reason for failover. -/
inductive FailoverReason where
  | nodeFailure
  | manual
  | networkPartition
  | maintenance
deriving DecidableEq, Repr

/-- Record of a failover event. -/
structure FailoverEvent where
  oldPrimary : Option String
  newPrimary : Option String
  reason : FailoverReason
  state : FailoverState
deriving DecidableEq

/-- Failover statistics. -/
structure FailoverStats where
  totalFailovers : Nat := 0
  successfulFailovers : Nat := 0
  failedFailovers : Nat := 0
  totalFailbacks : Nat := 0
deriving DecidableEq

/-- The failover controller of one node. -/
structure FailoverController where
  state : FailoverState := .normal
  originalPrimary : Option String := none
  history : List FailoverEvent := []
  hasCallback : Bool := false
  autoFailback : Bool := true
  hasFailbackCallback : Bool := false
  stats : FailoverStats := {}
deriving DecidableEq

/-- A node identifier that Python takes for true. -/
def truthy (nodeId : Option String) : Bool :=
  nodeId ≠ none && nodeId ≠ some ""

namespace FailoverController

/-- Count a failover that did not complete and return to normal. -/
def recordFailure (self : FailoverController) : FailoverController :=
  { self with
    state := .normal
    stats :=
      { self.stats with
        failedFailovers := self.stats.failedFailovers + 1 } }

/-- Append the event of a failover to the history. -/
def recordEvent (self : FailoverController) (event : FailoverEvent) :
    FailoverController :=
  { self with
    history := self.history ++ [event]
    stats :=
      { self.stats with
        totalFailovers := self.stats.totalFailovers + 1 } }

/-- Execute the failover, with the primary already chosen or by election. -/
def executeFailover (self : FailoverController) (mediator : Mediator)
    (callback : Except PyException Unit) (oldPrimary : Option String)
    (reason : FailoverReason) (chosen : Option String) :
    Except PyException FailoverEvent × FailoverController × Mediator :=
  let started :=
    { self with state := .failingOver, originalPrimary := oldPrimary }
  let (newPrimary, elected) :=
    if truthy chosen then (chosen, mediator) else mediator.initiateElection
  if truthy newPrimary then
    let succeeded :=
      { started with
        state := .failedOver
        stats :=
          { started.stats with
            successfulFailovers := started.stats.successfulFailovers + 1 } }
    let event :=
      { oldPrimary := oldPrimary
        newPrimary := newPrimary
        reason := reason
        state := .failedOver }
    if self.hasCallback && truthy oldPrimary then
      match callback with
      | .error exception =>
          (.error exception, succeeded.recordFailure, elected)
      | .ok () => (.ok event, succeeded.recordEvent event, elected)
    else
      (.ok event, succeeded.recordEvent event, elected)
  else
    let failed := started.recordFailure
    let event :=
      { oldPrimary := oldPrimary
        newPrimary := newPrimary
        reason := reason
        state := .normal }
    (.ok event, failed.recordEvent event, elected)

/-- The primary that the mediator knows is down. -/
def primaryDown (mediator : Mediator) : Option String :=
  if truthy mediator.getPrimary then
    mediator.getPrimary.filter fun currentPrimary =>
      (mediator.nodes.get? currentPrimary).any fun node =>
        !node.isHealthy
  else
    none

/-- Check if failover is needed and execute it if so. -/
def checkAndFailover (self : FailoverController) (mediator : Mediator)
    (callback : Except PyException Unit) :
    Except PyException (Option FailoverEvent) × FailoverController ×
      Mediator :=
  if self.state ≠ .normal then
    (.ok none, self, mediator)
  else
    match primaryDown mediator with
    | none => (.ok none, self, mediator)
    | some currentPrimary =>
        let (answer, controller, elected) :=
          self.executeFailover mediator callback (some currentPrimary)
            .nodeFailure none
        (answer.map some, controller, elected)

/-- Manually initiate failover, to a target if one is given. -/
def manualFailover (self : FailoverController) (mediator : Mediator)
    (callback : Except PyException Unit) (targetNode : Option String) :
    Except PyException FailoverEvent × FailoverController × Mediator :=
  match targetNode.filter (· ≠ "") with
  | some target =>
      self.executeFailover (mediator.setPrimary target).2 callback
        mediator.getPrimary .manual (some target)
  | none =>
      let (newPrimary, elected) := mediator.initiateElection
      self.executeFailover elected callback mediator.getPrimary .manual
        newPrimary

/-! ## Failback -/

/-- Execute the failback. -/
def executeFailback (self : FailoverController) (mediator : Mediator)
    (callback : Except PyException Unit) :
    Except PyException FailoverEvent × FailoverController × Mediator :=
  let currentPrimary := mediator.getPrimary
  let restored :=
    match self.originalPrimary with
    | some original => (mediator.setPrimary original).2
    | none => mediator
  let event :=
    { oldPrimary := currentPrimary
      newPrimary := self.originalPrimary
      reason := .manual
      state := .normal }
  let finished :=
    { self with
      state := .normal
      history := self.history ++ [event]
      stats :=
        { self.stats with
          totalFailbacks := self.stats.totalFailbacks + 1 } }
  if self.hasFailbackCallback && truthy currentPrimary &&
      truthy self.originalPrimary then
    match callback with
    | .error exception =>
        (.error exception, { finished with state := .failedOver },
          restored)
    | .ok () =>
        (.ok event, { finished with originalPrimary := none }, restored)
  else
    (.ok event, { finished with originalPrimary := none }, restored)

/-- The original primary, if it is up again. -/
def originalUp (self : FailoverController) (mediator : Mediator) : Bool :=
  truthy self.originalPrimary &&
    self.originalPrimary.any fun original =>
      (mediator.nodes.get? original).any NodeInfo.isHealthy

/-- Check if failback is possible and execute it if so. -/
def checkAndFailback (self : FailoverController) (mediator : Mediator)
    (callback : Except PyException Unit) :
    Except PyException (Option FailoverEvent) × FailoverController ×
      Mediator :=
  if self.autoFailback = true ∧ self.state = .failedOver ∧
      self.originalUp mediator = true then
    let (answer, controller, restored) :=
      self.executeFailback mediator callback
    (answer.map some, controller, restored)
  else
    (.ok none, self, mediator)

/-- Manually initiate failback to the original primary. -/
def manualFailback (self : FailoverController) (mediator : Mediator)
    (callback : Except PyException Unit) :
    Except PyException (Option FailoverEvent) × FailoverController ×
      Mediator :=
  if self.state = .failedOver ∧ truthy self.originalPrimary = true then
    let (answer, controller, restored) :=
      self.executeFailback mediator callback
    (answer.map some, controller, restored)
  else
    (.ok none, self, mediator)

/-- One round of the cluster monitor, with what the two callbacks do. -/
def monitorCluster (self : FailoverController) (mediator : Mediator)
    (onFailover onFailback : Except PyException Unit) :
    FailoverController × Mediator :=
  match self.checkAndFailover mediator onFailover with
  | (.error _, controller, elected) => (controller, elected)
  | (.ok _, controller, elected) =>
      (controller.checkAndFailback elected onFailback).2

end FailoverController

open FailoverController

/-- A failover check holds an election or leaves the mediator alone. -/
theorem checkAndFailover_mediator
    (self : FailoverController) (mediator : Mediator)
    (callback : Except PyException Unit) :
    (self.checkAndFailover mediator callback).2.2 =
      if self.state = .normal ∧ primaryDown mediator ≠ none then
        mediator.initiateElection.2
      else
        mediator := by
  rw [checkAndFailover]
  by_cases normal : self.state = .normal
  · rw [if_neg (not_not.mpr normal)]
    cases down : primaryDown mediator with
    | none => simp
    | some currentPrimary =>
        rw [if_pos ⟨normal, by simp⟩]
        simp only [executeFailover, truthy, ne_eq, not_true_eq_false,
          decide_false, Bool.false_and, Bool.false_eq_true, if_false]
        split
        · split
          · split <;> rfl
          · rfl
        · rfl
  · rw [if_pos normal, if_neg fun both => normal both.1]

end StorageAppliance.ActiveCluster
