import StorageAppliance.ActiveCluster.Failover
import StorageAppliance.Library.Run

/-!
# Split-brain

A cluster of nodes, each with its own mediator, failover controller and clock,
and the heartbeats on their way between them.  A heartbeat can be delivered at
any time or lost, and so can its answer.

An election is a decision of one node from its own view: the node it finds best
becomes its primary, and nobody else hears of it.  A node that was replaced goes
on taking itself for the primary, and all that stops it from leading is that it
sees no quorum.  Majorities of different views overlap in a node that is healthy
in both, so a quorum of one node does not keep another from having one.

A node begins to lead in two ways (`Gains`): it elects itself, or it takes itself
for the primary and a heartbeat brings it the one node it lacked for a quorum.
`split_brain_free_iff` says that a run is free of split-brain exactly if no other
node leads whenever one of the two happens.
-/

namespace StorageAppliance.ActiveCluster

open StorageAppliance.Python
open StorageAppliance.Library

/-- A node: its clock, its view and its failover controller. -/
structure ClusterNode where
  clock : ℚ := 0
  mediator : Mediator
  failover : FailoverController := {}
deriving DecidableEq

/-- The nodes and the heartbeats on their way. -/
structure Cluster where
  nodes : Dict String ClusterNode
  inFlight : List Heartbeat := []
deriving DecidableEq

/-- What can happen in a cluster. -/
inductive ClusterStep where
  | elapse (nodeId : String) (seconds : ℚ)
  | sendHeartbeat (sourceNode targetNode : String)
  | deliver (index : Nat) (answered : Bool)
  | lose (index : Nat)
  | checkHealth (nodeId : String)
  | runElectionTask (nodeId : String)
  | initiateElection (nodeId : String)
  | checkAndFailover (nodeId : String)
      (callback : Except PyException Unit)

namespace ClusterNode

/-- Change the mediator of a node. -/
def withMediator (node : ClusterNode) (mediator : Mediator) :
    ClusterNode :=
  { node with mediator := mediator }

/-- Let the failover controller of a node check its primary. -/
def checkAndFailover (node : ClusterNode)
    (callback : Except PyException Unit) : ClusterNode :=
  let (_, controller, mediator) :=
    node.failover.checkAndFailover node.mediator callback
  { node with failover := controller, mediator := mediator }

end ClusterNode

namespace Cluster

/-- Change one node. -/
def modifyNode (self : Cluster) (nodeId : String)
    (change : ClusterNode → ClusterNode) : Cluster :=
  { self with nodes := self.nodes.modify nodeId change }

/-- A heartbeat reaches its target, and perhaps the answer its source. -/
def deliver (self : Cluster) (index : Nat) (answered : Bool) : Cluster :=
  match self.inFlight[index]? with
  | none => self
  | some heartbeat =>
      let received :=
        self.modifyNode heartbeat.targetNode fun node =>
          node.withMediator
            (node.mediator.receiveHeartbeat node.clock
              heartbeat.sourceNode).2
      let acknowledged :=
        if answered then
          received.modifyNode heartbeat.sourceNode fun node =>
            node.withMediator node.mediator.recordAnswer
        else
          received
      { acknowledged with inFlight := self.inFlight.eraseIdx index }

/-- Execute one step. -/
def step (self : Cluster) : ClusterStep → Cluster
  | .elapse nodeId seconds =>
      self.modifyNode nodeId fun node =>
        { node with clock := node.clock + seconds }
  | .sendHeartbeat sourceNode targetNode =>
      match
        (self.nodes.get? sourceNode).bind fun node =>
          node.mediator.heartbeat? node.clock targetNode
      with
      | none => self
      | some heartbeat =>
          { self with inFlight := self.inFlight ++ [heartbeat] }
  | .deliver index answered => self.deliver index answered
  | .lose index =>
      { self with inFlight := self.inFlight.eraseIdx index }
  | .checkHealth nodeId =>
      self.modifyNode nodeId fun node =>
        node.withMediator (node.mediator.checkNodeHealth node.clock)
  | .runElectionTask nodeId =>
      self.modifyNode nodeId fun node =>
        node.withMediator node.mediator.runElectionTask
  | .initiateElection nodeId =>
      self.modifyNode nodeId fun node =>
        node.withMediator node.mediator.initiateElection.2
  | .checkAndFailover nodeId callback =>
      self.modifyNode nodeId fun node => node.checkAndFailover callback

end Cluster

open Cluster

/-! ## Heartbeats that arrive -/

/-- The heartbeat that a step delivers. -/
def Cluster.arrival? (cluster : Cluster) :
    ClusterStep → Option Heartbeat
  | .deliver index _ => cluster.inFlight[index]?
  | _ => none

/-- The step brings a heartbeat from one node to another. -/
def Hears (cluster : Cluster) (action : ClusterStep)
    (target sourceNode : String) : Prop :=
  ∃ heartbeat ∈ cluster.arrival? action,
    heartbeat.targetNode = target ∧ heartbeat.sourceNode = sourceNode

theorem unheard_of_none
    {cluster : Cluster} {action : ClusterStep} {target sourceNode : String}
    (nothing : cluster.arrival? action = none) :
    ¬ Hears cluster action target sourceNode := by
  rintro ⟨heartbeat, arrives, _⟩
  rw [Option.mem_def, nothing] at arrives
  cases arrives

/-! ## Primaries -/

/-- The node takes itself for the primary and has quorum in its view. -/
def Cluster.Leads (cluster : Cluster) (nodeId : String) : Prop :=
  ∃ node ∈ cluster.nodes.get? nodeId,
    node.mediator.getPrimary = some node.mediator.nodeId ∧
      node.mediator.hasQuorum

/-- Two nodes lead at the same time. -/
def Cluster.SplitBrain (cluster : Cluster) : Prop :=
  ∃ first second,
    first ≠ second ∧ cluster.Leads first ∧ cluster.Leads second

/-- Every node has the full membership and agrees on one healthy primary. -/
structure Agreeing (cluster : Cluster) (primary : String) : Prop where
  member : ∃ node, cluster.nodes.get? primary = some node
  own :
    ∀ nodeId node,
      cluster.nodes.get? nodeId = some node →
        node.mediator.nodeId = nodeId
  agrees :
    ∀ nodeId node,
      cluster.nodes.get? nodeId = some node →
        node.mediator.getPrimary = some primary
  full :
    ∀ nodeId node other,
      cluster.nodes.get? nodeId = some node →
        (node.mediator.nodes.contains other =
          cluster.nodes.contains other)
  healthy :
    ∀ nodeId node other info,
      cluster.nodes.get? nodeId = some node →
        node.mediator.nodes.get? other = some info →
          info.isHealthy

/-- The step holds an election at the node. -/
def ClusterStep.ElectsAt (action : ClusterStep) (nodeId : String)
    (node : ClusterNode) : Prop :=
  match action with
  | .runElectionTask target =>
      target = nodeId ∧ node.mediator.electionTasks ≠ 0
  | .initiateElection target => target = nodeId
  | .checkAndFailover target _ =>
      target = nodeId ∧ node.failover.state = .normal ∧
        FailoverController.primaryDown node.mediator ≠ none
  | _ => False

/-- The step brings the node a heartbeat of one that it held for failed. -/
def ClusterStep.RevivesAt (action : ClusterStep) (cluster : Cluster)
    (nodeId : String) (node : ClusterNode) : Prop :=
  ∃ heartbeat ∈ cluster.arrival? action,
    heartbeat.targetNode = nodeId ∧
      ∃ info ∈ node.mediator.nodes.get? heartbeat.sourceNode,
        info.isHealthy = false

/-- The view holds one node too few for healthy to see a quorum. -/
def Mediator.OneShort (self : Mediator) : Prop :=
  self.nodes.values.countP NodeInfo.isHealthy =
    self.nodes.items.length / 2

/--
The step makes the node lead: it elects itself, or it takes itself for the
primary and hears from the node that it lacked for a quorum.
-/
def Gains (cluster : Cluster) (action : ClusterStep)
    (nodeId : String) : Prop :=
  ∃ node ∈ cluster.nodes.get? nodeId,
    (action.ElectsAt nodeId node ∧
        node.mediator.successor = some nodeId) ∨
      (node.mediator.getPrimary = some nodeId ∧
        node.mediator.OneShort ∧ action.RevivesAt cluster nodeId node)

/-- No other node leads while one begins to. -/
def Unrivalled (cluster : Cluster) (action : ClusterStep) : Prop :=
  ∀ nodeId,
    Gains cluster action nodeId →
      ∀ other, other ≠ nodeId → ¬ cluster.Leads other

/-- A step holds an election at one node at most. -/
theorem electsAt_unique
    {action : ClusterStep} {first second : String}
    {firstNode secondNode : ClusterNode}
    (atFirst : action.ElectsAt first firstNode)
    (atSecond : action.ElectsAt second secondNode) :
    first = second := by
  cases action with
  | runElectionTask target => exact atFirst.1.symm.trans atSecond.1
  | initiateElection target => exact atFirst.symm.trans atSecond
  | checkAndFailover target callback =>
      exact atFirst.1.symm.trans atSecond.1
  | _ => exact atFirst.elim

/-! ## One step -/

/-- How a step can change the view of a node. -/
inductive Evolves (cluster : Cluster) (action : ClusterStep)
    (nodeId : String) (node : ClusterNode) : Mediator → Prop where
  | idle : Evolves cluster action nodeId node node.mediator
  | received (sourceNode : String)
      (hears : Hears cluster action nodeId sourceNode) :
      Evolves cluster action nodeId node
        (node.mediator.receiveHeartbeat node.clock sourceNode).2
  | answered {mediator : Mediator}
      (earlier : Evolves cluster action nodeId node mediator) :
      Evolves cluster action nodeId node mediator.recordAnswer
  | checked :
      Evolves cluster action nodeId node
        (node.mediator.checkNodeHealth node.clock)
  | elected (tasks : Nat) (elects : action.ElectsAt nodeId node) :
      Evolves cluster action nodeId node
        { node.mediator with electionTasks := tasks }.initiateElection.2

section Steps

variable
    {cluster : Cluster}
    {action : ClusterStep}
    {nodeId : String}
    {node after : ClusterNode}

@[simp]
theorem get?_modifyNode_self (change : ClusterNode → ClusterNode) :
    (cluster.modifyNode nodeId change).nodes.get? nodeId =
      (cluster.nodes.get? nodeId).map change :=
  Dict.get?_modify_self _ _ _

/-- A changed cluster has changed one node. -/
theorem modifyNode_get?
    {target : String} {change : ClusterNode → ClusterNode}
    (found :
      (cluster.modifyNode target change).nodes.get? nodeId =
        some after) :
    ∃ node,
      cluster.nodes.get? nodeId = some node ∧
        (after = node ∨ (target = nodeId ∧ after = change node)) := by
  simp only [modifyNode, Dict.get?_modify] at found
  split at found
  · rename_i same
    rcases Option.map_eq_some_iff.mp found with ⟨node, before, changed⟩
    exact ⟨node, before, Or.inr ⟨same.symm, changed.symm⟩⟩
  · exact ⟨after, found, Or.inl rfl⟩

/-- The views after a change of one node. -/
theorem modifyNode_evolves
    {target : String} {change : ClusterNode → ClusterNode}
    (changes :
      ∀ node,
        target = nodeId →
          Evolves cluster action nodeId node (change node).mediator)
    (found :
      (cluster.modifyNode target change).nodes.get? nodeId =
        some after) :
    ∃ node,
      cluster.nodes.get? nodeId = some node ∧
        Evolves cluster action nodeId node after.mediator := by
  rcases modifyNode_get? found with ⟨node, known, changed⟩
  refine ⟨node, known, ?_⟩
  rcases changed with same | ⟨here, same⟩
  · rw [same]
    exact .idle
  · rw [same]
    exact changes node here

theorem deliver_evolves
    {index : Nat} {answered : Bool}
    (found :
      (cluster.deliver index answered).nodes.get? nodeId = some after) :
    ∃ node,
      cluster.nodes.get? nodeId = some node ∧
        Evolves cluster (.deliver index answered) nodeId node
          after.mediator := by
  rw [deliver] at found
  split at found
  · exact ⟨after, found, .idle⟩
  · rename_i heartbeat arrives
    have hears :
        heartbeat.targetNode = nodeId →
          Hears cluster (.deliver index answered) nodeId
            heartbeat.sourceNode :=
      fun here => ⟨heartbeat, arrives, here, rfl⟩
    split at found
    · rcases modifyNode_get? found with ⟨middle, known, changed⟩
      have received :
          ∃ before,
            cluster.nodes.get? nodeId = some before ∧
              Evolves cluster (.deliver index answered) nodeId before
                middle.mediator :=
        modifyNode_evolves (fun _ here => .received _ (hears here)) known
      rcases received with ⟨before, original, evolves⟩
      refine ⟨before, original, ?_⟩
      rcases changed with same | ⟨_, same⟩
      · rw [same]
        exact evolves
      · rw [same]
        exact .answered evolves
    · exact
        modifyNode_evolves (fun _ here => .received _ (hears here)) found

/-- Every view of the next state evolves from a view of this one. -/
theorem step_evolves
    (found : (cluster.step action).nodes.get? nodeId = some after) :
    ∃ node,
      cluster.nodes.get? nodeId = some node ∧
        Evolves cluster action nodeId node after.mediator := by
  cases action with
  | elapse target seconds =>
      apply modifyNode_evolves _ found
      intro node _
      exact .idle
  | sendHeartbeat sourceNode targetNode =>
      simp only [Cluster.step] at found
      split at found <;> exact ⟨after, found, .idle⟩
  | deliver index answered => exact deliver_evolves found
  | lose index => exact ⟨after, found, .idle⟩
  | checkHealth target =>
      exact modifyNode_evolves (fun _ _ => .checked) found
  | runElectionTask target =>
      apply modifyNode_evolves _ found
      intro node here
      by_cases idle : node.mediator.electionTasks = 0
      · have unchanged :
            node.mediator.runElectionTask = node.mediator :=
          if_pos idle
        simp only [ClusterNode.withMediator, unchanged]
        exact .idle
      · have elected :
            node.mediator.runElectionTask =
              { node.mediator with
                electionTasks :=
                  node.mediator.electionTasks - 1 }.initiateElection.2 :=
          if_neg idle
        simp only [ClusterNode.withMediator, elected]
        exact .elected _ ⟨here, idle⟩
  | initiateElection target =>
      apply modifyNode_evolves _ found
      intro node here
      exact .elected node.mediator.electionTasks here
  | checkAndFailover target callback =>
      apply modifyNode_evolves _ found
      intro node here
      have outcome :
          (node.checkAndFailover callback).mediator = _ :=
        checkAndFailover_mediator node.failover node.mediator callback
      rw [outcome]
      split
      · rename_i down
        exact .elected node.mediator.electionTasks ⟨here, down⟩
      · exact .idle

/-! ## The primary -/

theorem receiveHeartbeat_frame
    (mediator : Mediator) (now : ℚ) (sourceNode : String) :
    (mediator.receiveHeartbeat now sourceNode).2.nodeId =
        mediator.nodeId ∧
      (mediator.receiveHeartbeat now sourceNode).2.currentPrimary =
        mediator.currentPrimary := by
  simp only [Mediator.receiveHeartbeat]
  split <;> exact ⟨rfl, rfl⟩

/-- A view keeps its owner, and its primary changes by election only. -/
theorem Evolves.primary
    {mediator : Mediator}
    (evolves : Evolves cluster action nodeId node mediator) :
    mediator.nodeId = node.mediator.nodeId ∧
      (mediator.currentPrimary = node.mediator.currentPrimary ∨
        (action.ElectsAt nodeId node ∧
          ∃ newPrimary,
            node.mediator.successor = some newPrimary ∧
              mediator.currentPrimary = some newPrimary)) := by
  induction evolves with
  | idle => exact ⟨rfl, Or.inl rfl⟩
  | received sourceNode _ =>
      have frame :=
        receiveHeartbeat_frame node.mediator node.clock sourceNode
      exact ⟨frame.1, Or.inl frame.2⟩
  | answered _ earlier => exact earlier
  | checked => exact ⟨rfl, Or.inl rfl⟩
  | elected tasks elects =>
      refine ⟨initiateElection_nodeId _, ?_⟩
      cases best : node.mediator.successor with
      | none =>
          left
          apply initiateElection_unsettled
          exact best
      | some newPrimary =>
          refine Or.inr ⟨elects, newPrimary, rfl, ?_⟩
          apply initiateElection_settled
          exact best

/-! ## The quorum -/

/-- Hearing from a known node leaves it healthy, and the others as they were. -/
theorem receiveHeartbeat_count
    {mediator : Mediator} {now : ℚ} {sourceNode : String}
    {info : NodeInfo}
    (known : mediator.nodes.get? sourceNode = some info) :
    (mediator.receiveHeartbeat now sourceNode).2.nodes.items.length =
        mediator.nodes.items.length ∧
      (mediator.receiveHeartbeat now
            sourceNode).2.nodes.values.countP NodeInfo.isHealthy +
          (if info.isHealthy then 1 else 0) =
        mediator.nodes.values.countP NodeInfo.isHealthy + 1 := by
  simp only [Mediator.receiveHeartbeat, known]
  refine ⟨List.length_map _, ?_⟩
  have counted :=
    Dict.countP_values_modify known
      (fun node =>
        { node with lastHeartbeat := now, isHealthy := true })
      NodeInfo.isHealthy
  simpa using counted

/-- Hearing from a stranger changes nothing. -/
theorem receiveHeartbeat_stranger
    {mediator : Mediator} {now : ℚ} {sourceNode : String}
    (unknown : mediator.nodes.get? sourceNode = none) :
    (mediator.receiveHeartbeat now sourceNode).2 = mediator := by
  simp only [Mediator.receiveHeartbeat, unknown]

/-- A heartbeat brings a quorum from the one node that it lacked. -/
theorem receiveHeartbeat_hasQuorum
    {mediator : Mediator} {now : ℚ} {sourceNode : String}
    (quorum : (mediator.receiveHeartbeat now sourceNode).2.hasQuorum) :
    mediator.hasQuorum = true ∨
      (mediator.OneShort ∧
        ∃ info ∈ mediator.nodes.get? sourceNode,
          info.isHealthy = false) := by
  cases known : mediator.nodes.get? sourceNode with
  | none =>
      rw [receiveHeartbeat_stranger known] at quorum
      exact Or.inl quorum
  | some info =>
      have counted := @receiveHeartbeat_count _ now _ _ known
      rw [hasQuorum_iff, counted.1] at quorum
      rw [hasQuorum_iff, Mediator.OneShort]
      cases health : info.isHealthy with
      | true =>
          left
          simp only [health, if_true] at counted
          omega
      | false =>
          simp only [health, Bool.false_eq_true, if_false] at counted
          by_cases already :
              mediator.nodes.items.length <
                2 * mediator.nodes.values.countP NodeInfo.isHealthy
          · exact Or.inl already
          · refine Or.inr ⟨?_, info, rfl, health⟩
            omega

/-- A health check finds no more nodes healthy. -/
theorem checkNodeHealth_count (mediator : Mediator) (now : ℚ) :
    (mediator.checkNodeHealth now).nodes.items.length =
        mediator.nodes.items.length ∧
      (mediator.checkNodeHealth now).nodes.values.countP
          NodeInfo.isHealthy ≤
        mediator.nodes.values.countP NodeInfo.isHealthy := by
  refine ⟨List.length_map _, ?_⟩
  simp only [Mediator.checkNodeHealth, Dict.values, Dict.mapValues,
    List.map_map, List.countP_map]
  apply List.countP_mono_left
  intro item _ healthy
  simp only [Function.comp_apply] at healthy ⊢
  split at healthy
  · cases healthy
  · exact healthy

/-- A view that sees a quorum did so before, or got the node it lacked. -/
theorem Evolves.hasQuorum
    {mediator : Mediator}
    (evolves : Evolves cluster action nodeId node mediator)
    (quorum : mediator.hasQuorum = true) :
    node.mediator.hasQuorum = true ∨
      (node.mediator.OneShort ∧
        action.RevivesAt cluster nodeId node) := by
  induction evolves with
  | idle => exact Or.inl quorum
  | received sourceNode hears =>
      rcases receiveHeartbeat_hasQuorum quorum with
        already | ⟨short, info, listed, failed⟩
      · exact Or.inl already
      · rcases hears with ⟨heartbeat, arrives, here, rfl⟩
        exact
          Or.inr ⟨short, heartbeat, arrives, here, info, listed, failed⟩
  | answered _ earlier => exact earlier quorum
  | checked =>
      left
      have counted := checkNodeHealth_count node.mediator node.clock
      rw [hasQuorum_iff] at quorum ⊢
      omega
  | elected tasks elects =>
      left
      rw [initiateElection_hasQuorum] at quorum
      exact quorum

/-! ## Nodes that lead -/

/-- Nodes know their names. -/
def Cluster.Named (cluster : Cluster) : Prop :=
  ∀ nodeId node,
    cluster.nodes.get? nodeId = some node →
      node.mediator.nodeId = nodeId

theorem named_step
    (named : cluster.Named) (action : ClusterStep) :
    (cluster.step action).Named := by
  intro nodeId after found
  rcases step_evolves found with ⟨node, known, evolves⟩
  rw [evolves.primary.1]
  exact named nodeId node known

/-- A node that leads did so before, or the step makes it. -/
theorem leads_step
    (named : cluster.Named)
    (leads : (cluster.step action).Leads nodeId) :
    cluster.Leads nodeId ∨ Gains cluster action nodeId := by
  rcases leads with ⟨after, found, primary, quorum⟩
  rcases step_evolves found with ⟨node, known, evolves⟩
  rcases evolves.primary with ⟨sameName, outcome⟩
  have name := named nodeId node known
  rw [sameName, name] at primary
  rcases outcome with same | ⟨elects, newPrimary, elected, changed⟩
  · have claims : node.mediator.getPrimary = some nodeId :=
      same.symm.trans primary
    rcases evolves.hasQuorum quorum with before | ⟨short, revives⟩
    · refine Or.inl ⟨node, known, ?_, before⟩
      rw [claims, name]
    · exact Or.inr ⟨node, known, Or.inr ⟨claims, short, revives⟩⟩
  · have chosen := changed.symm.trans primary
    exact
      Or.inr ⟨node, known, Or.inl ⟨elects, elected.trans chosen⟩⟩

/-- No step both holds an election and brings a heartbeat. -/
theorem not_electsAt_of_revivesAt
    {other : String} {otherNode : ClusterNode}
    (revives : action.RevivesAt cluster nodeId node) :
    ¬ action.ElectsAt other otherNode := by
  rcases revives with ⟨heartbeat, arrives, _⟩
  cases action with
  | deliver index answered => exact id
  | _ => cases arrives

/-- A step makes one node lead at most. -/
theorem gains_unique
    {first second : String}
    (atFirst : Gains cluster action first)
    (atSecond : Gains cluster action second) :
    first = second := by
  rcases atFirst with ⟨_, _, ⟨elects, _⟩ | ⟨_, _, revives⟩⟩
  · rcases atSecond with ⟨_, _, ⟨others, _⟩ | ⟨_, _, others⟩⟩
    · exact electsAt_unique elects others
    · exact absurd elects (not_electsAt_of_revivesAt others)
  · rcases atSecond with ⟨_, _, ⟨others, _⟩ | ⟨_, _, others⟩⟩
    · exact absurd others (not_electsAt_of_revivesAt revives)
    · rcases revives with ⟨heartbeat, arrives, here, _⟩
      rcases others with ⟨same, again, there, _⟩
      rw [Option.mem_unique arrives again] at here
      exact here.symm.trans there

/-- An election takes place at its node and nowhere else. -/
theorem step_elects
    (known : cluster.nodes.get? nodeId = some node)
    (elects : action.ElectsAt nodeId node) :
    (∃ after tasks,
        (cluster.step action).nodes.get? nodeId = some after ∧
          after.mediator =
            { node.mediator with
              electionTasks := tasks }.initiateElection.2) ∧
      ∀ other,
        other ≠ nodeId →
          (cluster.step action).nodes.get? other =
            cluster.nodes.get? other := by
  cases action with
  | runElectionTask target =>
      rcases elects with ⟨rfl, waiting⟩
      refine
        ⟨⟨node.withMediator node.mediator.runElectionTask,
            node.mediator.electionTasks - 1, ?_, if_neg waiting⟩,
          fun other apart => Dict.get?_modify_ne _ _ apart⟩
      simp [Cluster.step, known]
  | initiateElection target =>
      cases elects
      refine
        ⟨⟨node.withMediator node.mediator.initiateElection.2,
            node.mediator.electionTasks, ?_, rfl⟩,
          fun other apart => Dict.get?_modify_ne _ _ apart⟩
      simp [Cluster.step, known]
  | checkAndFailover target callback =>
      rcases elects with ⟨rfl, down⟩
      have outcome :=
        checkAndFailover_mediator node.failover node.mediator callback
      rw [if_pos down] at outcome
      refine
        ⟨⟨node.checkAndFailover callback, node.mediator.electionTasks,
            ?_, outcome⟩,
          fun other apart => Dict.get?_modify_ne _ _ apart⟩
      simp [Cluster.step, known]
  | _ => exact elects.elim

/-- A node that has elected itself leads. -/
theorem leads_of_elected
    (named : cluster.Named)
    (known : cluster.nodes.get? nodeId = some node)
    (elects : action.ElectsAt nodeId node)
    (best : node.mediator.successor = some nodeId) :
    (cluster.step action).Leads nodeId := by
  rcases step_elects known elects with
    ⟨⟨after, tasks, reached, elected⟩, _⟩
  have name := named nodeId node known
  refine ⟨after, reached, ?_, ?_⟩
  · rw [elected, Mediator.getPrimary, initiateElection_nodeId, name]
    apply initiateElection_settled
    exact best
  · rw [elected, initiateElection_hasQuorum]
    by_contra noQuorum
    have none : node.mediator.successor = none := if_neg noQuorum
    rw [best] at none
    cases none

/-- The answer to a heartbeat decides nothing. -/
theorem leads_deliver
    {index : Nat} {answered : Bool} {heartbeat : Heartbeat}
    (arrives : cluster.inFlight[index]? = some heartbeat) :
    (cluster.step (.deliver index answered)).Leads nodeId ↔
      (cluster.modifyNode heartbeat.targetNode fun node =>
        node.withMediator
          (node.mediator.receiveHeartbeat node.clock
            heartbeat.sourceNode).2).Leads nodeId := by
  have counted :
      ∀ (current : Cluster) (target : String),
        (current.modifyNode target fun node =>
            node.withMediator node.mediator.recordAnswer).Leads nodeId ↔
          current.Leads nodeId := by
    intro current target
    simp only [Cluster.Leads, modifyNode, Dict.get?_modify]
    split
    · cases current.nodes.get? nodeId with
      | none => exact Iff.rfl
      | some node =>
          simp only [Option.map_some, Option.mem_some_iff,
            exists_eq_left']
          exact Iff.rfl
    · exact Iff.rfl
  simp only [Cluster.step, deliver, arrives]
  cases answered with
  | false => exact Iff.rfl
  | true => exact counted _ _

/-- A node that hears from the one it lacked for a quorum leads. -/
theorem leads_of_revived
    (named : cluster.Named)
    (known : cluster.nodes.get? nodeId = some node)
    (claims : node.mediator.getPrimary = some nodeId)
    (short : node.mediator.OneShort)
    (revives : action.RevivesAt cluster nodeId node) :
    (cluster.step action).Leads nodeId := by
  rcases revives with ⟨heartbeat, arrives, rfl, info, listed, failed⟩
  cases action with
  | deliver index answered =>
      rw [leads_deliver arrives]
      have name := named _ node known
      have counted :=
        @receiveHeartbeat_count _ node.clock _ _ listed
      have frame :=
        receiveHeartbeat_frame node.mediator node.clock
          heartbeat.sourceNode
      refine
        ⟨node.withMediator
            (node.mediator.receiveHeartbeat node.clock
              heartbeat.sourceNode).2,
          ?_, ?_, ?_⟩
      · simp [known]
      · show
          (node.mediator.receiveHeartbeat node.clock
              heartbeat.sourceNode).2.currentPrimary =
            some
              (node.mediator.receiveHeartbeat node.clock
                heartbeat.sourceNode).2.nodeId
        rw [frame.1, frame.2, name]
        exact claims
      · show
          (node.mediator.receiveHeartbeat node.clock
            heartbeat.sourceNode).2.hasQuorum = true
        rw [Mediator.OneShort] at short
        rw [failed] at counted
        simp only [Bool.false_eq_true, if_false] at counted
        rw [hasQuorum_iff]
        omega
  | _ => cases arrives

/-- The step makes the node lead. -/
theorem leads_of_gains
    (named : cluster.Named) (gains : Gains cluster action nodeId) :
    (cluster.step action).Leads nodeId := by
  rcases gains with
    ⟨node, known, ⟨elects, best⟩ | ⟨claims, short, revives⟩⟩
  · exact leads_of_elected named known elects best
  · exact leads_of_revived named known claims short revives

/-- And it takes the lead from no other node. -/
theorem leads_kept_of_gains
    {other : String} (gains : Gains cluster action nodeId)
    (apart : other ≠ nodeId) (leads : cluster.Leads other) :
    (cluster.step action).Leads other := by
  rcases gains with ⟨node, known, ⟨elects, _⟩ | ⟨_, _, revives⟩⟩
  · have unchanged := (step_elects known elects).2 other apart
    rw [Cluster.Leads, unchanged]
    exact leads
  · rcases revives with ⟨heartbeat, arrives, rfl, _⟩
    cases action with
    | deliver index answered =>
        rw [leads_deliver arrives, Cluster.Leads, modifyNode,
          Dict.get?_modify_ne _ _ apart]
        exact leads
    | _ => cases arrives

/-! ## Whole runs -/

/-- One step keeps a cluster free of split-brain if it is unrivalled. -/
theorem splitBrain_free_step_iff
    (named : cluster.Named) (free : ¬ cluster.SplitBrain) :
    ¬ (cluster.step action).SplitBrain ↔ Unrivalled cluster action := by
  constructor
  · intro kept nodeId gains other apart leads
    exact kept
      ⟨other, nodeId, apart, leads_kept_of_gains gains apart leads,
        leads_of_gains named gains⟩
  · rintro unrivalled ⟨first, second, apart, firstLeads, secondLeads⟩
    rcases leads_step named firstLeads with firstBefore | firstGains
    · rcases leads_step named secondLeads with
        secondBefore | secondGains
      · exact free ⟨first, second, apart, firstBefore, secondBefore⟩
      · exact unrivalled second secondGains first apart firstBefore
    · rcases leads_step named secondLeads with
        secondBefore | secondGains
      · exact unrivalled first firstGains second (Ne.symm apart)
          secondBefore
      · exact apart (gains_unique firstGains secondGains)

/-- Where all agree on the primary, no other node leads. -/
theorem splitBrain_free_of_agreeing
    {primary : String} (agreeing : Agreeing cluster primary) :
    ¬ cluster.SplitBrain := by
  have primaryOnly :
      ∀ nodeId, cluster.Leads nodeId → nodeId = primary := by
    rintro nodeId ⟨node, found, claims, _⟩
    rw [agreeing.own nodeId node found,
      agreeing.agrees nodeId node found] at claims
    exact (Option.some.inj claims).symm
  rintro ⟨first, second, apart, firstLeads, secondLeads⟩
  apply apart
  rw [primaryOnly first firstLeads, primaryOnly second secondLeads]

/--
From agreement on, no two nodes lead at the same time in any state of a run
exactly if no other node leads whenever a node elects itself, or a node that
takes itself for the primary hears from the one it lacked for a quorum.
-/
theorem split_brain_free_iff
    {primary : String} (agreeing : Agreeing cluster primary)
    (actions : List ClusterStep) :
    AllSteps Cluster.step
        (fun current action => ¬ (current.step action).SplitBrain)
        cluster actions ↔
      AllSteps Cluster.step Unrivalled cluster actions := by
  apply
    @allSteps_property_iff _ _ Cluster.step Unrivalled Cluster.Named
      fun current => ¬ current.SplitBrain
  · intro current action named _
    exact named_step named action
  · intro current action named free
    exact splitBrain_free_step_iff named free
  · exact agreeing.own
  · exact splitBrain_free_of_agreeing agreeing

end Steps

/-! ## Formed clusters -/

/-- The view of a node that knows the members and the primary. -/
def Mediator.form (members : List String) (primary nodeId : String) :
    Mediator :=
  (((members.filter (· ≠ nodeId)).foldl
    (fun mediator peer => mediator.addNode 0 peer .secondary)
    (({ nodeId := nodeId } : Mediator).registerSelf 0
      .secondary)).setPrimary primary).2

/-- A cluster whose nodes know the members and the primary. -/
def Cluster.form (members : List String) (primary : String) : Cluster where
  nodes :=
    members.foldl
      (fun nodes nodeId =>
        nodes.set nodeId
          { mediator := Mediator.form members primary nodeId })
      Dict.empty

/-- Agreement, item by item. -/
theorem agreeing_of_items
    {cluster : Cluster} {primary : String}
    (member : (cluster.nodes.get? primary).isSome)
    (items :
      ∀ item ∈ cluster.nodes.items,
        item.2.mediator.nodeId = item.1 ∧
          item.2.mediator.getPrimary = some primary ∧
          item.2.mediator.nodes.keys ⊆ cluster.nodes.keys ∧
          cluster.nodes.keys ⊆ item.2.mediator.nodes.keys ∧
          ∀ info ∈ item.2.mediator.nodes.values, info.isHealthy) :
    Agreeing cluster primary where
  member := Option.isSome_iff_exists.mp member
  own := fun nodeId node found =>
    (items (nodeId, node) (Dict.get?_eq_some_iff.mp found)).1
  agrees := fun nodeId node found =>
    (items (nodeId, node) (Dict.get?_eq_some_iff.mp found)).2.1
  full := by
    intro nodeId node other found
    rcases items (nodeId, node) (Dict.get?_eq_some_iff.mp found) with
      ⟨_, _, fewer, more, _⟩
    rw [Bool.eq_iff_iff, Dict.contains, Dict.contains,
      Option.isSome_iff_exists, Option.isSome_iff_exists,
      ← Dict.mem_keys_iff, ← Dict.mem_keys_iff]
    exact ⟨fun known => fewer known, fun known => more known⟩
  healthy := by
    intro nodeId node other info found known
    exact
      (items (nodeId, node) (Dict.get?_eq_some_iff.mp found)).2.2.2.2
        info (Dict.mem_values_iff.mpr ⟨other, known⟩)

/-- Whether a step is unrivalled can be found from the nodes there are. -/
theorem unrivalled_iff_keys {cluster : Cluster} {action : ClusterStep} :
    Unrivalled cluster action ↔
      ∀ nodeId ∈ cluster.nodes.keys,
        Gains cluster action nodeId →
          ∀ other ∈ cluster.nodes.keys,
            other ≠ nodeId → ¬ cluster.Leads other := by
  constructor
  · intro unrivalled nodeId _ gains other _ apart
    exact unrivalled nodeId gains other apart
  · intro checked nodeId gains other apart leads
    have gainer : nodeId ∈ cluster.nodes.keys := by
      rcases gains with ⟨node, found, _⟩
      exact Dict.mem_keys_iff.mpr ⟨node, found⟩
    have leader : other ∈ cluster.nodes.keys := by
      rcases leads with ⟨node, found, _⟩
      exact Dict.mem_keys_iff.mpr ⟨node, found⟩
    exact checked nodeId gainer gains other leader apart leads

instance decidableElectsAt (nodeId : String) (node : ClusterNode) :
    ∀ action : ClusterStep, Decidable (action.ElectsAt nodeId node)
  | .runElectionTask target =>
      inferInstanceAs
        (Decidable (target = nodeId ∧ node.mediator.electionTasks ≠ 0))
  | .initiateElection target =>
      inferInstanceAs (Decidable (target = nodeId))
  | .checkAndFailover target _ =>
      inferInstanceAs
        (Decidable
          (target = nodeId ∧ node.failover.state = .normal ∧
            FailoverController.primaryDown node.mediator ≠ none))
  | .elapse _ _ | .sendHeartbeat _ _ | .deliver _ _ | .lose _
  | .checkHealth _ => inferInstanceAs (Decidable False)

instance decidableLeads (cluster : Cluster) (nodeId : String) :
    Decidable (cluster.Leads nodeId) :=
  inferInstanceAs
    (Decidable (∃ node ∈ cluster.nodes.get? nodeId, _ ∧ _))

instance decidableGains (cluster : Cluster) (action : ClusterStep)
    (nodeId : String) : Decidable (Gains cluster action nodeId) :=
  inferInstanceAs
    (Decidable
      (∃ node ∈ cluster.nodes.get? nodeId,
        (action.ElectsAt nodeId node ∧
            node.mediator.successor = some nodeId) ∨
          (node.mediator.getPrimary = some nodeId ∧
            node.mediator.nodes.values.countP NodeInfo.isHealthy =
              node.mediator.nodes.items.length / 2 ∧
            ∃ heartbeat ∈ cluster.arrival? action,
              heartbeat.targetNode = nodeId ∧
                ∃ info ∈ node.mediator.nodes.get? heartbeat.sourceNode,
                  info.isHealthy = false)))

instance decidableUnrivalled (cluster : Cluster) (action : ClusterStep) :
    Decidable (Unrivalled cluster action) :=
  decidable_of_iff _ unrivalled_iff_keys.symm

/--
"a" is cut off and finds that nobody is left, "b" takes over, and "c" follows
it.
-/
def deadPrimary : List ClusterStep :=
  [.elapse "a" 6, .elapse "b" 6, .elapse "c" 6,
    .sendHeartbeat "b" "c", .deliver 0 true,
    .sendHeartbeat "c" "b", .deliver 0 true,
    .checkHealth "a", .checkHealth "b", .checkHealth "c",
    .checkAndFailover "b" (.ok ()), .runElectionTask "c",
    .elapse "c" 1, .sendHeartbeat "c" "b", .deliver 0 true]

/-- A failover away from a primary that sees no quorum is safe. -/
theorem split_brain_free_deadPrimary :
    AllSteps Cluster.step
        (fun current action => ¬ (current.step action).SplitBrain)
        (Cluster.form ["a", "b", "c"] "a") deadPrimary ∧
      (run Cluster.step (Cluster.form ["a", "b", "c"] "a")
        deadPrimary).Leads "b" := by
  have agreeing : Agreeing (Cluster.form ["a", "b", "c"] "a") "a" :=
    agreeing_of_items (by decide +kernel) (by decide +kernel)
  constructor
  · exact
      (split_brain_free_iff agreeing deadPrimary).mpr (by decide +kernel)
  · decide +kernel

/-- Heartbeats between "a" and "b" are lost, and "c" hears from both. -/
def lostLink : List ClusterStep :=
  [.elapse "a" 6, .elapse "b" 6, .elapse "c" 6,
    .sendHeartbeat "a" "b", .lose 0, .sendHeartbeat "b" "a", .lose 0,
    .sendHeartbeat "c" "a", .deliver 0 true,
    .sendHeartbeat "c" "b", .deliver 0 true,
    .checkHealth "a", .checkHealth "b", .checkAndFailover "b" (.ok ())]

/-- With the third node on its side, each of the other two leads. -/
theorem split_brain_lostLink :
    Agreeing (Cluster.form ["a", "b", "c"] "a") "a" ∧
      (run Cluster.step (Cluster.form ["a", "b", "c"] "a")
        lostLink).SplitBrain := by
  constructor
  · exact agreeing_of_items (by decide +kernel) (by decide +kernel)
  · exact ⟨"a", "b", by decide, by decide +kernel, by decide +kernel⟩

end StorageAppliance.ActiveCluster
