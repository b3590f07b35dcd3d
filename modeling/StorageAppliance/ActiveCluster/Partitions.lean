import Mathlib.Data.Finset.Card
import Mathlib.Tactic.Linarith
import StorageAppliance.ActiveCluster.ContestedElections
import StorageAppliance.ActiveCluster.Elections

/-!
# Failure detection and network partitions

A node judges the others by the heartbeats it got.  `health_after_check` says
that a health check judges exactly: right after it a node holds another for
healthy if and only if it got a heartbeat from it within the failure threshold.
This rests on clocks that do not go back.

When the network falls apart into sides, a node that checks the health of the
others after more than the failure threshold gives up all other sides.  A
quorum of its view is then a majority of its own side, and two sides are never
majorities of one membership.  Before that check both sides can have quorum, and
`contested_election_splits` shows that no such protection exists inside a side.
-/

namespace StorageAppliance.ActiveCluster

open StorageAppliance.Library
open Cluster

/-- How far a step moves the clock of a node. -/
def ClusterStep.elapsed (nodeId : String) : ClusterStep → ℚ
  | .elapse target seconds => if nodeId = target then seconds else 0
  | _ => 0

/-- The step turns no clock back. -/
def ClusterStep.Forward : ClusterStep → Prop
  | .elapse _ seconds => 0 ≤ seconds
  | _ => True

/-- The node has heard nothing since the time for more than the threshold. -/
def ClusterNode.Overdue (node : ClusterNode) (time : ℚ) : Prop :=
  (node.clock - time) * 1000 > node.mediator.failureThresholdMs

theorem ClusterStep.Forward.elapsed_nonneg
    {action : ClusterStep} (forward : action.Forward) (nodeId : String) :
    0 ≤ action.elapsed nodeId := by
  cases action with
  | elapse target seconds =>
      simp only [ClusterStep.elapsed]
      split
      · exact forward
      · exact le_refl 0
  | _ => exact le_refl 0

/-! ## One record -/

/-- What a step can do to the record that a node keeps of another. -/
inductive Records (cluster : Cluster) (action : ClusterStep)
    (nodeId other : String) (node : ClusterNode) (before : NodeInfo) :
    NodeInfo → Prop where
  | kept {after : NodeInfo}
      (unheard : ¬ Hears cluster action nodeId other)
      (trusted :
        action = .checkHealth nodeId →
          node.mediator.hasFailed node.clock other before = false)
      (time : after.lastHeartbeat = before.lastHeartbeat)
      (health : after.isHealthy = before.isHealthy) :
      Records cluster action nodeId other node before after
  | heard {after : NodeInfo}
      (hears : Hears cluster action nodeId other)
      (time : after.lastHeartbeat = node.clock)
      (health : after.isHealthy = true) :
      Records cluster action nodeId other node before after
  | doubted {after : NodeInfo}
      (unheard : ¬ Hears cluster action nodeId other)
      (failed :
        node.mediator.hasFailed node.clock other before = true)
      (time : after.lastHeartbeat = before.lastHeartbeat)
      (health : after.isHealthy = false) :
      Records cluster action nodeId other node before after

/-- What a step can do to a node. -/
structure NodeStep (cluster : Cluster) (action : ClusterStep)
    (nodeId : String) (node after : ClusterNode) : Prop where
  clock : after.clock = node.clock + action.elapsed nodeId
  threshold :
    after.mediator.failureThresholdMs = node.mediator.failureThresholdMs
  records :
    ∀ other info,
      after.mediator.nodes.get? other = some info →
        ∃ before,
          node.mediator.nodes.get? other = some before ∧
            Records cluster action nodeId other node before info

/-- The mediator still holds what it held about each node. -/
structure SameRecords (before after : Mediator) : Prop where
  threshold : after.failureThresholdMs = before.failureThresholdMs
  records :
    ∀ other info,
      after.nodes.get? other = some info →
        ∃ earlier,
          before.nodes.get? other = some earlier ∧
            info.lastHeartbeat = earlier.lastHeartbeat ∧
              info.isHealthy = earlier.isHealthy

section Frames

variable {mediator : Mediator}

theorem SameRecords.refl (mediator : Mediator) :
    SameRecords mediator mediator where
  threshold := rfl
  records := fun _ info known => ⟨info, known, rfl, rfl⟩

theorem assignRole_lastHeartbeat (info : NodeInfo) (isPrimary : Bool) :
    (info.assignRole isPrimary).lastHeartbeat = info.lastHeartbeat := by
  rw [NodeInfo.assignRole]
  split
  · rfl
  · split <;> rfl

/-- An election leaves times and health alone. -/
theorem sameRecords_initiateElection (mediator : Mediator) :
    SameRecords mediator mediator.initiateElection.2 := by
  rw [Mediator.initiateElection]
  split
  · cases mediator.bestCandidate with
    | none =>
        exact
          { threshold := rfl
            records := (SameRecords.refl mediator).records }
    | some newPrimary =>
        refine { threshold := rfl, records := ?_ }
        intro other info known
        simp only [Dict.get?_mapValues] at known
        rcases Option.map_eq_some_iff.mp known with ⟨earlier, found, rfl⟩
        exact
          ⟨earlier, found, assignRole_lastHeartbeat earlier _,
            assignRole_isHealthy earlier _⟩
  · exact SameRecords.refl mediator

theorem sameRecords_runElectionTask (mediator : Mediator) :
    SameRecords mediator mediator.runElectionTask := by
  rw [Mediator.runElectionTask]
  split
  · exact SameRecords.refl mediator
  · have held :=
      sameRecords_initiateElection
        { mediator with electionTasks := mediator.electionTasks - 1 }
    exact { threshold := held.threshold, records := held.records }

end Frames

section Steps

variable
    {cluster : Cluster}
    {action : ClusterStep}
    {nodeId : String}
    {node after : ClusterNode}

/-- A step that leaves the records alone hears nothing and doubts nobody. -/
theorem nodeStep_of_sameRecords
    (clock : after.clock = node.clock + action.elapsed nodeId)
    (same : SameRecords node.mediator after.mediator)
    (unheard : ∀ other, ¬ Hears cluster action nodeId other)
    (unchecked : action ≠ .checkHealth nodeId) :
    NodeStep cluster action nodeId node after where
  clock := clock
  threshold := same.threshold
  records := by
    intro other info known
    rcases same.records other info known with ⟨before, found, time, health⟩
    exact
      ⟨before, found,
        .kept (unheard other) (fun checks => absurd checks unchecked) time
          health⟩

/-- A heartbeat that reaches its target. -/
theorem nodeStep_received
    {index : Nat} {answered : Bool} {heartbeat : Heartbeat}
    (arrives : cluster.inFlight[index]? = some heartbeat)
    (target : heartbeat.targetNode = nodeId) :
    NodeStep cluster (.deliver index answered) nodeId node
      (node.withMediator
        (node.mediator.receiveHeartbeat node.clock
          heartbeat.sourceNode).2) := by
  refine { clock := ?_, threshold := ?_, records := ?_ }
  · exact (add_zero node.clock).symm
  · show
      (node.mediator.receiveHeartbeat node.clock
          heartbeat.sourceNode).2.failureThresholdMs = _
    rw [Mediator.receiveHeartbeat]
    split <;> rfl
  · intro other info known
    have heardOnly :
        Hears cluster (.deliver index answered) nodeId other ↔
          heartbeat.sourceNode = other := by
      constructor
      · rintro ⟨found, member, _, same⟩
        rw [Option.mem_def, Cluster.arrival?, arrives] at member
        rw [Option.some.inj member, same]
      · intro same
        exact ⟨heartbeat, arrives, target, same⟩
    simp only [ClusterNode.withMediator, Mediator.receiveHeartbeat] at known
    split at known
    · simp only [Dict.get?_modify] at known
      split at known
      · rename_i same
        rcases Option.map_eq_some_iff.mp known with ⟨before, found, rfl⟩
        exact
          ⟨before, found, .heard (heardOnly.mpr same.symm) rfl rfl⟩
      · rename_i apart
        refine ⟨info, known, .kept ?_ ?_ rfl rfl⟩
        · intro hears
          exact apart (heardOnly.mp hears).symm
        · intro checks
          cases checks
    · rename_i absent
      refine ⟨info, known, .kept ?_ ?_ rfl rfl⟩
      · intro hears
        rw [heardOnly.mp hears, known] at absent
        cases absent
      · intro checks
        cases checks

/-- A health check doubts the nodes that have failed. -/
theorem nodeStep_checked :
    NodeStep cluster (.checkHealth nodeId) nodeId node
      (node.withMediator
        (node.mediator.checkNodeHealth node.clock)) := by
  refine { clock := ?_, threshold := rfl, records := ?_ }
  · exact (add_zero node.clock).symm
  · intro other info known
    simp only [ClusterNode.withMediator, Mediator.checkNodeHealth,
      Dict.get?_mapValues] at known
    rcases Option.map_eq_some_iff.mp known with ⟨before, found, changed⟩
    refine ⟨before, found, ?_⟩
    split at changed
    · rename_i failed
      rw [← changed]
      exact .doubted (unheard_of_none rfl) failed rfl rfl
    · rename_i trusted
      rw [← changed]
      exact
        .kept (unheard_of_none rfl)
          (fun _ => Bool.not_eq_true _ ▸ trusted) rfl rfl

/-- A step elsewhere. -/
theorem nodeStep_idle
    (still : action.elapsed nodeId = 0)
    (unheard : ∀ other, ¬ Hears cluster action nodeId other)
    (unchecked : action ≠ .checkHealth nodeId) :
    NodeStep cluster action nodeId node node :=
  nodeStep_of_sameRecords (by rw [still, add_zero]) (SameRecords.refl _)
    unheard unchecked

/-- Counting an answer changes nothing else. -/
theorem NodeStep.answered
    (step : NodeStep cluster action nodeId node after) :
    NodeStep cluster action nodeId node
      (after.withMediator after.mediator.recordAnswer) where
  clock := step.clock
  threshold := step.threshold
  records := step.records

theorem deliver_nodeStep
    {index : Nat} {answered : Bool}
    (found :
      (cluster.deliver index answered).nodes.get? nodeId = some after) :
    ∃ node,
      cluster.nodes.get? nodeId = some node ∧
        NodeStep cluster (.deliver index answered) nodeId node after := by
  have received :
      ∀ {heartbeat : Heartbeat} {middle : ClusterNode},
        cluster.inFlight[index]? = some heartbeat →
          (cluster.modifyNode heartbeat.targetNode fun node =>
              node.withMediator
                (node.mediator.receiveHeartbeat node.clock
                  heartbeat.sourceNode).2).nodes.get? nodeId =
              some middle →
            ∃ node,
              cluster.nodes.get? nodeId = some node ∧
                NodeStep cluster (.deliver index answered) nodeId node
                  middle := by
    intro heartbeat middle arrives reached
    simp only [modifyNode, Dict.get?_modify] at reached
    split at reached
    · rename_i here
      rcases Option.map_eq_some_iff.mp reached with ⟨node, known, rfl⟩
      exact ⟨node, known, nodeStep_received arrives here.symm⟩
    · rename_i elsewhere
      refine ⟨middle, reached, nodeStep_idle rfl ?_ ?_⟩
      · rintro other ⟨same, member, target, _⟩
        rw [Option.mem_def, Cluster.arrival?, arrives] at member
        rw [← Option.some.inj member] at target
        exact elsewhere target.symm
      · intro checks
        cases checks
  rw [deliver] at found
  split at found
  · rename_i nothing
    refine ⟨after, found, nodeStep_idle rfl ?_ ?_⟩
    · exact fun _ => unheard_of_none nothing
    · intro checks
      cases checks
  · rename_i heartbeat arrives
    split at found
    · rcases modifyNode_get? found with ⟨middle, reached, changed⟩
      rcases received arrives reached with ⟨node, known, step⟩
      refine ⟨node, known, ?_⟩
      rcases changed with rfl | ⟨_, rfl⟩
      · exact step
      · exact step.answered
    · exact received arrives found

/-- Every node of the next state comes from a node of this one. -/
theorem step_nodeStep
    (found : (cluster.step action).nodes.get? nodeId = some after) :
    ∃ node,
      cluster.nodes.get? nodeId = some node ∧
        NodeStep cluster action nodeId node after := by
  cases action with
  | elapse target seconds =>
      simp only [Cluster.step, modifyNode, Dict.get?_modify] at found
      split at found
      · rename_i here
        rcases Option.map_eq_some_iff.mp found with ⟨node, known, rfl⟩
        refine
          ⟨node, known,
            nodeStep_of_sameRecords ?_ (SameRecords.refl _) ?_ ?_⟩
        · show node.clock + seconds = _
          rw [ClusterStep.elapsed, if_pos here]
        · exact fun _ => unheard_of_none rfl
        · exact ClusterStep.noConfusion
      · rename_i elsewhere
        refine ⟨after, found, nodeStep_idle (if_neg elsewhere) ?_ ?_⟩
        · exact fun _ => unheard_of_none rfl
        · exact ClusterStep.noConfusion
  | sendHeartbeat sourceNode targetNode =>
      simp only [Cluster.step] at found
      split at found
      all_goals
        refine ⟨after, found, nodeStep_idle rfl (fun _ => unheard_of_none rfl) ?_⟩
        exact ClusterStep.noConfusion
  | deliver index answered => exact deliver_nodeStep found
  | lose index =>
      refine ⟨after, found, nodeStep_idle rfl (fun _ => unheard_of_none rfl) ?_⟩
      exact ClusterStep.noConfusion
  | checkHealth target =>
      simp only [Cluster.step, modifyNode, Dict.get?_modify] at found
      split at found
      · rename_i here
        rcases Option.map_eq_some_iff.mp found with ⟨node, known, rfl⟩
        subst here
        exact ⟨node, known, nodeStep_checked⟩
      · rename_i elsewhere
        refine ⟨after, found, nodeStep_idle rfl (fun _ => unheard_of_none rfl) ?_⟩
        rintro ⟨⟩
        exact elsewhere rfl
  | runElectionTask target =>
      rcases modifyNode_get? found with ⟨node, known, rfl | ⟨_, rfl⟩⟩
      · refine ⟨after, known, nodeStep_idle rfl (fun _ => unheard_of_none rfl) ?_⟩
        exact ClusterStep.noConfusion
      · refine
          ⟨node, known,
            nodeStep_of_sameRecords (add_zero node.clock).symm
              (sameRecords_runElectionTask node.mediator)
              (fun _ => unheard_of_none rfl) ?_⟩
        exact ClusterStep.noConfusion
  | initiateElection target =>
      rcases modifyNode_get? found with ⟨node, known, rfl | ⟨_, rfl⟩⟩
      · refine ⟨after, known, nodeStep_idle rfl (fun _ => unheard_of_none rfl) ?_⟩
        exact ClusterStep.noConfusion
      · refine
          ⟨node, known,
            nodeStep_of_sameRecords (add_zero node.clock).symm
              (sameRecords_initiateElection node.mediator)
              (fun _ => unheard_of_none rfl) ?_⟩
        exact ClusterStep.noConfusion
  | checkAndFailover target callback =>
      rcases modifyNode_get? found with ⟨node, known, rfl | ⟨_, rfl⟩⟩
      · refine ⟨after, known, nodeStep_idle rfl (fun _ => unheard_of_none rfl) ?_⟩
        exact ClusterStep.noConfusion
      · refine
          ⟨node, known,
            nodeStep_of_sameRecords (add_zero node.clock).symm ?_
              (fun _ => unheard_of_none rfl) ?_⟩
        · show
            SameRecords node.mediator
              (node.failover.checkAndFailover node.mediator callback).2.2
          rw [checkAndFailover_mediator]
          split
          · exact sameRecords_initiateElection node.mediator
          · exact SameRecords.refl node.mediator
        · exact ClusterStep.noConfusion

end Steps

/-! ## Exact failure detection -/

/-- A heartbeat from the other node reaches the node at this local time. -/
def HeardAt (nodeId other : String) (time : ℚ) :
    Cluster → List ClusterStep → Prop
  | _, [] => False
  | cluster, action :: rest =>
      (Hears cluster action nodeId other ∧
          ∃ node ∈ cluster.nodes.get? nodeId, node.clock = time) ∨
        HeardAt nodeId other time (cluster.step action) rest

/--
Nodes know their names.  What they recorded is past, and they only doubt nodes
that are overdue.
-/
structure Recorded (cluster : Cluster) : Prop where
  own :
    ∀ nodeId node,
      cluster.nodes.get? nodeId = some node →
        node.mediator.nodeId = nodeId
  past :
    ∀ nodeId node other info,
      cluster.nodes.get? nodeId = some node →
        node.mediator.nodes.get? other = some info →
          info.lastHeartbeat ≤ node.clock
  overdue :
    ∀ nodeId node other info,
      cluster.nodes.get? nodeId = some node →
        node.mediator.nodes.get? other = some info →
          info.isHealthy = false →
            node.Overdue info.lastHeartbeat

section Detection

variable
    {cluster : Cluster}
    {action : ClusterStep}
    {nodeId other : String}
    {node after : ClusterNode}

/-- A failed node is another one, and overdue. -/
theorem hasFailed_iff {info : NodeInfo} :
    node.mediator.hasFailed node.clock other info = true ↔
      other ≠ node.mediator.nodeId ∧ node.Overdue info.lastHeartbeat ∧
        info.isHealthy = true := by
  simp only [Mediator.hasFailed, ClusterNode.Overdue, Bool.and_eq_true,
    decide_eq_true_eq, and_assoc]

/-- While the clock goes on, an overdue node stays so. -/
theorem overdue_step
    (forward : action.Forward)
    (step : NodeStep cluster action nodeId node after)
    {time : ℚ} (overdue : node.Overdue time) :
    after.Overdue time := by
  have elapsed := forward.elapsed_nonneg nodeId
  have before : (node.clock - time) * 1000 > node.mediator.failureThresholdMs :=
    overdue
  show (after.clock - time) * 1000 > after.mediator.failureThresholdMs
  rw [step.clock, step.threshold]
  linarith

/-- Fresh records are in order. -/
theorem recorded_of_items
    (items :
      ∀ item ∈ cluster.nodes.items,
        item.2.mediator.nodeId = item.1 ∧
          ∀ info ∈ item.2.mediator.nodes.values,
            info.isHealthy = true ∧ info.lastHeartbeat ≤ item.2.clock) :
    Recorded cluster where
  own := fun nodeId node found =>
    (items (nodeId, node) (Dict.get?_eq_some_iff.mp found)).1
  past := by
    intro nodeId node other info found known
    have fresh :=
      (items (nodeId, node) (Dict.get?_eq_some_iff.mp found)).2 info
        (Dict.mem_values_iff.mpr ⟨other, known⟩)
    exact fresh.2
  overdue := by
    intro nodeId node other info found known silent
    have fresh :=
      (items (nodeId, node) (Dict.get?_eq_some_iff.mp found)).2 info
        (Dict.mem_values_iff.mpr ⟨other, known⟩)
    rw [fresh.1] at silent
    cases silent

/-- Clocks that do not go back keep the records in order. -/
theorem heartbeatsRecorded_step
    (recorded : Recorded cluster) (forward : action.Forward) :
    Recorded (cluster.step action) where
  own := by
    intro nodeId after found
    rcases step_evolves found with ⟨node, known, evolves⟩
    rw [evolves.primary.1]
    exact recorded.own nodeId node known
  past := by
    intro nodeId after other info found known
    rcases step_nodeStep found with ⟨node, before, step⟩
    rcases step.records other info known with ⟨earlier, held, changes⟩
    have elapsed := forward.elapsed_nonneg nodeId
    have past := recorded.past nodeId node other earlier before held
    rw [step.clock]
    cases changes with
    | kept _ _ time _ =>
        rw [time]
        linarith
    | heard _ time _ =>
        rw [time]
        linarith
    | doubted _ _ time _ =>
        rw [time]
        linarith
  overdue := by
    intro nodeId after other info found known silent
    rcases step_nodeStep found with ⟨node, before, step⟩
    rcases step.records other info known with ⟨earlier, held, changes⟩
    apply overdue_step forward step
    cases changes with
    | kept _ _ time health =>
        rw [time]
        rw [health] at silent
        exact recorded.overdue nodeId node other earlier before held silent
    | heard _ _ health =>
        rw [health] at silent
        cases silent
    | doubted _ failed time _ =>
        rw [time]
        exact (hasFailed_iff.mp failed).2.1

/-- The records stay in order along every run. -/
theorem heartbeatsRecorded_run
    (recorded : Recorded cluster) {actions : List ClusterStep}
    (forward : ∀ action ∈ actions, action.Forward) :
    Recorded (run Cluster.step cluster actions) := by
  apply run_invariant_of_allowed _ recorded forward
  intro state action held goesOn
  exact heartbeatsRecorded_step held goesOn

/-- The record of the last heartbeat that the node got. -/
structure LastHeard (cluster : Cluster) (actions : List ClusterStep)
    (nodeId other : String) (initial last : ℚ) : Prop where
  origin : last = initial ∨ HeardAt nodeId other last cluster actions
  initially : initial ≤ last
  latest :
    ∀ time, HeardAt nodeId other time cluster actions → time ≤ last

/-- A run records when the node last heard from the other. -/
theorem lastHeard_run
    (recorded : Recorded cluster) {actions : List ClusterStep}
    (forward : ∀ action ∈ actions, action.Forward)
    (found :
      (run Cluster.step cluster actions).nodes.get? nodeId = some after)
    {info : NodeInfo}
    (known : after.mediator.nodes.get? other = some info) :
    ∃ node initial,
      cluster.nodes.get? nodeId = some node ∧
        node.mediator.nodes.get? other = some initial ∧
          LastHeard cluster actions nodeId other initial.lastHeartbeat
            info.lastHeartbeat := by
  induction actions generalizing cluster with
  | nil =>
      refine
        ⟨after, info, found, known,
          { origin := Or.inl rfl
            initially := le_refl _
            latest := ?_ }⟩
      intro time heard
      exact heard.elim
  | cons action rest induction =>
      have first : action.Forward := forward action (by simp)
      have later : ∀ action ∈ rest, action.Forward :=
        fun action member => forward action (by simp [member])
      rcases induction (heartbeatsRecorded_step recorded first) later found with
        ⟨middle, between, reached, held, lastHeard⟩
      rcases step_nodeStep reached with ⟨node, before, step⟩
      rcases step.records other between held with
        ⟨initial, initially, changes⟩
      have past := recorded.past nodeId node other initial before initially
      refine ⟨node, initial, before, initially, ?_⟩
      have clockAt :
          ∀ {time : ℚ},
            (∃ node ∈ cluster.nodes.get? nodeId, node.clock = time) →
              node.clock = time := by
        rintro time ⟨same, member, clock⟩
        rw [Option.mem_def, before] at member
        rw [Option.some.inj member, clock]
      -- Only a heartbeat of this step moves the record before the rest.
      have unmoved :
          ¬ Hears cluster action nodeId other →
            between.lastHeartbeat = initial.lastHeartbeat →
              LastHeard cluster (action :: rest) nodeId other
                initial.lastHeartbeat info.lastHeartbeat := by
        intro unheard same
        rw [same] at lastHeard
        refine
          { origin := ?_
            initially := lastHeard.initially
            latest := ?_ }
        · rcases lastHeard.origin with first | heard
          · exact Or.inl first
          · exact Or.inr (Or.inr heard)
        · rintro time (⟨hears, _⟩ | heard)
          · exact absurd hears unheard
          · exact lastHeard.latest time heard
      cases changes with
      | kept unheard _ time _ => exact unmoved unheard time
      | heard hears time _ =>
          rw [time] at lastHeard
          refine
            { origin := ?_
              initially := le_trans past lastHeard.initially
              latest := ?_ }
          · rcases lastHeard.origin with first | heard
            · exact Or.inr (Or.inl ⟨hears, node, before, first.symm⟩)
            · exact Or.inr (Or.inr heard)
          · rintro time (⟨_, now⟩ | heard)
            · rw [← clockAt now]
              exact lastHeard.initially
            · exact lastHeard.latest time heard
      | doubted unheard _ time _ => exact unmoved unheard time

/-- Right after a health check, doubt is the same as being overdue. -/
theorem checked_isHealthy_iff
    (recorded : Recorded cluster)
    (found :
      (cluster.step (.checkHealth nodeId)).nodes.get? nodeId =
        some after)
    {info : NodeInfo}
    (known : after.mediator.nodes.get? other = some info)
    (apart : other ≠ nodeId) :
    info.isHealthy = true ↔ ¬ after.Overdue info.lastHeartbeat := by
  rcases step_nodeStep found with ⟨node, before, step⟩
  rcases step.records other info known with ⟨earlier, held, changes⟩
  have name := recorded.own nodeId node before
  have same :
      ∀ time, after.Overdue time ↔ node.Overdue time := by
    intro time
    have still :
        ClusterStep.elapsed nodeId (.checkHealth nodeId) = 0 :=
      rfl
    rw [ClusterNode.Overdue, ClusterNode.Overdue, step.clock,
      step.threshold, still, add_zero]
  rw [same]
  cases changes with
  | kept _ trusted time health =>
      have trusts := Bool.eq_false_iff.mp (trusted rfl)
      rw [health, time]
      constructor
      · intro healthy overdue
        exact
          trusts
            (hasFailed_iff.mpr ⟨name ▸ apart, overdue, healthy⟩)
      · intro recent
        by_contra doubted
        exact
          recent
            (recorded.overdue nodeId node other earlier before held
              (Bool.not_eq_true _ ▸ doubted))
  | heard hears _ _ => exact (unheard_of_none rfl hears).elim
  | doubted _ failed time health =>
      rw [health, time]
      have overdue := (hasFailed_iff.mp failed).2.1
      simp only [Bool.false_eq_true, overdue, not_true_eq_false]

/--
Right after a health check a node holds another for healthy exactly if its
record at the start is not overdue, or the run brought it a heartbeat that is
not.
-/
theorem health_after_check
    (recorded : Recorded cluster) {actions : List ClusterStep}
    (forward : ∀ action ∈ actions, action.Forward)
    {initial info : NodeInfo}
    (start : cluster.nodes.get? nodeId = some node)
    (initially : node.mediator.nodes.get? other = some initial)
    (apart : other ≠ nodeId)
    (found :
      (run Cluster.step cluster
        (actions ++ [.checkHealth nodeId])).nodes.get? nodeId = some after)
    (known : after.mediator.nodes.get? other = some info) :
    info.isHealthy = true ↔
      ¬ after.Overdue initial.lastHeartbeat ∨
        ∃ time,
          HeardAt nodeId other time cluster actions ∧
            ¬ after.Overdue time := by
  have reached := heartbeatsRecorded_run recorded forward
  have checked :
      ((run Cluster.step cluster actions).step
          (.checkHealth nodeId)).nodes.get? nodeId = some after := by
    rw [run_append] at found
    exact found
  rw [checked_isHealthy_iff reached checked known apart]
  rcases step_nodeStep checked with ⟨middle, between, step⟩
  rcases step.records other info known with ⟨last, held, changes⟩
  have unmoved : info.lastHeartbeat = last.lastHeartbeat := by
    cases changes with
    | kept _ _ time _ => exact time
    | heard hears _ _ => exact (unheard_of_none rfl hears).elim
    | doubted _ _ time _ => exact time
  rcases lastHeard_run recorded forward between held with
    ⟨same, first, sameNode, sameInfo, lastHeard⟩
  rw [start] at sameNode
  cases sameNode
  rw [initially] at sameInfo
  cases sameInfo
  rw [unmoved]
  -- A later time is overdue only if every earlier one is.
  have earlierOverdue :
      ∀ {time : ℚ},
        time ≤ last.lastHeartbeat →
          after.Overdue last.lastHeartbeat → after.Overdue time := by
    intro time earlier overdue
    have late :
        (after.clock - last.lastHeartbeat) * 1000 >
          after.mediator.failureThresholdMs :=
      overdue
    show (after.clock - time) * 1000 > after.mediator.failureThresholdMs
    linarith
  constructor
  · intro recent
    rcases lastHeard.origin with same | heard
    · left
      rw [← same]
      exact recent
    · exact Or.inr ⟨last.lastHeartbeat, heard, recent⟩
  · rintro (recent | ⟨time, heard, recent⟩) overdue
    · exact recent (earlierOverdue lastHeard.initially overdue)
    · exact recent (earlierOverdue (lastHeard.latest time heard) overdue)

end Detection

/-- A cluster of three nodes that agree on their primary. -/
def threeNodes : Cluster :=
  Cluster.form ["a", "b", "c"] "a"

theorem recorded_threeNodes : Recorded threeNodes :=
  recorded_of_items (by decide +kernel)

/-- "a" hears from "b" but not from "c", and checks four seconds later. -/
def oneHeartbeat : List ClusterStep :=
  [.elapse "a" 2, .sendHeartbeat "b" "a", .deliver 0 true,
    .elapse "a" 4]

/-- Then "a" holds "b" for healthy, and it is right to do so. -/
theorem health_after_check_oneHeartbeat :
    ∃ node initial after info,
      threeNodes.nodes.get? "a" = some node ∧
        node.mediator.nodes.get? "b" = some initial ∧
        (run Cluster.step threeNodes
            (oneHeartbeat ++ [.checkHealth "a"])).nodes.get? "a" =
          some after ∧
        after.mediator.nodes.get? "b" = some info ∧
        info.isHealthy = true ∧
        (info.isHealthy = true ↔
          ¬ after.Overdue initial.lastHeartbeat ∨
            ∃ time,
              HeardAt "a" "b" time threeNodes oneHeartbeat ∧
                ¬ after.Overdue time) := by
  have forward : ∀ action ∈ oneHeartbeat, action.Forward := by
    simp [oneHeartbeat, ClusterStep.Forward]
  refine
    ⟨_, _, _, _, rfl, rfl, rfl, rfl, by decide +kernel, ?_⟩
  exact
    health_after_check recorded_threeNodes forward rfl rfl (by decide) rfl
      rfl

/-! ## Partitions -/

/-- No heartbeat crosses from one side to another. -/
def Separates {Side : Type} (side : String → Side) (cluster : Cluster)
    (action : ClusterStep) : Prop :=
  ∀ heartbeat ∈ cluster.arrival? action,
    side heartbeat.targetNode = side heartbeat.sourceNode

instance {Side : Type} [DecidableEq Side] (side : String → Side)
    (cluster : Cluster) (action : ClusterStep) :
    Decidable (Separates side cluster action) :=
  inferInstanceAs
    (Decidable
      (∀ heartbeat ∈ cluster.arrival? action,
        side heartbeat.targetNode = side heartbeat.sourceNode))

/--
The node checks the health of the others when its clock has gone on by more than
the failure threshold.
-/
def Detects (cluster : Cluster) (actions : List ClusterStep)
    (nodeId : String) : Prop :=
  ∃ earlier later node current,
    actions = earlier ++ .checkHealth nodeId :: later ∧
      cluster.nodes.get? nodeId = some node ∧
        (run Cluster.step cluster earlier).nodes.get? nodeId =
            some current ∧
          current.Overdue node.clock

/-- The node sees a quorum. -/
def Cluster.HasQuorum (cluster : Cluster) (nodeId : String) : Prop :=
  ∃ node ∈ cluster.nodes.get? nodeId, node.mediator.hasQuorum = true

/-- The members of the cluster. -/
def Cluster.members (cluster : Cluster) : Finset String :=
  cluster.nodes.keys.toFinset

section Sides

variable
    {Side : Type}
    {side : String → Side}
    {cluster : Cluster}
    {action : ClusterStep}
    {nodeId : String}

/-- What the node knows of the other sides is from before a time. -/
def Silent (side : String → Side) (nodeId : String) (time : ℚ)
    (cluster : Cluster) : Prop :=
  ∀ node other info,
    cluster.nodes.get? nodeId = some node →
      node.mediator.nodes.get? other = some info →
        side other ≠ side nodeId →
          info.lastHeartbeat ≤ time

/-- The node holds nobody on the other sides for healthy. -/
def GivesUp (side : String → Side) (nodeId : String)
    (cluster : Cluster) : Prop :=
  ∀ node other info,
    cluster.nodes.get? nodeId = some node →
      node.mediator.nodes.get? other = some info →
        side other ≠ side nodeId →
          info.isHealthy = false

theorem Separates.hears
    {other : String}
    (separates : Separates side cluster action)
    (hears : Hears cluster action nodeId other) :
    side nodeId = side other := by
  rcases hears with ⟨heartbeat, arrives, rfl, rfl⟩
  exact separates heartbeat arrives

theorem silent_step
    {time : ℚ}
    (silent : Silent side nodeId time cluster)
    (separates : Separates side cluster action) :
    Silent side nodeId time (cluster.step action) := by
  intro after other info found known across
  rcases step_nodeStep found with ⟨node, before, step⟩
  rcases step.records other info known with ⟨earlier, held, changes⟩
  have bound := silent node other earlier before held across
  cases changes with
  | kept _ _ same _ => exact same ▸ bound
  | heard hears _ _ =>
      exact absurd (separates.hears hears).symm across
  | doubted _ _ same _ => exact same ▸ bound

theorem givesUp_step
    (givesUp : GivesUp side nodeId cluster)
    (separates : Separates side cluster action) :
    GivesUp side nodeId (cluster.step action) := by
  intro after other info found known across
  rcases step_nodeStep found with ⟨node, before, step⟩
  rcases step.records other info known with ⟨earlier, held, changes⟩
  cases changes with
  | kept _ _ _ same =>
      exact same.trans (givesUp node other earlier before held across)
  | heard hears _ _ =>
      exact absurd (separates.hears hears).symm across
  | doubted _ _ _ health => exact health

/-- A late health check gives up the other sides. -/
theorem givesUp_checkHealth
    {time : ℚ}
    (recorded : Recorded cluster)
    (silent : Silent side nodeId time cluster)
    (late :
      ∀ node ∈ cluster.nodes.get? nodeId, node.Overdue time) :
    GivesUp side nodeId (cluster.step (.checkHealth nodeId)) := by
  intro after other info found known across
  have apart : other ≠ nodeId := by
    rintro rfl
    exact across rfl
  rcases step_nodeStep found with ⟨node, before, step⟩
  have nobody : Separates side cluster (.checkHealth nodeId) := by
    rintro heartbeat ⟨⟩
  have bound :=
    silent_step silent nobody after other info found known across
  have overdue : after.Overdue info.lastHeartbeat := by
    have lateHere : (node.clock - time) * 1000 >
        node.mediator.failureThresholdMs :=
      late node before
    have still :
        ClusterStep.elapsed nodeId (.checkHealth nodeId) = 0 :=
      rfl
    rw [ClusterNode.Overdue, step.clock, step.threshold, still, add_zero]
    linarith
  have judged := checked_isHealthy_iff recorded found known apart
  rw [Bool.eq_false_iff, ne_eq, judged, not_not]
  exact overdue

/-- A node that detects the partition has given up the other sides. -/
theorem givesUp_of_detects
    (recorded : Recorded cluster) {actions : List ClusterStep}
    (forward : ∀ action ∈ actions, action.Forward)
    (separated : AllSteps Cluster.step (Separates side) cluster actions)
    (detects : Detects cluster actions nodeId) :
    GivesUp side nodeId (run Cluster.step cluster actions) := by
  rcases detects with
    ⟨earlier, later, node, current, rfl, start, between, overdue⟩
  rcases allSteps_append.mp separated with ⟨first, _, second⟩
  have silentAtStart : Silent side nodeId node.clock cluster := by
    intro same other info found known _
    rw [start] at found
    cases found
    exact recorded.past nodeId node other info start known
  have silent :
      Silent side nodeId node.clock
        (run Cluster.step cluster earlier) := by
    apply run_invariant _ silentAtStart first
    intro state action held separates
    exact silent_step held separates
  have reached : Recorded (run Cluster.step cluster earlier) :=
    heartbeatsRecorded_run recorded fun action member =>
      forward action (by simp [member])
  have checked :=
    givesUp_checkHealth reached silent (by
      intro same found
      rw [Option.mem_def, between] at found
      exact Option.some.inj found ▸ overdue)
  rw [run_append, run_cons]
  apply run_invariant _ checked second
  intro state action held separates
  exact givesUp_step held separates

/-- The view of a connected node has the members of the cluster. -/
theorem view_members
    (connected : Connected cluster) {node : ClusterNode}
    (found : cluster.nodes.get? nodeId = some node) :
    node.mediator.nodes.keys.toFinset = cluster.members := by
  ext other
  have same := connected.full nodeId node other found
  rw [Dict.contains, Dict.contains, Bool.eq_iff_iff,
    Option.isSome_iff_exists, Option.isSome_iff_exists,
    ← Dict.mem_keys_iff, ← Dict.mem_keys_iff] at same
  rw [Cluster.members, List.mem_toFinset, List.mem_toFinset]
  exact same

/-- The members that a view holds for healthy, counted. -/
theorem card_healthy (nodes : Dict String NodeInfo) :
    ((nodes.items.filter fun item => item.2.isHealthy).map
        Prod.fst).toFinset.card =
      nodes.values.countP NodeInfo.isHealthy := by
  have distinct :
      ((nodes.items.filter fun item => item.2.isHealthy).map
        Prod.fst).Nodup :=
    nodes.nodupKeys.sublist (List.filter_sublist.map Prod.fst)
  rw [List.toFinset_card_of_nodup distinct, List.length_map,
    Dict.values, List.countP_map, List.countP_eq_length_filter]
  rfl

variable [DecidableEq Side]

/-- The members on the side of a node. -/
def Cluster.sideOf (cluster : Cluster) (side : String → Side)
    (nodeId : String) : Finset String :=
  cluster.members.filter fun other => side other = side nodeId

/-- A quorum of a node that has given up the others is its own side's. -/
theorem majority_of_givesUp
    (connected : Connected cluster)
    (givesUp : GivesUp side nodeId cluster)
    (quorum : cluster.HasQuorum nodeId) :
    cluster.members.card < 2 * (cluster.sideOf side nodeId).card := by
  rcases quorum with ⟨node, found, quorum⟩
  have total :
      node.mediator.nodes.items.length = cluster.members.card := by
    rw [← view_members connected found, Dict.keys,
      List.toFinset_card_of_nodup node.mediator.nodes.nodupKeys,
      List.length_map]
  have healthy :
      ((node.mediator.nodes.items.filter fun item =>
          item.2.isHealthy).map Prod.fst).toFinset ⊆
        cluster.sideOf side nodeId := by
    intro other member
    rw [List.mem_toFinset, List.mem_map] at member
    rcases member with ⟨⟨key, info⟩, listed, rfl⟩
    rw [List.mem_filter] at listed
    have known := Dict.get?_eq_some_iff.mpr listed.1
    rw [Cluster.sideOf, Finset.mem_filter]
    constructor
    · rw [← view_members connected found, List.mem_toFinset]
      exact Dict.mem_keys_iff.mpr ⟨info, known⟩
    · by_contra across
      have doubted := givesUp node key info found known across
      rw [doubted] at listed
      exact Bool.false_ne_true listed.2
  have few := Finset.card_le_card healthy
  rw [card_healthy] at few
  have many := hasQuorum_iff.mp quorum
  omega

/-- Two sides are not both a majority. -/
theorem same_side_of_majorities
    {first second : String}
    (firstMajority :
      cluster.members.card < 2 * (cluster.sideOf side first).card)
    (secondMajority :
      cluster.members.card < 2 * (cluster.sideOf side second).card) :
    side first = side second := by
  have common :
      (cluster.sideOf side first ∩
        cluster.sideOf side second).Nonempty := by
    apply
      Finset.inter_nonempty_of_card_lt_card_add_card
        (Finset.filter_subset _ cluster.members)
        (Finset.filter_subset _ cluster.members)
    simp only [Cluster.sideOf] at firstMajority secondMajority
    omega
  rcases common with ⟨other, member⟩
  rw [Finset.mem_inter, Cluster.sideOf, Cluster.sideOf,
    Finset.mem_filter, Finset.mem_filter] at member
  exact member.1.2.symm.trans member.2.2

end Sides

/-- The nodes of an agreeing cluster stay connected along every run. -/
theorem connected_run
    {cluster : Cluster} {primary : String}
    (agreeing : Agreeing cluster primary) (actions : List ClusterStep) :
    Connected (run Cluster.step cluster actions) := by
  apply run_invariant_of_step _ actions (connected_of_agreeing agreeing)
  intro state action connected
  exact connected_step connected action

/--
When the network has fallen apart, the nodes that have detected it and see a
quorum are all on one side, and that side is a majority of the members.
-/
theorem partition_quorum
    {Side : Type} [DecidableEq Side] {side : String → Side}
    {cluster : Cluster} {primary : String}
    (agreeing : Agreeing cluster primary) (recorded : Recorded cluster)
    {before during : List ClusterStep}
    (forward : ∀ action ∈ before ++ during, action.Forward)
    (separated :
      AllSteps Cluster.step (Separates side)
        (run Cluster.step cluster before) during)
    {first second : String}
    (firstDetects :
      Detects (run Cluster.step cluster before) during first)
    (secondDetects :
      Detects (run Cluster.step cluster before) during second)
    (firstQuorum :
      (run Cluster.step cluster (before ++ during)).HasQuorum first)
    (secondQuorum :
      (run Cluster.step cluster (before ++ during)).HasQuorum second) :
    side first = side second ∧
      (run Cluster.step cluster (before ++ during)).members.card <
        2 *
          ((run Cluster.step cluster (before ++ during)).sideOf side
            first).card := by
  have connected := connected_run agreeing (before ++ during)
  have atPartition : Recorded (run Cluster.step cluster before) :=
    heartbeatsRecorded_run recorded fun action member =>
      forward action (by simp [member])
  have onwards : ∀ action ∈ during, action.Forward :=
    fun action member => forward action (by simp [member])
  have majority :
      ∀ {nodeId : String},
        Detects (run Cluster.step cluster before) during nodeId →
          (run Cluster.step cluster (before ++ during)).HasQuorum nodeId →
            (run Cluster.step cluster (before ++ during)).members.card <
              2 *
                ((run Cluster.step cluster (before ++ during)).sideOf side
                  nodeId).card := by
    intro nodeId detects quorum
    have givesUp :=
      givesUp_of_detects atPartition onwards separated detects
    rw [← run_append] at givesUp
    exact majority_of_givesUp connected givesUp quorum
  have firstMajority := majority firstDetects firstQuorum
  have secondMajority := majority secondDetects secondQuorum
  exact
    ⟨same_side_of_majorities firstMajority secondMajority, firstMajority⟩

/-- "c" is alone on its side, and the others keep in touch. -/
def cutOff : List ClusterStep :=
  [.elapse "a" 6, .elapse "b" 6, .sendHeartbeat "a" "b", .deliver 0 true,
    .sendHeartbeat "b" "a", .deliver 0 true, .checkHealth "a",
    .checkHealth "b"]

/-- The two nodes with a quorum are on the larger side. -/
theorem partition_quorum_cutOff :
    (run Cluster.step threeNodes ([] ++ cutOff)).HasQuorum "a" ∧
      (run Cluster.step threeNodes ([] ++ cutOff)).HasQuorum "b" ∧
      (decide ("a" = "c") = decide ("b" = "c") ∧
        (run Cluster.step threeNodes ([] ++ cutOff)).members.card <
          2 *
            ((run Cluster.step threeNodes ([] ++ cutOff)).sideOf
              (fun nodeId => decide (nodeId = "c")) "a").card) := by
  have agreeing : Agreeing threeNodes "a" :=
    agreeing_of_items (by decide +kernel) (by decide +kernel)
  have forward : ∀ action ∈ [] ++ cutOff, action.Forward := by
    simp [cutOff, ClusterStep.Forward]
  have separated :
      AllSteps Cluster.step
        (Separates fun nodeId => decide (nodeId = "c"))
        (run Cluster.step threeNodes []) cutOff := by
    decide +kernel
  have firstDetects :
      Detects (run Cluster.step threeNodes []) cutOff "a" := by
    refine ⟨cutOff.take 6, cutOff.drop 7, _, _, rfl, rfl, rfl, ?_⟩
    simp only [ClusterNode.Overdue]
    decide +kernel
  have secondDetects :
      Detects (run Cluster.step threeNodes []) cutOff "b" := by
    refine ⟨cutOff.take 7, cutOff.drop 8, _, _, rfl, rfl, rfl, ?_⟩
    simp only [ClusterNode.Overdue]
    decide +kernel
  have firstQuorum :
      (run Cluster.step threeNodes ([] ++ cutOff)).HasQuorum "a" := by
    simp only [Cluster.HasQuorum]
    decide +kernel
  have secondQuorum :
      (run Cluster.step threeNodes ([] ++ cutOff)).HasQuorum "b" := by
    simp only [Cluster.HasQuorum]
    decide +kernel
  exact
    ⟨firstQuorum, secondQuorum,
      partition_quorum agreeing recorded_threeNodes forward separated
        firstDetects secondDetects firstQuorum secondQuorum⟩

end StorageAppliance.ActiveCluster
