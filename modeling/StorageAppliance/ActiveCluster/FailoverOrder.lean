import StorageAppliance.ActiveCluster.Membership
import StorageAppliance.ActiveCluster.SplitBrain

/-!
# Failover when a health check elects too

Two tasks of a node react to a primary that is down.  The health check that
notices it starts an election as a task of its own, and the cluster monitor
executes a failover.  Each replaces the primary, but only the second records a
failover, and it does so only while the primary that its mediator knows is down.

`failover_recorded_iff` says for which order of the three a failover is
recorded: the monitor has to run between the health check and its election.
-/

namespace StorageAppliance.ActiveCluster

open StorageAppliance.Python
open StorageAppliance.Library

/-- What reacts to a primary that is down. -/
inductive Reaction where
  | checkHealth
  | runElection
  | monitor
deriving DecidableEq

/-- A node reacts; the callback is the one for failovers. -/
def ClusterNode.react (callback : Except PyException Unit)
    (node : ClusterNode) : Reaction → ClusterNode
  | .checkHealth =>
      node.withMediator (node.mediator.checkNodeHealth node.clock)
  | .runElection => node.withMediator node.mediator.runElectionTask
  | .monitor => node.checkAndFailover callback

/--
The successor is the primary, and the controller has failed over from the old
primary with one event for it.
-/
structure FailoverRecorded (before after : ClusterNode)
    (primary newPrimary : String) : Prop where
  elected : after.mediator.getPrimary = some newPrimary
  state : after.failover.state = .failedOver
  original : after.failover.originalPrimary = some primary
  event :
    ∃ event,
      after.failover.history = before.failover.history ++ [event] ∧
        event.oldPrimary = some primary

/-- The controller can record a failover from one node to another. -/
structure CanRecord (controller : FailoverController)
    (callback : Except PyException Unit) (primary newPrimary : String) :
    Prop where
  normal : controller.state = .normal
  named : primary ≠ "" ∧ newPrimary ≠ ""
  returns : controller.hasCallback = true → callback = .ok ()

/-- What a failover with an election leaves of the controller. -/
inductive FailsOver (controller : FailoverController)
    (callback : Except PyException Unit) (primary newPrimary : String)
    (after : FailoverController) : Prop where
  | recorded
      (named : primary ≠ "" ∧ newPrimary ≠ "")
      (returns : controller.hasCallback = true → callback = .ok ())
      (state : after.state = .failedOver)
      (original : after.originalPrimary = some primary)
      (history :
        after.history =
          controller.history ++
            [{ oldPrimary := some primary
               newPrimary := some newPrimary
               reason := .nodeFailure
               state := .failedOver }])
  | failed
      (cannot : ¬ CanRecord controller callback primary newPrimary)
      (state : after.state = .normal)

section Reactions

variable
    {callback : Except PyException Unit}
    {node : ClusterNode}
    {mediator : Mediator}
    {controller : FailoverController}
    {primary newPrimary : String}
    {info : NodeInfo}

theorem truthy_some_iff : truthy (some primary) = true ↔ primary ≠ "" := by
  simp [truthy]

/-! ## The parts -/

/-- The mediator holds the primary for healthy. -/
theorem primaryDown_of_healthy
    (current : mediator.getPrimary = some primary)
    (found : mediator.nodes.get? primary = some info)
    (healthy : info.isHealthy = true) :
    FailoverController.primaryDown mediator = none := by
  rw [FailoverController.primaryDown, current]
  split
  · simp [found, healthy]
  · rfl

theorem primaryDown_of_failed
    (current : mediator.getPrimary = some primary)
    (found : mediator.nodes.get? primary = some info)
    (failed : info.isHealthy = false) :
    FailoverController.primaryDown mediator =
      if primary = "" then none else some primary := by
  rw [FailoverController.primaryDown, current]
  by_cases empty : primary = ""
  · simp [empty, truthy]
  · rw [if_pos (truthy_some_iff.mpr empty), if_neg empty]
    simp [found, failed]

/-- A controller that sees no primary down does nothing. -/
theorem checkAndFailover_idle
    (up :
      controller.state ≠ .normal ∨
        FailoverController.primaryDown mediator = none) :
    (controller.checkAndFailover mediator callback).2 =
      (controller, mediator) := by
  rw [FailoverController.checkAndFailover]
  by_cases normal : controller.state = .normal
  · rw [if_neg (not_not.mpr normal)]
    rw [up.resolve_left (not_not.mpr normal)]
  · rw [if_pos normal]

theorem checkNodeHealth_failed
    (found : mediator.nodes.get? primary = some info) {now : ℚ}
    (failed : mediator.hasFailed now primary info = true) :
    (mediator.checkNodeHealth now).nodes.get? primary =
        some { info with isHealthy := false } ∧
      (mediator.checkNodeHealth now).getPrimary = mediator.getPrimary := by
  refine ⟨?_, rfl⟩
  simp only [Mediator.checkNodeHealth, Dict.get?_mapValues, found,
    Option.map_some, failed, if_true]

/-- The health check that finds the primary down starts an election. -/
theorem checkNodeHealth_electionTasks
    (current : mediator.getPrimary = some primary)
    (found : mediator.nodes.get? primary = some info) {now : ℚ}
    (failed : mediator.hasFailed now primary info = true) :
    (mediator.checkNodeHealth now).electionTasks ≠ 0 := by
  have counted :
      0 <
        mediator.nodes.items.countP fun item =>
          mediator.hasFailed now item.1 item.2 &&
            some item.1 = mediator.currentPrimary := by
    apply List.countP_pos_iff.mpr
    refine ⟨(primary, info), Dict.get?_eq_some_iff.mp found, ?_⟩
    have same : mediator.currentPrimary = some primary := current
    simp [failed, same]
  intro none
  have total := (Nat.add_eq_zero_iff.mp none).2
  exact absurd total (Nat.ne_of_gt counted)

theorem runElectionTask_eq (waiting : mediator.electionTasks ≠ 0) :
    mediator.runElectionTask =
      { mediator with
        electionTasks :=
          mediator.electionTasks - 1 }.initiateElection.2 :=
  if_neg waiting

theorem runElectionTask_elected
    (waiting : mediator.electionTasks ≠ 0)
    (elected : mediator.successor = some newPrimary) :
    mediator.runElectionTask.getPrimary = some newPrimary := by
  rw [runElectionTask_eq waiting]
  exact initiateElection_settled elected

theorem runElectionTask_sees
    (named : mediator.Named) (waiting : mediator.electionTasks ≠ 0)
    (elected : mediator.successor = some newPrimary) :
    ∃ info,
      mediator.runElectionTask.nodes.get? newPrimary = some info ∧
        info.isHealthy = true := by
  rw [runElectionTask_eq waiting]
  have idle :
      Mediator.Named
        { mediator with electionTasks := mediator.electionTasks - 1 } :=
    named
  exact initiateElection_sees idle elected

theorem initiateElection_electionTasks (mediator : Mediator) :
    mediator.initiateElection.2.electionTasks =
      mediator.electionTasks := by
  rw [Mediator.initiateElection]
  split
  · split <;> rfl
  · rfl

theorem executeFailover_failsOver
    (elected : mediator.successor = some newPrimary)
    (named : primary ≠ "") :
    FailsOver controller callback primary newPrimary
      (controller.executeFailover mediator callback (some primary)
        .nodeFailure none).2.1 := by
  have answer : mediator.initiateElection.1 = some newPrimary := by
    rw [initiateElection_fst, elected]
  have known : truthy (some primary) = true := truthy_some_iff.mpr named
  have unchosen : truthy none = false := rfl
  simp only [FailoverController.executeFailover, unchosen,
    Bool.false_eq_true, if_false, answer, known, Bool.and_true]
  by_cases empty : newPrimary = ""
  · have falsy : ¬ truthy (some newPrimary) = true := by
      rw [truthy_some_iff, not_not]
      exact empty
    rw [if_neg falsy]
    exact .failed (fun can => can.named.2 empty) rfl
  · rw [if_pos (truthy_some_iff.mpr empty)]
    split
    · rename_i registered
      cases callback with
      | error exception =>
          refine .failed (fun can => ?_) rfl
          cases can.returns registered
      | ok returned =>
          exact .recorded ⟨named, empty⟩ (fun _ => rfl) rfl rfl rfl
    · rename_i unregistered
      refine .recorded ⟨named, empty⟩ (fun registered => ?_) rfl rfl rfl
      exact absurd registered unregistered

/-! ## The orders -/

/-- A controller that was not told of a failure records nothing. -/
theorem not_recorded_of_unchanged
    {after : ClusterNode} (same : after.failover = node.failover) :
    ¬ FailoverRecorded node after primary newPrimary := by
  intro recorded
  rcases recorded.event with ⟨event, appended, _⟩
  rw [same] at appended
  have lengths := congrArg List.length appended
  rw [List.length_append, List.length_singleton] at lengths
  omega

theorem react_monitor_idle
    (up :
      node.failover.state ≠ .normal ∨
        FailoverController.primaryDown node.mediator = none) :
    node.react callback .monitor = node := by
  have idle := @checkAndFailover_idle callback _ _ up
  simp only [ClusterNode.react, ClusterNode.checkAndFailover, idle]

/-- The monitor between the health check and the election. -/
theorem recorded_between_iff
    (named : node.mediator.Named)
    (current : node.mediator.getPrimary = some primary)
    (found : node.mediator.nodes.get? primary = some info)
    (failed : info.isHealthy = false)
    (waiting : node.mediator.electionTasks ≠ 0)
    (elected : node.mediator.successor = some newPrimary) :
    FailoverRecorded node
        ((node.react callback .monitor).react callback .runElection)
        primary newPrimary ↔
      CanRecord node.failover callback primary newPrimary := by
  have down := primaryDown_of_failed current found failed
  by_cases normal : node.failover.state = .normal
  · by_cases empty : primary = ""
    · rw [if_pos empty] at down
      rw [react_monitor_idle (Or.inr down)]
      exact iff_of_false (not_recorded_of_unchanged rfl)
        (fun can => can.named.1 empty)
    · rw [if_neg empty] at down
      have fails :=
        @executeFailover_failsOver callback node.mediator node.failover
          primary newPrimary elected empty
      have reacted :
          (node.react callback .monitor).failover =
            (node.failover.executeFailover node.mediator callback
              (some primary) .nodeFailure none).2.1 := by
        simp only [ClusterNode.react, ClusterNode.checkAndFailover,
          FailoverController.checkAndFailover, normal, down, ne_eq,
          not_true_eq_false, if_false]
      have mediator :
          (node.react callback .monitor).mediator =
            node.mediator.initiateElection.2 := by
        simp only [ClusterNode.react, ClusterNode.checkAndFailover,
          checkAndFailover_mediator]
        rw [if_pos ⟨normal, by rw [down]; simp⟩]
      rw [← reacted] at fails
      cases fails with
      | recorded known returns state original history =>
          refine iff_of_true ?_ ⟨normal, known, returns⟩
          refine ⟨?_, state, original, _, history, rfl⟩
          apply runElectionTask_elected
          · rw [mediator, initiateElection_electionTasks]
            exact waiting
          · rw [mediator]
            exact successor_initiateElection named elected
      | failed cannot state =>
          refine iff_of_false ?_ cannot
          intro recorded
          cases state.symm.trans recorded.state
  · rw [react_monitor_idle (Or.inl normal)]
    exact iff_of_false (not_recorded_of_unchanged rfl)
      (fun can => normal can.normal)

/-- A health check that notices the failure of the primary. -/
structure Notices (node : ClusterNode) (primary newPrimary : String) :
    Prop where
  named : node.mediator.Named
  current : node.mediator.getPrimary = some primary
  failed :
    ∃ info,
      node.mediator.nodes.get? primary = some info ∧
        node.mediator.hasFailed node.clock primary info = true
  successor :
    (node.mediator.checkNodeHealth node.clock).successor =
      some newPrimary

/--
However the monitor runs among a health check that notices the failure of the
primary and the election it starts, a failover is recorded exactly if the
monitor runs between the two and the controller can record it.
-/
theorem failover_recorded_iff
    (notices : Notices node primary newPrimary)
    (callback : Except PyException Unit) {before after : List Reaction}
    (started : before ++ after = [.checkHealth, .runElection]) :
    FailoverRecorded node
        (run (ClusterNode.react callback) node
          (before ++ .monitor :: after))
        primary newPrimary ↔
      before = [.checkHealth] ∧
        CanRecord node.failover callback primary newPrimary := by
  rcases notices with ⟨named, current, ⟨info, found, failed⟩, elected⟩
  have checked := checkNodeHealth_failed found failed
  have waiting := checkNodeHealth_electionTasks current found failed
  have namedAfter := named_checkNodeHealth named node.clock
  have healthy : info.isHealthy = true := by
    simp only [Mediator.hasFailed, Bool.and_eq_true] at failed
    exact failed.2
  match before, after, started with
  | [], [.checkHealth, .runElection], rfl =>
      have up := primaryDown_of_healthy current found healthy
      rw [List.nil_append, run_cons, react_monitor_idle (Or.inr up)]
      refine iff_of_false (not_recorded_of_unchanged rfl) ?_
      rintro ⟨same, _⟩
      cases same
  | [.checkHealth], [.runElection], rfl =>
      have recorded :=
        @recorded_between_iff callback (node.react callback .checkHealth)
          primary newPrimary _ namedAfter (checked.2.trans current)
          checked.1 rfl waiting elected
      simp only [true_and]
      constructor
      · intro whole
        exact recorded.mp
          ⟨whole.elected, whole.state, whole.original, whole.event⟩
      · intro can
        have whole := recorded.mpr can
        exact ⟨whole.elected, whole.state, whole.original, whole.event⟩
  | [.checkHealth, .runElection], [], rfl =>
      rcases runElectionTask_sees namedAfter waiting elected with
        ⟨chosen, known, sees⟩
      have now := runElectionTask_elected waiting elected
      have up := primaryDown_of_healthy now known sees
      have idle :
          ((node.react callback .checkHealth).react callback
                .runElection).react callback .monitor =
            (node.react callback .checkHealth).react callback
              .runElection :=
        react_monitor_idle (Or.inr up)
      simp only [List.cons_append, List.nil_append, run_cons, run_nil]
      rw [idle]
      refine iff_of_false (not_recorded_of_unchanged rfl) ?_
      rintro ⟨same, _⟩
      cases same

end Reactions

/-- A secondary that has not heard from the primary for ten seconds. -/
def watchingNode : ClusterNode where
  clock := 10
  mediator :=
    run Mediator.call { nodeId := "b" }
      [.registerSelf 10 .secondary, .addNode 0 "a" .primary,
        .addNode 10 "c" .secondary, .setPrimary "a"]

theorem watchingNode_notices : Notices watchingNode "a" "b" where
  named := named_run _ _
  current := by decide +kernel
  failed := by
    refine
      ⟨{ nodeId := "a", role := .primary, lastHeartbeat := 0 }, ?_, ?_⟩
    · decide +kernel
    · decide +kernel
  successor := by decide +kernel

theorem failover_recorded_between :
    Notices watchingNode "a" "b" ∧
      FailoverRecorded watchingNode
        (run (ClusterNode.react (.ok ())) watchingNode
          [.checkHealth, .monitor, .runElection])
        "a" "b" := by
  have can : CanRecord watchingNode.failover (.ok ()) "a" "b" := by
    refine ⟨rfl, ?_, fun _ => rfl⟩
    decide
  have started :
      [Reaction.checkHealth] ++ [.runElection] =
        [.checkHealth, .runElection] :=
    rfl
  exact ⟨watchingNode_notices,
    (failover_recorded_iff watchingNode_notices (.ok ()) started).mpr
      ⟨rfl, can⟩⟩

/-- The election of the health check replaces the primary unrecorded. -/
theorem failover_unrecorded :
    Notices watchingNode "a" "b" ∧
      CanRecord watchingNode.failover (.ok ()) "a" "b" ∧
      (run (ClusterNode.react (.ok ())) watchingNode
            [.checkHealth, .runElection, .monitor]).mediator.getPrimary =
          some "b" ∧
      ¬ FailoverRecorded watchingNode
          (run (ClusterNode.react (.ok ())) watchingNode
            [.checkHealth, .runElection, .monitor])
          "a" "b" := by
  refine ⟨watchingNode_notices, ?_, ?_, ?_⟩
  · refine ⟨rfl, ?_, fun _ => rfl⟩
    decide
  · decide +kernel
  · intro recorded
    have state := recorded.state
    revert state
    decide +kernel

end StorageAppliance.ActiveCluster
