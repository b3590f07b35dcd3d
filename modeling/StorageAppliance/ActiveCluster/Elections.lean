import StorageAppliance.ActiveCluster.Membership
import StorageAppliance.ActiveCluster.Failover

/-!
# Elections and failovers

An election needs a majority of healthy members, picks the least of the healthy
members that are no witness, and makes it the only one with the role of the
primary (`Elects`).  An automatic failover hands over to such a node, and since
the old primary is not healthy, the two differ.

`FailoverOutcome` says what any failover leaves: the mediator, the remembered
primary, the state and the event.
-/

namespace StorageAppliance.ActiveCluster

open StorageAppliance.Python
open StorageAppliance.Library

/-- A mediator that keeps each node under its own identifier. -/
abbrev NamedMediator :=
  { mediator : Mediator // mediator.Named }

/-- Whatever a mediator is called for, it keeps its nodes so. -/
def reachedMediator (nodeId : String) (calls : List MediatorCall) :
    NamedMediator :=
  ⟨run Mediator.call { nodeId := nodeId } calls,
    named_run nodeId calls⟩

/-- A node was elected, and is the only primary afterwards. -/
structure Elects (before : Mediator) (elected : String)
    (after : Mediator) : Prop where
  majority :
    before.nodes.items.length <
      2 * before.nodes.values.countP NodeInfo.isHealthy
  candidate :
    ∃ info,
      before.nodes.get? elected = some info ∧
        info.isHealthy = true ∧ info.role ≠ .witness
  least :
    ∀ key info,
      before.nodes.get? key = some info →
        info.isHealthy = true → info.role ≠ .witness → elected ≤ key
  recorded : after.currentPrimary = some elected
  member : ∃ info, after.nodes.get? elected = some info
  only :
    ∀ key info,
      after.nodes.get? key = some info →
        (info.role = .primary ↔ key = elected)
  witnesses :
    ∀ key,
      (after.nodes.get? key).map NodeInfo.role = some .witness ↔
        (before.nodes.get? key).map NodeInfo.role = some .witness

section Elections

variable {mediator : Mediator}

theorem isCandidate_iff {info : NodeInfo} :
    info.isCandidate = true ↔
      info.isHealthy = true ∧ info.role ≠ .witness := by
  rw [NodeInfo.isCandidate, Bool.and_eq_true]
  cases info.role <;> simp

/-- A witness keeps its role, and no other node becomes one. -/
theorem assignRole_witness
    (info : NodeInfo) {isPrimary : Bool}
    (eligible : isPrimary = true → info.role ≠ .witness) :
    (info.assignRole isPrimary).role = .witness ↔
      info.role = .witness := by
  cases isPrimary with
  | true => simp [NodeInfo.assignRole, eligible rfl]
  | false =>
      simp only [NodeInfo.assignRole, Bool.false_eq_true, if_false]
      split
      · rename_i primary
        simp [primary]
      · exact Iff.rfl

/-- An election with a successor elects it. -/
theorem elects_of_successor
    (named : mediator.Named) {elected : String}
    (chosen : mediator.successor = some elected) :
    Elects mediator elected mediator.initiateElection.2 := by
  have nodes := initiateElection_elected_nodes chosen
  rcases successor_member named chosen with ⟨best, member, candidate⟩
  rcases successor_eq_some_iff.mp chosen with ⟨quorum, _, least⟩
  have eligible := isCandidate_iff.mp candidate
  have after :
      ∀ key,
        mediator.initiateElection.2.nodes.get? key =
          (mediator.nodes.get? key).map fun info =>
            info.assignRole (info.nodeId = elected) := by
    intro key
    rw [nodes, Dict.get?_mapValues]
  constructor
  · exact hasQuorum_iff.mp quorum
  · exact ⟨best, member, eligible⟩
  · intro key info found healthy role
    rw [← named key info found]
    apply least info (Dict.mem_values_iff.mpr ⟨key, found⟩)
    exact isCandidate_iff.mpr ⟨healthy, role⟩
  · exact initiateElection_settled chosen
  · rw [after, member]
    exact ⟨_, rfl⟩
  · intro key info found
    rw [after] at found
    rcases Option.map_eq_some_iff.mp found with ⟨old, known, rfl⟩
    rw [assignRole_primary_iff, decide_eq_true_iff,
      named key old known]
  · intro key
    rw [after, Option.map_map]
    cases known : mediator.nodes.get? key with
    | none => rfl
    | some old =>
        simp only [Option.map_some, Option.some.injEq,
          Function.comp_apply]
        apply assignRole_witness
        intro same
        rw [decide_eq_true_iff, named key old known] at same
        subst same
        rw [member] at known
        cases known
        exact eligible.2

end Elections

/-! ## Failovers -/

/-- The node that a failover hands over to. -/
def Mediator.takesOver (self : Mediator) (chosen : Option String) :
    Option String :=
  if truthy chosen then chosen else self.successor

/-- The mediator after a failover. -/
def Mediator.handOver (self : Mediator) (chosen : Option String) :
    Mediator :=
  if truthy chosen then self else self.initiateElection.2

/-- The callback of a failover is not run, or does not raise. -/
def CallbackReturns (controller : FailoverController)
    (callback : Except PyException Unit) (oldPrimary : Option String) :
    Prop :=
  controller.hasCallback = true →
    truthy oldPrimary = true → callback = .ok ()

/-- What a failover leaves. -/
structure FailoverOutcome (controller : FailoverController)
    (mediator : Mediator) (callback : Except PyException Unit)
    (oldPrimary chosen : Option String)
    (outcome :
      Except PyException FailoverEvent × FailoverController × Mediator) :
    Prop where
  handed : outcome.2.2 = mediator.handOver chosen
  original : outcome.2.1.originalPrimary = oldPrimary
  state :
    outcome.2.1.state = .failedOver ↔
      truthy (mediator.takesOver chosen) = true ∧
        CallbackReturns controller callback oldPrimary
  answers :
    (∃ event, outcome.1 = .ok event) ↔
      (truthy (mediator.takesOver chosen) = true →
        CallbackReturns controller callback oldPrimary)
  event :
    ∀ event,
      outcome.1 = .ok event →
        event.oldPrimary = oldPrimary ∧
          event.newPrimary = mediator.takesOver chosen ∧
          (event.state = .failedOver ↔
            truthy (mediator.takesOver chosen) = true)

section Failovers

variable
    {controller : FailoverController}
    {mediator : Mediator}
    {callback : Except PyException Unit}

theorem takesOver_handOver (chosen : Option String) :
    (if truthy chosen then (chosen, mediator)
      else mediator.initiateElection) =
      (mediator.takesOver chosen, mediator.handOver chosen) := by
  rw [Mediator.takesOver, Mediator.handOver]
  split
  · rfl
  · rw [← initiateElection_fst]

theorem executeFailover_outcome
    (oldPrimary : Option String) (reason : FailoverReason)
    (chosen : Option String) :
    FailoverOutcome controller mediator callback oldPrimary chosen
      (controller.executeFailover mediator callback oldPrimary reason
        chosen) := by
  simp only [FailoverController.executeFailover, takesOver_handOver]
  by_cases settled : truthy (mediator.takesOver chosen) = true
  · by_cases runs :
        (controller.hasCallback && truthy oldPrimary) = true
    · have both := Bool.and_eq_true_iff.mp runs
      cases callback with
      | error exception =>
          have raises :
              ¬ CallbackReturns controller (.error exception)
                oldPrimary := by
            intro returns
            cases returns both.1 both.2
          simp only [settled, runs, if_true]
          exact
            ⟨rfl, rfl,
              by simp [FailoverController.recordFailure, raises],
              by simp [settled, raises], by simp⟩
      | ok returned =>
          have returns :
              CallbackReturns controller (.ok returned) oldPrimary :=
            fun _ _ => rfl
          simp only [settled, runs, if_true]
          exact
            ⟨rfl, rfl,
              by simp [FailoverController.recordEvent, settled, returns],
              by simp [returns], by rintro event ⟨⟩; simp [settled]⟩
    · have returns :
          CallbackReturns controller callback oldPrimary := by
        intro registered known
        exact absurd (Bool.and_eq_true_iff.mpr ⟨registered, known⟩) runs
      simp only [settled, runs, if_true]
      exact
        ⟨rfl, rfl,
          by simp [FailoverController.recordEvent, settled, returns],
          by simp [returns], by rintro event ⟨⟩; simp [settled]⟩
  · simp only [settled]
    exact
      ⟨rfl, rfl,
        by simp [FailoverController.recordEvent,
          FailoverController.recordFailure, settled],
        by simp [settled], by rintro event ⟨⟩; simp [settled]⟩

/-- The primary is down: it is a member, and not healthy. -/
theorem primaryDown_eq_some
    {current : String}
    (down : FailoverController.primaryDown mediator = some current) :
    current ≠ "" ∧
      mediator.currentPrimary = some current ∧
      ∃ info,
        mediator.nodes.get? current = some info ∧
          info.isHealthy = false := by
  rw [FailoverController.primaryDown] at down
  split at down
  · rename_i known
    rcases Option.filter_eq_some_iff.mp down with ⟨recorded, silent⟩
    rcases (Option.any_eq_true _ _).mp silent with
      ⟨info, member, unhealthy⟩
    rw [recorded] at known
    exact
      ⟨by simpa [truthy] using known, recorded, info, member,
        by simpa using unhealthy⟩
  · cases down

/-- A healthy node has taken over from another one. -/
def TookOver (after : Mediator) (event : FailoverEvent) : Prop :=
  event.newPrimary ≠ event.oldPrimary ∧
    ∃ newPrimary info,
      event.newPrimary = some newPrimary ∧
        after.nodes.get? newPrimary = some info ∧
        info.isHealthy = true

/-- A failover check of a primary that is down. -/
theorem checkAndFailover_of_down
    (normal : controller.state = .normal) {current : String}
    (down : FailoverController.primaryDown mediator = some current) :
    controller.checkAndFailover mediator callback =
      ((controller.executeFailover mediator callback (some current)
          .nodeFailure none).1.map some,
        (controller.executeFailover mediator callback (some current)
          .nodeFailure none).2) := by
  rw [FailoverController.checkAndFailover,
    if_neg (not_not.mpr normal), down]

/-- A failover check answers with an event only if the primary is down. -/
theorem checkAndFailover_answer
    {event : FailoverEvent}
    (answered :
      (controller.checkAndFailover mediator callback).1 =
        .ok (some event)) :
    ∃ current,
      FailoverController.primaryDown mediator = some current ∧
        controller.checkAndFailover mediator callback =
          ((controller.executeFailover mediator callback (some current)
              .nodeFailure none).1.map some,
            (controller.executeFailover mediator callback (some current)
              .nodeFailure none).2) ∧
        (controller.executeFailover mediator callback (some current)
            .nodeFailure none).1 = .ok event := by
  by_cases normal : controller.state = .normal
  · cases down : FailoverController.primaryDown mediator with
    | none =>
        rw [FailoverController.checkAndFailover,
          if_neg (not_not.mpr normal), down] at answered
        cases answered
    | some current =>
        have checked :=
          @checkAndFailover_of_down _ _ callback normal _ down
        refine ⟨current, rfl, checked, ?_⟩
        rw [checked] at answered
        generalize
          (controller.executeFailover mediator callback (some current)
            .nodeFailure none).1 = answer
          at answered
        cases answer with
        | error exception => cases answered
        | ok other =>
            cases answered
            rfl
  · rw [FailoverController.checkAndFailover, if_pos normal] at answered
    cases answered

/-- An automatic failover takes over from a node that is not healthy. -/
theorem checkAndFailover_tookOver
    (named : mediator.Named) {event : FailoverEvent}
    (answered :
      (controller.checkAndFailover mediator callback).1 =
        .ok (some event))
    (failedOver : event.state = .failedOver) :
    TookOver (controller.checkAndFailover mediator callback).2.2
      event := by
  rcases checkAndFailover_answer answered with
    ⟨current, down, checked, returned⟩
  have outcome :=
    @executeFailover_outcome controller mediator callback (some current)
      .nodeFailure none
  rcases outcome.event event returned with ⟨old, new, settled⟩
  have known := settled.mp failedOver
  have successor : mediator.takesOver none = mediator.successor := rfl
  rw [successor] at new known
  cases chosen : mediator.successor with
  | none =>
      rw [chosen] at known
      cases known
  | some newPrimary =>
      rw [chosen] at new
      rcases successor_member named chosen with ⟨info, member, candidate⟩
      rcases (primaryDown_eq_some down).2.2 with
        ⟨failed, oldMember, silent⟩
      constructor
      · rw [new, old]
        intro same
        cases same
        rw [member] at oldMember
        cases oldMember
        have healthy := (isCandidate_iff.mp candidate).1
        rw [silent] at healthy
        cases healthy
      · rcases initiateElection_sees named chosen with
          ⟨later, found, sees⟩
        refine ⟨newPrimary, later, new, ?_, sees⟩
        have handed :
            (controller.checkAndFailover mediator callback).2.2 =
              mediator.initiateElection.2 := by
          rw [checked]
          exact outcome.handed
        rw [handed]
        exact found

/--
An election that returns a node had a majority, returns the least candidate and
makes it the only primary; one that returns none changes no role and no primary;
and an automatic failover that completes hands over to another, healthy node.
-/
theorem election_and_failover (mediator : NamedMediator) :
    (∀ elected,
        mediator.val.initiateElection.1 = some elected →
          Elects mediator.val elected
            mediator.val.initiateElection.2) ∧
      (mediator.val.initiateElection.1 = none →
        mediator.val.initiateElection.2.nodes = mediator.val.nodes ∧
          mediator.val.initiateElection.2.currentPrimary =
            mediator.val.currentPrimary) ∧
      ∀ (controller : FailoverController)
        (callback : Except PyException Unit) (event : FailoverEvent),
        (controller.checkAndFailover mediator.val callback).1 =
            .ok (some event) →
          event.state = .failedOver →
            TookOver
              (controller.checkAndFailover mediator.val callback).2.2
              event := by
  rw [initiateElection_fst]
  refine ⟨?_, ?_, ?_⟩
  · intro elected chosen
    exact elects_of_successor mediator.property chosen
  · intro none
    exact
      ⟨initiateElection_unsettled_nodes none,
        initiateElection_unsettled none⟩
  · intro controller callback event answered failedOver
    exact
      checkAndFailover_tookOver mediator.property answered failedOver

/-- A cluster of three nodes whose primary has fallen silent. -/
def silentPrimary : NamedMediator :=
  reachedMediator "b"
    [.registerSelf 0 .secondary, .addNode 0 "a" .primary,
      .addNode 0 "c" .secondary, .setPrimary "a",
      .receiveHeartbeat 10 "c", .checkNodeHealth 10]

/-- There the least of the other nodes is elected, and takes over. -/
theorem election_and_failover_silentPrimary :
    Elects silentPrimary.val "b"
        silentPrimary.val.initiateElection.2 ∧
      TookOver
        (({} : FailoverController).checkAndFailover silentPrimary.val
          (.ok ())).2.2
        { oldPrimary := some "a"
          newPrimary := some "b"
          reason := .nodeFailure
          state := .failedOver } := by
  rcases election_and_failover silentPrimary with ⟨elects, _, takesOver⟩
  have elected :
      silentPrimary.val.initiateElection.1 = some "b" := by
    decide +kernel
  have answered :
      (({} : FailoverController).checkAndFailover silentPrimary.val
        (.ok ())).1 =
        .ok
          (some
            { oldPrimary := some "a"
              newPrimary := some "b"
              reason := .nodeFailure
              state := .failedOver }) := by
    decide +kernel
  exact
    ⟨elects "b" elected, takesOver {} (.ok ()) _ answered rfl⟩

end Failovers

end StorageAppliance.ActiveCluster
