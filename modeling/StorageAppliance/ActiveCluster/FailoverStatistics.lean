import StorageAppliance.ActiveCluster.FailbackChains

/-!
# Failover statistics

The callback of a failover runs after the election, after the success has been
counted and after the state has changed, and before the failover is counted.  If
it raises, the handler counts a failure as well and returns to the normal state;
it takes back neither the success nor the election.

So the statistics add up after every call exactly if no failover raises
(`failovers_consistent_iff`).  A failover raises if it finds a node to hand over
to, knows the old primary, and the registered callback raises
(`FailoverReturns`).
-/

namespace StorageAppliance.ActiveCluster

open StorageAppliance.Python
open StorageAppliance.Library

/-! ## Calls -/

/-- What a controller and its mediator can be called for. -/
inductive FailoverCall where
  | onFailover
  | onFailback
  | checkAndFailover (callback : Except PyException Unit)
  | manualFailover (callback : Except PyException Unit)
      (targetNode : Option String)
  | checkAndFailback (callback : Except PyException Unit)
  | manualFailback (callback : Except PyException Unit)
  | mediator (call : MediatorCall)

/-- Make a call, and say whether it returns. -/
def ClusterNode.makeCall (node : ClusterNode) :
    FailoverCall → Except PyException Unit × ClusterNode
  | .onFailover =>
      (.ok (),
        { node with
          failover := { node.failover with hasCallback := true } })
  | .onFailback =>
      (.ok (),
        { node with
          failover := { node.failover with hasFailbackCallback := true } })
  | .checkAndFailover callback =>
      let (answer, controller, mediator) :=
        node.failover.checkAndFailover node.mediator callback
      (answer.map fun _ => (),
        { node with failover := controller, mediator := mediator })
  | .manualFailover callback targetNode =>
      let (answer, controller, mediator) :=
        node.failover.manualFailover node.mediator callback targetNode
      (answer.map fun _ => (),
        { node with failover := controller, mediator := mediator })
  | .checkAndFailback callback =>
      let (answer, controller, mediator) :=
        node.failover.checkAndFailback node.mediator callback
      (answer.map fun _ => (),
        { node with failover := controller, mediator := mediator })
  | .manualFailback callback =>
      let (answer, controller, mediator) :=
        node.failover.manualFailback node.mediator callback
      (answer.map fun _ => (),
        { node with failover := controller, mediator := mediator })
  | .mediator call =>
      (.ok (), { node with mediator := node.mediator.call call })

def ClusterNode.afterCall (node : ClusterNode) (call : FailoverCall) :
    ClusterNode :=
  (node.makeCall call).2

/-- The calls that fail over. -/
def FailoverCall.FailsOver : FailoverCall → Prop
  | .checkAndFailover _ => True
  | .manualFailover _ _ => True
  | _ => False

/-- Every failover was successful or failed. -/
def FailoverStats.Balanced (stats : FailoverStats) : Prop :=
  stats.totalFailovers = stats.successfulFailovers + stats.failedFailovers

instance : DecidablePred FailoverStats.Balanced := fun stats =>
  inferInstanceAs
    (Decidable
      (stats.totalFailovers =
        stats.successfulFailovers + stats.failedFailovers))

/-- The primary, the roles and the state of the controller are as before. -/
structure SameCluster (before after : ClusterNode) : Prop where
  primary : after.mediator.currentPrimary = before.mediator.currentPrimary
  roles :
    ∀ nodeId,
      (after.mediator.nodes.get? nodeId).map NodeInfo.role =
        (before.mediator.nodes.get? nodeId).map NodeInfo.role
  state : after.failover.state = before.failover.state
  original :
    after.failover.originalPrimary = before.failover.originalPrimary

/-- The statistics add up, and a failover that raised has changed nothing. -/
structure ConsistentAfter (node : ClusterNode) (call : FailoverCall) :
    Prop where
  balanced : (node.afterCall call).failover.stats.Balanced
  unchanged :
    call.FailsOver →
      ∀ exception,
        (node.makeCall call).1 = .error exception →
          SameCluster node (node.afterCall call)

/-- A failover that finds a node to take over runs no callback that raises. -/
def FailoverReturns (node : ClusterNode) : FailoverCall → Prop
  | .checkAndFailover callback =>
      ∀ current,
        node.failover.state = .normal →
          FailoverController.primaryDown node.mediator = some current →
            truthy node.mediator.successor = true →
              CallbackReturns node.failover callback (some current)
  | .manualFailover callback targetNode =>
      node.mediator.canLead targetNode →
        CallbackReturns node.failover callback node.mediator.getPrimary
  | _ => True

section Calls

variable
    {controller : FailoverController}
    {mediator : Mediator}
    {callback : Except PyException Unit}
    {node : ClusterNode}

/-! ## One failover -/

/-- The statistics after a failover. -/
theorem executeFailover_balanced_iff
    (balanced : controller.stats.Balanced) (oldPrimary : Option String)
    (reason : FailoverReason) (chosen : Option String) :
    (controller.executeFailover mediator callback oldPrimary reason
        chosen).2.1.stats.Balanced ↔
      (truthy (mediator.takesOver chosen) = true →
        CallbackReturns controller callback oldPrimary) := by
  rw [FailoverStats.Balanced] at balanced
  simp only [FailoverController.executeFailover, takesOver_handOver]
  by_cases settled : truthy (mediator.takesOver chosen) = true
  · by_cases runs :
        (controller.hasCallback && truthy oldPrimary) = true
    · have both := Bool.and_eq_true_iff.mp runs
      simp only [settled, runs, if_true, true_implies]
      cases callback with
      | error exception =>
          apply iff_of_false
          · simp only [FailoverController.recordFailure,
              FailoverStats.Balanced]
            omega
          · intro returns
            cases returns both.1 both.2
      | ok returned =>
          apply iff_of_true
          · simp only [FailoverController.recordEvent,
              FailoverStats.Balanced]
            omega
          · exact fun _ _ => rfl
    · simp only [settled, runs, if_true, true_implies]
      apply iff_of_true
      · simp only [FailoverController.recordEvent,
          FailoverStats.Balanced, Bool.false_eq_true, if_false]
        omega
      · intro registered known
        exact absurd (Bool.and_eq_true_iff.mpr ⟨registered, known⟩) runs
  · simp only [settled]
    apply iff_of_true
    · simp only [FailoverController.recordEvent,
        FailoverController.recordFailure, FailoverStats.Balanced,
        Bool.false_eq_true, if_false]
      omega
    · intro settled
      cases settled

/-! ## One call -/

theorem map_unit_eq_ok_iff {Answer : Type*}
    {answer : Except PyException Answer} :
    (answer.map fun _ => ()) = .ok () ↔ ∃ value, answer = .ok value := by
  cases answer with
  | error exception => simp [Except.map]
  | ok value => simp [Except.map]

/-- A failover check that has nothing to do. -/
theorem makeCall_checkAndFailover_idle
    (up :
      node.failover.state ≠ .normal ∨
        FailoverController.primaryDown node.mediator = none) :
    node.makeCall (.checkAndFailover callback) = (.ok (), node) := by
  have idle :
      node.failover.checkAndFailover node.mediator callback =
        (.ok none, node.failover, node.mediator) := by
    rw [FailoverController.checkAndFailover]
    split
    · rfl
    · rename_i normal
      rw [up.resolve_left normal]
  simp only [ClusterNode.makeCall, idle, Except.map]

/-- A call that is one failover, and returns as that does. -/
def Executes (node : ClusterNode) (call : FailoverCall) : Prop :=
  ∃ mediator callback oldPrimary reason chosen,
    (node.makeCall call).1 =
        ((node.failover.executeFailover mediator callback oldPrimary
          reason chosen).1.map fun _ => ()) ∧
      (node.afterCall call).failover =
        (node.failover.executeFailover mediator callback oldPrimary
          reason chosen).2.1 ∧
      (FailoverReturns node call ↔
        (truthy (mediator.takesOver chosen) = true →
          CallbackReturns node.failover callback oldPrimary))

theorem checkAndFailover_executes
    (callback : Except PyException Unit)
    (normal : node.failover.state = .normal) {current : String}
    (down : FailoverController.primaryDown node.mediator = some current) :
    Executes node (.checkAndFailover callback) := by
  have checked := @checkAndFailover_of_down _ _ callback normal _ down
  refine
    ⟨node.mediator, callback, some current, .nodeFailure, none, ?_, ?_, ?_⟩
  · simp only [ClusterNode.makeCall, checked]
    generalize
      (node.failover.executeFailover node.mediator callback
        (some current) .nodeFailure none).1 = answer
    cases answer <;> rfl
  · simp only [ClusterNode.afterCall, ClusterNode.makeCall, checked]
  · change _ ↔ (truthy node.mediator.successor = true → _)
    constructor
    · intro returns settled
      exact returns current normal down settled
    · intro returns other _ known settled
      rw [down] at known
      cases known
      exact returns settled

theorem manualFailover_executes
    (named : node.mediator.Named)
    (callback : Except PyException Unit)
    (targetNode : Option String) :
    Executes node (.manualFailover callback targetNode) := by
  cases kept : targetNode.filter (· ≠ "") with
  | none =>
      refine
        ⟨node.mediator.initiateElection.2, callback,
          node.mediator.getPrimary, .manual, node.mediator.successor, ?_,
          ?_, ?_⟩
      · simp only [ClusterNode.makeCall, manualFailover_untargeted kept]
      · simp only [ClusterNode.afterCall, ClusterNode.makeCall,
          manualFailover_untargeted kept]
      · rw [takesOver_initiateElection named, FailoverReturns,
          Mediator.canLead]
        simp only [kept, true_implies]
  | some target =>
      have given : truthy (some target) = true := by
        rw [truthy_some_iff]
        simpa using (Option.filter_eq_some_iff.mp kept).2
      refine
        ⟨(node.mediator.setPrimary target).2, callback,
          node.mediator.getPrimary, .manual, some target, ?_, ?_, ?_⟩
      · simp only [ClusterNode.makeCall,
          FailoverController.manualFailover, kept]
      · simp only [ClusterNode.afterCall, ClusterNode.makeCall,
          FailoverController.manualFailover, kept]
      · rw [Mediator.takesOver, if_pos given, FailoverReturns,
          Mediator.canLead]
        simp only [kept, given, reduceCtorEq, false_implies,
          true_implies]

/-- A call that fails over is one failover, or nothing is to be done. -/
theorem failsOver_executes
    (named : node.mediator.Named) {call : FailoverCall}
    (failsOver : call.FailsOver) :
    (node.makeCall call = (.ok (), node) ∧ FailoverReturns node call) ∨
      Executes node call := by
  cases call with
  | checkAndFailover callback =>
      by_cases normal : node.failover.state = .normal
      · cases down : FailoverController.primaryDown node.mediator with
        | none =>
            refine
              Or.inl ⟨makeCall_checkAndFailover_idle (Or.inr down), ?_⟩
            intro current _ known
            rw [down] at known
            cases known
        | some current =>
            exact Or.inr (checkAndFailover_executes callback normal down)
      · refine
          Or.inl ⟨makeCall_checkAndFailover_idle (Or.inl normal), ?_⟩
        intro current same
        exact absurd same normal
  | manualFailover callback targetNode =>
      exact Or.inr (manualFailover_executes named callback targetNode)
  | onFailover => cases failsOver
  | onFailback => cases failsOver
  | checkAndFailback callback => cases failsOver
  | manualFailback callback => cases failsOver
  | mediator call => cases failsOver

/-- A failback leaves the statistics of failovers alone. -/
theorem executeFailback_balanced_iff :
    (controller.executeFailback mediator callback).2.1.stats.Balanced ↔
      controller.stats.Balanced := by
  simp only [FailoverController.executeFailback]
  split
  · cases callback <;> exact Iff.rfl
  · exact Iff.rfl

theorem balanced_of_not_failsOver
    (balanced : node.failover.stats.Balanced) {call : FailoverCall}
    (other : ¬ call.FailsOver) :
    (node.afterCall call).failover.stats.Balanced := by
  cases call with
  | checkAndFailover callback => exact absurd trivial other
  | manualFailover callback targetNode => exact absurd trivial other
  | onFailover => exact balanced
  | onFailback => exact balanced
  | checkAndFailback callback =>
      simp only [ClusterNode.afterCall, ClusterNode.makeCall,
        FailoverController.checkAndFailback]
      split
      · exact executeFailback_balanced_iff.mpr balanced
      · exact balanced
  | manualFailback callback =>
      simp only [ClusterNode.afterCall, ClusterNode.makeCall,
        FailoverController.manualFailback]
      split
      · exact executeFailback_balanced_iff.mpr balanced
      · exact balanced
  | mediator call => exact balanced

theorem failoverReturns_of_not_failsOver
    {call : FailoverCall} (other : ¬ call.FailsOver) :
    FailoverReturns node call := by
  cases call with
  | checkAndFailover callback => exact absurd trivial other
  | manualFailover callback targetNode => exact absurd trivial other
  | onFailover => trivial
  | onFailback => trivial
  | checkAndFailback callback => trivial
  | manualFailback callback => trivial
  | mediator call => trivial

/-- A call from sound statistics is consistent exactly if it returns. -/
theorem consistentAfter_iff
    (named : node.mediator.Named)
    (balanced : node.failover.stats.Balanced) (call : FailoverCall) :
    ConsistentAfter node call ↔ FailoverReturns node call := by
  by_cases failsOver : call.FailsOver
  · rcases failsOver_executes named failsOver with
      ⟨idle, returns⟩ |
        ⟨mediator, callback, oldPrimary, reason, chosen, answer, after,
          returns⟩
    · apply iff_of_true _ returns
      constructor
      · rw [ClusterNode.afterCall, idle]
        exact balanced
      · intro _ exception raised
        rw [idle] at raised
        cases raised
    · have counted :=
        @executeFailover_balanced_iff node.failover mediator callback
          balanced oldPrimary reason chosen
      have answers :=
        (@executeFailover_outcome node.failover mediator callback
          oldPrimary reason chosen).answers
      rw [← after, ← returns] at counted
      rw [← returns, ← map_unit_eq_ok_iff, ← answer] at answers
      constructor
      · intro consistent
        exact counted.mp consistent.balanced
      · intro returns
        constructor
        · exact counted.mpr returns
        · intro _ exception raised
          rw [answers.mpr returns] at raised
          cases raised
  · apply iff_of_true _ (failoverReturns_of_not_failsOver failsOver)
    exact
      ⟨balanced_of_not_failsOver balanced failsOver,
        fun does => absurd does failsOver⟩

theorem named_executeFailback
    (named : mediator.Named) :
    (controller.executeFailback mediator callback).2.2.Named := by
  cases primary : controller.originalPrimary with
  | some original =>
      have restored := named_setPrimary named original
      simp only [FailoverController.executeFailback, primary]
      split
      · cases callback <;> exact restored
      · exact restored
  | none =>
      simp only [FailoverController.executeFailback, primary]
      split
      · cases callback <;> exact named
      · exact named

theorem named_afterCall
    (named : node.mediator.Named) (call : FailoverCall) :
    (node.afterCall call).mediator.Named := by
  cases call with
  | onFailover => exact named
  | onFailback => exact named
  | checkAndFailover callback =>
      exact named_chainStep named (.checkAndFailover callback)
  | manualFailover callback targetNode =>
      exact named_chainStep named (.manualFailover callback targetNode)
  | checkAndFailback callback =>
      simp only [ClusterNode.afterCall, ClusterNode.makeCall,
        FailoverController.checkAndFailback]
      split
      · exact named_executeFailback named
      · exact named
  | manualFailback callback =>
      simp only [ClusterNode.afterCall, ClusterNode.makeCall,
        FailoverController.manualFailback]
      split
      · exact named_executeFailback named
      · exact named
  | mediator call => exact named_call named call

end Calls

/-- A new controller of a mediator. -/
def newFailoverController (mediator : NamedMediator) (autoFailback : Bool) :
    ClusterNode where
  mediator := mediator.val
  failover := { autoFailback := autoFailback }

/--
In a run of a new controller, the statistics add up after each call and raising
failovers change nothing exactly if no failover that finds a node to hand over
to runs a callback that raises.
-/
theorem failovers_consistent_iff
    (mediator : NamedMediator) (autoFailback : Bool)
    (calls : List FailoverCall) :
    AllSteps ClusterNode.afterCall ConsistentAfter
        (newFailoverController mediator autoFailback) calls ↔
      AllSteps ClusterNode.afterCall FailoverReturns
        (newFailoverController mediator autoFailback) calls := by
  apply
    @allSteps_iff_of_guarded _ _ _ _ _ fun node =>
      node.mediator.Named ∧ node.failover.stats.Balanced
  · rintro node call ⟨named, balanced⟩ returns
    refine ⟨named_afterCall named call, ?_⟩
    exact ((consistentAfter_iff named balanced call).mpr returns).balanced
  · rintro node call ⟨named, balanced⟩
    exact consistentAfter_iff named balanced call
  · exact ⟨mediator.property, rfl⟩

/-- Two nodes, and a callback that is registered. -/
def watchedPair : ClusterNode :=
  (newFailoverController pairMediator true).afterCall .onFailover

/-- A failover to the other node, of which the callback raises. -/
def raisingFailover : FailoverCall :=
  .manualFailover (.error (.runtimeError "callback")) (some "b")

/--
The failover is counted as successful and as failed and not in total, and the
target is the primary although the call raises.
-/
theorem raising_failover_inconsistent :
    ¬ AllSteps ClusterNode.afterCall ConsistentAfter
        (newFailoverController pairMediator true)
        [.onFailover, raisingFailover] ∧
      ¬ SameCluster watchedPair
        (watchedPair.afterCall raisingFailover) := by
  constructor
  · rintro ⟨_, consistent, _⟩
    have balanced := consistent.balanced
    revert balanced
    decide +kernel
  · intro same
    have primary := same.primary
    revert primary
    decide +kernel

end StorageAppliance.ActiveCluster
