import StorageAppliance.ActiveCluster.FailoverOrder

/-!
# Failback after a manual failover

The controller treats a manual failover like one that follows a failure: it
remembers the old primary as the original one and fails back to it as soon as it
is up.  The old primary of a manual failover usually is up all the time, so the
next round of the monitor undoes the failover.

`manualFailover_sticks_iff` says when it does not.
-/

namespace StorageAppliance.ActiveCluster

open StorageAppliance.Python
open StorageAppliance.Library

/-- A round of the monitor at a node, with what the two callbacks do. -/
def ClusterNode.monitorRound (node : ClusterNode)
    (callbacks : Except PyException Unit × Except PyException Unit) :
    ClusterNode :=
  let (controller, mediator) :=
    node.failover.monitorCluster node.mediator callbacks.1 callbacks.2
  { node with failover := controller, mediator := mediator }

/-- Fail over manually at a node. -/
def ClusterNode.manualFailover (node : ClusterNode)
    (callback : Except PyException Unit) (target : String) :
    ClusterNode :=
  let (_, controller, mediator) :=
    node.failover.manualFailover node.mediator callback (some target)
  { node with failover := controller, mediator := mediator }

/-- The primary of the node is up, and its failover will be recorded. -/
def Undone (node : ClusterNode) (callback : Except PyException Unit) :
    Prop :=
  ∃ primary info,
    node.mediator.getPrimary = some primary ∧
      primary ≠ "" ∧
      node.mediator.nodes.get? primary = some info ∧
      info.isHealthy = true ∧
      (node.failover.hasCallback = true → callback = .ok ())

/-- A target other than the primary that can take over. -/
structure CanTakeOver (node : ClusterNode) (target : String) : Prop where
  named : target ≠ ""
  other : node.mediator.getPrimary ≠ some target
  healthy :
    ∃ info,
      node.mediator.nodes.get? target = some info ∧
        info.isHealthy = true

section ManualFailover

variable
    {node : ClusterNode}
    {mediator : Mediator}
    {controller : FailoverController}
    {callback : Except PyException Unit}
    {callbacks : Except PyException Unit × Except PyException Unit}
    {target : String}

/-! ## Rounds of the monitor -/

/-- A monitor that neither fails over nor fails back changes nothing. -/
theorem monitorRound_idle
    (up :
      node.failover.state ≠ .normal ∨
        FailoverController.primaryDown node.mediator = none)
    (stays :
      ¬ (node.failover.autoFailback = true ∧
          node.failover.state = .failedOver ∧
          node.failover.originalUp node.mediator = true)) :
    node.monitorRound callbacks = node := by
  have idle := @checkAndFailover_idle callbacks.1 _ _ up
  simp only [ClusterNode.monitorRound, FailoverController.monitorCluster]
  generalize
    node.failover.checkAndFailover node.mediator callbacks.1 = checked
    at idle
  rcases checked with ⟨answer, next⟩
  change next = _ at idle
  subst idle
  cases answer with
  | error exception => rfl
  | ok event =>
      simp only [FailoverController.checkAndFailback, stays, if_false]

/-- A monitor round after a failover whose original primary is up again. -/
theorem monitorRound_failback
    (enabled : node.failover.autoFailback = true)
    (state : node.failover.state = .failedOver)
    (up : node.failover.originalUp node.mediator = true)
    {original : String}
    (remembered : node.failover.originalPrimary = some original) :
    (node.monitorRound callbacks).mediator =
      (node.mediator.setPrimary original).2 := by
  have away : node.failover.state ≠ .normal := by
    rw [state]
    simp
  have checked :
      node.failover.checkAndFailover node.mediator callbacks.1 =
        (.ok none, node.failover, node.mediator) := by
    rw [FailoverController.checkAndFailover, if_pos away]
  simp only [ClusterNode.monitorRound, FailoverController.monitorCluster,
    checked, FailoverController.checkAndFailback, enabled, state, up,
    and_self, if_true, FailoverController.executeFailback, remembered]
  split
  · cases callbacks.2 <;> rfl
  · rfl

/-! ## A manual failover -/

theorem setPrimary_member
    {info : NodeInfo} (found : mediator.nodes.get? target = some info) :
    (mediator.setPrimary target).2.getPrimary = some target ∧
      ∀ key,
        ((mediator.setPrimary target).2.nodes.get? key).map
            NodeInfo.isHealthy =
          (mediator.nodes.get? key).map NodeInfo.isHealthy := by
  simp only [Mediator.setPrimary, found]
  refine ⟨rfl, ?_⟩
  intro key
  rw [Dict.get?_mapValues, Option.map_map]
  congr 1
  funext old
  exact assignRole_isHealthy old _

/-- What a manual failover to a target leaves. -/
structure FailedOver (node : ClusterNode)
    (callback : Except PyException Unit) (target : String)
    (after : ClusterNode) : Prop where
  mediator : after.mediator = (node.mediator.setPrimary target).2
  original :
    after.failover.originalPrimary = node.mediator.getPrimary
  enabled :
    after.failover.autoFailback = node.failover.autoFailback
  state :
    after.failover.state =
      if node.failover.hasCallback = true ∧
          truthy node.mediator.getPrimary = true ∧ callback ≠ .ok () then
        .normal
      else
        .failedOver

theorem manualFailover_failedOver
    (node : ClusterNode) (callback : Except PyException Unit)
    (named : target ≠ "") :
    FailedOver node callback target
      (node.manualFailover callback target) := by
  have given : (some target).filter (· ≠ "") = some target := by
    simp [named]
  have chosen : truthy (some target) = true := truthy_some_iff.mpr named
  simp only [ClusterNode.manualFailover,
    FailoverController.manualFailover, given,
    FailoverController.executeFailover, chosen, if_true,
    Bool.and_eq_true]
  by_cases runs :
      node.failover.hasCallback = true ∧
        truthy node.mediator.getPrimary = true
  · rw [if_pos runs]
    cases callback with
    | error exception =>
        refine ⟨rfl, rfl, rfl, ?_⟩
        rw [if_pos ⟨runs.1, runs.2, by simp⟩]
        rfl
    | ok returned =>
        refine ⟨rfl, rfl, rfl, ?_⟩
        rw [if_neg fun raises => raises.2.2 rfl]
        rfl
  · rw [if_neg runs]
    refine ⟨rfl, rfl, rfl, ?_⟩
    rw [if_neg fun raises => runs ⟨raises.1, raises.2.1⟩]
    rfl

/-- The original primary is up after the failover as it was before. -/
theorem FailedOver.originalUp_iff
    {after : ClusterNode}
    (failed : FailedOver node callback target after)
    (canTakeOver : CanTakeOver node target) :
    after.failover.originalUp after.mediator = true ↔
      ∃ primary info,
        node.mediator.getPrimary = some primary ∧ primary ≠ "" ∧
          node.mediator.nodes.get? primary = some info ∧
          info.isHealthy = true := by
  rcases canTakeOver.healthy with ⟨targetInfo, found, _⟩
  have health := (setPrimary_member found).2
  rw [FailoverController.originalUp, failed.original, failed.mediator,
    Bool.and_eq_true]
  cases current : node.mediator.getPrimary with
  | none => simp [truthy]
  | some primary =>
      have same := health primary
      simp only [truthy_some_iff, Option.any_some, Option.some.injEq]
      cases known : node.mediator.nodes.get? primary with
      | none =>
          rw [known, Option.map_none, Option.map_eq_none_iff] at same
          simp [same, known]
      | some info =>
          rw [known, Option.map_some, Option.map_eq_some_iff] at same
          rcases same with ⟨later, there, equal⟩
          simp [there, equal, known]

/-- A member is still a member after the failover. -/
theorem FailedOver.member
    {after : ClusterNode}
    (failed : FailedOver node callback target after)
    (canTakeOver : CanTakeOver node target) {member : String}
    {info : NodeInfo} (found : node.mediator.nodes.get? member = some info) :
    ∃ later,
      after.mediator.nodes.get? member = some later ∧
        later.isHealthy = info.isHealthy := by
  rcases canTakeOver.healthy with ⟨targetInfo, targetFound, _⟩
  have same := (setPrimary_member targetFound).2 member
  rw [← failed.mediator, found, Option.map_some,
    Option.map_eq_some_iff] at same
  exact same

theorem FailedOver.current
    {after : ClusterNode}
    (failed : FailedOver node callback target after)
    (canTakeOver : CanTakeOver node target) :
    after.mediator.getPrimary = some target := by
  rcases canTakeOver.healthy with ⟨targetInfo, found, _⟩
  rw [failed.mediator]
  exact (setPrimary_member found).1

/-- The next round undoes a failover from a healthy primary. -/
theorem FailedOver.undone
    {after : ClusterNode}
    (failed : FailedOver node callback target after)
    (enabled : node.failover.autoFailback = true)
    (canTakeOver : CanTakeOver node target)
    (undone : Undone node callback) :
    (after.monitorRound (.ok (), .ok ())).mediator.getPrimary =
      node.mediator.getPrimary := by
  rcases undone with ⟨primary, info, was, named, member, up, returns⟩
  have recorded : after.failover.state = .failedOver := by
    rw [failed.state, if_neg]
    rintro ⟨registered, _, raises⟩
    exact raises (returns registered)
  have originalUp :=
    (failed.originalUp_iff canTakeOver).mpr
      ⟨primary, info, was, named, member, up⟩
  rcases failed.member canTakeOver member with ⟨later, there, _⟩
  rw [was,
    monitorRound_failback (failed.enabled.trans enabled) recorded originalUp
      (failed.original.trans was)]
  exact (setPrimary_member there).1

/-- No round changes anything after a failover that is not undone. -/
theorem FailedOver.quiet
    {after : ClusterNode}
    (failed : FailedOver node callback target after)
    (canTakeOver : CanTakeOver node target)
    (sticks : ¬ Undone node callback) :
    after.monitorRound callbacks = after := by
  apply monitorRound_idle
  · by_cases normal : after.failover.state = .normal
    · right
      rcases canTakeOver.healthy with ⟨info, found, healthy⟩
      rcases failed.member canTakeOver found with ⟨later, there, same⟩
      exact
        primaryDown_of_healthy (failed.current canTakeOver) there
          (same.trans healthy)
    · exact Or.inl normal
  · rintro ⟨_, state, up⟩
    rcases (failed.originalUp_iff canTakeOver).mp up with
      ⟨primary, old, was, named, member, up⟩
    apply sticks
    refine ⟨primary, old, was, named, member, up, ?_⟩
    intro registered
    by_contra raises
    rw [failed.state, if_pos] at state
    · cases state
    · refine ⟨registered, ?_, raises⟩
      rw [was]
      exact truthy_some_iff.mpr named

/--
After a manual failover to a healthy member the monitor leaves the primary alone
for ever exactly if the failover is not undone: the old primary was not a
healthy member, or a callback kept the failover from being recorded.
-/
theorem manualFailover_sticks_iff
    (enabled : node.failover.autoFailback = true)
    (canTakeOver : CanTakeOver node target)
    (callback : Except PyException Unit) :
    (∀ rounds,
        (run ClusterNode.monitorRound
              (node.manualFailover callback target)
              rounds).mediator.getPrimary = some target) ↔
      ¬ Undone node callback := by
  have failed :=
    manualFailover_failedOver node callback canTakeOver.named
  constructor
  · intro sticks undone
    have next := sticks [(.ok (), .ok ())]
    rw [run_cons, run_nil, failed.undone enabled canTakeOver undone]
      at next
    exact canTakeOver.other next
  · intro sticks rounds
    have unchanged :
        run ClusterNode.monitorRound
            (node.manualFailover callback target) rounds =
          node.manualFailover callback target := by
      apply
        @run_invariant_of_step _ _ ClusterNode.monitorRound
          (fun state => state = node.manualFailover callback target)
      · rintro state callbacks rfl
        exact failed.quiet canTakeOver sticks
      · rfl
    rw [unchanged]
    exact failed.current canTakeOver

end ManualFailover

/-- A node whose view has two members, the primary of which is silent or not. -/
def pairNode (silent : Bool) : ClusterNode where
  mediator :=
    run Mediator.call { nodeId := "b" }
      ([.registerSelf 0 .secondary, .addNode 0 "a" .primary,
          .setPrimary "a"] ++
        if silent then [.checkNodeHealth 10] else [])

theorem manualFailover_sticks_silent :
    (pairNode true).mediator.getPrimary = some "a" ∧
      ∀ rounds,
        (run ClusterNode.monitorRound
              ((pairNode true).manualFailover (.ok ()) "b")
              rounds).mediator.getPrimary = some "b" := by
  have current : (pairNode true).mediator.getPrimary = some "a" := by
    decide +kernel
  have canTakeOver : CanTakeOver (pairNode true) "b" := by
    refine ⟨by decide, by decide +kernel, ?_⟩
    exact
      ⟨{ nodeId := "b", role := .secondary }, by decide +kernel, rfl⟩
  refine ⟨current, ?_⟩
  apply (manualFailover_sticks_iff rfl canTakeOver (.ok ())).mpr
  rintro ⟨primary, info, was, _, member, healthy, _⟩
  have same : primary = "a" := Option.some.inj (was.symm.trans current)
  subst same
  have down :
      (pairNode true).mediator.nodes.get? "a" =
        some
          { nodeId := "a"
            role := .primary
            isHealthy := false } := by
    decide +kernel
  cases member.symm.trans down
  cases healthy

/-- The first round of the monitor undoes a manual failover. -/
theorem manualFailover_undone :
    ((pairNode false).manualFailover (.ok ())
          "b").mediator.getPrimary = some "b" ∧
      (run ClusterNode.monitorRound
            ((pairNode false).manualFailover (.ok ()) "b")
            [(.ok (), .ok ())]).mediator.getPrimary = some "a" := by
  constructor
  · decide +kernel
  · decide +kernel

end StorageAppliance.ActiveCluster
