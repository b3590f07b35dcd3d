import StorageAppliance.ActiveCluster.FailoverEvents

/-!
# Failback after a chain of failovers

A failback returns to the primary that the controller remembers.  Every failover
overwrites it with the primary of that moment, also when the one before has not
been undone, so a chain of failovers forgets where it began.  A failback ignores
whether `set_primary` has found the remembered node.

A chain is any list of failover checks and manual failovers, with the
heartbeats, health checks and elections that a node lives through in between.
`failback_restores_iff` says for which chains each failback leads to a given
primary.
-/

namespace StorageAppliance.ActiveCluster

open StorageAppliance.Python
open StorageAppliance.Library

/-- What happens at a node while no failback is made. -/
inductive ChainStep where
  | checkAndFailover (callback : Except PyException Unit)
  | manualFailover (callback : Except PyException Unit)
      (targetNode : Option String)
  | receiveHeartbeat (now : ℚ) (sourceNode : String)
  | checkNodeHealth (now : ℚ)
  | runElectionTask

/-- The node after a step. -/
def ClusterNode.chainStep (node : ClusterNode) :
    ChainStep → ClusterNode
  | .checkAndFailover callback =>
      let (_, controller, mediator) :=
        node.failover.checkAndFailover node.mediator callback
      { node with failover := controller, mediator := mediator }
  | .manualFailover callback targetNode =>
      let (_, controller, mediator) :=
        node.failover.manualFailover node.mediator callback targetNode
      { node with failover := controller, mediator := mediator }
  | .receiveHeartbeat now sourceNode =>
      { node with
        mediator := (node.mediator.receiveHeartbeat now sourceNode).2 }
  | .checkNodeHealth now =>
      { node with mediator := node.mediator.checkNodeHealth now }
  | .runElectionTask =>
      { node with mediator := node.mediator.runElectionTask }

/-- A failback, by the monitor or by hand, makes the node the primary. -/
structure FailbackRestores (primary : String) (node : ClusterNode) :
    Prop where
  manual :
    ∀ callback,
      (node.failover.manualFailback node.mediator callback).1 ≠
          .ok none →
        (node.failover.manualFailback node.mediator
          callback).2.2.getPrimary = some primary
  checked :
    ∀ callback,
      (node.failover.checkAndFailback node.mediator callback).1 ≠
          .ok none →
        (node.failover.checkAndFailback node.mediator
          callback).2.2.getPrimary = some primary

/-- The primary after `set_primary`, which refuses unknown nodes. -/
def Mediator.returnsTo (self : Mediator) (nodeId : String) :
    Option String :=
  if (self.nodes.get? nodeId).isSome then
    some nodeId
  else
    self.currentPrimary

/-- The primary that a manual failover leads to. -/
def Mediator.leadsTo (self : Mediator) (targetNode : Option String) :
    Option String :=
  match targetNode.filter (· ≠ "") with
  | some target => self.returnsTo target
  | none => self.successor

/-- A manual failover has a target or elects a node. -/
def Mediator.canLead (self : Mediator) (targetNode : Option String) :
    Prop :=
  targetNode.filter (· ≠ "") = none → truthy self.successor = true

/--
A completed failover starts at the primary.  If it starts at a node that is no
member any more, to which no failback leads, it leads to the primary instead.
-/
def KeepsOrigin (primary : String) (node : ClusterNode) :
    ChainStep → Prop
  | .checkAndFailover callback =>
      ∀ old,
        node.failover.state = .normal →
          FailoverController.primaryDown node.mediator = some old →
            truthy node.mediator.successor = true →
              CallbackReturns node.failover callback (some old) →
                old = primary
  | .manualFailover callback targetNode =>
      ∀ old,
        node.mediator.getPrimary = some old →
          old ≠ "" →
            node.mediator.canLead targetNode →
              CallbackReturns node.failover callback (some old) →
                if (node.mediator.nodes.get? old).isSome then
                  old = primary
                else
                  node.mediator.leadsTo targetNode = some primary
  | .receiveHeartbeat _ _ => True
  | .checkNodeHealth _ => True
  | .runElectionTask =>
      ∀ original elected,
        node.failover.state = .failedOver →
          node.failover.originalPrimary = some original →
            original ≠ "" →
              node.mediator.nodes.get? original = none →
                node.mediator.electionTasks ≠ 0 →
                  node.mediator.successor = some elected →
                    elected = primary

section Chains

variable
    {mediator : Mediator}
    {node : ClusterNode}
    {primary : String}

/-! ## Where a failback leads -/

theorem setPrimary_returnsTo (mediator : Mediator) (nodeId : String) :
    (mediator.setPrimary nodeId).2.getPrimary =
      mediator.returnsTo nodeId := by
  rw [Mediator.setPrimary, Mediator.returnsTo]
  cases mediator.nodes.get? nodeId with
  | none => rfl
  | some info => rfl

/-- After a completed failover, the remembered primary leads back. -/
def LeadsBack (primary : String) (node : ClusterNode) : Prop :=
  ∀ original,
    node.failover.state = .failedOver →
      node.failover.originalPrimary = some original →
        original ≠ "" →
          node.mediator.returnsTo original = some primary

theorem executeFailback_getPrimary
    {controller : FailoverController} {original : String}
    (remembered : controller.originalPrimary = some original)
    (callback : Except PyException Unit) :
    (controller.executeFailback mediator callback).2.2.getPrimary =
      mediator.returnsTo original := by
  rw [← setPrimary_returnsTo]
  simp only [FailoverController.executeFailback, remembered]
  split
  · cases callback <;> rfl
  · rfl

theorem map_some_ne_none {Answer : Type*}
    (answer : Except PyException Answer) :
    answer.map some ≠ .ok none := by
  cases answer with
  | error exception => simp [Except.map]
  | ok value => simp [Except.map]

theorem failbackRestores_iff :
    FailbackRestores primary node ↔ LeadsBack primary node := by
  constructor
  · intro restores original failedOver remembered named
    have known : truthy node.failover.originalPrimary = true := by
      rw [remembered]
      exact truthy_some_iff.mpr named
    have back := restores.manual (.ok ())
    rw [FailoverController.manualFailback, if_pos ⟨failedOver, known⟩]
      at back
    rw [← executeFailback_getPrimary remembered (.ok ())]
    exact back (map_some_ne_none _)
  · intro leads
    have back :
        ∀ callback,
          node.failover.state = .failedOver →
            truthy node.failover.originalPrimary = true →
              (node.failover.executeFailback node.mediator
                callback).2.2.getPrimary = some primary := by
      intro callback failedOver known
      cases remembered : node.failover.originalPrimary with
      | none =>
          rw [remembered] at known
          cases known
      | some original =>
          rw [remembered] at known
          rw [executeFailback_getPrimary remembered]
          exact
            leads original failedOver remembered
              (truthy_some_iff.mp known)
    constructor
    · intro callback performed
      rw [FailoverController.manualFailback] at performed ⊢
      split
      · rename_i ready
        exact back callback ready.1 ready.2
      · rename_i unready
        rw [if_neg unready] at performed
        exact absurd rfl performed
    · intro callback performed
      rw [FailoverController.checkAndFailback] at performed ⊢
      split
      · rename_i ready
        have up := Bool.and_eq_true_iff.mp ready.2.2
        exact back callback ready.2.1 up.1
      · rename_i unready
        rw [if_neg unready] at performed
        exact absurd rfl performed

/-! ## Members stay members -/

/-- Two mediators have the same members. -/
def SameMembers (before after : Mediator) : Prop :=
  ∀ key,
    (after.nodes.get? key).isSome = (before.nodes.get? key).isSome

theorem sameMembers_setPrimary (mediator : Mediator) (nodeId : String) :
    SameMembers mediator (mediator.setPrimary nodeId).2 := by
  intro key
  rw [Mediator.setPrimary]
  split
  · rfl
  · simp only [Dict.get?_mapValues, Option.isSome_map]

theorem sameMembers_initiateElection (mediator : Mediator) :
    SameMembers mediator mediator.initiateElection.2 := by
  intro key
  rcases initiateElection_nodes mediator with ⟨update, _, mapped | same⟩
  · rw [mapped, Dict.get?_mapValues, Option.isSome_map]
  · rw [same]

theorem sameMembers_runElectionTask (mediator : Mediator) :
    SameMembers mediator mediator.runElectionTask := by
  intro key
  rw [Mediator.runElectionTask]
  split
  · rfl
  · exact
      sameMembers_initiateElection
        { mediator with electionTasks := mediator.electionTasks - 1 } key

theorem sameMembers_receiveHeartbeat
    (mediator : Mediator) (now : ℚ) (sourceNode : String) :
    SameMembers mediator
      (mediator.receiveHeartbeat now sourceNode).2 := by
  intro key
  simp only [Mediator.receiveHeartbeat]
  split
  · simp only [Dict.get?_modify]
    split
    · rw [Option.isSome_map]
    · rfl
  · rfl

theorem sameMembers_checkNodeHealth (mediator : Mediator) (now : ℚ) :
    SameMembers mediator (mediator.checkNodeHealth now) := by
  intro key
  simp only [Mediator.checkNodeHealth, Dict.get?_mapValues,
    Option.isSome_map]

/-- A failback leads to the same node under the same members and primary. -/
theorem returnsTo_congr
    {after : Mediator} (members : SameMembers mediator after)
    (current : after.currentPrimary = mediator.currentPrimary)
    (nodeId : String) :
    after.returnsTo nodeId = mediator.returnsTo nodeId := by
  rw [Mediator.returnsTo, Mediator.returnsTo, members nodeId, current]

/-- Where a failback to a node leads, once members and primary are known. -/
theorem returnsTo_eq_some_iff
    {after : Mediator} (members : SameMembers mediator after)
    {old : String} :
    after.returnsTo old = some primary ↔
      if (mediator.nodes.get? old).isSome then
        old = primary
      else
        after.currentPrimary = some primary := by
  rw [Mediator.returnsTo, members old]
  split
  · exact Option.some.injEq _ _ |>.to_iff
  · exact Iff.rfl

/-! ## Failovers -/

/-- Where a failback leads after a failover. -/
theorem leadsBack_of_outcome
    {callback : Except PyException Unit}
    {oldPrimary chosen : Option String}
    {outcome :
      Except PyException FailoverEvent × FailoverController × Mediator}
    (outcomes :
      FailoverOutcome node.failover mediator callback oldPrimary chosen
        outcome) :
    LeadsBack primary
        { node with failover := outcome.2.1, mediator := outcome.2.2 } ↔
      ∀ old,
        oldPrimary = some old →
          old ≠ "" →
            truthy (mediator.takesOver chosen) = true →
              CallbackReturns node.failover callback (some old) →
                (mediator.handOver chosen).returnsTo old =
                  some primary := by
  constructor
  · rintro leads old rfl named known returns
    rw [← outcomes.handed]
    exact
      leads old (outcomes.state.mpr ⟨known, returns⟩) outcomes.original
        named
  · intro leads old failedOver remembered named
    have same : oldPrimary = some old :=
      outcomes.original.symm.trans remembered
    subst same
    rcases outcomes.state.mp failedOver with ⟨known, returns⟩
    have back := leads old rfl named known returns
    rw [← outcomes.handed] at back
    exact back

theorem leadsBack_checkAndFailover_iff
    (leads : LeadsBack primary node)
    (callback : Except PyException Unit) :
    LeadsBack primary (node.chainStep (.checkAndFailover callback)) ↔
      KeepsOrigin primary node (.checkAndFailover callback) := by
  by_cases starts :
      node.failover.state = .normal ∧
        FailoverController.primaryDown node.mediator ≠ none
  · rcases Option.ne_none_iff_exists'.mp starts.2 with ⟨current, down⟩
    rcases primaryDown_eq_some down with ⟨named, _, info, member, _⟩
    have checked :=
      @checkAndFailover_of_down _ _ callback starts.1 _ down
    have after :
        node.chainStep (.checkAndFailover callback) =
          { node with
            failover :=
              (node.failover.executeFailover node.mediator callback
                (some current) .nodeFailure none).2.1
            mediator :=
              (node.failover.executeFailover node.mediator callback
                (some current) .nodeFailure none).2.2 } := by
      simp only [ClusterNode.chainStep, checked]
    have leading :
        node.mediator.initiateElection.2.returnsTo current =
          some current := by
      rw [Mediator.returnsTo, sameMembers_initiateElection, member]
      rfl
    rw [after,
      leadsBack_of_outcome
        (executeFailover_outcome (some current) .nodeFailure none)]
    constructor
    · intro back old _ silent settled returns
      cases down.symm.trans silent
      have there := back current rfl named settled returns
      exact Option.some.inj (leading.symm.trans there)
    · rintro origin old ⟨⟩ _ settled returns
      have same := origin current starts.1 down settled returns
      rw [← same]
      exact leading
  · have idle :
        node.chainStep (.checkAndFailover callback) = node := by
      have unchanged :=
        @checkAndFailover_idle callback node.mediator node.failover
          (by
            by_cases normal : node.failover.state = .normal
            · exact Or.inr
                (not_not.mp fun down => starts ⟨normal, down⟩)
            · exact Or.inl normal)
      simp only [ClusterNode.chainStep, unchanged]
    rw [idle]
    apply iff_of_true leads
    intro old normal down
    exact absurd ⟨normal, by rw [down]; simp⟩ starts

/-- Without a target the elected node has to be the primary to return to. -/
theorem leadsBack_untargeted_iff
    (named : node.mediator.Named)
    (callback : Except PyException Unit) {targetNode : Option String}
    (kept : targetNode.filter (· ≠ "") = none) :
    LeadsBack primary
        (node.chainStep (.manualFailover callback targetNode)) ↔
      KeepsOrigin primary node (.manualFailover callback targetNode) := by
  have untargeted :=
    @manualFailover_untargeted node.failover node.mediator callback _ kept
  simp only [ClusterNode.chainStep, untargeted]
  rw [leadsBack_of_outcome (executeFailover_outcome _ _ _),
    takesOver_initiateElection named]
  apply forall_congr'
  intro old
  apply imp_congr_right
  intro recorded
  apply imp_congr_right
  intro nonempty
  have can :
      node.mediator.canLead targetNode ↔
        truthy node.mediator.successor = true :=
    ⟨fun can => can kept, fun settled _ => settled⟩
  rw [can]
  apply imp_congr_right
  intro settled
  apply imp_congr_right
  intro _
  rw [Mediator.handOver, if_pos settled,
    returnsTo_eq_some_iff (sameMembers_initiateElection _)]
  cases chosen : node.mediator.successor with
  | none =>
      rw [chosen] at settled
      cases settled
  | some elected =>
      rw [initiateElection_settled chosen, Mediator.leadsTo, kept]
      simp only [chosen]

/-- With a target it is the target that may not be a node. -/
theorem leadsBack_targeted_iff
    (callback : Except PyException Unit) {target : String}
    (given : target ≠ "") :
    LeadsBack primary
        (node.chainStep (.manualFailover callback (some target))) ↔
      KeepsOrigin primary node
        (.manualFailover callback (some target)) := by
  have kept : (some target).filter (· ≠ "") = some target :=
    Option.filter_eq_some_iff.mpr ⟨rfl, by simpa using given⟩
  have targeted :=
    @manualFailover_targeted node.failover node.mediator callback _ given
  have known : truthy (some target) = true := truthy_some_iff.mpr given
  simp only [ClusterNode.chainStep, targeted]
  rw [leadsBack_of_outcome (executeFailover_outcome _ _ _)]
  apply forall_congr'
  intro old
  apply imp_congr_right
  intro recorded
  apply imp_congr_right
  intro nonempty
  have can : node.mediator.canLead (some target) := by
    intro absent
    rw [kept] at absent
    cases absent
  have taken :
      (node.mediator.setPrimary target).2.takesOver (some target) =
        some target :=
    if_pos known
  rw [taken, Mediator.handOver, if_pos known]
  simp only [known, can, forall_const]
  apply imp_congr_right
  intro _
  rw [returnsTo_eq_some_iff (sameMembers_setPrimary _ _),
    ← Mediator.getPrimary, setPrimary_returnsTo, Mediator.leadsTo, kept]

theorem leadsBack_manualFailover_iff
    (named : node.mediator.Named)
    (callback : Except PyException Unit) (targetNode : Option String) :
    LeadsBack primary
        (node.chainStep (.manualFailover callback targetNode)) ↔
      KeepsOrigin primary node (.manualFailover callback targetNode) := by
  cases kept : targetNode.filter (· ≠ "") with
  | none => exact leadsBack_untargeted_iff named callback kept
  | some target =>
      have given : target ≠ "" := by
        have filtered := (Option.filter_eq_some_iff.mp kept).2
        simpa using filtered
      have same : targetNode = some target :=
        (Option.filter_eq_some_iff.mp kept).1
      subst same
      exact leadsBack_targeted_iff callback given

/-! ## Elections in between -/

/-- An election task may only matter for a primary that was removed. -/
theorem leadsBack_runElectionTask_iff
    (leads : LeadsBack primary node) :
    LeadsBack primary (node.chainStep .runElectionTask) ↔
      KeepsOrigin primary node .runElectionTask := by
  have members := sameMembers_runElectionTask node.mediator
  constructor
  · intro after original elected failedOver remembered named removed
      waiting chosen
    have back := after original failedOver remembered named
    rw [ClusterNode.chainStep] at back
    rw [returnsTo_eq_some_iff members, removed,
      if_neg (by simp), ← Mediator.getPrimary,
      runElectionTask_elected waiting chosen] at back
    exact Option.some.inj back
  · intro keeps original failedOver remembered named
    have before := leads original failedOver remembered named
    rw [ClusterNode.chainStep]
    rw [returnsTo_eq_some_iff members]
    rw [returnsTo_eq_some_iff fun _ => rfl] at before
    split
    · rename_i member
      rw [if_pos member] at before
      exact before
    · rename_i absent
      rw [if_neg absent] at before
      have removed : node.mediator.nodes.get? original = none := by
        simpa using absent
      by_cases waiting : node.mediator.electionTasks = 0
      · rw [Mediator.runElectionTask, if_pos waiting]
        exact before
      · cases chosen : node.mediator.successor with
        | none =>
            have idle :
                Mediator.successor
                  { node.mediator with
                    electionTasks := node.mediator.electionTasks - 1 } =
                  none :=
              chosen
            rw [runElectionTask_eq waiting,
              initiateElection_unsettled idle]
            exact before
        | some elected =>
            have same :=
              keeps original elected failedOver remembered named removed
                waiting chosen
            rw [← same]
            exact runElectionTask_elected waiting chosen

/-! ## Every chain -/

/-- A step keeps the way back exactly if it keeps the origin. -/
theorem leadsBack_chainStep_iff
    (named : node.mediator.Named) (leads : LeadsBack primary node)
    (step : ChainStep) :
    LeadsBack primary (node.chainStep step) ↔
      KeepsOrigin primary node step := by
  cases step with
  | checkAndFailover callback =>
      exact leadsBack_checkAndFailover_iff leads callback
  | manualFailover callback targetNode =>
      exact leadsBack_manualFailover_iff named callback targetNode
  | receiveHeartbeat now sourceNode =>
      apply iff_of_true _ trivial
      intro original failedOver remembered nonempty
      rw [ClusterNode.chainStep,
        returnsTo_congr
          (sameMembers_receiveHeartbeat node.mediator now sourceNode)]
      · exact leads original failedOver remembered nonempty
      · simp only [Mediator.receiveHeartbeat]
        split <;> rfl
  | checkNodeHealth now =>
      apply iff_of_true _ trivial
      intro original failedOver remembered nonempty
      rw [ClusterNode.chainStep,
        returnsTo_congr (sameMembers_checkNodeHealth node.mediator now)
          rfl]
      exact leads original failedOver remembered nonempty
  | runElectionTask => exact leadsBack_runElectionTask_iff leads

theorem named_executeFailover
    {controller : FailoverController}
    {callback : Except PyException Unit} (named : mediator.Named)
    (oldPrimary : Option String) (reason : FailoverReason)
    (chosen : Option String) :
    (controller.executeFailover mediator callback oldPrimary reason
      chosen).2.2.Named := by
  rw [(executeFailover_outcome oldPrimary reason chosen).handed,
    Mediator.handOver]
  split
  · exact named
  · exact named_initiateElection named

theorem named_chainStep
    (named : node.mediator.Named) (step : ChainStep) :
    (node.chainStep step).mediator.Named := by
  cases step with
  | checkAndFailover callback =>
      simp only [ClusterNode.chainStep, checkAndFailover_mediator]
      split
      · exact named_initiateElection named
      · exact named
  | manualFailover callback targetNode =>
      simp only [ClusterNode.chainStep]
      cases kept : targetNode.filter (· ≠ "") with
      | none =>
          rw [manualFailover_untargeted kept]
          exact
            named_executeFailover (named_initiateElection named) _ _ _
      | some target =>
          rw [FailoverController.manualFailover, kept]
          exact
            named_executeFailover (named_setPrimary named target) _ _ _
  | receiveHeartbeat now sourceNode =>
      exact named_receiveHeartbeat named now sourceNode
  | checkNodeHealth now => exact named_checkNodeHealth named now
  | runElectionTask => exact named_runElectionTask named

end Chains

/-- A node that has not failed over. -/
def normalNode (controller : FailoverController)
    (mediator : NamedMediator) : ClusterNode where
  mediator := mediator.val
  failover := { controller with state := .normal }

/--
After each step of a chain from a normal state, a failback leads to the given
primary exactly if each completed failover of the chain starts at this primary,
a member, or starts at a removed node and leads to this primary.
-/
theorem failback_restores_iff
    (controller : FailoverController) (mediator : NamedMediator)
    (primary : String) (steps : List ChainStep) :
    AllSteps ClusterNode.chainStep
        (fun node step => FailbackRestores primary (node.chainStep step))
        (normalNode controller mediator) steps ↔
      AllSteps ClusterNode.chainStep (KeepsOrigin primary)
        (normalNode controller mediator) steps := by
  apply
    @allSteps_property_iff _ _ _ _ (fun node => node.mediator.Named)
      (FailbackRestores primary)
  · exact fun node step named _ => named_chainStep named step
  · intro node step named restores
    rw [failbackRestores_iff] at restores ⊢
    exact leadsBack_chainStep_iff named restores step
  · exact mediator.property
  · rw [failbackRestores_iff]
    intro original failedOver
    cases failedOver

/-- Two failovers by hand from the first of three nodes. -/
def chainedNode : ClusterNode :=
  run ClusterNode.chainStep
    (normalNode {}
      (reachedMediator "a"
        [.registerSelf 0 .primary, .addNode 0 "b" .secondary,
          .addNode 0 "c" .secondary, .setPrimary "a"]))
    [.manualFailover (.ok ()) (some "b"),
      .manualFailover (.ok ()) (some "c")]

theorem failback_stops_halfway :
    ¬ FailbackRestores "a" chainedNode ∧
      (chainedNode.failover.manualFailback chainedNode.mediator
        (.ok ())).2.2.getPrimary = some "b" := by
  have halfway :
      (chainedNode.failover.manualFailback chainedNode.mediator
        (.ok ())).2.2.getPrimary = some "b" := by
    decide +kernel
  refine ⟨?_, halfway⟩
  intro restores
  have back := restores.manual (.ok ()) (by decide +kernel)
  rw [halfway] at back
  exact absurd back (by decide)

end StorageAppliance.ActiveCluster
