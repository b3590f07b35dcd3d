import StorageAppliance.ActiveCluster.Membership

/-!
# A single recorded primary

A mediator records the primary twice: as an identifier, and as the role of a
node.  An election and `set_primary` bring both into line, and heartbeats and
health checks leave both alone.  Adding a node writes its role without looking
at the identifier, and removing one leaves the identifier behind.

`singlePrimary_after_each_iff` says which calls keep the two in line.
-/

namespace StorageAppliance.ActiveCluster

open StorageAppliance.Library

/-- The recorded primary is the one member whose role says so. -/
def Mediator.SinglePrimary (mediator : Mediator) : Prop :=
  ∀ current,
    mediator.currentPrimary = some current →
      (∃ info,
        mediator.nodes.get? current = some info ∧
          info.role = .primary) ∧
        ∀ key info,
          mediator.nodes.get? key = some info →
            info.role = .primary → key = current

/-- Adding a node gives the recorded primary, and only it, that role. -/
def AddsInLine (mediator : Mediator) (nodeId : String)
    (role : NodeRole) : Prop :=
  ∀ current,
    mediator.currentPrimary = some current →
      (role = .primary ↔ nodeId = current)

/-- The calls that keep the two records in line. -/
def KeepsPrimary (mediator : Mediator) : MediatorCall → Prop
  | .registerSelf _ role => AddsInLine mediator mediator.nodeId role
  | .addNode _ nodeId role => AddsInLine mediator nodeId role
  | .removeNode nodeId => mediator.currentPrimary ≠ some nodeId
  | _ => True

section SinglePrimary

variable {mediator : Mediator}

/-! ## Calls that assign the roles -/

/-- Roles assigned by a test that singles out a member. -/
theorem singlePrimary_of_assigned
    {after : Mediator} {primary : String} {info : NodeInfo}
    {isPrimary : String → NodeInfo → Bool}
    (recorded : after.currentPrimary = some primary)
    (nodes :
      after.nodes =
        mediator.nodes.mapValues fun key node =>
          node.assignRole (isPrimary key node))
    (member : mediator.nodes.get? primary = some info)
    (singles :
      ∀ key node,
        mediator.nodes.get? key = some node →
          (isPrimary key node = true ↔ key = primary)) :
    after.SinglePrimary := by
  intro current same
  rw [recorded] at same
  cases same
  constructor
  · refine ⟨info.assignRole (isPrimary primary info), ?_, ?_⟩
    · rw [nodes, Dict.get?_mapValues, member]
      rfl
    · apply (assignRole_primary_iff _ _).mpr
      exact (singles primary info member).mpr rfl
  · intro key node found role
    rw [nodes, Dict.get?_mapValues] at found
    rcases Option.map_eq_some_iff.mp found with ⟨old, known, rfl⟩
    have assigned := (assignRole_primary_iff _ _).mp role
    exact (singles key old known).mp assigned

theorem singlePrimary_setPrimary
    (single : mediator.SinglePrimary) (nodeId : String) :
    (mediator.setPrimary nodeId).2.SinglePrimary := by
  rw [Mediator.setPrimary]
  split
  · exact single
  · rename_i info member
    apply
      @singlePrimary_of_assigned mediator _ nodeId info
        (fun key _ => decide (key = nodeId)) rfl rfl member
    intro key node _
    exact decide_eq_true_iff

theorem singlePrimary_initiateElection
    (named : mediator.Named) (single : mediator.SinglePrimary) :
    mediator.initiateElection.2.SinglePrimary := by
  cases elected : mediator.successor with
  | none =>
      have nodes := initiateElection_unsettled_nodes elected
      have primary := initiateElection_unsettled elected
      intro current recorded
      rw [primary] at recorded
      rw [nodes]
      exact single current recorded
  | some newPrimary =>
      rcases successor_member named elected with ⟨info, member, _⟩
      apply
        @singlePrimary_of_assigned mediator _ newPrimary info
          (fun _ node => decide (node.nodeId = newPrimary))
          (initiateElection_settled elected)
          (initiateElection_elected_nodes elected) member
      intro key node found
      rw [decide_eq_true_iff, named key node found]

theorem singlePrimary_runElectionTask
    (named : mediator.Named) (single : mediator.SinglePrimary) :
    mediator.runElectionTask.SinglePrimary := by
  rw [Mediator.runElectionTask]
  split
  · exact single
  · have idle :
        Mediator.SinglePrimary
          { mediator with electionTasks := mediator.electionTasks - 1 } :=
      single
    exact singlePrimary_initiateElection named idle

/-! ## Calls that leave the roles alone -/

theorem singlePrimary_of_roles
    {after : Mediator} (single : mediator.SinglePrimary)
    (primary : after.currentPrimary = mediator.currentPrimary)
    (roles :
      ∀ key,
        (after.nodes.get? key).map NodeInfo.role =
          (mediator.nodes.get? key).map NodeInfo.role) :
    after.SinglePrimary := by
  intro current recorded
  rw [primary] at recorded
  rcases single current recorded with ⟨⟨info, member, role⟩, only⟩
  constructor
  · have here := roles current
    rw [member, Option.map_some, role] at here
    exact Option.map_eq_some_iff.mp here
  · intro key node found nodeRole
    have here := roles key
    rw [found, Option.map_some, nodeRole] at here
    rcases Option.map_eq_some_iff.mp here.symm with ⟨old, known, oldRole⟩
    exact only key old known oldRole

theorem singlePrimary_receiveHeartbeat
    (single : mediator.SinglePrimary) (now : ℚ) (sourceNode : String) :
    (mediator.receiveHeartbeat now sourceNode).2.SinglePrimary := by
  simp only [Mediator.receiveHeartbeat]
  split
  · refine singlePrimary_of_roles single ?_ ?_
    · rfl
    · intro key
      simp only [Dict.get?_modify]
      split
      · cases mediator.nodes.get? key <;> rfl
      · rfl
  · exact single

theorem singlePrimary_checkNodeHealth
    (single : mediator.SinglePrimary) (now : ℚ) :
    (mediator.checkNodeHealth now).SinglePrimary := by
  refine singlePrimary_of_roles single ?_ ?_
  · rfl
  · intro key
    simp only [Mediator.checkNodeHealth, Dict.get?_mapValues]
    cases mediator.nodes.get? key with
    | none => rfl
    | some node =>
        simp only [Option.map_some]
        split <;> rfl

/-! ## Calls that change the members -/

theorem singlePrimary_addNode_iff
    (single : mediator.SinglePrimary) (now : ℚ) (nodeId : String)
    (role : NodeRole) :
    (mediator.addNode now nodeId role).SinglePrimary ↔
      AddsInLine mediator nodeId role := by
  have added :
      (mediator.addNode now nodeId role).nodes.get? nodeId =
        some
          { nodeId := nodeId, role := role, lastHeartbeat := now } := by
    simp [Mediator.addNode]
  constructor
  · intro after current recorded
    rcases after current recorded with ⟨⟨info, member, primary⟩, only⟩
    constructor
    · intro given
      exact only nodeId _ added given
    · rintro rfl
      rw [added] at member
      cases member
      exact primary
  · intro inLine current recorded
    rcases single current recorded with ⟨⟨info, member, primary⟩, only⟩
    have role_iff := inLine current recorded
    constructor
    · by_cases same : nodeId = current
      · rw [← same]
        exact ⟨_, added, role_iff.mpr same⟩
      · refine ⟨info, ?_, primary⟩
        simp only [Mediator.addNode, Dict.get?_set,
          if_neg (Ne.symm same)]
        exact member
    · intro key node found nodeRole
      simp only [Mediator.addNode, Dict.get?_set] at found
      split at found
      · rename_i same
        cases found
        exact same.trans (role_iff.mp nodeRole)
      · exact only key node found nodeRole

theorem singlePrimary_removeNode_iff
    (single : mediator.SinglePrimary) (nodeId : String) :
    (mediator.removeNode nodeId).2.SinglePrimary ↔
      mediator.currentPrimary ≠ some nodeId := by
  constructor
  · intro after recorded
    rcases (single nodeId recorded).1 with ⟨info, member, _⟩
    simp only [Mediator.removeNode, member] at after
    rcases (after nodeId recorded).1 with ⟨other, found, _⟩
    exact (Dict.get?_of_erase found).1 rfl
  · intro others
    rw [Mediator.removeNode]
    split
    · intro current recorded
      rcases single current recorded with ⟨⟨info, member, role⟩, only⟩
      constructor
      · refine ⟨info, ?_, role⟩
        have apart : current ≠ nodeId := by
          rintro rfl
          exact others recorded
        simp only [Dict.get?_erase_ne _ apart]
        exact member
      · intro key node found nodeRole
        exact only key node (Dict.get?_of_erase found).2 nodeRole
    · exact single

/-! ## Every run -/

/-- A call keeps the records in line exactly if it is such a call. -/
theorem singlePrimary_call_iff
    (named : mediator.Named) (single : mediator.SinglePrimary)
    (call : MediatorCall) :
    (mediator.call call).SinglePrimary ↔ KeepsPrimary mediator call := by
  cases call with
  | registerSelf now role => exact singlePrimary_addNode_iff single now _ role
  | addNode now nodeId role =>
      exact singlePrimary_addNode_iff single now nodeId role
  | removeNode nodeId => exact singlePrimary_removeNode_iff single nodeId
  | recordAnswer => exact iff_of_true single trivial
  | receiveHeartbeat now sourceNode =>
      exact
        iff_of_true (singlePrimary_receiveHeartbeat single now sourceNode)
          trivial
  | checkNodeHealth now =>
      exact iff_of_true (singlePrimary_checkNodeHealth single now) trivial
  | initiateElection =>
      exact
        iff_of_true (singlePrimary_initiateElection named single) trivial
  | runElectionTask =>
      exact
        iff_of_true (singlePrimary_runElectionTask named single) trivial
  | setPrimary nodeId =>
      exact iff_of_true (singlePrimary_setPrimary single nodeId) trivial

/--
After each call of a mediator the recorded primary is the one member with that
role, exactly if no call adds a node whose role contradicts the record, and no
call removes the recorded primary.
-/
theorem singlePrimary_after_each_iff
    (nodeId : String) (failureThresholdMs : ℤ)
    (calls : List MediatorCall) :
    AllSteps Mediator.call
        (fun mediator call => (mediator.call call).SinglePrimary)
        { nodeId := nodeId, failureThresholdMs := failureThresholdMs }
        calls ↔
      AllSteps Mediator.call KeepsPrimary
        { nodeId := nodeId, failureThresholdMs := failureThresholdMs }
        calls := by
  apply
    @allSteps_property_iff _ _ _ _ Mediator.Named Mediator.SinglePrimary
  · exact fun mediator call named _ => named_call named call
  · exact fun mediator call named single =>
      singlePrimary_call_iff named single call
  · intro key info found
    cases found
  · intro current recorded
    cases recorded

/-- An elected primary that is removed. -/
def removedPrimaryRun : List MediatorCall :=
  [.registerSelf 0 .primary, .initiateElection, .removeNode "a"]

theorem primary_left_by_removal :
    ¬ (run Mediator.call { nodeId := "a" }
        removedPrimaryRun).SinglePrimary := by
  have recorded :
      (run Mediator.call { nodeId := "a" }
        removedPrimaryRun).currentPrimary = some "a" := by
    decide +kernel
  have absent :
      (run Mediator.call { nodeId := "a" }
        removedPrimaryRun).nodes.get? "a" = none := by
    decide +kernel
  intro single
  rcases (single "a" recorded).1 with ⟨info, member, _⟩
  rw [absent] at member
  cases member

end SinglePrimary

end StorageAppliance.ActiveCluster
