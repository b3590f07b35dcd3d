import StorageAppliance.Library.Run
import StorageAppliance.ActiveCluster.Mediator

/-!
# Membership

A mediator keeps each node under its own identifier, whatever it is called for:
nodes are registered, added and removed, heartbeats are received, health is
checked, and primaries are elected or set (`named_run`).

With that, the successor that an election makes the primary is a healthy member
of the view, and it stays the successor when the election is over.
-/

namespace StorageAppliance.ActiveCluster

open StorageAppliance.Library

/-- What a mediator can be called for. -/
inductive MediatorCall where
  | registerSelf (now : ℚ) (role : NodeRole)
  | addNode (now : ℚ) (nodeId : String) (role : NodeRole)
  | removeNode (nodeId : String)
  | recordAnswer
  | receiveHeartbeat (now : ℚ) (sourceNode : String)
  | checkNodeHealth (now : ℚ)
  | initiateElection
  | runElectionTask
  | setPrimary (nodeId : String)

/-- Make a call. -/
def Mediator.call (self : Mediator) : MediatorCall → Mediator
  | .registerSelf now role => self.registerSelf now role
  | .addNode now nodeId role => self.addNode now nodeId role
  | .removeNode nodeId => (self.removeNode nodeId).2
  | .recordAnswer => self.recordAnswer
  | .receiveHeartbeat now sourceNode =>
      (self.receiveHeartbeat now sourceNode).2
  | .checkNodeHealth now => self.checkNodeHealth now
  | .initiateElection => self.initiateElection.2
  | .runElectionTask => self.runElectionTask
  | .setPrimary nodeId => (self.setPrimary nodeId).2

/-- Nodes are kept under their identifiers. -/
def Mediator.Named (mediator : Mediator) : Prop :=
  ∀ key info,
    mediator.nodes.get? key = some info → info.nodeId = key

section Membership

variable
    {mediator : Mediator}
    {nodeId : String}

theorem assignRole_nodeId (info : NodeInfo) (isPrimary : Bool) :
    (info.assignRole isPrimary).nodeId = info.nodeId := by
  rw [NodeInfo.assignRole]
  split
  · rfl
  · split <;> rfl

theorem assignRole_primary_iff (info : NodeInfo) (isPrimary : Bool) :
    (info.assignRole isPrimary).role = .primary ↔ isPrimary = true := by
  cases isPrimary with
  | true => simp [NodeInfo.assignRole]
  | false =>
      simp only [NodeInfo.assignRole, Bool.false_eq_true, if_false,
        iff_false]
      split
      · simp
      · assumption

/-! ## Names -/

theorem named_addNode
    (named : mediator.Named) (now : ℚ) (nodeId : String)
    (role : NodeRole) :
    (mediator.addNode now nodeId role).Named := by
  intro key info found
  simp only [Mediator.addNode, Dict.get?_set] at found
  split at found
  · rename_i same
    cases found
    exact same.symm
  · exact named key info found

theorem named_mapValues
    {update : String → NodeInfo → NodeInfo}
    (named : mediator.Named)
    (keeps : ∀ key info, (update key info).nodeId = info.nodeId) :
    ∀ key info,
      (mediator.nodes.mapValues update).get? key = some info →
        info.nodeId = key := by
  intro key info found
  rw [Dict.get?_mapValues] at found
  rcases Option.map_eq_some_iff.mp found with ⟨old, known, rfl⟩
  rw [keeps]
  exact named key old known

theorem named_receiveHeartbeat
    (named : mediator.Named) (now : ℚ) (sourceNode : String) :
    (mediator.receiveHeartbeat now sourceNode).2.Named := by
  simp only [Mediator.receiveHeartbeat]
  split
  · intro key info found
    simp only [Dict.get?_modify] at found
    split at found
    · rcases Option.map_eq_some_iff.mp found with ⟨old, known, rfl⟩
      exact named key old known
    · exact named key info found
  · exact named

theorem named_checkNodeHealth
    (named : mediator.Named) (now : ℚ) :
    (mediator.checkNodeHealth now).Named := by
  apply named_mapValues named
  intro key info
  split <;> rfl

theorem named_initiateElection
    (named : mediator.Named) : mediator.initiateElection.2.Named := by
  rw [Mediator.initiateElection]
  split
  · split
    · exact named
    · apply named_mapValues named
      intro key info
      exact assignRole_nodeId info _
  · exact named

theorem named_runElectionTask
    (named : mediator.Named) : mediator.runElectionTask.Named := by
  rw [Mediator.runElectionTask]
  split
  · exact named
  · have idle :
        Mediator.Named
          { mediator with electionTasks := mediator.electionTasks - 1 } :=
      named
    exact named_initiateElection idle

theorem named_setPrimary
    (named : mediator.Named) (nodeId : String) :
    (mediator.setPrimary nodeId).2.Named := by
  rw [Mediator.setPrimary]
  split
  · exact named
  · apply named_mapValues named
    intro key info
    exact assignRole_nodeId info _

theorem named_call
    (named : mediator.Named) (call : MediatorCall) :
    (mediator.call call).Named := by
  cases call with
  | registerSelf now role => exact named_addNode named now _ role
  | addNode now nodeId role => exact named_addNode named now nodeId role
  | removeNode nodeId =>
      simp only [Mediator.call, Mediator.removeNode]
      split
      · intro key info found
        exact named key info (Dict.get?_of_erase found).2
      · exact named
  | recordAnswer => exact named
  | receiveHeartbeat now sourceNode =>
      exact named_receiveHeartbeat named now sourceNode
  | checkNodeHealth now => exact named_checkNodeHealth named now
  | initiateElection => exact named_initiateElection named
  | runElectionTask => exact named_runElectionTask named
  | setPrimary nodeId => exact named_setPrimary named nodeId

/-- Whatever a new mediator is called for, it keeps nodes under their names. -/
theorem named_run (nodeId : String) (calls : List MediatorCall) :
    (run Mediator.call { nodeId := nodeId } calls).Named := by
  apply run_invariant_of_step
  · exact fun _ call named => named_call named call
  · intro key info found
    cases found

/-! ## The successor -/

/-- The successor is the least candidate of a view that has quorum. -/
theorem successor_eq_some_iff {newPrimary : String} :
    mediator.successor = some newPrimary ↔
      mediator.hasQuorum = true ∧
        (∃ info ∈ mediator.nodes.values,
          info.isCandidate = true ∧ info.nodeId = newPrimary) ∧
        ∀ info ∈ mediator.nodes.values,
          info.isCandidate = true → newPrimary ≤ info.nodeId := by
  rw [Mediator.successor]
  constructor
  · intro elected
    split at elected
    · rename_i quorum
      rcases Option.map_eq_some_iff.mp elected with ⟨best, argmin, rfl⟩
      have listed := List.mem_filter.mp (List.argmin_mem argmin)
      refine ⟨quorum, ⟨best, listed.1, listed.2, rfl⟩, ?_⟩
      intro info member candidate
      exact List.le_of_mem_argmin
        (List.mem_filter.mpr ⟨member, candidate⟩) argmin
    · cases elected
  · rintro ⟨quorum, ⟨info, member, candidate, rfl⟩, least⟩
    rw [if_pos quorum]
    have listed := List.mem_filter.mpr ⟨member, candidate⟩
    cases best : mediator.bestCandidate with
    | none =>
        rw [Mediator.bestCandidate, List.argmin_eq_none] at best
        rw [best] at listed
        cases listed
    | some other =>
        have found := List.mem_filter.mp (List.argmin_mem best)
        have below := List.le_of_mem_argmin listed best
        exact congrArg some
          (le_antisymm below (least other found.1 found.2))

/-- The successor is a healthy member. -/
theorem successor_member
    (named : mediator.Named) {newPrimary : String}
    (elected : mediator.successor = some newPrimary) :
    ∃ info,
      mediator.nodes.get? newPrimary = some info ∧
        info.isCandidate = true := by
  rcases (successor_eq_some_iff.mp elected).2.1 with
    ⟨info, member, candidate, rfl⟩
  rcases Dict.mem_values_iff.mp member with ⟨key, found⟩
  rw [named key info found]
  exact ⟨info, found, candidate⟩

theorem assignRole_isCandidate
    (info : NodeInfo) {isPrimary : Bool}
    (candidate : isPrimary = true → info.isCandidate = true) :
    (info.assignRole isPrimary).isCandidate = info.isCandidate := by
  cases isPrimary with
  | true =>
      have known := candidate rfl
      rw [known]
      rw [NodeInfo.isCandidate, Bool.and_eq_true] at known
      simp [NodeInfo.assignRole, NodeInfo.isCandidate, known.1]
  | false =>
      simp only [NodeInfo.assignRole, Bool.false_eq_true, if_false]
      split
      · rename_i primary
        simp [NodeInfo.isCandidate, primary]
      · rfl

theorem initiateElection_elected_nodes
    {newPrimary : String}
    (elected : mediator.successor = some newPrimary) :
    mediator.initiateElection.2.nodes =
      mediator.nodes.mapValues fun _ info =>
        info.assignRole (info.nodeId = newPrimary) := by
  rw [Mediator.successor] at elected
  rw [Mediator.initiateElection]
  split
  · rename_i quorum
    rw [if_pos quorum, Option.map_eq_some_iff] at elected
    rcases elected with ⟨best, found, rfl⟩
    rw [found]
  · rename_i noQuorum
    rw [if_neg noQuorum] at elected
    cases elected

/-- An elected node stays the successor. -/
theorem successor_initiateElection
    (named : mediator.Named) {newPrimary : String}
    (elected : mediator.successor = some newPrimary) :
    mediator.initiateElection.2.successor = some newPrimary := by
  have nodes := initiateElection_elected_nodes elected
  have candidates :
      ∀ key info,
        mediator.nodes.get? key = some info →
          (info.assignRole (info.nodeId = newPrimary)).isCandidate =
            info.isCandidate := by
    intro key info found
    apply assignRole_isCandidate
    intro same
    rcases successor_member named elected with ⟨other, known, candidate⟩
    rw [decide_eq_true_iff] at same
    rw [← same, named key info found, found] at known
    cases known
    exact candidate
  rcases successor_eq_some_iff.mp elected with
    ⟨quorum, ⟨best, member, candidate, own⟩, least⟩
  apply successor_eq_some_iff.mpr
  refine ⟨?_, ?_, ?_⟩
  · rw [initiateElection_hasQuorum]
    exact quorum
  · rcases Dict.mem_values_iff.mp member with ⟨key, found⟩
    refine ⟨best.assignRole (best.nodeId = newPrimary), ?_, ?_, ?_⟩
    · apply Dict.mem_values_iff.mpr
      refine ⟨key, ?_⟩
      rw [nodes, Dict.get?_mapValues, found]
      rfl
    · rw [candidates key best found]
      exact candidate
    · rw [assignRole_nodeId]
      exact own
  · intro info listed listedCandidate
    rcases Dict.mem_values_iff.mp listed with ⟨key, found⟩
    rw [nodes, Dict.get?_mapValues] at found
    rcases Option.map_eq_some_iff.mp found with ⟨old, known, rfl⟩
    rw [candidates key old known] at listedCandidate
    rw [assignRole_nodeId]
    exact least old (Dict.mem_values_iff.mpr ⟨key, known⟩)
      listedCandidate

/-- An elected node is healthy after the election. -/
theorem initiateElection_sees
    (named : mediator.Named) {newPrimary : String}
    (elected : mediator.successor = some newPrimary) :
    ∃ info,
      mediator.initiateElection.2.nodes.get? newPrimary = some info ∧
        info.isHealthy = true := by
  rcases successor_member (named_initiateElection named)
      (successor_initiateElection named elected) with
    ⟨info, found, candidate⟩
  rw [NodeInfo.isCandidate, Bool.and_eq_true] at candidate
  exact ⟨info, found, candidate.1⟩

end Membership

end StorageAppliance.ActiveCluster
