import StorageAppliance.ActiveCluster.Elections
import StorageAppliance.ActiveCluster.Failback

/-!
# What the event of a manual failover says

A manual failover without a target holds an election, and its event names the
elected node.  With a target it calls `set_primary`, which refuses an unknown
node and looks neither at health nor at the role, and its event names the target
whatever the answer was.

`manualFailover_truthful_iff` says for which targets the event can be relied on.
-/

namespace StorageAppliance.ActiveCluster

open StorageAppliance.Python
open StorageAppliance.Library

/-- The event names the primary, a healthy member that was no witness. -/
structure TellsTruth (before after : Mediator) (event : FailoverEvent) :
    Prop where
  primary : after.getPrimary = event.newPrimary
  healthy :
    ∃ newPrimary info,
      event.newPrimary = some newPrimary ∧
        after.nodes.get? newPrimary = some info ∧
        info.isHealthy = true
  eligible :
    ∃ newPrimary info,
      event.newPrimary = some newPrimary ∧
        before.nodes.get? newPrimary = some info ∧
        info.role ≠ .witness

/-- A completed manual failover returns an event that tells the truth. -/
def Truthful (controller : FailoverController) (mediator : Mediator)
    (callback : Except PyException Unit) (target : Option String) :
    Prop :=
  ∀ event,
    (controller.manualFailover mediator callback target).1 = .ok event →
      event.state = .failedOver →
        TellsTruth mediator
          (controller.manualFailover mediator callback target).2.2 event

/-- A target is a healthy member and no witness, or its callback raises. -/
def SoundTarget (controller : FailoverController) (mediator : Mediator)
    (callback : Except PyException Unit) (target : String) : Prop :=
  (CallbackReturns controller callback mediator.getPrimary →
    ∃ info,
      mediator.nodes.get? target = some info ∧
        info.isHealthy = true ∧ info.role ≠ .witness)

section Events

variable
    {controller : FailoverController}
    {mediator : Mediator}
    {callback : Except PyException Unit}

/-! ## Without a target -/

theorem manualFailover_untargeted
    {target : Option String}
    (untargeted : target.filter (· ≠ "") = none) :
    controller.manualFailover mediator callback target =
      controller.executeFailover mediator.initiateElection.2 callback
        mediator.getPrimary .manual mediator.successor := by
  rw [FailoverController.manualFailover, untargeted,
    ← initiateElection_fst]

/-- A second election finds what the first one found. -/
theorem successor_initiateElection_eq (named : mediator.Named) :
    mediator.initiateElection.2.successor = mediator.successor := by
  cases chosen : mediator.successor with
  | none =>
      have nodes := initiateElection_unsettled_nodes chosen
      rw [← chosen]
      simp only [Mediator.successor, Mediator.bestCandidate,
        initiateElection_hasQuorum, nodes]
  | some newPrimary => exact successor_initiateElection named chosen

theorem takesOver_initiateElection (named : mediator.Named) :
    mediator.initiateElection.2.takesOver mediator.successor =
      mediator.successor := by
  rw [Mediator.takesOver, successor_initiateElection_eq named]
  split <;> rfl

theorem truthful_untargeted
    (named : mediator.Named) {target : Option String}
    (untargeted : target.filter (· ≠ "") = none) :
    Truthful controller mediator callback target := by
  intro event answered failedOver
  have outcome :=
    @executeFailover_outcome controller mediator.initiateElection.2
      callback mediator.getPrimary .manual mediator.successor
  rw [← manualFailover_untargeted untargeted] at outcome
  rcases outcome.event event answered with ⟨_, new, settled⟩
  have known := settled.mp failedOver
  rw [takesOver_initiateElection named] at new known
  have after :
      (controller.manualFailover mediator callback target).2.2 =
        mediator.initiateElection.2 := by
    rw [outcome.handed, Mediator.handOver, if_pos known]
  rw [after]
  cases chosen : mediator.successor with
  | none =>
      rw [chosen] at known
      cases known
  | some newPrimary =>
      rw [chosen] at new
      have elects := elects_of_successor named chosen
      rcases initiateElection_sees named chosen with ⟨info, found, sees⟩
      rcases elects.candidate with ⟨old, member, _, role⟩
      constructor
      · rw [new]
        exact elects.recorded
      · exact ⟨newPrimary, info, new, found, sees⟩
      · exact ⟨newPrimary, old, new, member, role⟩

/-! ## With a target -/

theorem manualFailover_targeted
    {target : String} (given : target ≠ "") :
    controller.manualFailover mediator callback (some target) =
      controller.executeFailover (mediator.setPrimary target).2 callback
        mediator.getPrimary .manual (some target) := by
  have kept : (some target).filter (· ≠ "") = some target := by
    simp [given]
  rw [FailoverController.manualFailover, kept]

/-- The outcome of a manual failover to a target. -/
theorem manualFailover_targeted_outcome
    {target : String} (given : target ≠ "") :
    (controller.manualFailover mediator callback (some target)).2.2 =
        (mediator.setPrimary target).2 ∧
      ((∃ event,
          (controller.manualFailover mediator callback
            (some target)).1 = .ok event) ↔
        CallbackReturns controller callback mediator.getPrimary) ∧
      ∀ event,
        (controller.manualFailover mediator callback (some target)).1 =
            .ok event →
          event.newPrimary = some target ∧ event.state = .failedOver := by
  have known : truthy (some target) = true := truthy_some_iff.mpr given
  have outcome :=
    @executeFailover_outcome controller (mediator.setPrimary target).2
      callback mediator.getPrimary .manual (some target)
  rw [← manualFailover_targeted given] at outcome
  have taken :
      (mediator.setPrimary target).2.takesOver (some target) =
        some target :=
    if_pos known
  refine ⟨?_, ?_, ?_⟩
  · rw [outcome.handed, Mediator.handOver, if_pos known]
  · rw [outcome.answers, taken]
    simp [known]
  · intro event answered
    rcases outcome.event event answered with ⟨_, new, settled⟩
    rw [taken] at new settled
    exact ⟨new, settled.mpr known⟩

/-- The health of a node is the same after `set_primary`. -/
theorem setPrimary_isHealthy
    {target : String} {info : NodeInfo}
    (found : mediator.nodes.get? target = some info) :
    ((mediator.setPrimary target).2.nodes.get? target).map
        NodeInfo.isHealthy = some info.isHealthy := by
  rw [(setPrimary_member found).2 target, found]
  rfl

theorem truthful_targeted_iff
    {target : String} (given : target ≠ "") :
    Truthful controller mediator callback (some target) ↔
      SoundTarget controller mediator callback target := by
  rcases
    @manualFailover_targeted_outcome controller mediator callback _
      given with
    ⟨after, answers, events⟩
  constructor
  · intro truthful returns
    rcases answers.mpr returns with ⟨event, answered⟩
    rcases events event answered with ⟨new, failedOver⟩
    have truth := truthful event answered failedOver
    rcases truth.eligible with ⟨_, info, named, member, role⟩
    rcases truth.healthy with ⟨_, later, same, found, sees⟩
    rw [new] at named same
    cases named
    cases same
    have healthy := setPrimary_isHealthy member
    rw [after] at found
    rw [found, Option.map_some, sees, Option.some.injEq] at healthy
    exact ⟨info, member, healthy.symm, role⟩
  · intro sound event answered failedOver
    have returns := answers.mp ⟨event, answered⟩
    rcases sound returns with ⟨info, member, healthy, role⟩
    rcases events event answered with ⟨new, _⟩
    have health := setPrimary_isHealthy member
    rw [healthy] at health
    rcases Option.map_eq_some_iff.mp health with ⟨later, found, sees⟩
    rw [after]
    constructor
    · rw [new]
      exact (setPrimary_member member).1
    · exact ⟨target, later, new, found, sees⟩
    · exact ⟨target, info, new, member, role⟩

/--
The event of a completed manual failover tells the truth exactly if there is no
target, or the target is a healthy member and no witness, or the callback raises
so that no event is returned.
-/
theorem manualFailover_truthful_iff
    (controller : FailoverController) (mediator : NamedMediator)
    (callback : Except PyException Unit) (target : Option String) :
    Truthful controller mediator.val callback target ↔
      ∀ name,
        target = some name → name ≠ "" →
          SoundTarget controller mediator.val callback name := by
  cases target with
  | none =>
      apply iff_of_true
      · exact truthful_untargeted mediator.property rfl
      · intro name same
        cases same
  | some given =>
      by_cases empty : given = ""
      · apply iff_of_true
        · exact truthful_untargeted mediator.property (by simp [empty])
        · intro name same named
          cases same
          exact absurd empty named
      · rw [truthful_targeted_iff empty]
        constructor
        · intro sound name same _
          cases same
          exact sound
        · intro sound
          exact sound given rfl empty

/-- A cluster of two nodes with a primary. -/
def pairMediator : NamedMediator :=
  reachedMediator "a"
    [.registerSelf 0 .primary, .addNode 0 "b" .secondary,
      .setPrimary "a"]

/-- A failover to a node that nobody knows is reported as completed. -/
theorem failover_event_lies :
    ¬ Truthful {} pairMediator.val (.ok ()) (some "c") := by
  intro truthful
  have answered :
      (({} : FailoverController).manualFailover pairMediator.val (.ok ())
        (some "c")).1 =
        .ok
          { oldPrimary := some "a"
            newPrimary := some "c"
            reason := .manual
            state := .failedOver } := by
    decide +kernel
  have truth := truthful _ answered rfl
  have primary := truth.primary
  revert primary
  decide +kernel

end Events

end StorageAppliance.ActiveCluster
