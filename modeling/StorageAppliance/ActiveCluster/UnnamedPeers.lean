import Mathlib.Tactic.Linarith
import StorageAppliance.ActiveCluster.StartedClusters

/-!
# Peers that nobody is named after

The heartbeats of a started cluster are ignored unless their sender's identifier
is the name under which its address was registered.  In a deployment where no
identifier is such a name a machine never hears of its peers.

Then `unnamed_peers_fail` gives the health that its monitor finds, for every run
in which nobody fails over by hand: all nodes are healthy until the failover
timeout is over, and from then on a machine with peers has lost its quorum.
-/

namespace StorageAppliance.ActiveCluster

open StorageAppliance.Python
open StorageAppliance.Library
open Deployment

variable
    {Name : Type}
    [DecidableEq Name]

/-! ## Identifiers -/

section Identifiers

variable
    {mediator : Mediator}
    {controller : FailoverController}
    {settings : ClusterSettings}
    {peerHash : String → ℤ}
    {machine : Machine}

theorem setPrimary_nodeId (mediator : Mediator) (nodeId : String) :
    (mediator.setPrimary nodeId).2.nodeId = mediator.nodeId := by
  rw [Mediator.setPrimary]
  split <;> rfl

theorem runElectionTask_nodeId (mediator : Mediator) :
    mediator.runElectionTask.nodeId = mediator.nodeId := by
  rw [Mediator.runElectionTask]
  split
  · rfl
  · exact initiateElection_nodeId _

theorem executeFailover_nodeId (callback : Except PyException Unit)
    (oldPrimary : Option String) (reason : FailoverReason)
    (chosen : Option String) :
    (controller.executeFailover mediator callback oldPrimary reason
      chosen).2.2.nodeId = mediator.nodeId := by
  rw [(executeFailover_outcome oldPrimary reason chosen).handed,
    Mediator.handOver]
  split
  · rfl
  · exact initiateElection_nodeId _

theorem manualFailover_nodeId (callback : Except PyException Unit)
    (targetNode : Option String) :
    (controller.manualFailover mediator callback targetNode).2.2.nodeId =
      mediator.nodeId := by
  rw [FailoverController.manualFailover]
  split
  · rw [executeFailover_nodeId, setPrimary_nodeId]
  · rw [executeFailover_nodeId, initiateElection_nodeId]

theorem executeFailback_nodeId (callback : Except PyException Unit) :
    (controller.executeFailback mediator callback).2.2.nodeId =
      mediator.nodeId := by
  simp only [FailoverController.executeFailback]
  cases controller.originalPrimary with
  | none =>
      split
      · cases callback <;> rfl
      · rfl
  | some original =>
      split
      · cases callback <;> exact setPrimary_nodeId mediator original
      · exact setPrimary_nodeId mediator original

theorem monitorRound_nodeId (cluster : ActiveCluster)
    (onFailover onFailback : Except PyException Unit) :
    (cluster.monitorRound onFailover onFailback).mediator.nodeId =
      cluster.mediator.nodeId := by
  have elected :
      (cluster.failover.checkAndFailover cluster.mediator
        onFailover).2.2.nodeId = cluster.mediator.nodeId := by
    rw [checkAndFailover_mediator]
    split
    · exact initiateElection_nodeId _
    · rfl
  have restored :
      ∀ (controller : FailoverController) (mediator : Mediator),
        (controller.checkAndFailback mediator onFailback).2.2.nodeId =
          mediator.nodeId := by
    intro controller mediator
    rw [FailoverController.checkAndFailback]
    split
    · exact executeFailback_nodeId onFailback
    · rfl
  rw [ActiveCluster.monitorRound]
  split
  · rename_i outcome
    rw [outcome] at elected
    exact elected
  · rename_i controller mediator outcome
    rw [outcome] at elected
    have back := restored controller mediator
    split
    · rename_i answer
      rw [answer] at back
      exact back.trans elected
    · rename_i answer
      rw [answer] at back
      exact back.trans elected

/-- The machine is the one given, and a started cluster has its identifier. -/
structure Identified (settings : ClusterSettings)
    (peerHash : String → ℤ) (machine : Machine) : Prop where
  configured : machine.settings = settings
  hashes : machine.peerHash = peerHash
  name :
    ∀ cluster,
      machine.cluster = some cluster →
        cluster.mediator.nodeId = settings.nodeId

/-- No input changes the identifier of a machine. -/
theorem identified_apply
    (identified : Identified settings peerHash machine)
    (input : MachineInput) :
    Identified settings peerHash (machine.apply input) := by
  have mapped :
      ∀ change : ActiveCluster → ActiveCluster,
        (∀ cluster,
            (change cluster).mediator.nodeId = cluster.mediator.nodeId) →
          Identified settings peerHash
            { machine with cluster := machine.cluster.map change } := by
    intro change keeps
    refine ⟨identified.configured, identified.hashes, ?_⟩
    intro after changed
    rcases Option.map_eq_some_iff.mp changed with ⟨before, running, rfl⟩
    rw [keeps, identified.name before running]
  cases input with
  | receiveHeartbeat sourceNode =>
      exact mapped _ fun cluster =>
        (receiveHeartbeat_frame cluster.mediator machine.clock
          sourceNode).1
  | recordAnswer => exact mapped _ fun _ => rfl
  | call given =>
      cases given with
      | elapse seconds =>
          exact
            ⟨identified.configured, identified.hashes, identified.name⟩
      | start =>
          rw [Machine.apply, Machine.execute, Machine.getCluster]
          split
          · refine ⟨identified.configured, identified.hashes, ?_⟩
            intro cluster started
            cases started
            rw [identified.configured]
            exact (registered_initializeCluster _ _ _).1.nodeId
          · exact identified
      | checkHealth => exact mapped _ fun _ => rfl
      | runElectionTask =>
          exact mapped _ fun _ => runElectionTask_nodeId _
      | monitorRound onFailover onFailback =>
          exact mapped _ fun cluster =>
            monitorRound_nodeId cluster onFailover onFailback
      | manualFailover targetNode callback =>
          exact mapped _ fun _ => manualFailover_nodeId callback targetNode
      | manualFailback callback =>
          apply mapped
          intro cluster
          simp only [FailoverController.manualFailback]
          split
          · exact executeFailback_nodeId callback
          · rfl

end Identifiers

/-! ## Peers that are never heard -/

section Unheard

variable
    {settings : ClusterSettings}
    {names : List String}
    {startedAt clock later : ℚ}
    {mediator : Mediator}
    {cluster : ActiveCluster}
    {machine : Machine}

/-- The failover timeout of a machine is over. -/
def TimedOut (settings : ClusterSettings) (startedAt clock : ℚ) : Prop :=
  (clock - startedAt) * 1000 > settings.failoverTimeoutMs

instance : Decidable (TimedOut settings startedAt clock) :=
  inferInstanceAs (Decidable (_ > _))

theorem TimedOut.mono (expired : TimedOut settings startedAt clock)
    (le : clock ≤ later) : TimedOut settings startedAt later := by
  rw [TimedOut] at expired ⊢
  linarith

/-- A view that has heard of no other member since it was started. -/
structure UnheardView (settings : ClusterSettings) (names : List String)
    (startedAt clock : ℚ) (mediator : Mediator) : Prop where
  threshold : mediator.failureThresholdMs = settings.failoverTimeoutMs
  members :
    ∀ key, (∃ info, mediator.nodes.get? key = some info) ↔ key ∈ names
  times :
    ∀ key info,
      mediator.nodes.get? key = some info →
        key ≠ settings.nodeId → info.lastHeartbeat = startedAt
  doubted :
    ∀ key info,
      mediator.nodes.get? key = some info →
        info.isHealthy = false → TimedOut settings startedAt clock

/-- A started machine has heard of nobody. -/
theorem unheardView_initializeCluster (settings : ClusterSettings)
    (peerHash : String → ℤ) (now : ℚ) :
    UnheardView settings (memberNames settings peerHash) now now
      (ActiveCluster.initializeCluster settings peerHash now
        .primary).mediator := by
  have registered := (registered_initializeCluster settings peerHash now).1
  refine ⟨registered.threshold, registered.members, ?_, ?_⟩
  · exact fun key info found _ => (registered.fresh key info found).2
  · intro key info found doubted
    rw [(registered.fresh key info found).1] at doubted
    cases doubted

theorem UnheardView.elapse
    (unheard : UnheardView settings names startedAt clock mediator)
    (le : clock ≤ later) :
    UnheardView settings names startedAt later mediator :=
  ⟨unheard.threshold, unheard.members, unheard.times,
    fun key info found doubted =>
      (unheard.doubted key info found doubted).mono le⟩

/-- A heartbeat with no member's name is ignored, and one's own proves nothing. -/
theorem UnheardView.receiveHeartbeat
    (unheard : UnheardView settings names startedAt clock mediator)
    {sourceNode : String}
    (unnamed : sourceNode ∈ names → sourceNode = settings.nodeId)
    (now : ℚ) :
    UnheardView settings names startedAt clock
      (mediator.receiveHeartbeat now sourceNode).2 := by
  simp only [Mediator.receiveHeartbeat]
  split
  · rename_i info known
    have own : sourceNode = settings.nodeId :=
      unnamed ((unheard.members sourceNode).mp ⟨info, known⟩)
    refine ⟨unheard.threshold, ?_, ?_, ?_⟩
    · intro key
      rw [← unheard.members key]
      simp only [Dict.get?_modify]
      split <;> simp
    · intro key info found other
      simp only [Dict.get?_modify, own, if_neg other] at found
      exact unheard.times key info found other
    · intro key info found doubted
      simp only [Dict.get?_modify] at found
      split at found
      · rcases Option.map_eq_some_iff.mp found with ⟨_, _, rfl⟩
        cases doubted
      · exact unheard.doubted key info found doubted
  · exact unheard

/-- After a check, a member is doubted exactly if the timeout is over. -/
structure CheckedView (settings : ClusterSettings) (names : List String)
    (startedAt clock : ℚ) (mediator : Mediator) : Prop
    extends UnheardView settings names startedAt clock mediator where
  checked :
    ∀ key info,
      mediator.nodes.get? key = some info →
        key ≠ settings.nodeId →
          (info.isHealthy = true ↔ ¬ TimedOut settings startedAt clock)

theorem checkedView_checkNodeHealth
    (name : mediator.nodeId = settings.nodeId)
    (unheard : UnheardView settings names startedAt clock mediator) :
    CheckedView settings names startedAt clock
      (mediator.checkNodeHealth clock) := by
  have changed :
      ∀ key info,
        (mediator.checkNodeHealth clock).nodes.get? key = some info →
          ∃ before,
            mediator.nodes.get? key = some before ∧
              info =
                if mediator.hasFailed clock key before then
                  { before with isHealthy := false }
                else
                  before := by
    intro key info found
    simp only [Mediator.checkNodeHealth, Dict.get?_mapValues] at found
    rcases Option.map_eq_some_iff.mp found with ⟨before, known, same⟩
    exact ⟨before, known, same.symm⟩
  have failed_iff :
      ∀ key before,
        mediator.nodes.get? key = some before →
          (mediator.hasFailed clock key before = true ↔
            key ≠ settings.nodeId ∧ TimedOut settings startedAt clock ∧
              before.isHealthy = true) := by
    intro key before known
    simp only [Mediator.hasFailed, Bool.and_eq_true, decide_eq_true_eq,
      and_assoc, name]
    apply and_congr_right
    intro other
    rw [unheard.times key before known other, unheard.threshold]
    rfl
  refine
    { threshold := unheard.threshold
      members := ?_
      times := ?_
      doubted := ?_
      checked := ?_ }
  · intro key
    rw [← unheard.members key]
    simp [Mediator.checkNodeHealth, Dict.get?_mapValues]
  · intro key info found other
    rcases changed key info found with ⟨before, known, rfl⟩
    have time := unheard.times key before known other
    split <;> exact time
  · intro key info found doubted
    rcases changed key info found with ⟨before, known, rfl⟩
    split at doubted
    · rename_i failed
      exact ((failed_iff key before known).mp failed).2.1
    · exact unheard.doubted key before known doubted
  · intro key info found other
    rcases changed key info found with ⟨before, known, rfl⟩
    split
    · rename_i failed
      have expired := ((failed_iff key before known).mp failed).2.1
      simp only [Bool.false_eq_true, expired, not_true_eq_false]
    · rename_i spared
      rw [failed_iff key before known] at spared
      constructor
      · exact fun healthy expired => spared ⟨other, expired, healthy⟩
      · intro fresh
        by_contra doubted
        exact
          fresh
            (unheard.doubted key before known
              (Bool.eq_false_iff.mpr doubted))

/-! ## Counting them -/

theorem nodeCount_eq
    (members :
      ∀ key,
        (∃ info, cluster.mediator.nodes.get? key = some info) ↔
          key ∈ names) :
    cluster.nodeCount = names.toFinset.card := by
  have keys : cluster.mediator.nodes.keys.toFinset = names.toFinset := by
    ext key
    rw [List.mem_toFinset, List.mem_toFinset, Dict.mem_keys_iff, members]
  have distinct : cluster.mediator.nodes.keys.Nodup :=
    cluster.mediator.nodes.nodupKeys
  rw [← keys, List.toFinset_card_of_nodup distinct, Dict.keys,
    List.length_map]
  rfl

/-- Once the timeout is over, only the node itself counts. -/
theorem healthyNodes_eq (led : SelfLed settings cluster)
    (checked :
      CheckedView settings names startedAt clock cluster.mediator) :
    cluster.healthyNodes =
      if TimedOut settings startedAt clock then
        1
      else
        names.toFinset.card := by
  rcases led.own with ⟨own, known, healthy⟩
  rw [ActiveCluster.healthyNodes, ← card_healthy]
  split
  · rename_i expired
    rw [Finset.card_eq_one]
    refine ⟨settings.nodeId, ?_⟩
    ext key
    simp only [List.mem_toFinset, List.mem_map, List.mem_filter,
      Prod.exists, exists_and_right, exists_eq_right,
      Finset.mem_singleton, ← Dict.get?_eq_some_iff]
    constructor
    · rintro ⟨info, found, trusted⟩
      by_contra other
      exact (checked.checked key info found other).mp trusted expired
    · rintro rfl
      exact ⟨own, known, healthy⟩
  · rename_i fresh
    congr 1
    ext key
    simp only [List.mem_toFinset, List.mem_map, List.mem_filter,
      Prod.exists, exists_and_right, exists_eq_right,
      ← Dict.get?_eq_some_iff, ← checked.members key]
    constructor
    · rintro ⟨info, found, _⟩
      exact ⟨info, found⟩
    · rintro ⟨info, found⟩
      refine ⟨info, found, ?_⟩
      by_contra doubted
      exact
        fresh
          (checked.doubted key info found (Bool.eq_false_iff.mpr doubted))

/-- The health that a checked view gives. -/
theorem getHealth_checked (led : SelfLed settings cluster)
    (checked :
      CheckedView settings names startedAt clock cluster.mediator) :
    cluster.updateState.getHealth =
      if 1 < names.toFinset.card ∧ TimedOut settings startedAt clock then
        { state := .failed
          nodeCount := names.toFinset.card
          healthyNodes := 1
          hasQuorum := false
          primaryNode := some settings.nodeId }
      else
        { state := .healthy
          nodeCount := names.toFinset.card
          healthyNodes := names.toFinset.card
          hasQuorum := true
          primaryNode := some settings.nodeId } := by
  have counts := led.counts
  have state := led.updateState_state
  have count : cluster.nodeCount = names.toFinset.card :=
    nodeCount_eq checked.members
  have healthy := healthyNodes_eq led checked
  have quorum :
      cluster.mediator.hasQuorum =
        decide (cluster.nodeCount < 2 * cluster.healthyNodes) := by
    rw [Bool.eq_iff_iff, clusterQuorum_iff, decide_eq_true_iff]
  have health :
      cluster.updateState.getHealth =
        { state := cluster.updateState.state
          nodeCount := cluster.nodeCount
          healthyNodes := cluster.healthyNodes
          hasQuorum := cluster.mediator.hasQuorum
          primaryNode := some settings.nodeId } := by
    rw [← led.primary]
    rfl
  rw [health, state, quorum]
  split_ifs at healthy with expired
  · by_cases peers : 1 < names.toFinset.card
    · have silenced :
          1 < names.toFinset.card ∧ TimedOut settings startedAt clock :=
        ⟨peers, expired⟩
      have minority : ¬ names.toFinset.card < 2 * 1 := by omega
      have others : 1 ≠ names.toFinset.card := by omega
      rw [if_pos silenced, count, healthy, if_neg others,
        if_neg minority, decide_eq_false minority]
    · have alone : names.toFinset.card = 1 := by omega
      simp [count, healthy, alone]
  · have fresh :
        ¬ (1 < names.toFinset.card ∧
          TimedOut settings startedAt clock) :=
      fun both => expired both.2
    have majority : names.toFinset.card < 2 * names.toFinset.card := by
      omega
    rw [if_neg fresh, count, healthy, if_pos rfl, decide_eq_true majority]

/-! ## Unheard machines -/

/-- A started machine that leads itself and has heard of nobody. -/
structure UnheardMachine (settings : ClusterSettings)
    (names : List String) (startedAt : ℚ) (machine : Machine) :
    Prop where
  configured : machine.settings = settings
  started :
    ∃ cluster,
      machine.cluster = some cluster ∧ SelfLed settings cluster ∧
        UnheardView settings names startedAt machine.clock
          cluster.mediator

/-- The clock goes on, and no heartbeat bears the name of another member. -/
def MachineInput.Unheard (settings : ClusterSettings)
    (names : List String) : MachineInput → Prop
  | .call (.elapse seconds) => 0 ≤ seconds
  | .receiveHeartbeat sourceNode =>
      sourceNode ∈ names → sourceNode = settings.nodeId
  | _ => True

theorem unheardMachine_apply
    (unheard : UnheardMachine settings names startedAt machine)
    {input : MachineInput} (leaves : input.LeavesPrimary)
    (quiet : input.Unheard settings names) :
    UnheardMachine settings names startedAt (machine.apply input) := by
  rcases unheard.started with ⟨cluster, running, led, view⟩
  have leads : LeadsItself settings machine := by
    refine ⟨unheard.configured, ?_⟩
    intro other found
    rw [running] at found
    cases found
    exact led
  have next := leadsItself_apply leads leaves
  have same :
      ∀ {after : ActiveCluster} {later : ℚ},
        (machine.apply input).cluster = some after →
          (machine.apply input).clock = later →
            UnheardView settings names startedAt later after.mediator →
              UnheardMachine settings names startedAt
                (machine.apply input) := by
    rintro after later found rfl kept
    exact
      ⟨next.configured, after, found, next.cluster after found, kept⟩
  cases input with
  | receiveHeartbeat sourceNode =>
      exact
        same (congrArg (Option.map _) running) rfl
          (view.receiveHeartbeat quiet _)
  | recordAnswer =>
      exact
        same (congrArg (Option.map _) running) rfl
          ⟨view.threshold, view.members, view.times, view.doubted⟩
  | call given =>
      cases given with
      | elapse seconds =>
          exact same running rfl (view.elapse (le_add_of_nonneg_right quiet))
      | start =>
          have already : machine.getCluster = machine := by
            rw [Machine.getCluster, running]
            simp
          have kept : machine.apply (.call .start) = machine := already
          rw [kept]
          exact unheard
      | checkHealth =>
          exact
            same (congrArg (Option.map _) running) rfl
              (checkedView_checkNodeHealth led.name view).toUnheardView
      | runElectionTask =>
          refine same (congrArg (Option.map _) running) rfl ?_
          simp only [led.runElectionTask]
          exact view
      | monitorRound onFailover onFailback =>
          refine same (congrArg (Option.map _) running) rfl ?_
          simp only [led.monitorRound]
          exact view
      | manualFailover targetNode callback => exact leaves.elim
      | manualFailback callback =>
          refine same (congrArg (Option.map _) running) rfl ?_
          simp only [led.manualFailback]
          exact view

/-- A started machine that is new has heard of nobody. -/
theorem unheardMachine_start {peerHash : String → ℤ}
    (identified : Identified settings peerHash machine)
    (enabled : settings.clusterEnabled = true)
    (unstarted : machine.cluster = none) :
    UnheardMachine settings (memberNames settings peerHash) machine.clock
      (machine.execute .start) := by
  have started :
      machine.execute .start =
        { machine with
          cluster :=
            some
              (ActiveCluster.initializeCluster settings peerHash
                machine.clock .primary) } := by
    rw [Machine.execute, Machine.getCluster, identified.configured,
      identified.hashes, enabled, unstarted]
    rfl
  rw [started]
  exact
    ⟨identified.configured, _, rfl, selfLed_initializeCluster _ _ _,
      unheardView_initializeCluster _ _ _⟩

/-- What an unheard machine finds in a check and a round of monitoring. -/
theorem health_of_unheard
    (unheard : UnheardMachine settings names startedAt machine)
    (onFailover onFailback : Except PyException Unit) :
    ((machine.execute .checkHealth).execute
        (.monitorRound onFailover onFailback)).cluster.map
        ActiveCluster.getHealth =
      some
        (if 1 < names.toFinset.card ∧
            TimedOut settings startedAt machine.clock then
          { state := .failed
            nodeCount := names.toFinset.card
            healthyNodes := 1
            hasQuorum := false
            primaryNode := some settings.nodeId }
        else
          { state := .healthy
            nodeCount := names.toFinset.card
            healthyNodes := names.toFinset.card
            hasQuorum := true
            primaryNode := some settings.nodeId }) := by
  rcases unheard.started with ⟨cluster, running, led, view⟩
  have checkedLed := led.checkNodeHealth machine.clock
  have checked := checkedView_checkNodeHealth led.name view
  have found :
      ((machine.execute .checkHealth).execute
          (.monitorRound onFailover onFailback)).cluster =
        some
          { cluster with
            mediator :=
              cluster.mediator.checkNodeHealth
                machine.clock }.updateState := by
    rw [← checkedLed.monitorRound onFailover onFailback]
    simp only [Machine.execute, Machine.withMediator, running,
      Option.map_some]
  rw [found, Option.map_some]
  exact congrArg some (getHealth_checked checkedLed checked)

end Unheard

/-! ## Deployments in which nobody is heard -/

section UnheardRuns

variable
    {listener : String → Option Name}
    {settings : Name → ClusterSettings}
    {peerHash : Name → String → ℤ}
    {clock : Name → ℚ}
    {name : Name}

/-- The clock of a machine does not go back. -/
def ForwardAt (name : Name) (action : DeploymentStep Name) : Prop :=
  ∀ seconds, action = .call name (.elapse seconds) → 0 ≤ seconds

/-- Every posted heartbeat bears the identifier of a machine. -/
def Signed (settings : Name → ClusterSettings)
    (wire : List (PostedHeartbeat Name)) : Prop :=
  ∀ posted ∈ wire,
    ∃ sender, posted.heartbeat.sourceNode = (settings sender).nodeId

omit [DecidableEq Name] in
/-- What a machine posts bears its identifier. -/
theorem post?_signed {deployment : Deployment Name} {sender : Name}
    (identified :
      Identified (settings sender) (peerHash sender)
        (deployment.machines sender))
    {targetNode : String} {posted : PostedHeartbeat Name}
    (sent : deployment.post? sender targetNode = some posted) :
    posted.heartbeat.sourceNode = (settings sender).nodeId := by
  simp only [post?, Option.bind_eq_bind, Option.bind_eq_some_iff,
    Option.pure_def, Option.some.injEq] at sent
  rcases sent with ⟨cluster, running, heartbeat, made, url, _, rfl⟩
  rw [Mediator.heartbeat?] at made
  split at made
  · cases made
  · rcases Option.map_eq_some_iff.mp made with ⟨_, _, rfl⟩
    exact identified.name cluster running

omit [DecidableEq Name] in
theorem transmit_signed {deployment : Deployment Name}
    (identified :
      ∀ sender,
        Identified (settings sender) (peerHash sender)
          (deployment.machines sender))
    (signed : Signed settings deployment.wire)
    (action : DeploymentStep Name) :
    Signed settings (deployment.transmit action) := by
  cases action with
  | call target given => exact signed
  | sendHeartbeat sender targetNode =>
      intro posted listed
      rcases List.mem_append.mp listed with earlier | sent
      · exact signed posted earlier
      · exact
          ⟨sender,
            post?_signed (identified sender) (Option.mem_toList.mp sent)⟩
  | deliver index answered =>
      exact fun posted listed =>
        signed posted (List.mem_of_mem_eraseIdx listed)
  | lose index =>
      exact fun posted listed =>
        signed posted (List.mem_of_mem_eraseIdx listed)

/-- What reaches a machine bears the identifier of a machine. -/
theorem inputs_unheard {deployment : Deployment Name}
    (signed : Signed settings deployment.wire)
    {names : List String}
    (unnamed :
      ∀ other,
        (settings other).nodeId ∈ names →
          (settings other).nodeId = (settings name).nodeId)
    {action : DeploymentStep Name} (forward : ForwardAt name action)
    {input : MachineInput}
    (given : input ∈ inputs listener deployment action name) :
    input.Unheard (settings name) names := by
  cases action with
  | call target call =>
      simp only [inputs] at given
      split at given
      · rename_i same
        rw [List.mem_singleton.mp given]
        cases call with
        | elapse seconds => exact forward seconds (by rw [same])
        | _ => trivial
      · cases given
  | deliver index answered =>
      simp only [inputs] at given
      split at given
      · cases given
      · rename_i posted found
        rcases signed posted (List.mem_of_getElem? found) with
          ⟨sender, bears⟩
        split at given
        · cases given
        · rcases List.mem_append.mp given with received | told
          · split at received
            · rw [List.mem_singleton.mp received]
              show posted.heartbeat.sourceNode ∈ names → _
              rw [bears]
              exact unnamed sender
            · cases received
          · split at told
            · rw [List.mem_singleton.mp told]
              trivial
            · cases told
  | sendHeartbeat target targetNode => cases given
  | lose index => cases given

/-- In every run the machines are those given, and heartbeats are signed. -/
theorem identified_run (listener : String → Option Name)
    (settings : Name → ClusterSettings) (peerHash : Name → String → ℤ)
    (clock : Name → ℚ) (actions : List (DeploymentStep Name)) :
    Network.Keeps
      (fun other machine =>
        Identified (settings other) (peerHash other) machine)
      (Signed settings)
      (run (step listener) (Deployment.new settings peerHash clock)
        actions) := by
  apply
    @Network.keeps_run Name Machine _ _ _ Machine.apply (inputs listener)
      transmit _ _ (fun _ _ => True) (fun _ => True)
  · exact fun _ _ input identified _ => identified_apply identified input
  · exact fun _ _ _ _ _ _ _ => trivial
  · exact fun _ action holds _ =>
      transmit_signed holds.machines holds.wire action
  · constructor
    · intro other
      refine ⟨rfl, rfl, ?_⟩
      intro cluster none
      cases none
    · intro posted none
      cases none
  · exact fun _ _ => trivial

/-- A machine that nobody names stays unheard. -/
theorem unheard_run {deployment : Deployment Name}
    {names : List String} {startedAt : ℚ}
    (unnamed :
      ∀ other,
        (settings other).nodeId ∈ names →
          (settings other).nodeId = (settings name).nodeId)
    (start :
      Network.Keeps
        (fun other machine =>
          Identified (settings other) (peerHash other) machine ∧
            (other = name →
              UnheardMachine (settings name) names startedAt machine))
        (Signed settings) deployment)
    {actions : List (DeploymentStep Name)}
    (quiet :
      ∀ action ∈ actions,
        ForwardAt name action ∧ ¬ FailsOverAt name action) :
    UnheardMachine (settings name) names startedAt
      ((run (step listener) deployment actions).machines name) := by
  have kept :=
    @Network.keeps_run Name Machine _ _ _ Machine.apply (inputs listener)
      transmit _ _
      (fun other input =>
        other = name →
          input.LeavesPrimary ∧ input.Unheard (settings name) names)
      (fun action => ForwardAt name action ∧ ¬ FailsOverAt name action)
      (fun other machine input holds allowed =>
        ⟨identified_apply holds.1 input, fun same =>
          unheardMachine_apply (holds.2 same) (allowed same).1
            (allowed same).2⟩)
      (fun current action holds allowed other input given same =>
        ⟨inputs_leavePrimary allowed.2 (same ▸ given),
          inputs_unheard holds.wire unnamed allowed.1 (same ▸ given)⟩)
      (fun current action holds _ =>
        transmit_signed (fun sender => (holds.machines sender).1)
          holds.wire action)
      deployment start actions quiet
  exact (kept.machines name).2 rfl

theorem step_call (deployment : Deployment Name) (given : MachineCall) :
    (deployment.step listener (.call name given)).machines name =
      (deployment.machines name).execute given := by
  simp [step, Network.step, inputs, Machine.apply]

/--
If no machine has the identifier that a machine registers for a peer, then a
check of the health and a round of monitoring find the cluster failed, with one
healthy node and no quorum, exactly if the machine has peers and its timeout is
over; until then all nodes are healthy.  The machine is the primary either way.
-/
theorem unnamed_peers_fail (listener : String → Option Name)
    (settings : Name → ClusterSettings) (peerHash : Name → String → ℤ)
    (clock : Name → ℚ) {name : Name}
    (enabled : (settings name).clusterEnabled = true)
    (unnamed :
      ∀ other,
        (settings other).nodeId ∈
            memberNames (settings name) (peerHash name) →
          (settings other).nodeId = (settings name).nodeId)
    {earlier later : List (DeploymentStep Name)}
    (unstarted :
      ((run (step listener) (Deployment.new settings peerHash clock)
        earlier).machines name).cluster = none)
    (quiet :
      ∀ action ∈ later,
        ForwardAt name action ∧ ¬ FailsOverAt name action)
    (onFailover onFailback : Except PyException Unit) :
    let started :=
      run (step listener) (Deployment.new settings peerHash clock) earlier
    let monitored :=
      run (step listener) started
        (.call name .start :: later ++
          [.call name .checkHealth,
            .call name (.monitorRound onFailover onFailback)])
    let members :=
      (memberNames (settings name) (peerHash name)).toFinset.card
    (monitored.machines name).cluster.map ActiveCluster.getHealth =
      some
        (if 1 < members ∧
            TimedOut (settings name) (started.machines name).clock
              (monitored.machines name).clock then
          { state := .failed
            nodeCount := members
            healthyNodes := 1
            hasQuorum := false
            primaryNode := some (settings name).nodeId }
        else
          { state := .healthy
            nodeCount := members
            healthyNodes := members
            hasQuorum := true
            primaryNode := some (settings name).nodeId }) := by
  intro started monitored members
  have holds := identified_run listener settings peerHash clock earlier
  have identified := holds.machines name
  have first :
      Network.Keeps
        (fun other machine =>
          Identified (settings other) (peerHash other) machine ∧
            (other = name →
              UnheardMachine (settings name)
                (memberNames (settings name) (peerHash name))
                (started.machines name).clock machine))
        (Signed settings)
        (step listener started (.call name .start)) := by
    have next :=
      identified_run listener settings peerHash clock
        (earlier ++ [.call name .start])
    rw [run_append] at next
    refine ⟨fun other => ⟨next.machines other, ?_⟩, next.wire⟩
    rintro rfl
    rw [step_call]
    exact unheardMachine_start identified enabled unstarted
  have unheard :=
    @unheard_run _ _ listener settings peerHash name _ _ _ unnamed first
      later quiet
  have split :
      monitored.machines name =
        (((run (step listener) (step listener started (.call name .start))
              later).machines name).execute .checkHealth).execute
          (.monitorRound onFailover onFailback) := by
    show
      (run (step listener) started
        (.call name .start :: later ++ _)).machines name = _
    rw [List.cons_append, run_cons, run_append, run_cons, run_cons,
      run_nil, step_call, step_call]
  rw [split]
  exact health_of_unheard unheard onFailover onFailback

/-- Six seconds after its start, one of the two finds its cluster failed. -/
theorem unnamed_peers_fail_pair :
    let monitored :=
      run (step fun _ => none) pairDeployment
        [.call false .start, .call false (.elapse 6),
          .call false .checkHealth,
          .call false (.monitorRound (.ok ()) (.ok ()))]
    (monitored.machines false).cluster.map ActiveCluster.getHealth =
      some
        { state := .failed
          nodeCount := 2
          healthyNodes := 1
          hasQuorum := false
          primaryNode := some "node-1" } := by
  have unnamed :
      ∀ other,
        (pairSettings other).nodeId ∈
            memberNames (pairSettings false) (fun _ => 537) →
          (pairSettings other).nodeId = (pairSettings false).nodeId := by
    decide
  have quiet :
      ∀ action ∈ ([.call false (.elapse 6)] : List (DeploymentStep Bool)),
        ForwardAt false action ∧ ¬ FailsOverAt false action := by
    simp [ForwardAt, FailsOverAt]
  have unstarted :
      ((run (step fun _ => none) pairDeployment []).machines
        false).cluster = none :=
    rfl
  have found :=
    unnamed_peers_fail (fun _ => none) pairSettings (fun _ _ => 537)
      (fun _ => 0) rfl unnamed unstarted quiet (.ok ()) (.ok ())
  have members :
      (memberNames (pairSettings false) fun _ => 537).toFinset.card = 2 := by
    decide
  have expired : TimedOut (pairSettings false) 0 (0 + 6) := by
    norm_num [TimedOut, pairSettings]
  simp only [members] at found
  exact found.trans (congrArg some (if_pos ⟨by decide, expired⟩))

end UnheardRuns

end StorageAppliance.ActiveCluster
