import Mathlib.Tactic.Linarith
import StorageAppliance.Library.Networks
import StorageAppliance.ActiveCluster.Elections
import StorageAppliance.ActiveCluster.Partitions

/-!
# Started clusters

The cluster of one node (`activecluster/cluster.py`): what it registers when it
starts, what its monitor does in a round, and the state it derives.  The
application starts it with the role of a primary, on every machine.

A peer is given by its address only, and is registered under a name made from
the hash of that address, which Python salts in every process.  A heartbeat
carries the identifier from the settings of its sender, so it counts only if
that identifier is the registered name.

`started_machines_lead`: as long as nobody fails over by hand, a started machine
takes itself for the primary, whatever is sent, lost or late.

Replication is started with the cluster and is a model of its own; the lag that
it reports is left out, and so are the addresses a machine has for itself.
-/

namespace StorageAppliance.ActiveCluster

open StorageAppliance.Python
open StorageAppliance.Library

/-! ## The cluster of a node -/

/-- Overall cluster state. -/
inductive ClusterState where
  | initializing
  | healthy
  | degraded
  | failed
  | maintenance
deriving DecidableEq, Repr

/-- Cluster health summary. -/
structure ClusterHealth where
  state : ClusterState
  nodeCount : Nat
  healthyNodes : Nat
  hasQuorum : Bool
  primaryNode : Option String
deriving DecidableEq

/-- The settings that the cluster reads. -/
structure ClusterSettings where
  clusterEnabled : Bool := false
  nodeId : String := "node-1"
  peerNodes : List String := []
  failoverTimeoutMs : ℤ := 5000
deriving DecidableEq

end StorageAppliance.ActiveCluster

namespace StorageAppliance

open StorageAppliance.ActiveCluster
open StorageAppliance.Library

/-- The components of one node, and the addresses of its peers. -/
structure ActiveCluster where
  nodeId : String
  mediator : Mediator
  failover : FailoverController := {}
  urls : Dict String String := Dict.empty
  state : ClusterState := .initializing
deriving DecidableEq

end StorageAppliance

namespace StorageAppliance.ActiveCluster

open StorageAppliance.Python
open StorageAppliance.Library

/-- The name that a peer is registered under. -/
def peerId (peerHash : String → ℤ) (peerUrl : String) : String :=
  "node-" ++ toString (peerHash peerUrl % 1000)

/-- Initialize the cluster node. -/
def initializeCluster (settings : ClusterSettings) (peerHash : String → ℤ)
    (now : ℚ) (role : NodeRole) : ActiveCluster :=
  let registered :=
    ({ nodeId := settings.nodeId
       failureThresholdMs := settings.failoverTimeoutMs } :
      Mediator).registerSelf now role
  let joined :=
    settings.peerNodes.foldl
      (fun mediator peerUrl =>
        mediator.addNode now (peerId peerHash peerUrl) .secondary)
      registered
  let mediator :=
    if role = .primary then
      (joined.setPrimary settings.nodeId).2
    else
      joined
  { nodeId := settings.nodeId
    mediator := mediator
    urls :=
      settings.peerNodes.foldl
        (fun urls peerUrl => urls.set (peerId peerHash peerUrl) peerUrl)
        Dict.empty
    state := .healthy }

/-- The healthy nodes of the view. -/
def healthyNodes (self : ActiveCluster) : Nat :=
  self.mediator.nodes.values.countP NodeInfo.isHealthy

/-- The nodes of the view. -/
def nodeCount (self : ActiveCluster) : Nat :=
  self.mediator.nodes.items.length

/-- Update overall cluster state. -/
def updateState (self : ActiveCluster) : ActiveCluster :=
  { self with
    state :=
      if ¬ self.mediator.hasQuorum then
        .failed
      else if self.mediator.getPrimary = none then
        .degraded
      else if self.healthyNodes = self.nodeCount then
        .healthy
      else if self.healthyNodes > 0 then
        .degraded
      else
        .failed }

/-- One round of monitoring; an exception ends it. -/
def monitorRound (self : ActiveCluster)
    (onFailover onFailback : Except PyException Unit) : ActiveCluster :=
  match self.failover.checkAndFailover self.mediator onFailover with
  | (.error _, controller, elected) =>
      { self with failover := controller, mediator := elected }
  | (.ok _, controller, elected) =>
      match controller.checkAndFailback elected onFailback with
      | (.error _, controller, restored) =>
          { self with failover := controller, mediator := restored }
      | (.ok _, controller, restored) =>
          { self with
            failover := controller
            mediator := restored }.updateState

/-- Check if this node is the primary. -/
def isPrimary (self : ActiveCluster) : Bool :=
  self.mediator.getPrimary = some self.nodeId

/-- Get cluster health summary. -/
def getHealth (self : ActiveCluster) : ClusterHealth where
  state := self.state
  nodeCount := self.nodeCount
  healthyNodes := self.healthyNodes
  hasQuorum := self.mediator.hasQuorum
  primaryNode := self.mediator.getPrimary

/-! ## Machines -/

/-- A machine that runs the application, once it is started. -/
structure Machine where
  settings : ClusterSettings
  peerHash : String → ℤ
  clock : ℚ
  cluster : Option ActiveCluster := none

/-- What a machine does by itself, or for its operator. -/
inductive MachineCall where
  | elapse (seconds : ℚ)
  | start
  | checkHealth
  | runElectionTask
  | monitorRound (onFailover onFailback : Except PyException Unit)
  | manualFailover (targetNode : Option String)
      (callback : Except PyException Unit)
  | manualFailback (callback : Except PyException Unit)

/-- And what reaches it from others. -/
inductive MachineInput where
  | call (given : MachineCall)
  | receiveHeartbeat (sourceNode : String)
  | recordAnswer

namespace Machine

/-- Change the mediator of a started cluster. -/
def withMediator (self : Machine) (change : Mediator → Mediator) :
    Machine :=
  { self with
    cluster :=
      self.cluster.map fun cluster =>
        { cluster with mediator := change cluster.mediator } }

/-- Change failover controller and mediator of a started cluster. -/
def withFailover {Answer : Type} (self : Machine)
    (change :
      FailoverController → Mediator →
        Answer × FailoverController × Mediator) :
    Machine :=
  { self with
    cluster :=
      self.cluster.map fun cluster =>
        let (_, controller, mediator) :=
          change cluster.failover cluster.mediator
        { cluster with failover := controller, mediator := mediator } }

/-- The cluster instance, initialized when the application starts. -/
def getCluster (self : Machine) : Machine :=
  if self.settings.clusterEnabled && self.cluster.isNone then
    { self with
      cluster :=
        some
          (ActiveCluster.initializeCluster self.settings self.peerHash
            self.clock .primary) }
  else
    self

/-- Execute a call. -/
def execute (self : Machine) : MachineCall → Machine
  | .elapse seconds => { self with clock := self.clock + seconds }
  | .start => self.getCluster
  | .checkHealth =>
      self.withMediator fun mediator =>
        mediator.checkNodeHealth self.clock
  | .runElectionTask => self.withMediator Mediator.runElectionTask
  | .monitorRound onFailover onFailback =>
      { self with
        cluster :=
          self.cluster.map fun cluster =>
            cluster.monitorRound onFailover onFailback }
  | .manualFailover targetNode callback =>
      self.withFailover fun controller mediator =>
        controller.manualFailover mediator callback targetNode
  | .manualFailback callback =>
      self.withFailover fun controller mediator =>
        controller.manualFailback mediator callback

/-- Take one input. -/
def apply (self : Machine) : MachineInput → Machine
  | .call given => self.execute given
  | .receiveHeartbeat sourceNode =>
      self.withMediator fun mediator =>
        (mediator.receiveHeartbeat self.clock sourceNode).2
  | .recordAnswer => self.withMediator Mediator.recordAnswer

end Machine

/-! ## Deployments -/

variable
    {Name : Type}
    [DecidableEq Name]

/-- A heartbeat posted by a machine to an address. -/
structure PostedHeartbeat (Name : Type) where
  sender : Name
  url : String
  heartbeat : Heartbeat

/-- Machines and the heartbeats that are posted. -/
abbrev Deployment (Name : Type) :=
  Network Name Machine (List (PostedHeartbeat Name))

/-- What can happen in a deployment. -/
inductive DeploymentStep (Name : Type) where
  | call (name : Name) (given : MachineCall)
  | sendHeartbeat (name : Name) (targetNode : String)
  | deliver (index : Nat) (answered : Bool)
  | lose (index : Nat)

namespace Deployment

/-- The heartbeat that a machine posts to a node of its view. -/
def post? (self : Deployment Name) (name : Name) (targetNode : String) :
    Option (PostedHeartbeat Name) := do
  let cluster ← (self.machines name).cluster
  let heartbeat ←
    cluster.mediator.heartbeat? (self.machines name).clock targetNode
  let url ← cluster.urls.get? targetNode
  pure { sender := name, url := url, heartbeat := heartbeat }

/-- The inputs of a machine; `listener` is the machine behind an address. -/
def inputs (listener : String → Option Name) (self : Deployment Name)
    (action : DeploymentStep Name) (name : Name) : List MachineInput :=
  match action with
  | .call target given => if target = name then [.call given] else []
  | .deliver index answered =>
      match self.wire[index]? with
      | none => []
      | some posted =>
          match listener posted.url with
          | none => []
          | some receiver =>
              (if receiver = name then
                [.receiveHeartbeat posted.heartbeat.sourceNode]
              else
                []) ++
                if answered ∧ posted.sender = name then
                  [.recordAnswer]
                else
                  []
  | _ => []

/-- The posted heartbeats after a step. -/
def transmit (self : Deployment Name) :
    DeploymentStep Name → List (PostedHeartbeat Name)
  | .call _ _ => self.wire
  | .sendHeartbeat name targetNode =>
      self.wire ++ (self.post? name targetNode).toList
  | .deliver index _ => self.wire.eraseIdx index
  | .lose index => self.wire.eraseIdx index

/-- Execute one step. -/
def step (listener : String → Option Name) :
    Deployment Name → DeploymentStep Name → Deployment Name :=
  Network.step Machine.apply (inputs listener) transmit

/-- Machines with their settings, none of them started. -/
def new (settings : Name → ClusterSettings)
    (peerHash : Name → String → ℤ) (clock : Name → ℚ) :
    Deployment Name where
  machines := fun name =>
    { settings := settings name
      peerHash := peerHash name
      clock := clock name }
  wire := []

end Deployment

open Deployment

/-! ## What a start registers -/

section Registration

variable
    {settings : ClusterSettings}
    {peerHash : String → ℤ}
    {now : ℚ}
    {names : List String}
    {mediator : Mediator}

/-- The names that a machine registers. -/
def memberNames (settings : ClusterSettings) (peerHash : String → ℤ) :
    List String :=
  settings.nodeId :: settings.peerNodes.map (peerId peerHash)

/-- A view of nodes that were all registered at one time. -/
structure Registered (settings : ClusterSettings) (now : ℚ)
    (names : List String) (mediator : Mediator) : Prop where
  nodeId : mediator.nodeId = settings.nodeId
  threshold : mediator.failureThresholdMs = settings.failoverTimeoutMs
  idle : mediator.electionTasks = 0
  unelected : mediator.stats.electionsHeld = 0
  members :
    ∀ key, (∃ info, mediator.nodes.get? key = some info) ↔ key ∈ names
  fresh :
    ∀ key info,
      mediator.nodes.get? key = some info →
        info.isHealthy = true ∧ info.lastHeartbeat = now

theorem registered_addNode
    (registered : Registered settings now names mediator)
    (nodeId : String) (role : NodeRole) :
    Registered settings now (names ++ [nodeId])
      (mediator.addNode now nodeId role) where
  nodeId := registered.nodeId
  threshold := registered.threshold
  idle := registered.idle
  unelected := registered.unelected
  members := by
    intro key
    simp only [Mediator.addNode, Dict.get?_set, List.mem_append,
      List.mem_singleton]
    split
    · rename_i same
      simp [same]
    · rename_i other
      rw [registered.members key]
      simp [other]
  fresh := by
    intro key info found
    simp only [Mediator.addNode, Dict.get?_set] at found
    split at found
    · cases found
      exact ⟨rfl, rfl⟩
    · exact registered.fresh key info found

/-- Peers are registered in their order. -/
theorem registered_addNodes
    (registered : Registered settings now names mediator)
    (peerUrls : List String) :
    Registered settings now (names ++ peerUrls.map (peerId peerHash))
      (peerUrls.foldl
        (fun mediator peerUrl =>
          mediator.addNode now (peerId peerHash peerUrl) .secondary)
        mediator) := by
  induction peerUrls generalizing names mediator with
  | nil =>
      rw [List.map_nil, List.append_nil]
      exact registered
  | cons peerUrl rest induction =>
      rw [List.map_cons, List.append_cons, List.foldl_cons]
      exact
        induction
          (registered_addNode registered (peerId peerHash peerUrl)
            .secondary)

theorem registered_setPrimary
    (registered : Registered settings now names mediator)
    {nodeId : String} (member : nodeId ∈ names) :
    Registered settings now names (mediator.setPrimary nodeId).2 ∧
      (mediator.setPrimary nodeId).2.currentPrimary = some nodeId := by
  rcases (registered.members nodeId).mpr member with ⟨info, found⟩
  simp only [Mediator.setPrimary, found]
  refine
    ⟨{ nodeId := registered.nodeId
       threshold := registered.threshold
       idle := registered.idle
       unelected := registered.unelected
       members := ?_
       fresh := ?_ }, trivial⟩
  · intro key
    rw [← registered.members key]
    simp [Dict.get?_mapValues]
  · intro key updated found
    rw [Dict.get?_mapValues, Option.map_eq_some_iff] at found
    rcases found with ⟨before, known, assigned⟩
    have fresh := registered.fresh key before known
    rw [← assigned, assignRole_isHealthy, assignRole_lastHeartbeat]
    exact fresh

/-- A started machine knows itself and its peers, and is its own primary. -/
theorem registered_initializeCluster (settings : ClusterSettings)
    (peerHash : String → ℤ) (now : ℚ) :
    Registered settings now (memberNames settings peerHash)
        (ActiveCluster.initializeCluster settings peerHash now
          .primary).mediator ∧
      (ActiveCluster.initializeCluster settings peerHash now
          .primary).mediator.currentPrimary = some settings.nodeId := by
  have alone :
      Registered settings now [settings.nodeId]
        (({ nodeId := settings.nodeId
            failureThresholdMs := settings.failoverTimeoutMs } :
          Mediator).registerSelf now .primary) := by
    apply
      @registered_addNode _ _ []
        { nodeId := settings.nodeId
          failureThresholdMs := settings.failoverTimeoutMs }
    exact
      ⟨rfl, rfl, rfl, rfl, by simp [Dict.get?_empty],
        by simp [Dict.get?_empty]⟩
  exact
    registered_setPrimary
      (@registered_addNodes _ peerHash _ _ _ alone settings.peerNodes)
      (by simp)

end Registration

/-! ## A machine by itself -/

section Leading

variable
    {settings : ClusterSettings}
    {cluster : ActiveCluster}

/-- The node takes itself for the primary, and never held an election. -/
structure SelfLed (settings : ClusterSettings) (cluster : ActiveCluster) :
    Prop where
  nodeId : cluster.nodeId = settings.nodeId
  name : cluster.mediator.nodeId = settings.nodeId
  primary : cluster.mediator.currentPrimary = some settings.nodeId
  own :
    ∃ info,
      cluster.mediator.nodes.get? settings.nodeId = some info ∧
        info.isHealthy = true
  idle : cluster.mediator.electionTasks = 0
  unelected : cluster.mediator.stats.electionsHeld = 0
  untouched : cluster.failover = {}

theorem selfLed_initializeCluster (settings : ClusterSettings)
    (peerHash : String → ℤ) (now : ℚ) :
    SelfLed settings
      (ActiveCluster.initializeCluster settings peerHash now .primary) := by
  rcases registered_initializeCluster settings peerHash now with
    ⟨registered, primary⟩
  rcases (registered.members settings.nodeId).mpr (by simp [memberNames])
    with ⟨info, found⟩
  exact
    ⟨rfl, registered.nodeId, primary,
      ⟨info, found, (registered.fresh _ info found).1⟩,
      registered.idle, registered.unelected, rfl⟩

/-- A healthy primary is not down. -/
theorem SelfLed.primaryDown (led : SelfLed settings cluster) :
    FailoverController.primaryDown cluster.mediator = none := by
  rcases led.own with ⟨info, found, healthy⟩
  simp [FailoverController.primaryDown, Mediator.getPrimary, led.primary,
    found, healthy]

/-- So monitoring only updates the state. -/
theorem SelfLed.monitorRound (led : SelfLed settings cluster)
    (onFailover onFailback : Except PyException Unit) :
    cluster.monitorRound onFailover onFailback = cluster.updateState := by
  have checked :
      cluster.failover.checkAndFailover cluster.mediator onFailover =
        (.ok none, cluster.failover, cluster.mediator) := by
    rw [led.untouched]
    simp [FailoverController.checkAndFailover, led.primaryDown]
  have normal :
      cluster.failover.checkAndFailback cluster.mediator onFailback =
        (.ok none, cluster.failover, cluster.mediator) := by
    rw [led.untouched]
    simp [FailoverController.checkAndFailback]
  simp only [ActiveCluster.monitorRound, checked, normal]

theorem SelfLed.updateState (led : SelfLed settings cluster) :
    SelfLed settings cluster.updateState :=
  ⟨led.nodeId, led.name, led.primary, led.own, led.idle, led.unelected,
    led.untouched⟩

theorem SelfLed.receiveHeartbeat (led : SelfLed settings cluster)
    (now : ℚ) (sourceNode : String) :
    SelfLed settings
      { cluster with
        mediator :=
          (cluster.mediator.receiveHeartbeat now sourceNode).2 } := by
  rcases led.own with ⟨info, found, healthy⟩
  simp only [Mediator.receiveHeartbeat]
  split
  · refine
      ⟨led.nodeId, led.name, led.primary, ?_, led.idle, led.unelected,
        led.untouched⟩
    simp only [Dict.get?_modify, found, Option.map_some]
    split
    · exact ⟨_, rfl, rfl⟩
    · exact ⟨info, rfl, healthy⟩
  · exact led

/-- A node does not check itself. -/
theorem SelfLed.checkNodeHealth (led : SelfLed settings cluster)
    (now : ℚ) :
    SelfLed settings
      { cluster with
        mediator := cluster.mediator.checkNodeHealth now } := by
  rcases led.own with ⟨info, found, healthy⟩
  have spared :
      ∀ node : NodeInfo,
        cluster.mediator.hasFailed now settings.nodeId node = false := by
    intro node
    simp [Mediator.hasFailed, led.name]
  refine
    ⟨led.nodeId, led.name, led.primary, ⟨info, ?_, healthy⟩, ?_,
      led.unelected, led.untouched⟩
  · simp [Mediator.checkNodeHealth, Dict.get?_mapValues, found, spared]
  · simp only [Mediator.checkNodeHealth, led.idle, Nat.zero_add]
    apply List.countP_eq_zero.mpr
    rintro ⟨key, node⟩ _
    simp only [led.primary, Option.some.injEq, Bool.and_eq_true,
      decide_eq_true_eq, not_and]
    intro failed same
    rw [same, spared] at failed
    cases failed

theorem SelfLed.runElectionTask (led : SelfLed settings cluster) :
    cluster.mediator.runElectionTask = cluster.mediator :=
  if_pos led.idle

theorem SelfLed.manualFailback (led : SelfLed settings cluster)
    (callback : Except PyException Unit) :
    cluster.failover.manualFailback cluster.mediator callback =
      (.ok none, cluster.failover, cluster.mediator) := by
  rw [led.untouched]
  simp [FailoverController.manualFailback]

theorem clusterQuorum_iff :
    cluster.mediator.hasQuorum = true ↔
      cluster.nodeCount < 2 * cluster.healthyNodes :=
  hasQuorum_iff

/-- A node that leads itself counts itself. -/
theorem SelfLed.counts (led : SelfLed settings cluster) :
    0 < cluster.healthyNodes ∧
      cluster.healthyNodes ≤ cluster.nodeCount := by
  rcases led.own with ⟨info, found, healthy⟩
  constructor
  · exact
      List.countP_pos_iff.mpr
        ⟨info, Dict.mem_values_iff.mpr ⟨_, found⟩, healthy⟩
  · have counted :=
      @List.countP_le_length _ NodeInfo.isHealthy
        cluster.mediator.nodes.values
    rw [Dict.values, List.length_map] at counted
    exact counted

/-- The state of a node that is its own primary, by the counts of its view. -/
theorem SelfLed.updateState_state (led : SelfLed settings cluster) :
    cluster.updateState.state =
      if cluster.healthyNodes = cluster.nodeCount then
        .healthy
      else if cluster.nodeCount < 2 * cluster.healthyNodes then
        .degraded
      else
        .failed := by
  have counts := led.counts
  have known : cluster.mediator.getPrimary ≠ none := by
    rw [Mediator.getPrimary, led.primary]
    simp
  simp only [ActiveCluster.updateState, clusterQuorum_iff, if_neg known]
  split_ifs <;> first | rfl | omega

/-! ## Every input -/

variable
    {machine : Machine}

/-- The settings are those given, and a started cluster leads itself. -/
structure LeadsItself (settings : ClusterSettings) (machine : Machine) :
    Prop where
  configured : machine.settings = settings
  cluster :
    ∀ cluster, machine.cluster = some cluster → SelfLed settings cluster

/-- The input is no failover by hand. -/
def MachineInput.LeavesPrimary : MachineInput → Prop
  | .call (.manualFailover _ _) => False
  | _ => True

theorem LeadsItself.withMediator (leads : LeadsItself settings machine)
    {change : Mediator → Mediator}
    (keeps :
      ∀ cluster,
        SelfLed settings cluster →
          SelfLed settings
            { cluster with mediator := change cluster.mediator }) :
    LeadsItself settings (machine.withMediator change) where
  configured := leads.configured
  cluster := by
    intro after changed
    rcases Option.map_eq_some_iff.mp changed with ⟨before, running, rfl⟩
    exact keeps before (leads.cluster before running)

theorem LeadsItself.getCluster (leads : LeadsItself settings machine) :
    LeadsItself settings machine.getCluster := by
  rw [Machine.getCluster]
  split
  · refine ⟨leads.configured, ?_⟩
    intro cluster started
    cases started
    rw [leads.configured]
    exact selfLed_initializeCluster _ _ _
  · exact leads

/-- Only a failover by hand can move the primary. -/
theorem leadsItself_apply (leads : LeadsItself settings machine)
    {input : MachineInput} (leaves : input.LeavesPrimary) :
    LeadsItself settings (machine.apply input) := by
  cases input with
  | receiveHeartbeat sourceNode =>
      rw [Machine.apply]
      apply leads.withMediator
      exact fun _ led => led.receiveHeartbeat machine.clock sourceNode
  | recordAnswer =>
      apply leads.withMediator
      exact fun _ led =>
        ⟨led.nodeId, led.name, led.primary, led.own, led.idle,
          led.unelected, led.untouched⟩
  | call given =>
      cases given with
      | elapse seconds => exact ⟨leads.configured, leads.cluster⟩
      | start => exact leads.getCluster
      | checkHealth =>
          rw [Machine.apply, Machine.execute]
          apply leads.withMediator
          exact fun _ led => led.checkNodeHealth machine.clock
      | runElectionTask =>
          apply leads.withMediator
          intro cluster led
          rw [led.runElectionTask]
          exact led
      | monitorRound onFailover onFailback =>
          refine ⟨leads.configured, ?_⟩
          intro after changed
          rcases Option.map_eq_some_iff.mp changed with
            ⟨before, running, rfl⟩
          have led := leads.cluster before running
          rw [led.monitorRound]
          exact led.updateState
      | manualFailover targetNode callback => exact leaves.elim
      | manualFailback callback =>
          refine ⟨leads.configured, ?_⟩
          intro after changed
          rcases Option.map_eq_some_iff.mp changed with
            ⟨before, running, rfl⟩
          have led := leads.cluster before running
          simp only [led.manualFailback]
          exact led

end Leading

/-! ## Every run of a deployment -/

section Runs

variable
    {listener : String → Option Name}
    {settings : Name → ClusterSettings}
    {peerHash : Name → String → ℤ}
    {clock : Name → ℚ}
    {name : Name}

/-- The step is a failover by hand at a machine. -/
def FailsOverAt (name : Name) (action : DeploymentStep Name) : Prop :=
  ∃ targetNode callback,
    action = .call name (.manualFailover targetNode callback)

/-- Without one, no input of the machine is a failover by hand. -/
theorem inputs_leavePrimary {deployment : Deployment Name}
    {action : DeploymentStep Name} (spared : ¬ FailsOverAt name action)
    {input : MachineInput}
    (given : input ∈ inputs listener deployment action name) :
    input.LeavesPrimary := by
  cases action with
  | call target call =>
      simp only [inputs] at given
      split at given
      · rename_i same
        rw [List.mem_singleton.mp given]
        cases call with
        | manualFailover targetNode callback =>
            exact spared ⟨targetNode, callback, by rw [same]⟩
        | _ => trivial
      · cases given
  | deliver index answered =>
      simp only [inputs] at given
      split at given
      · cases given
      · split at given
        · cases given
        · rcases List.mem_append.mp given with received | told
          · split at received
            · rw [List.mem_singleton.mp received]
              trivial
            · cases received
          · split at told
            · rw [List.mem_singleton.mp told]
              trivial
            · cases told
  | sendHeartbeat target targetNode => cases given
  | lose index => cases given

theorem leadsItself_run {deployment : Deployment Name}
    (start : LeadsItself (settings name) (deployment.machines name))
    {actions : List (DeploymentStep Name)}
    (spared : ∀ action ∈ actions, ¬ FailsOverAt name action) :
    LeadsItself (settings name)
      ((run (step listener) deployment actions).machines name) := by
  have kept :=
    @Network.keeps_run Name Machine _ _ _ Machine.apply (inputs listener)
      transmit
      (fun other machine =>
        other = name → LeadsItself (settings name) machine)
      (fun _ => True) (fun other input => other = name → input.LeavesPrimary)
      (fun action => ¬ FailsOverAt name action)
      (fun _ _ _ leads leaves same =>
        leadsItself_apply (leads same) (leaves same))
      (fun _ _ _ allowed other input given same =>
        inputs_leavePrimary allowed (same ▸ given))
      (fun _ _ _ _ => trivial) deployment
      ⟨fun _ same => same ▸ start, trivial⟩ actions spared
  exact kept.machines name rfl

/--
In every run of a deployment, a started machine at which nobody fails over by
hand takes itself for the primary; it never holds an election and never fails
over, and its state is given by the counts of healthy nodes alone.
-/
theorem started_machines_lead (listener : String → Option Name)
    (settings : Name → ClusterSettings) (peerHash : Name → String → ℤ)
    (clock : Name → ℚ) {actions : List (DeploymentStep Name)} {name : Name}
    (spared : ∀ action ∈ actions, ¬ FailsOverAt name action)
    {cluster : ActiveCluster}
    (running :
      ((run (step listener) (Deployment.new settings peerHash clock)
        actions).machines name).cluster = some cluster) :
    cluster.isPrimary = true ∧
      cluster.mediator.stats.electionsHeld = 0 ∧
      cluster.failover.history = [] ∧
      cluster.updateState.state =
        (if cluster.healthyNodes = cluster.nodeCount then
          .healthy
        else if cluster.nodeCount < 2 * cluster.healthyNodes then
          .degraded
        else
          .failed) := by
  have start :
      LeadsItself (settings name)
        ((Deployment.new settings peerHash clock).machines name) :=
    ⟨rfl, fun cluster none => by cases none⟩
  have led :=
    (@leadsItself_run _ _ listener settings name _ start _ spared).cluster
      cluster running
  refine ⟨?_, led.unelected, ?_, led.updateState_state⟩
  · rw [ActiveCluster.isPrimary, Mediator.getPrimary, led.primary,
      led.nodeId]
    exact decide_eq_true rfl
  · rw [led.untouched]

/-- The settings of two machines with each other's address. -/
def pairSettings (second : Bool) : ClusterSettings where
  clusterEnabled := true
  nodeId := if second then "node-2" else "node-1"
  peerNodes :=
    [if second then
      "http://pstorage-node1:8000"
    else
      "http://pstorage-node2:8000"]

/-- The two machines, before they start. -/
def pairDeployment : Deployment Bool :=
  Deployment.new pairSettings (fun _ _ => 537) fun _ => 0

/-- Both start, and both are the primary. -/
theorem started_machines_lead_pair :
    ∃ first second,
      ((run (step fun _ => none) pairDeployment
          [.call false .start, .call true .start]).machines
        false).cluster = some first ∧
      ((run (step fun _ => none) pairDeployment
          [.call false .start, .call true .start]).machines
        true).cluster = some second ∧
      first.isPrimary = true ∧ second.isPrimary = true := by
  have spared :
      ∀ name : Bool,
        ∀ action ∈
            ([.call false .start, .call true .start] :
              List (DeploymentStep Bool)),
          ¬ FailsOverAt name action := by
    simp [FailsOverAt]
  exact
    ⟨_, _, rfl, rfl,
      (started_machines_lead (fun _ => none) pairSettings
        (fun _ _ => 537) (fun _ => 0) (spared false) rfl).1,
      (started_machines_lead (fun _ => none) pairSettings
        (fun _ _ => 537) (fun _ => 0) (spared true) rfl).1⟩

end Runs

end StorageAppliance.ActiveCluster
