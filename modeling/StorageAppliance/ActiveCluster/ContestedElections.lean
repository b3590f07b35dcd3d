import StorageAppliance.ActiveCluster.SplitBrain

/-!
# Contested elections

An election is contested if a node elects itself while another node takes itself
for the primary, whether or not that one sees a quorum.  Such an election can be
safe for as long as the other claimant is cut off, but it has no safe end of its
own: from any state of a cluster in which the nodes know each other, heartbeats
alone can follow after which two nodes lead.  The other claimant hears from every
node, holds all of them for healthy and so has quorum, and nothing tells it that
it has been replaced.
-/

namespace StorageAppliance.ActiveCluster

open StorageAppliance.Python
open StorageAppliance.Library
open Cluster

/-- The node takes itself for the primary. -/
def Cluster.Claims (cluster : Cluster) (nodeId : String) : Prop :=
  ∃ node ∈ cluster.nodes.get? nodeId,
    node.mediator.getPrimary = some node.mediator.nodeId

/--
A node that holds an election and is the best candidate in its own view, with
quorum, is the only one that may take itself for the primary.
-/
def Uncontested (cluster : Cluster) (action : ClusterStep) : Prop :=
  ∀ nodeId node,
    cluster.nodes.get? nodeId = some node →
      action.ElectsAt nodeId node →
        node.mediator.successor = some nodeId →
          ∀ other, other ≠ nodeId → ¬ cluster.Claims other

/-- The view holds the node for healthy. -/
def Mediator.Sees (mediator : Mediator) (nodeId : String) : Prop :=
  ∃ info ∈ mediator.nodes.get? nodeId, info.isHealthy

/-- Nodes know their names and each other, and hold themselves for healthy. -/
structure Connected (cluster : Cluster) : Prop where
  own :
    ∀ nodeId node,
      cluster.nodes.get? nodeId = some node →
        node.mediator.nodeId = nodeId
  full :
    ∀ nodeId node other,
      cluster.nodes.get? nodeId = some node →
        (node.mediator.nodes.contains other =
          cluster.nodes.contains other)
  awake :
    ∀ nodeId node,
      cluster.nodes.get? nodeId = some node →
        node.mediator.Sees nodeId

section Contested

variable
    {cluster : Cluster}
    {action : ClusterStep}
    {nodeId target : String}
    {node : ClusterNode}
    {mediator : Mediator}

/-- A cluster that agrees on its primary is connected. -/
theorem connected_of_agreeing
    {primary : String} (agreeing : Agreeing cluster primary) :
    Connected cluster where
  own := agreeing.own
  full := agreeing.full
  awake := by
    intro nodeId node found
    have known := agreeing.full nodeId node nodeId found
    have member : cluster.nodes.contains nodeId = true := by
      rw [Dict.contains, found]
      rfl
    rw [member, Dict.contains, Option.isSome_iff_exists] at known
    rcases known with ⟨info, known⟩
    exact ⟨info, known,
      agreeing.healthy nodeId node nodeId info found known⟩

/-! ## What a view keeps -/

theorem contains_mapValues
    (nodes : Dict String NodeInfo)
    (update : String → NodeInfo → NodeInfo) (other : String) :
    (nodes.mapValues update).contains other = nodes.contains other := by
  rw [Dict.contains, Dict.contains, Dict.get?_mapValues,
    Option.isSome_map]

/-- Hearing from a node makes the view hold it for healthy. -/
theorem receiveHeartbeat_sees
    (now : ℚ) {sourceNode : String}
    (known : mediator.nodes.contains sourceNode) :
    (mediator.receiveHeartbeat now sourceNode).2.Sees sourceNode := by
  rw [Dict.contains, Option.isSome_iff_exists] at known
  rcases known with ⟨info, known⟩
  refine
    ⟨{ info with lastHeartbeat := now, isHealthy := true }, ?_, rfl⟩
  simp [Mediator.receiveHeartbeat, Dict.get?_modify_self, known]

/-- Hearing from a node makes the view think worse of none. -/
theorem receiveHeartbeat_keeps
    (mediator : Mediator) (now : ℚ) (sourceNode : String) :
    (∀ other,
        (mediator.receiveHeartbeat now sourceNode).2.nodes.contains other =
          mediator.nodes.contains other) ∧
      ∀ other,
        mediator.Sees other →
          (mediator.receiveHeartbeat now sourceNode).2.Sees other := by
  simp only [Mediator.receiveHeartbeat]
  split
  · constructor
    · intro other
      simp only [Dict.contains, Dict.get?_modify]
      split
      · exact Option.isSome_map
      · rfl
    · rintro other ⟨info, known, healthy⟩
      simp only [Mediator.Sees, Dict.get?_modify]
      split
      · exact ⟨_, Option.map_eq_some_iff.mpr ⟨info, known, rfl⟩, rfl⟩
      · exact ⟨info, known, healthy⟩
  · exact ⟨fun _ => rfl, fun _ sees => sees⟩

/-- A view keeps its members, and a node never doubts its own health. -/
theorem Evolves.keeps
    (evolves : Evolves cluster action nodeId node mediator) :
    (∀ other,
        mediator.nodes.contains other =
          node.mediator.nodes.contains other) ∧
      (node.mediator.Sees node.mediator.nodeId →
        mediator.Sees node.mediator.nodeId) := by
  induction evolves with
  | idle => exact ⟨fun _ => rfl, fun sees => sees⟩
  | received sourceNode _ =>
      have kept :=
        receiveHeartbeat_keeps node.mediator node.clock sourceNode
      exact ⟨kept.1, kept.2 _⟩
  | answered _ earlier => exact earlier
  | checked =>
      refine ⟨fun other => contains_mapValues _ _ other, ?_⟩
      rintro ⟨info, known, healthy⟩
      refine ⟨info, ?_, healthy⟩
      simp [Mediator.checkNodeHealth, Dict.get?_mapValues,
        Mediator.hasFailed, Option.mem_def.mp known]
  | elected tasks elects =>
      rcases
        initiateElection_nodes
          { node.mediator with electionTasks := tasks } with
        ⟨update, sameHealth, mapped | same⟩
      · constructor
        · intro other
          rw [mapped]
          exact contains_mapValues _ _ other
        · rintro ⟨info, known, healthy⟩
          refine ⟨update node.mediator.nodeId info, ?_, ?_⟩
          · rw [mapped, Dict.get?_mapValues, Option.mem_def.mp known]
            rfl
          · rw [sameHealth]
            exact healthy
      · constructor
        · intro other
          rw [same]
        · rintro ⟨info, known, healthy⟩
          refine ⟨info, ?_, healthy⟩
          rw [same]
          exact known

/-- A view that holds all its members for healthy has quorum. -/
theorem hasQuorum_of_sees
    (someone : mediator.nodes.items ≠ [])
    (sees :
      ∀ key, mediator.nodes.contains key → mediator.Sees key) :
    mediator.hasQuorum = true := by
  have all :
      mediator.nodes.values.countP NodeInfo.isHealthy =
        mediator.nodes.values.length := by
    apply List.countP_eq_length.mpr
    intro info member
    rcases Dict.mem_values_iff.mp member with ⟨key, known⟩
    have listed : mediator.nodes.contains key = true := by
      rw [Dict.contains, known]
      rfl
    rcases sees key listed with ⟨seen, found, healthy⟩
    rw [Option.mem_def, known] at found
    cases found
    exact healthy
  have count :
      mediator.nodes.values.length = mediator.nodes.items.length :=
    List.length_map _
  have positive : 0 < mediator.nodes.items.length :=
    List.length_pos_iff.mpr someone
  have quorum :
      mediator.nodes.values.countP NodeInfo.isHealthy ≥
        mediator.nodes.items.length / 2 + 1 := by
    rw [all, count]
    omega
  simp only [Mediator.hasQuorum, Mediator.getQuorumState, if_pos quorum,
    decide_true]

/-! ## Nodes stay connected -/

theorem contains_modifyNode
    (change : ClusterNode → ClusterNode) (other : String) :
    (cluster.modifyNode target change).nodes.contains other =
      cluster.nodes.contains other := by
  simp only [Dict.contains, modifyNode, Dict.get?_modify]
  split
  · exact Option.isSome_map
  · rfl

theorem contains_step (action : ClusterStep) (other : String) :
    (cluster.step action).nodes.contains other =
      cluster.nodes.contains other := by
  cases action with
  | sendHeartbeat sourceNode targetNode =>
      simp only [Cluster.step]
      split <;> rfl
  | deliver index answered =>
      simp only [Cluster.step, Cluster.deliver]
      split
      · rfl
      · split
        · exact (contains_modifyNode _ other).trans
            (contains_modifyNode _ other)
        · exact contains_modifyNode _ other
  | lose index => rfl
  | _ => exact contains_modifyNode _ other

theorem connected_step
    (connected : Connected cluster) (action : ClusterStep) :
    Connected (cluster.step action) where
  own := by
    intro nodeId after found
    rcases step_evolves found with ⟨node, known, evolves⟩
    rw [evolves.primary.1]
    exact connected.own nodeId node known
  full := by
    intro nodeId after other found
    rcases step_evolves found with ⟨node, known, evolves⟩
    rw [evolves.keeps.1 other, contains_step]
    exact connected.full nodeId node other known
  awake := by
    intro nodeId after found
    rcases step_evolves found with ⟨node, known, evolves⟩
    have name := connected.own nodeId node known
    have kept := evolves.keeps.2
    rw [name] at kept
    exact kept (connected.awake nodeId node known)

/-! ## Heartbeats for one node -/

/-- Every node sends the target a heartbeat, which arrives at once. -/
def rally (members : List String) (target : String) (index : Nat) :
    List ClusterStep :=
  members.flatMap fun nodeId =>
    [.sendHeartbeat nodeId target, .deliver index false]

/-- The cluster after the target has heard from a node. -/
def Cluster.hear (cluster : Cluster) (sourceNode target : String) :
    Cluster :=
  cluster.modifyNode target fun node =>
    node.withMediator
      (node.mediator.receiveHeartbeat node.clock sourceNode).2

theorem rally_one
    (connected : Connected cluster)
    (source : cluster.nodes.contains nodeId)
    (member : cluster.nodes.contains target) (apart : nodeId ≠ target) :
    (cluster.step (.sendHeartbeat nodeId target)).step
        (.deliver cluster.inFlight.length false) =
      cluster.hear nodeId target := by
  rw [Dict.contains, Option.isSome_iff_exists] at source
  rcases source with ⟨node, found⟩
  have name := connected.own nodeId node found
  have known := connected.full nodeId node target found
  rw [member, Dict.contains, Option.isSome_iff_exists] at known
  rcases known with ⟨info, known⟩
  have sent :
      cluster.step (.sendHeartbeat nodeId target) =
        { cluster with
          inFlight :=
            cluster.inFlight ++
              [{ sourceNode := nodeId
                 targetNode := target
                 timestamp := node.clock
                 currentPrimary := node.mediator.currentPrimary }] } := by
    simp [Cluster.step, found, Mediator.heartbeat?, name, known,
      Ne.symm apart]
  rw [sent]
  simp [Cluster.step, Cluster.deliver, Cluster.hear, modifyNode,
    List.eraseIdx_append_of_length_le (Nat.le_refl _)]

/-- A node sends itself nothing. -/
theorem rally_self
    (connected : Connected cluster) :
    (cluster.step (.sendHeartbeat target target)).step
        (.deliver cluster.inFlight.length false) =
      cluster := by
  have nothing :
      (cluster.nodes.get? target).bind
          (fun node => node.mediator.heartbeat? node.clock target) =
        none := by
    cases found : cluster.nodes.get? target with
    | none => rfl
    | some node =>
        have name := connected.own target node found
        simp [Mediator.heartbeat?, name]
  simp [Cluster.step, nothing, Cluster.deliver]

/-- The target hears from all the others, one after another. -/
theorem rally_run
    (connected : Connected cluster)
    (member : cluster.nodes.contains target)
    {members : List String}
    (sources :
      ∀ nodeId ∈ members, cluster.nodes.contains nodeId = true) :
    run Cluster.step cluster
        (rally members target cluster.inFlight.length) =
      (members.filter (· ≠ target)).foldl
        (fun current sourceNode => current.hear sourceNode target)
        cluster := by
  induction members generalizing cluster with
  | nil => rfl
  | cons nodeId rest induction =>
      have later :
          ∀ other ∈ rest, cluster.nodes.contains other = true :=
        fun other listed => sources other (List.mem_cons_of_mem _ listed)
      rw [rally, List.flatMap_cons, run_append]
      by_cases same : nodeId = target
      · subst same
        simp only [run_cons, run_nil, rally_self connected]
        rw [List.filter_cons_of_neg (by simp)]
        exact induction connected member later
      · have source := sources nodeId List.mem_cons_self
        have heard := rally_one connected source member same
        have stays : Connected (cluster.hear nodeId target) := by
          rw [← heard]
          exact connected_step (connected_step connected _) _
        simp only [run_cons, run_nil, heard]
        rw [List.filter_cons_of_pos (by simp [same]), List.foldl_cons]
        apply induction stays
        · rw [Cluster.hear, contains_modifyNode]
          exact member
        · intro other listed
          rw [Cluster.hear, contains_modifyNode]
          exact later other listed

/-- What hearing from nodes does to the target and to the others. -/
theorem foldl_hear
    (found : cluster.nodes.get? target = some node)
    (sources : List String) :
    (∀ other,
        other ≠ target →
          (sources.foldl
              (fun current sourceNode =>
                current.hear sourceNode target)
              cluster).nodes.get? other = cluster.nodes.get? other) ∧
      ∃ after,
        (sources.foldl
            (fun current sourceNode => current.hear sourceNode target)
            cluster).nodes.get? target = some after ∧
          after.mediator.nodeId = node.mediator.nodeId ∧
          after.mediator.currentPrimary = node.mediator.currentPrimary ∧
          (∀ other,
            after.mediator.nodes.contains other =
              node.mediator.nodes.contains other) ∧
          (∀ other,
            node.mediator.Sees other → after.mediator.Sees other) ∧
          ∀ sourceNode ∈ sources,
            node.mediator.nodes.contains sourceNode = true →
              after.mediator.Sees sourceNode := by
  induction sources generalizing cluster node with
  | nil =>
      exact ⟨fun _ _ => rfl, node, found, rfl, rfl, fun _ => rfl,
        fun _ sees => sees, by simp⟩
  | cons sourceNode rest induction =>
      have heard :
          (cluster.hear sourceNode target).nodes.get? target =
            some (node.withMediator
              (node.mediator.receiveHeartbeat node.clock
                sourceNode).2) := by
        simp [Cluster.hear, found]
      have frame :=
        receiveHeartbeat_frame node.mediator node.clock sourceNode
      have kept :=
        receiveHeartbeat_keeps node.mediator node.clock sourceNode
      rcases induction heard with
        ⟨others, after, reached, name, primary, known, sees, fresh⟩
      refine ⟨?_, after, reached, name.trans frame.1,
        primary.trans frame.2, ?_, ?_, ?_⟩
      · intro other apart
        rw [List.foldl_cons, others other apart]
        exact Dict.get?_modify_ne _ _ apart
      · intro other
        exact (known other).trans (kept.1 other)
      · intro other seen
        exact sees other (kept.2 other seen)
      · intro other listed listedKnown
        rcases List.mem_cons.mp listed with same | later
        · rw [same] at listedKnown ⊢
          exact sees sourceNode (receiveHeartbeat_sees _ listedKnown)
        · exact fresh other later ((kept.1 other).trans listedKnown)

/-! ## Two nodes that lead -/

/-- Heartbeats hold no election. -/
theorem uncontested_rally
    (members : List String) (index : Nat) :
    AllSteps Cluster.step Uncontested cluster
      (rally members target index) := by
  apply allSteps_of_forall
  intro current action listed nodeId node _ elects
  rcases List.mem_flatMap.mp listed with ⟨source, _, sent⟩
  rcases List.mem_pair.mp sent with same | same
  · rw [same] at elects
    exact elects.elim
  · rw [same] at elects
    exact elects.elim

/-- A claimant that hears from every node leads, and the others stay. -/
theorem leads_after_rally
    (connected : Connected cluster) (claims : cluster.Claims target) :
    (run Cluster.step cluster
        (rally cluster.nodes.keys target
          cluster.inFlight.length)).Leads target ∧
      ∀ other,
        other ≠ target →
          (run Cluster.step cluster
              (rally cluster.nodes.keys target
                cluster.inFlight.length)).nodes.get? other =
            cluster.nodes.get? other := by
  rcases claims with ⟨node, found, primary⟩
  have member : cluster.nodes.contains target = true := by
    rw [Dict.contains, Option.mem_def.mp found]
    rfl
  have sources :
      ∀ nodeId ∈ cluster.nodes.keys,
        cluster.nodes.contains nodeId = true := by
    intro nodeId listed
    rw [Dict.contains, Option.isSome_iff_exists]
    exact Dict.mem_keys_iff.mp listed
  rw [rally_run connected member sources]
  rcases foldl_hear found (cluster.nodes.keys.filter (· ≠ target)) with
    ⟨others, after, reached, name, samePrimary, known, sees, fresh⟩
  refine ⟨⟨after, reached, ?_, ?_⟩, others⟩
  · rw [Mediator.getPrimary, samePrimary, name]
    exact primary
  · have awake := connected.awake target node found
    apply hasQuorum_of_sees
    · rcases sees target awake with ⟨info, listed, _⟩
      have item := Dict.get?_eq_some_iff.mp listed
      intro empty
      rw [empty] at item
      cases item
    · intro key listed
      rw [known key] at listed
      by_cases same : key = target
      · rw [same]
        exact sees target awake
      · apply fresh key _ listed
        rw [connected.full target node key found, Dict.contains,
          Option.isSome_iff_exists] at listed
        exact List.mem_filter.mpr
          ⟨Dict.mem_keys_iff.mpr listed, by simp [same]⟩

/-- After a contested election, heartbeats are enough for split-brain. -/
theorem contested_election_splits
    (connected : Connected cluster)
    (contested : ¬ Uncontested cluster action) :
    ∃ rest,
      AllSteps Cluster.step Uncontested (cluster.step action) rest ∧
        (run Cluster.step (cluster.step action) rest).SplitBrain := by
  simp only [Uncontested, not_forall, not_not] at contested
  rcases contested with
    ⟨nodeId, node, known, elects, best, other, apart, claims⟩
  have leads := leads_of_elected connected.own known elects best
  have others := (step_elects known elects).2
  have stillClaims : (cluster.step action).Claims other := by
    rcases claims with ⟨claimant, found, primary⟩
    exact ⟨claimant, (others other apart).trans found, primary⟩
  rcases
    leads_after_rally (connected_step connected action) stillClaims with
    ⟨otherLeads, unchanged⟩
  refine ⟨_, uncontested_rally _ _, nodeId, other, Ne.symm apart, ?_,
    otherLeads⟩
  rcases leads with ⟨leader, found, primary, quorum⟩
  exact ⟨leader, (unchanged nodeId (Ne.symm apart)).trans found, primary,
    quorum⟩

end Contested

end StorageAppliance.ActiveCluster
