import StorageAppliance.PowerScale.HealedBlocks

/-!
# Which node a stripe member refers to

A stripe member has the number of its node, and the number is used as an index
into the nodes of the cluster when the block is checked.  `OneFS.WriteFile`
stores the indices that were selected.  Healing stores the ID of the replacement
(`selectReplacementNode`), or 0 if there is none.

A tracked file system is a file system together with the ID of the node that
each shard was sent to.  `trackedRun_consistent` says that the members refer to
these nodes, and that checking blocks does not panic, in every run in which each
node that takes a shard over has its ID at its index.
-/

namespace StorageAppliance.PowerScale

open StorageAppliance.Go
open StorageAppliance.Library

/-! ## Where shards are sent -/

/-- The ID of the replacement of a failed node, if there is one. -/
def replacementId (nodes : List Node) (failedNodeId : ℤ) : Option ℤ :=
  (nodes.find? fun node =>
    node.id ≠ failedNodeId && node.healthy).map Node.id

/-- The ID of the node at an index. -/
def nodeIdAt (nodes : List Node) (index : ℤ) : Option ℤ :=
  (nodeAt nodes index).map Node.id

/-- The nodes that the shards of a stripe are sent to when it is written. -/
def sentByWrite (nodes : List Node) (protection : ProtectionLevel)
    (stripeNum : Nat) (block : BlockDescriptor) : List (Option ℤ) :=
  ((selectFrom nodes stripeNum protection.totalShards 0 []).take
    block.stripeMembers.length).map fun index : Nat => nodeIdAt nodes index

/-- The nodes of some shards, after those of a failed node are replaced. -/
def sentByReplacing (rpc : NodeRPC) (nodes : List Node)
    (blockNumber : Nat) (shards : List Bytes) (failedNodeId : ℤ) :
    Nat → List StripeMember → List (Option ℤ) → List (Option ℤ)
  | index, member :: rest, sent :: others =>
      if member.nodeId = failedNodeId then
        match
          rpc.writeShardToNode (selectReplacementNode nodes failedNodeId)
            (generateShardPath blockNumber index)
            ((shards[index]?).getD []) with
        | some _ => sent :: others
        | none =>
            replacementId nodes failedNodeId ::
              sentByReplacing rpc nodes blockNumber shards failedNodeId
                (index + 1) rest others
      else
        sent ::
          sentByReplacing rpc nodes blockNumber shards failedNodeId
            (index + 1) rest others
  | _, _, sent => sent

/-- The nodes of some shards, after those of failed nodes are replaced. -/
def sentByFailed (rpc : NodeRPC) (nodes : List Node) (blockNumber : Nat)
    (shards : List Bytes) :
    List ℤ → List StripeMember → Storage → List (Option ℤ) →
      List (Option ℤ)
  | [], _, _, sent => sent
  | failedNodeId :: rest, members, storage, sent =>
      let replaced :=
        sentByReplacing rpc nodes blockNumber shards failedNodeId 0 members
          sent
      match
        replaceMembers rpc nodes blockNumber shards failedNodeId 0 members
          storage with
      | (some _, _, _) => replaced
      | (none, moved, written) =>
          sentByFailed rpc nodes blockNumber shards rest moved written
            replaced

/-- The failed numbers and the shards of a block that is to be healed. -/
def healPlan (library : HealingLibrary) (rpc : NodeRPC) (ofs : OneFS)
    (block : BlockDescriptor) : Option (List ℤ × List Bytes) :=
  match checkBlockHealth ofs.nodes block with
  | .ok (true, failed) =>
      match readAvailable rpc ofs.storage failed block.stripeMembers with
      | .error _ => none
      | .ok held =>
          match library.new ofs.dataStripes ofs.parityStripes with
          | some _ => none
          | none =>
              match
                library.reconstruct ofs.dataStripes ofs.parityStripes
                  held with
              | .error _ => none
              | .ok shards => some (failed, shards)
  | _ => none

/-- The nodes of the shards of a block, after it is checked and healed. -/
def sentByHealing (library : HealingLibrary) (rpc : NodeRPC) (ofs : OneFS)
    (block : BlockDescriptor) (sent : List (Option ℤ)) :
    List (Option ℤ) :=
  match healPlan library rpc ofs block with
  | none => sent
  | some (failed, shards) =>
      sentByFailed rpc ofs.nodes block.blockNumber shards failed
        block.stripeMembers ofs.storage sent

/-! ## Runs -/

/--
A file system, and the nodes that the shards of each inode were sent to, for
each block and shard.
-/
structure TrackedFS where
  ofs : OneFS
  sent : Dict Nat (List (List (Option ℤ))) := Dict.empty

/-- What the file system does, or what happens to its nodes. -/
inductive ClusterAction
  | writeFile (call : WriteCall)
  | setHealthy (position : Nat) (healthy : Bool)
  | healingRound (rpc : NodeRPC) (order : List String)

/-- Change the health of a node. -/
def OneFS.setHealthy (self : OneFS) (position : Nat) (healthy : Bool) :
    OneFS :=
  { self with
    nodes :=
      self.nodes.modify position fun node =>
        { node with healthy := healthy } }

/-- Check and heal a block of a file. -/
def healStep (library : HealingLibrary) (rpc : NodeRPC) (ofs : OneFS)
    (place : Nat × Nat) : OneFS :=
  (ofs.checkAndHealBlockOf library rpc place.1 place.2).2

/-- Check and heal a block of a file, and track its shards. -/
def TrackedFS.heal (library : HealingLibrary) (rpc : NodeRPC)
    (self : TrackedFS) (place : Nat × Nat) : TrackedFS :=
  { ofs := healStep library rpc self.ofs place
    sent :=
      match self.ofs.directory.inodeTable.get? place.1 with
      | none => self.sent
      | some layout =>
          match layout.blocks[place.2]? with
          | none => self.sent
          | some block =>
              let sent := (self.sent.get? place.1).getD []
              self.sent.set place.1
                (sent.modify place.2
                  (sentByHealing library rpc self.ofs block)) }

/-- The blocks that are healed before something panics. -/
def reachedBlocks (library : HealingLibrary) (rpc : NodeRPC) :
    List (Nat × Nat) → OneFS → List (Nat × Nat)
  | [], _ => []
  | place :: rest, self =>
      match self.checkAndHealBlockOf library rpc place.1 place.2 with
      | (.error _, _) => [place]
      | (.ok _, healed) => place :: reachedBlocks library rpc rest healed

/-- The blocks that a healing round reaches. -/
def roundBlocks (library : HealingLibrary) (rpc : NodeRPC) :
    List String → OneFS → List (Nat × Nat)
  | [], _ => []
  | path :: rest, self =>
      let reached := reachedBlocks library rpc (self.blocksOf path) self
      match self.healBlocks library rpc (self.blocksOf path) with
      | (.error _, _) => reached
      | (.ok _, healed) => reached ++ roundBlocks library rpc rest healed

/-- Write a file, and track its shards. -/
def TrackedFS.write (library : ReedSolomon) (self : TrackedFS)
    (call : WriteCall) : TrackedFS :=
  { ofs := writeStep library self.ofs call
    sent :=
      if Succeeds library self.ofs call then
        match
          (writeStep library self.ofs call).directory.inodeTable.get?
            self.ofs.directory.nextInode with
        | none => self.sent
        | some layout =>
            self.sent.set self.ofs.directory.nextInode
              (layout.blocks.mapIdx fun stripeNum block =>
                sentByWrite self.ofs.nodes layout.protection stripeNum
                  block)
      else
        self.sent }

/-- Execute an action, and track the shards. -/
def TrackedFS.step (library : HealingLibrary) (self : TrackedFS) :
    ClusterAction → TrackedFS
  | .writeFile call => self.write library.toReedSolomon call
  | .setHealthy position healthy =>
      { self with ofs := self.ofs.setHealthy position healthy }
  | .healingRound rpc order =>
      run (TrackedFS.heal library rpc) self
        (roundBlocks library rpc order self.ofs)

/-- Execute an action. -/
def clusterStep (library : HealingLibrary) (ofs : OneFS) :
    ClusterAction → OneFS
  | .writeFile call => writeStep library.toReedSolomon ofs call
  | .setHealthy position healthy => ofs.setHealthy position healthy
  | .healingRound rpc order =>
      (ofs.checkAndHealFiles library rpc order).2

/-! ## Consistency -/

/-- The number of the member is the index of the node its shard was sent to. -/
def RefersTo (nodes : List Node) (member : StripeMember)
    (sent : Option ℤ) : Prop :=
  ∃ id, sent = some id ∧ nodeIdAt nodes member.nodeId = some id

/-- The members of a block refer to the nodes their shards were sent to. -/
def BlockRefers (nodes : List Node) (block : BlockDescriptor)
    (sent : List (Option ℤ)) : Prop :=
  List.Forall₂ (RefersTo nodes) block.stripeMembers sent

/-- All members refer to the nodes that their shards were sent to. -/
def TrackedFS.Refers (self : TrackedFS) : Prop :=
  ∀ inode layout,
    self.ofs.directory.inodeTable.get? inode = some layout →
      ∃ sent,
        self.sent.get? inode = some sent ∧
          List.Forall₂ (BlockRefers self.ofs.nodes) layout.blocks sent

/--
All members refer to the nodes that their shards were sent to, and all blocks
are checked without panic.
-/
structure TrackedFS.Consistent (tracked : TrackedFS) : Prop where
  refers : tracked.Refers
  checked :
    ∀ inode layout,
      tracked.ofs.directory.inodeTable.get? inode = some layout →
        ∀ block ∈ layout.blocks,
          ∃ result, checkBlockHealth tracked.ofs.nodes block = .ok result

/--
If the number that replaces a failed one takes a shard, it is the ID of a
replacement that has it at its index.
-/
def ReplacedByIndex (rpc : NodeRPC) (nodes : List Node)
    (failedNodeId : ℤ) : Prop :=
  (∃ path shard,
      rpc.writeShardToNode (selectReplacementNode nodes failedNodeId) path
        shard = none) →
    ∃ id, replacementId nodes failedNodeId = some id ∧
      nodeIdAt nodes id = some id

/-- If the block is healed, its replacements have their IDs at their indices. -/
def HealsByIndex (library : HealingLibrary) (rpc : NodeRPC)
    (self : TrackedFS) (place : Nat × Nat) : Prop :=
  ∀ layout block failed shards,
    self.ofs.directory.inodeTable.get? place.1 = some layout →
      layout.blocks[place.2]? = some block →
        healPlan library rpc self.ofs block = some (failed, shards) →
          ∀ number ∈ failed, ReplacedByIndex rpc self.ofs.nodes number

/-- Every block that the action heals is healed by index. -/
def ActsByIndex (library : HealingLibrary) (self : TrackedFS) :
    ClusterAction → Prop
  | .writeFile _ => True
  | .setHealthy _ _ => True
  | .healingRound rpc order =>
      AllSteps (TrackedFS.heal library rpc) (HealsByIndex library rpc) self
        (roundBlocks library rpc order self.ofs)

/-! ## Tracking leaves the file system alone -/

section Tracking

variable
    {library : HealingLibrary}
    {rpc : NodeRPC}

theorem healBlocks_eq_run (places : List (Nat × Nat)) (ofs : OneFS) :
    (ofs.healBlocks library rpc places).2 =
      run (healStep library rpc) ofs
        (reachedBlocks library rpc places ofs) := by
  induction places generalizing ofs with
  | nil => rfl
  | cons place rest induction =>
      rcases place with ⟨inode, index⟩
      rw [OneFS.healBlocks, reachedBlocks]
      cases result :
          ofs.checkAndHealBlockOf library rpc inode index with
      | mk outcome healed =>
      have stepped : healStep library rpc ofs (inode, index) = healed := by
        rw [healStep, result]
      cases outcome with
      | error fault => exact stepped.symm
      | ok _ =>
          simp only [run_cons, stepped]
          exact induction healed

theorem checkAndHealFiles_eq_run (order : List String) (ofs : OneFS) :
    (ofs.checkAndHealFiles library rpc order).2 =
      run (healStep library rpc) ofs
        (roundBlocks library rpc order ofs) := by
  induction order generalizing ofs with
  | nil => rfl
  | cons path rest induction =>
      have reached :=
        @healBlocks_eq_run library rpc (ofs.blocksOf path) ofs
      rw [OneFS.checkAndHealFiles, roundBlocks]
      cases result :
          ofs.healBlocks library rpc (ofs.blocksOf path) with
      | mk outcome healed =>
      rw [result] at reached
      cases outcome with
      | error fault => exact reached
      | ok _ =>
          simp only at reached ⊢
          rw [run_append, ← reached]
          exact induction healed

theorem run_heal_ofs (self : TrackedFS) (places : List (Nat × Nat)) :
    (run (TrackedFS.heal library rpc) self places).ofs =
      run (healStep library rpc) self.ofs places := by
  induction places generalizing self with
  | nil => rfl
  | cons place rest induction => exact induction (self.heal library rpc place)

/-- Tracked actions do to the file system what they do without tracking. -/
theorem step_ofs (self : TrackedFS) (action : ClusterAction) :
    (self.step library action).ofs =
      clusterStep library self.ofs action := by
  cases action with
  | writeFile call => rfl
  | setHealthy position healthy => rfl
  | healingRound rpc order =>
      exact (run_heal_ofs self _).trans
        (checkAndHealFiles_eq_run order self.ofs).symm

theorem run_step_ofs (self : TrackedFS) (actions : List ClusterAction) :
    (run (TrackedFS.step library) self actions).ofs =
      run (clusterStep library) self.ofs actions := by
  induction actions generalizing self with
  | nil => rfl
  | cons action rest induction =>
      rw [run_cons, run_cons, induction, step_ofs]

end Tracking

/-! ## Healing -/

section Healing

variable
    {library : HealingLibrary}
    {rpc : NodeRPC}
    {nodes : List Node}
    {blockNumber : Nat}
    {shards : List Bytes}
    {failed : List ℤ}
    {failedNodeId : ℤ}
    {members : List StripeMember}
    {sent : List (Option ℤ)}

/-- Members that are replaced by index refer to their replacement. -/
theorem sentByReplacing_refers
    (byIndex : ReplacedByIndex rpc nodes failedNodeId)
    (refers : List.Forall₂ (RefersTo nodes) members sent)
    (start : Nat) (storage : Storage) :
    List.Forall₂ (RefersTo nodes)
      (replaceMembers rpc nodes blockNumber shards failedNodeId start
        members storage).2.1
      (sentByReplacing rpc nodes blockNumber shards failedNodeId start
        members sent) := by
  induction refers generalizing start storage with
  | nil => exact List.Forall₂.nil
  | @cons member sent members others here rest induction =>
      rw [replaceMembers, sentByReplacing]
      by_cases gone : member.nodeId = failedNodeId
      · simp only [gone, if_true]
        cases taken :
            rpc.writeShardToNode
              (selectReplacementNode nodes failedNodeId)
              (generateShardPath blockNumber start)
              ((shards[start]?).getD []) with
        | some error => exact List.Forall₂.cons here rest
        | none =>
            refine List.Forall₂.cons ?_ (induction _ _)
            rcases byIndex ⟨_, _, taken⟩ with ⟨id, replaced, indexed⟩
            refine ⟨id, replaced, ?_⟩
            have number : selectReplacementNode nodes failedNodeId = id :=
              congrArg (Option.getD · 0) replaced
            rw [number]
            exact indexed
      · simp only [gone, if_false]
        exact List.Forall₂.cons here (induction _ _)

theorem sentByFailed_refers
    (byIndex : ∀ number ∈ failed, ReplacedByIndex rpc nodes number)
    (refers : List.Forall₂ (RefersTo nodes) members sent)
    (storage : Storage) :
    List.Forall₂ (RefersTo nodes)
      (replaceFailed rpc nodes blockNumber shards failed members
        storage).2.1
      (sentByFailed rpc nodes blockNumber shards failed members storage
        sent) := by
  induction failed generalizing members storage sent with
  | nil => exact refers
  | cons number rest induction =>
      have one :=
        @sentByReplacing_refers rpc nodes blockNumber shards number members
          sent (byIndex number List.mem_cons_self) refers 0 storage
      rw [replaceFailed, sentByFailed]
      cases result :
          replaceMembers rpc nodes blockNumber shards number 0 members
            storage with
      | mk failure outcome =>
      rcases outcome with ⟨moved, written⟩
      rw [result] at one
      cases failure with
      | some error => exact one
      | none =>
          exact
            induction
              (fun other listed =>
                byIndex other (List.mem_cons_of_mem _ listed))
              one written

/-- A block that is checked and healed has its members replaced as planned. -/
theorem checkAndHealBlock_members (ofs : OneFS) (block : BlockDescriptor) :
    (ofs.checkAndHealBlock library rpc block).2.1.stripeMembers =
      match healPlan library rpc ofs block with
      | none => block.stripeMembers
      | some (failed, shards) =>
          (replaceFailed rpc ofs.nodes block.blockNumber shards failed
            block.stripeMembers ofs.storage).2.1 := by
  rw [OneFS.checkAndHealBlock, healPlan]
  cases checkBlockHealth ofs.nodes block with
  | error fault => rfl
  | ok result =>
      rcases result with ⟨needsHealing, failed⟩
      cases needsHealing with
      | false => rfl
      | true =>
          simp only [OneFS.healBlock]
          cases readAvailable rpc ofs.storage failed block.stripeMembers with
          | error error => rfl
          | ok held =>
              cases library.new ofs.dataStripes ofs.parityStripes with
              | some error => rfl
              | none =>
                  simp only
                  cases library.reconstruct ofs.dataStripes
                      ofs.parityStripes held with
                  | error error => rfl
                  | ok shards => rfl

/-- A block that is healed by index refers to its nodes. -/
theorem sentByHealing_refers
    {ofs : OneFS} {block : BlockDescriptor}
    (byIndex :
      ∀ failed shards,
        healPlan library rpc ofs block = some (failed, shards) →
          ∀ number ∈ failed, ReplacedByIndex rpc ofs.nodes number)
    (refers : BlockRefers ofs.nodes block sent) :
    BlockRefers ofs.nodes
      (ofs.checkAndHealBlock library rpc block).2.1
      (sentByHealing library rpc ofs block sent) := by
  rw [BlockRefers, checkAndHealBlock_members, sentByHealing]
  cases plan : healPlan library rpc ofs block with
  | none => exact refers
  | some healing =>
      exact
        sentByFailed_refers (byIndex healing.1 healing.2 plan) refers
          ofs.storage

/-- Changing related entries at an index keeps lists related. -/
theorem forall₂_set_modify
    {α β : Type} {relation : α → β → Prop} {left : List α}
    {right : List β} {index : Nat} {before after : α} {change : β → β}
    (related : List.Forall₂ relation left right)
    (found : left[index]? = some before)
    (changes : ∀ other, relation before other →
      relation after (change other)) :
    List.Forall₂ relation (left.set index after)
      (right.modify index change) := by
  induction related generalizing index with
  | nil => cases found
  | cons here rest induction =>
      cases index with
      | zero =>
          cases found
          exact List.Forall₂.cons (changes _ here) rest
      | succ index => exact List.Forall₂.cons here (induction found)

theorem heal_nodes (self : TrackedFS) (place : Nat × Nat) :
    (self.heal library rpc place).ofs.nodes = self.ofs.nodes := by
  change (healStep library rpc self.ofs place).nodes = self.ofs.nodes
  rw [healStep, OneFS.checkAndHealBlockOf]
  split
  · rfl
  · split
    · rfl
    · rfl

/-- Healing a block by index keeps the references. -/
theorem TrackedFS.Refers.heal
    {self : TrackedFS} {place : Nat × Nat}
    (refers : self.Refers)
    (byIndex : HealsByIndex library rpc self place) :
    (self.heal library rpc place).Refers := by
  have nodes := @heal_nodes library rpc self place
  intro inode layout found
  rw [nodes]
  cases stored : self.ofs.directory.inodeTable.get? place.1 with
  | none =>
      simp only [TrackedFS.heal, healStep, OneFS.checkAndHealBlockOf,
        stored] at found ⊢
      exact refers inode layout found
  | some before =>
      cases listed : before.blocks[place.2]? with
      | none =>
          simp only [TrackedFS.heal, healStep, OneFS.checkAndHealBlockOf,
            stored, listed] at found ⊢
          exact refers inode layout found
      | some block =>
          simp only [TrackedFS.heal, healStep, OneFS.checkAndHealBlockOf,
            stored, listed] at found ⊢
          rw [Dict.get?_set] at found ⊢
          by_cases same : inode = place.1
          · rw [if_pos same] at found ⊢
            cases found
            rcases refers place.1 before stored with
              ⟨sent, tracked, related⟩
            rw [tracked]
            refine ⟨_, rfl, ?_⟩
            apply forall₂_set_modify related listed
            intro other here
            exact
              sentByHealing_refers
                (fun failed shards plan =>
                  byIndex before block failed shards stored listed plan)
                here
          · rw [if_neg same] at found ⊢
            exact refers inode layout found

end Healing

/-! ## Writing -/

section Writing

variable
    {library : ReedSolomon}
    {rpc : NodeRPC}
    {ofs written : OneFS}
    {protection : ProtectionLevel}
    {reader : Reader}
    {block : BlockDescriptor}
    {blocks : List BlockDescriptor}
    {stripeNum stripeSize count : Nat}

/-- The members of a stripe have the indices that were selected for it. -/
theorem writeStripeToNodes_numbers
    {shards : List Bytes} {nodes : List Nat}
    (returned :
      ofs.writeStripeToNodes rpc shards nodes stripeNum =
        (.ok block, written)) :
    block.stripeMembers.map StripeMember.nodeId =
      (nodes.take block.stripeMembers.length).map
        fun node : Nat => (node : ℤ) := by
  rw [OneFS.writeStripeToNodes] at returned
  split at returned
  · cases returned
  · rename_i enough
    have zipped :
        (shards.zip nodes).map Prod.snd = nodes.take shards.length := by
      rw [List.zip_eq_zip_take_min, List.map_snd_zip (by
        rw [List.length_take, List.length_take]
        omega), Nat.min_eq_left (by omega)]
    cases errors :
        (writeShards rpc ofs.dataStripes stripeNum 0 (shards.zip nodes)
          ofs.storage).2.1 with
    | cons error rest =>
        simp only [errors] at returned
        cases returned
    | nil =>
        have placed := (writeShards_stores errors).1
        have lengths := congrArg List.length placed
        have numbers := congrArg (List.map Prod.fst) placed
        rw [List.length_map, length_placesFrom, zipped] at lengths
        rw [List.map_map, map_fst_placesFrom, zipped] at numbers
        rw [List.length_take, Nat.min_eq_left (by omega)] at lengths
        simp only [errors] at returned
        have block_eq := Except.ok.inj (Prod.ext_iff.mp returned).1
        rw [← block_eq]
        simp only
        rw [lengths]
        exact numbers

/-- Nodes that are selected without panic are nodes of the cluster. -/
theorem selectNodesForStripe_ok
    {nodes : List Node} {number : ℤ} {selected : List Nat}
    (selection :
      selectNodesForStripe nodes number protection = .ok selected) :
    selected = selectFrom nodes number protection.totalShards 0 [] ∧
      ∀ node ∈ selectFrom nodes number protection.totalShards 0 [],
        node < nodes.length := by
  rw [selectNodesForStripe] at selection
  split at selection
  · cases selection
  · rename_i safe
    cases selection
    refine ⟨rfl, ?_⟩
    by_cases none : protection.totalShards = 0
    · rw [none]
      intro node listed
      cases listed
    · have configured : nodes ≠ [] := by
        rintro rfl
        exact safe ⟨Nat.pos_of_ne_zero none, rfl⟩
      exact selectFrom_valid number configured _ 0

/-- Members with the indices of nodes refer to these nodes. -/
theorem refersTo_of_numbers
    {nodes : List Node} {members : List StripeMember}
    {indices : List Nat}
    (numbers :
      members.map StripeMember.nodeId =
        indices.map fun index : Nat => (index : ℤ))
    (valid : ∀ index ∈ indices, index < nodes.length) :
    List.Forall₂ (RefersTo nodes) members
      (indices.map fun index : Nat => nodeIdAt nodes index) := by
  induction members generalizing indices with
  | nil =>
      cases indices with
      | nil => exact List.Forall₂.nil
      | cons index rest => cases numbers
  | cons member members induction =>
      cases indices with
      | nil => cases numbers
      | cons index rest =>
          rw [List.map_cons, List.map_cons, List.cons.injEq] at numbers
          refine
            List.Forall₂.cons ?_
              (induction numbers.2 fun other listed =>
                valid other (List.mem_cons_of_mem _ listed))
          have inside := valid index List.mem_cons_self
          have indexed :
              nodeIdAt nodes index = some (nodes.get ⟨index, inside⟩).id := by
            rw [nodeIdAt, nodeAt_natCast, List.getElem?_eq_getElem inside]
            rfl
          refine ⟨_, indexed, ?_⟩
          rw [numbers.1]
          exact indexed

/-- The members of the stripes of a file refer to the selected nodes. -/
theorem writeStripes_refers
    (returned :
      ofs.writeStripes library rpc protection stripeSize count stripeNum
        reader = (.ok blocks, written)) :
    ∀ index block, blocks[index]? = some block →
      BlockRefers ofs.nodes block
        (sentByWrite ofs.nodes protection (stripeNum + index) block) := by
  induction count generalizing stripeNum reader ofs blocks with
  | zero =>
      cases returned
      intro index block found
      cases found
  | succ count induction =>
      rw [OneFS.writeStripes] at returned
      simp only at returned
      split at returned
      · cases returned
      · split at returned
        · cases returned
        · split at returned
          · cases returned
          · rename_i nodes selection
            split at returned
            · cases returned
            · rename_i shards _ _ _ first after writing
              split at returned
              · cases returned
              · rename_i others finished later
                cases returned
                have same :=
                  @writeStripeToNodes_storesOnly rpc ofs shards nodes
                    stripeNum
                rw [writing] at same
                simp only at same
                have nodes_eq : after.nodes = ofs.nodes := by
                  rw [same]
                intro index block found
                cases index with
                | zero =>
                    cases found
                    have selected := selectNodesForStripe_ok selection
                    have numbers := writeStripeToNodes_numbers writing
                    rw [selected.1] at numbers
                    apply refersTo_of_numbers numbers
                    intro node listed
                    exact selected.2 node (List.mem_of_mem_take listed)
                | succ index =>
                    have rest := induction later index block found
                    rw [nodes_eq, Nat.add_right_comm, Nat.add_assoc]
                      at rest
                    exact rest

/-- Writing a file keeps the references. -/
theorem TrackedFS.Refers.write
    {self : TrackedFS} (refers : self.Refers) (call : WriteCall) :
    (self.write library call).Refers := by
  by_cases succeeds : Succeeds library self.ofs call
  · have returned :
        self.ofs.writeFile library call.rpc call.path call.reader
            call.size =
          (.ok (), writeStep library self.ofs call) :=
      Prod.ext succeeds rfl
    rcases writeFile_written returned with
      ⟨protection, stripeSize, count, blocks, after, _, _, _, _, writing,
        stored⟩
    have same :=
      @writeStripes_storesOnly library call.rpc
        { self.ofs with
          directory := self.ofs.directory.allocateInode.2 }
        call.reader protection stripeSize count 0
    rw [writing] at same
    simp only [StoresOnly] at same
    have table :
        (writeStep library self.ofs call).directory.inodeTable =
          self.ofs.directory.inodeTable.set self.ofs.directory.nextInode
            { inodeNumber := self.ofs.directory.nextInode
              fileSize := call.size
              protection := protection
              blocks := blocks } := by
      rw [stored, same]
      rfl
    have nodes :
        (writeStep library self.ofs call).nodes = self.ofs.nodes := by
      rw [stored, same]
    have stripes := writeStripes_refers writing
    intro inode layout found
    simp only [TrackedFS.write, succeeds, if_true, table, nodes,
      Dict.get?_set_self] at found ⊢
    rw [Dict.get?_set] at found ⊢
    by_cases fresh : inode = self.ofs.directory.nextInode
    · rw [if_pos fresh] at found ⊢
      cases found
      refine ⟨_, rfl, ?_⟩
      rw [List.forall₂_iff_get]
      refine ⟨(List.length_mapIdx).symm, ?_⟩
      intro index inside within
      have here :=
        stripes index _ (List.getElem?_eq_getElem inside)
      rw [Nat.zero_add] at here
      simpa using here
    · rw [if_neg fresh] at found ⊢
      exact refers inode layout found
  · have failed :
        writeStep library self.ofs call =
          { self.ofs with
            directory := self.ofs.directory.allocateInode.2
            storage := (writeStep library self.ofs call).storage } :=
      writeFile_failed succeeds
    intro inode layout found
    simp only [TrackedFS.write, succeeds, if_false] at found ⊢
    rw [failed] at found ⊢
    exact refers inode layout found

end Writing

/-! ## Runs by index -/

section Runs

variable
    {library : HealingLibrary}

theorem nodeIdAt_congr
    {nodes others : List Node}
    (same : nodes.map Node.id = others.map Node.id) (index : ℤ) :
    nodeIdAt nodes index = nodeIdAt others index := by
  have entry := congrArg (fun ids => ids[index.toNat]?) same
  simp only [List.getElem?_map] at entry
  rw [nodeIdAt, nodeIdAt, nodeAt, nodeAt]
  split
  · exact entry
  · rfl

theorem setHealthy_ids
    (ofs : OneFS) (position : Nat) (healthy : Bool) :
    (ofs.setHealthy position healthy).nodes.map Node.id =
      ofs.nodes.map Node.id := by
  apply List.ext_getElem?
  intro index
  rw [OneFS.setHealthy, List.getElem?_map, List.getElem?_map,
    List.getElem?_modify]
  cases ofs.nodes[index]? with
  | none => rfl
  | some node =>
      simp only [Option.map_eq_map, Option.map_some]
      split
      · rfl
      · rfl

/-- The health of a node does not matter for the references. -/
theorem TrackedFS.Refers.setHealthy
    {self : TrackedFS} (refers : self.Refers)
    (position : Nat) (healthy : Bool) :
    TrackedFS.Refers
      { self with ofs := self.ofs.setHealthy position healthy } := by
  have same := setHealthy_ids self.ofs position healthy
  intro inode layout found
  rcases refers inode layout found with ⟨sent, tracked, related⟩
  refine ⟨sent, tracked, related.imp ?_⟩
  intro block others blockRefers
  refine blockRefers.imp ?_
  rintro member _ ⟨id, rfl, indexed⟩
  exact ⟨id, rfl, (nodeIdAt_congr same _).trans indexed⟩

/-- An action that heals by index keeps the references. -/
theorem TrackedFS.Refers.step
    {self : TrackedFS} (refers : self.Refers) (action : ClusterAction)
    (byIndex : ActsByIndex library self action) :
    (self.step library action).Refers := by
  cases action with
  | writeFile call => exact refers.write call
  | setHealthy position healthy => exact refers.setHealthy position healthy
  | healingRound rpc order =>
      have keeps :
          ∀ state place, TrackedFS.Refers state →
            HealsByIndex library rpc state place →
              (state.heal library rpc place).Refers :=
        fun state place holds meets => holds.heal meets
      exact run_invariant keeps refers byIndex

/-- Blocks that refer to nodes are checked without panic. -/
theorem TrackedFS.Refers.consistent
    {self : TrackedFS} (refers : self.Refers) : self.Consistent where
  refers := refers
  checked := by
    intro inode layout found block listed
    rcases refers inode layout found with ⟨sent, _, related⟩
    rcases List.mem_iff_get.mp listed with ⟨index, rfl⟩
    have here :=
      (List.forall₂_iff_get.mp related).2 index index.isLt
        (by
          rw [← related.length_eq]
          exact index.isLt)
    have valid :
        ∀ member ∈ (layout.blocks.get index).stripeMembers, ∃ node,
          nodeAt self.ofs.nodes member.nodeId = some node := by
      intro member inside
      rcases List.mem_iff_get.mp inside with ⟨position, rfl⟩
      rcases
        (List.forall₂_iff_get.mp here).2 position position.isLt
          (by
            rw [← here.length_eq]
            exact position.isLt) with
        ⟨id, _, indexed⟩
      rw [nodeIdAt, Option.map_eq_some_iff] at indexed
      rcases indexed with ⟨node, present, _⟩
      exact ⟨node, present⟩
    rw [checkBlockHealth, failedNodes_eq valid]
    exact ⟨_, rfl⟩

/-- A file system without files, and nothing sent. -/
def TrackedFS.new (nodes : List Node) (protection : ProtectionLevel)
    (encoder : Option DPUEncoder) : TrackedFS where
  ofs := newCluster nodes protection encoder

/--
In every run that heals by index the members refer to the nodes that their
shards were sent to, and all blocks are checked without panic.
-/
theorem trackedRun_consistent
    (nodes : List Node) (protection : ProtectionLevel)
    (encoder : Option DPUEncoder) {actions : List ClusterAction}
    (byIndex :
      AllSteps (TrackedFS.step library) (ActsByIndex library)
        (TrackedFS.new nodes protection encoder) actions) :
    (run (TrackedFS.step library) (TrackedFS.new nodes protection encoder)
        actions).ofs =
        run (clusterStep library) (newCluster nodes protection encoder)
          actions ∧
      (run (TrackedFS.step library)
        (TrackedFS.new nodes protection encoder) actions).Consistent := by
  refine ⟨run_step_ofs _ actions, ?_⟩
  apply TrackedFS.Refers.consistent
  have keeps :
      ∀ state action, TrackedFS.Refers state →
        ActsByIndex library state action →
          (state.step library action).Refers :=
    fun state action holds meets => holds.step action meets
  apply run_invariant keeps ?_ byIndex
  intro inode layout found
  cases found

end Runs

/-- Nodes that have their IDs as indices are replaced by index. -/
theorem Indexed.replacedByIndex
    {nodes : List Node} {node : Node} {number : ℤ}
    (indexed : Indexed nodes) (listed : node ∈ nodes)
    (healthy : node.healthy = true) (apart : node.id ≠ number)
    (rpc : NodeRPC) : ReplacedByIndex rpc nodes number := by
  intro _
  rw [replacementId]
  cases found :
      nodes.find? fun node =>
        decide (node.id ≠ number) && node.healthy with
  | none =>
      have refused := List.find?_eq_none.mp found node listed
      simp [apart, healthy] at refused
  | some spare =>
      have place := indexed.nodeAt (List.mem_of_find?_eq_some found)
      refine ⟨spare.id, rfl, ?_⟩
      rw [nodeIdAt, place]
      rfl

/-- Three nodes that have their IDs as indices. -/
def threeNodes : List Node :=
  [{ id := 0 }, { id := 1 }, { id := 2 }]

/-- Three nodes with other IDs. -/
def tens : List Node :=
  [{ id := 10 }, { id := 20 }, { id := 30 }]

/-- Write a file, let a node fail, and heal. -/
def writeFailHeal (position : Nat) : List ClusterAction :=
  [.writeFile (writeByte "/a"), .setHealthy position false,
    .healingRound steadyNodes ["/a"]]

theorem trackedRun_consistent_threeNodes :
    (run (TrackedFS.step singleParityHealing)
        (TrackedFS.new threeNodes ⟨2, 1⟩ none) (writeFailHeal 1)).ofs =
        run (clusterStep singleParityHealing)
          (newCluster threeNodes ⟨2, 1⟩ none) (writeFailHeal 1) ∧
      (run (TrackedFS.step singleParityHealing)
        (TrackedFS.new threeNodes ⟨2, 1⟩ none)
        (writeFailHeal 1)).Consistent := by
  have indexed :
      Indexed [{ id := 0 }, { id := 1, healthy := false }, { id := 2 }] := by
    intro position node found
    match position, found with
    | 0, found => cases found; rfl
    | 1, found => cases found; rfl
    | 2, found => cases found; rfl
  have replaced :
      ∀ (rpc : NodeRPC) (number : ℤ),
        ReplacedByIndex rpc
          [{ id := 0 }, { id := 1, healthy := false }, { id := 2 }]
          number := by
    intro rpc number
    by_cases first : number = 0
    · exact
        @Indexed.replacedByIndex _ { id := 2 } number indexed (by simp) rfl
          (by rw [first]; decide) rpc
    · exact
        @Indexed.replacedByIndex _ { id := 0 } number indexed (by simp) rfl
          (fun same => first same.symm) rpc
  apply trackedRun_consistent
  refine ⟨trivial, trivial, ?_, trivial⟩
  apply
    @allSteps_of_invariant _ _ _ _
      (fun state : TrackedFS =>
        state.ofs.nodes =
          [{ id := 0 }, { id := 1, healthy := false }, { id := 2 }])
  · intro state place nodes
    exact (heal_nodes state place).trans nodes
  · intro state place nodes layout block failed shards _ _ _ number _
    rw [nodes]
    exact replaced _ number
  · decide +kernel

/-- The file on the nodes with other IDs, after it is healed. -/
def healedLayout : FileLayout where
  inodeNumber := 1
  fileSize := 1
  protection := ⟨2, 1⟩
  blocks :=
    [{ blockNumber := 0
       stripeMembers :=
         [⟨1, "/ifs/.ifsvar/stripe-0/shard-0", 0, false⟩,
           ⟨2, "/ifs/.ifsvar/stripe-0/shard-1", 1, false⟩,
           ⟨20, "/ifs/.ifsvar/stripe-0/shard-2", 2, true⟩]
       dataShards := [1, 2]
       parityShards := [0] }]

/--
With other IDs a member has no node after its block is healed, and the next
round panics.
-/
theorem healedFile_outOfRange :
    (tens.map Node.id).Nodup ∧
      ((run (clusterStep singleParityHealing)
          (newCluster tens ⟨2, 1⟩ none)
          (writeFailHeal 0)).checkAndHealFiles singleParityHealing
            steadyNodes ["/a"]).1 =
        .error (.panic "index out of range") ∧
      ¬ (run (TrackedFS.step singleParityHealing)
        (TrackedFS.new tens ⟨2, 1⟩ none) (writeFailHeal 0)).Consistent := by
  refine ⟨by decide, by decide +kernel, ?_⟩
  intro consistent
  have stored :
      (run (TrackedFS.step singleParityHealing)
          (TrackedFS.new tens ⟨2, 1⟩ none)
          (writeFailHeal 0)).ofs.directory.inodeTable.get? 1 =
        some healedLayout := by
    decide +kernel
  rcases consistent.refers 1 healedLayout stored with ⟨sent, _, related⟩
  cases related with
  | cons here _ =>
  cases here with
  | cons _ here =>
  cases here with
  | cons _ here =>
  cases here with
  | cons last _ =>
  rcases last with ⟨id, _, indexed⟩
  have missing :
      nodeIdAt
          (run (TrackedFS.step singleParityHealing)
            (TrackedFS.new tens ⟨2, 1⟩ none) (writeFailHeal 0)).ofs.nodes
          20 = none := by
    decide +kernel
  rw [missing] at indexed
  cases indexed

end StorageAppliance.PowerScale
