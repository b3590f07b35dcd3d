import Mathlib.Data.List.Find
import Mathlib.Data.List.Nodup
import StorageAppliance.PowerScale.Healing
import StorageAppliance.PowerScale.ShardPlaces

/-!
# The redundancy of healed blocks

The shards of a block that is healed are rebuilt and stored for every failed
member, under the path of their own.  But a replacement is selected without a
look at the other members of the block, unlike the nodes that the block is
written to: it is always the first healthy node of the cluster.

`checkAndHealBlock_redundant_iff` says that a block is on distinct healthy nodes
again exactly if nothing had failed, or if one member had failed and the first
healthy node of the cluster had no other member of the block.
-/

namespace StorageAppliance.PowerScale

open StorageAppliance.Go
open StorageAppliance.Library

/--
The members are on distinct healthy nodes, and each place stores the shard of
its number.
-/
structure Redundant (nodes : List Node) (storage : Storage)
    (members : List StripeMember) (shards : List Bytes) : Prop where
  distinct : (members.map StripeMember.nodeId).Nodup
  healthy :
    ∀ member ∈ members, ∃ node,
      nodeAt nodes member.nodeId = some node ∧ node.healthy = true
  stored : Stores storage members shards

/-- A block whose members are on distinct nodes and store its shards. -/
structure SoundBlock (library : HealingLibrary) (ofs : OneFS)
    (block : BlockDescriptor) (shards : List Bytes) : Prop where
  encoded :
    ∃ split,
      split.length = ofs.dataStripes + ofs.parityStripes ∧
        library.encode ofs.dataStripes ofs.parityStripes split =
          .ok shards
  distinct : (block.stripeMembers.map StripeMember.nodeId).Nodup
  valid :
    ∀ member ∈ block.stripeMembers, ∃ node,
      nodeAt ofs.nodes member.nodeId = some node
  paths :
    ∀ index member,
      block.stripeMembers[index]? = some member →
        member.localPath = generateShardPath block.blockNumber index
  stored : Stores ofs.storage block.stripeMembers shards
  parity : block.parityShards.length = ofs.parityStripes

/-- The ID of every node is its index. -/
def Indexed (nodes : List Node) : Prop :=
  ∀ (position : Nat) node, nodes[position]? = some node →
    node.id = position

/-- The member, on another node if its node is among some numbers. -/
def relocate (numbers : List ℤ) (newNodeId : ℤ) (member : StripeMember) :
    StripeMember :=
  if member.nodeId ∈ numbers then
    { member with nodeId := newNodeId }
  else
    member

/-- The member is the only one that failed, or none has. -/
def Replaceable (nodes : List Node) (members : List StripeMember) : Prop :=
  failedMembers nodes members = [] ∨
    ((failedMembers nodes members).length = 1 ∧
      ∀ node, nodes.find? Node.healthy = some node →
        node.id ∉ members.map StripeMember.nodeId)

/-! ## Reading -/

section Reading

variable
    {rpc : NodeRPC}
    {storage : Storage}
    {failed : List ℤ}
    {members : List StripeMember}
    {shards held : List Bytes}

/-- What is read are the shards that have not failed. -/
theorem readAvailable_pieces
    (stores : Stores storage members shards)
    (returned : readAvailable rpc storage failed members = .ok held) :
    List.Forall₂ (fun shard piece => piece = shard ∨ piece = []) shards
      held := by
  induction stores generalizing held with
  | nil =>
      cases returned
      exact List.Forall₂.nil
  | @cons member shard members shards stored _ induction =>
      have found :
          storage.get? (member.nodeId, member.localPath) = some shard :=
        stored
      rw [readAvailable] at returned
      split at returned
      · split at returned
        · cases returned
        · rename_i rest later
          cases returned
          exact List.Forall₂.cons (Or.inr rfl) (induction later)
      · split at returned
        · cases returned
        · split at returned
          · cases returned
          · rename_i rest later
            cases returned
            rw [found]
            exact List.Forall₂.cons (Or.inl rfl) (induction later)

/-- All shards are read but those that have failed. -/
theorem countP_readAvailable
    (stores : Stores storage members shards)
    (nonempty : ∀ shard ∈ shards, shard ≠ [])
    (returned : readAvailable rpc storage failed members = .ok held) :
    members.length ≤
      (held.countP fun piece => piece ≠ []) +
        members.countP fun member => member.nodeId ∈ failed := by
  induction stores generalizing held with
  | nil => exact Nat.zero_le _
  | @cons member shard members shards stored _ induction =>
      have found :
          storage.get? (member.nodeId, member.localPath) = some shard :=
        stored
      have filled : ∀ shard ∈ shards, shard ≠ [] :=
        fun other member =>
          nonempty other (List.mem_cons_of_mem _ member)
      rw [readAvailable] at returned
      split at returned
      · rename_i gone
        split at returned
        · cases returned
        · rename_i rest later
          cases returned
          have rests := induction filled later
          rw [List.length_cons, List.countP_cons_of_neg (by simp),
            List.countP_cons_of_pos (by simpa using gone)]
          omega
      · rename_i stays
        split at returned
        · cases returned
        · split at returned
          · cases returned
          · rename_i rest later
            cases returned
            have rests := induction filled later
            have present := nonempty shard List.mem_cons_self
            rw [found, List.length_cons,
              List.countP_cons_of_pos (by simpa using present),
              List.countP_cons_of_neg (by simpa using stays)]
            omega

end Reading

/-! ## Writing to the replacements -/

section Writing

variable
    {rpc : NodeRPC}
    {nodes : List Node}
    {blockNumber index : Nat}
    {shards : List Bytes}
    {failedNodeId newNodeId : ℤ}
    {failed : List ℤ}
    {members replaced : List StripeMember}
    {storage written : Storage}

/-- Where the shards of a failed node go. -/
def Replaces (blockNumber start : Nat) (members : List StripeMember)
    (failedNodeId newNodeId : ℤ) (key : ℤ × String) (index : Nat) : Prop :=
  ∃ member,
    members[index]? = some member ∧ member.nodeId = failedNodeId ∧
      key = (newNodeId, generateShardPath blockNumber (start + index))

theorem replaces_succ
    {start : Nat} {member : StripeMember} {key : ℤ × String} :
    Replaces blockNumber start (member :: members) failedNodeId newNodeId
        key (index + 1) ↔
      Replaces blockNumber (start + 1) members failedNodeId newNodeId key
        index := by
  rw [Replaces, Replaces, List.getElem?_cons_succ,
    Nat.add_right_comm start 1 index, Nat.add_assoc start index 1]

/--
The members of a failed node are on its replacement, their shards are stored
there, and nothing else is.
-/
structure Replacement (blockNumber : Nat) (shards : List Bytes)
    (failedNodeId newNodeId : ℤ) (start : Nat)
    (members replaced : List StripeMember) (storage written : Storage) :
    Prop where
  moved : replaced = members.map (relocate [failedNodeId] newNodeId)
  puts :
    ∀ index key,
      Replaces blockNumber start members failedNodeId newNodeId key
          index →
        written.get? key = some ((shards[start + index]?).getD [])
  frame :
    ∀ key,
      (∀ index,
        ¬ Replaces blockNumber start members failedNodeId newNodeId key
          index) →
        written.get? key = storage.get? key

/-- The shard of a member is stored before those of the later ones. -/
theorem Replacement.cons_failed
    {start : Nat} {member : StripeMember}
    (gone : member.nodeId = failedNodeId)
    (path : member.localPath = generateShardPath blockNumber start)
    (later :
      Replacement blockNumber shards failedNodeId newNodeId (start + 1)
        members replaced
        (storage.set (newNodeId, generateShardPath blockNumber start)
          ((shards[start]?).getD []))
        written) :
    Replacement blockNumber shards failedNodeId newNodeId start
      (member :: members)
      ({ member with
          nodeId := newNodeId
          localPath := generateShardPath blockNumber start } ::
        replaced)
      storage written := by
  have here :
      written.get? (newNodeId, generateShardPath blockNumber start) =
        some ((shards[start]?).getD []) := by
    rw [later.frame]
    · exact Dict.get?_set_self _ _ _
    · rintro index ⟨other, _, _, same⟩
      have numbers := (generateShardPath_inj (congrArg Prod.snd same)).2
      omega
  refine
    { moved := ?_
      puts := ?_
      frame := ?_ }
  · rw [List.map_cons, relocate, if_pos (List.mem_singleton.mpr gone),
      later.moved, path]
  · intro index key replaces
    cases index with
    | zero =>
        rcases replaces with ⟨other, _, _, rfl⟩
        exact here
    | succ index =>
        have put := later.puts index key (replaces_succ.mp replaces)
        rw [put, Nat.add_right_comm start 1 index,
          Nat.add_assoc start index 1]
  · intro key apart
    rw [later.frame]
    · apply Dict.get?_set_ne
      intro same
      exact apart 0 ⟨member, rfl, gone, same⟩
    · intro index replaces
      exact apart (index + 1) (replaces_succ.mpr replaces)

/-- A member of another node stays, and stores nothing. -/
theorem Replacement.cons_spared
    {start : Nat} {member : StripeMember}
    (stays : member.nodeId ≠ failedNodeId)
    (later :
      Replacement blockNumber shards failedNodeId newNodeId (start + 1)
        members replaced storage written) :
    Replacement blockNumber shards failedNodeId newNodeId start
      (member :: members) (member :: replaced) storage written := by
  refine
    { moved := ?_
      puts := ?_
      frame := ?_ }
  · rw [List.map_cons, relocate,
      if_neg (fun same => stays (List.mem_singleton.mp same)),
      later.moved]
  · intro index key replaces
    cases index with
    | zero =>
        rcases replaces with ⟨other, found, gone, _⟩
        cases found
        exact absurd gone stays
    | succ index =>
        have put := later.puts index key (replaces_succ.mp replaces)
        rw [put, Nat.add_right_comm start 1 index,
          Nat.add_assoc start index 1]
  · intro key apart
    apply later.frame
    intro index replaces
    exact apart (index + 1) (replaces_succ.mpr replaces)

/-- Without error the members of a failed node are replaced. -/
theorem replaceMembers_ok
    {start : Nat}
    (paths :
      ∀ index member, members[index]? = some member →
        member.localPath = generateShardPath blockNumber (start + index))
    (selected : selectReplacementNode nodes failedNodeId = newNodeId)
    (returned :
      replaceMembers rpc nodes blockNumber shards failedNodeId start
        members storage = (none, replaced, written)) :
    Replacement blockNumber shards failedNodeId newNodeId start members
      replaced storage written := by
  induction members generalizing start storage replaced with
  | nil =>
      cases returned
      refine ⟨rfl, ?_, fun _ _ => rfl⟩
      rintro index key ⟨member, found, _⟩
      cases found
  | cons member rest induction =>
      have later :
          ∀ index member, rest[index]? = some member →
            member.localPath =
              generateShardPath blockNumber (start + 1 + index) := by
        intro index other found
        rw [Nat.add_right_comm start 1 index, Nat.add_assoc start index 1]
        exact paths (index + 1) other found
      rw [replaceMembers] at returned
      split at returned
      · rename_i gone
        simp only [selected] at returned
        split at returned
        · cases returned
        · cases result :
              replaceMembers rpc nodes blockNumber shards failedNodeId
                (start + 1) rest
                (storage.set
                  (newNodeId, generateShardPath blockNumber start)
                  ((shards[start]?).getD [])) with
          | mk failure outcome =>
          rcases outcome with ⟨others, stored⟩
          rw [result] at returned
          cases returned
          exact
            (induction later result).cons_failed gone
              (paths 0 member rfl)
      · rename_i stays
        cases result :
            replaceMembers rpc nodes blockNumber shards failedNodeId
              (start + 1) rest storage with
        | mk failure outcome =>
        rcases outcome with ⟨others, stored⟩
        rw [result] at returned
        cases returned
        exact (induction later result).cons_spared stays

/-- The members have their paths, and store their shards unless they failed. -/
def Kept (blockNumber : Nat) (shards : List Bytes) (failed : List ℤ)
    (members : List StripeMember) (storage : Storage) : Prop :=
  ∀ index member, members[index]? = some member →
    member.localPath = generateShardPath blockNumber index ∧
      (member.nodeId ∉ failed →
        storage.get? member.place = some ((shards[index]?).getD []))

/-- Replacing the members of a failed node leaves the other failed ones. -/
theorem Kept.replaceMembers
    (kept :
      Kept blockNumber shards (failedNodeId :: failed) members storage)
    (selected : selectReplacementNode nodes failedNodeId = newNodeId)
    (returned :
      PowerScale.replaceMembers rpc nodes blockNumber shards failedNodeId 0
        members storage = (none, replaced, written)) :
    replaced = members.map (relocate [failedNodeId] newNodeId) ∧
      Kept blockNumber shards failed replaced written := by
  have paths :
      ∀ index member, members[index]? = some member →
        member.localPath = generateShardPath blockNumber (0 + index) := by
    intro index member found
    rw [Nat.zero_add]
    exact (kept index member found).1
  rcases replaceMembers_ok paths selected returned with
    ⟨moved, puts, frame⟩
  refine ⟨moved, ?_⟩
  intro index other found
  rw [moved, List.getElem?_map, Option.map_eq_some_iff] at found
  rcases found with ⟨member, found, rfl⟩
  have path := (kept index member found).1
  by_cases gone : member.nodeId = failedNodeId
  · rw [relocate, if_pos (List.mem_singleton.mpr gone)]
    refine ⟨path, fun _ => ?_⟩
    have put :=
      puts index (newNodeId, generateShardPath blockNumber index)
        ⟨member, found, gone, by rw [Nat.zero_add]⟩
    rw [Nat.zero_add] at put
    rw [StripeMember.place, path]
    exact put
  · rw [relocate,
      if_neg (fun same => gone (List.mem_singleton.mp same))]
    refine ⟨path, fun spared => ?_⟩
    rw [frame]
    · apply (kept index member found).2
      simp [gone, spared]
    · rintro position ⟨another, listed, failing, same⟩
      have places := congrArg Prod.snd same
      rw [StripeMember.place, path, Nat.zero_add] at places
      have equal := (generateShardPath_inj places).2
      subst equal
      cases found.symm.trans listed
      exact gone failing

theorem relocate_cons
    (apart : newNodeId ∉ failed) (member : StripeMember) :
    relocate failed newNodeId (relocate [failedNodeId] newNodeId member) =
      relocate (failedNodeId :: failed) newNodeId member := by
  by_cases first : member.nodeId = failedNodeId
  · simp [relocate, first, apart]
  · by_cases later : member.nodeId ∈ failed
    · simp [relocate, first, later]
    · simp [relocate, first, later]

/-- Without error all failed members are on the replacement. -/
theorem Kept.replaceFailed
    (kept : Kept blockNumber shards failed members storage)
    (selected :
      ∀ number ∈ failed,
        selectReplacementNode nodes number = newNodeId)
    (apart : newNodeId ∉ failed)
    (returned :
      PowerScale.replaceFailed rpc nodes blockNumber shards failed members
        storage = (none, replaced, written)) :
    replaced = members.map (relocate failed newNodeId) ∧
      Kept blockNumber shards [] replaced written := by
  induction failed generalizing members storage with
  | nil =>
      cases returned
      refine ⟨?_, kept⟩
      have same : relocate [] newNodeId = id := by
        ext member
        simp [relocate]
      rw [same, List.map_id]
  | cons number rest induction =>
      rw [List.mem_cons, not_or] at apart
      rw [PowerScale.replaceFailed] at returned
      split at returned
      · cases returned
      · rename_i others stored first
        have one :=
          kept.replaceMembers (selected number List.mem_cons_self) first
        have all :=
          induction one.2
            (fun other member =>
              selected other (List.mem_cons_of_mem _ member))
            apart.2 returned
        refine ⟨?_, all.2⟩
        rw [all.1, one.1, List.map_map]
        apply List.map_congr_left
        intro member _
        exact relocate_cons apart.2 member

/-- Members that are all kept store their shards. -/
theorem Kept.stores
    (kept : Kept blockNumber shards [] members storage)
    (same : members.length = shards.length) :
    Stores storage members shards := by
  rw [Stores, List.forall₂_iff_get]
  refine ⟨same, ?_⟩
  intro index inside within
  have stored :=
    (kept index _ (List.getElem?_eq_getElem inside)).2
      List.not_mem_nil
  rw [List.getElem?_eq_getElem within] at stored
  exact stored

end Writing

/-! ## Distinct nodes -/

section Distinct

variable
    {nodes : List Node}
    {node : Node}
    {members : List StripeMember}
    {numbers failed : List ℤ}
    {number newNodeId : ℤ}

/-- Numbers stay distinct if one of them gets a number that none has. -/
theorem nodup_replaced_iff
    (distinct : numbers.Nodup) (within : ∀ number ∈ failed,
      number ∈ numbers)
    (apart : newNodeId ∉ failed) (some : failed ≠ [])
    (different : failed.Nodup) :
    (numbers.map fun number =>
        if number ∈ failed then newNodeId else number).Nodup ↔
      failed.length = 1 ∧ newNodeId ∉ numbers := by
  rcases List.exists_cons_of_ne_nil some with ⟨first, rest, rfl⟩
  have here := within first List.mem_cons_self
  constructor
  · intro replaced
    have inj := List.inj_on_of_nodup_map replaced
    constructor
    · cases rest with
      | nil => rfl
      | cons second others =>
          have there := within second (by simp)
          have same := inj here there (by simp)
          rw [same] at different
          exact absurd different (by simp)
    · intro listed
      have same := inj here listed (by simp [apart])
      rw [same] at apart
      exact apart List.mem_cons_self
  · rintro ⟨one, fresh⟩
    have only : rest = [] := by
      rw [List.length_cons] at one
      exact List.length_eq_zero_iff.mp (Nat.succ.inj one)
    subst only
    apply distinct.map_on
    intro left leftListed right rightListed same
    simp only [List.mem_singleton] at same
    split at same
    · rename_i leftFirst
      split at same
      · rename_i rightFirst
        rw [leftFirst, rightFirst]
      · rw [same] at fresh
        exact absurd rightListed fresh
    · split at same
      · rw [← same] at fresh
        exact absurd leftListed fresh
      · exact same

theorem Indexed.nodeAt
    (indexed : Indexed nodes) (listed : node ∈ nodes) :
    PowerScale.nodeAt nodes node.id = some node := by
  rcases List.mem_iff_getElem?.mp listed with ⟨position, found⟩
  rw [indexed position node found, nodeAt_natCast, found]

/-- A failed node is replaced by the first healthy node of the cluster. -/
theorem Indexed.selectReplacementNode
    (indexed : Indexed nodes)
    (first : nodes.find? Node.healthy = some node)
    (gone : nodeFailed nodes number = true) :
    PowerScale.selectReplacementNode nodes number = node.id := by
  have same :
      (nodes.find? fun node =>
          decide (node.id ≠ number) && node.healthy) =
        nodes.find? Node.healthy := by
    apply List.find?_congr
    intro other listed
    by_cases equal : other.id = number
    · rw [← equal, nodeFailed, indexed.nodeAt listed] at gone
      simp only [Bool.not_eq_true'] at gone
      simp [gone]
    · simp [equal]
  rw [PowerScale.selectReplacementNode, same, first]
  rfl

theorem nodeFailed_of_mem
    (listed : number ∈
      (failedMembers nodes members).map StripeMember.nodeId) :
    nodeFailed nodes number = true ∧
      number ∈ members.map StripeMember.nodeId := by
  rcases List.mem_map.mp listed with ⟨member, failing, rfl⟩
  rw [failedMembers, List.mem_filter] at failing
  exact ⟨failing.2, List.mem_map.mpr ⟨member, failing.1, rfl⟩⟩

/-- A member whose node has not failed is on a healthy node. -/
theorem healthy_of_not_failed
    {member : StripeMember}
    (valid : ∃ node, nodeAt nodes member.nodeId = some node)
    (spared :
      member.nodeId ∉
        (failedMembers nodes members).map StripeMember.nodeId)
    (listed : member ∈ members) :
    ∃ node,
      nodeAt nodes member.nodeId = some node ∧ node.healthy = true := by
  rcases valid with ⟨node, found⟩
  refine ⟨node, found, ?_⟩
  by_contra fails
  apply spared
  apply List.mem_map.mpr
  refine ⟨member, List.mem_filter.mpr ⟨listed, ?_⟩, rfl⟩
  rw [nodeFailed, found]
  simpa using fails

/-- The first healthy node is not the node of a failed member. -/
theorem Indexed.first_not_failed
    (indexed : Indexed nodes)
    (first : nodes.find? Node.healthy = some node) :
    node.id ∉ (failedMembers nodes members).map StripeMember.nodeId := by
  intro gone
  have healthy := List.find?_some first
  have place := indexed.nodeAt (List.mem_of_find?_eq_some first)
  have fails := (nodeFailed_of_mem gone).1
  rw [nodeFailed, place] at fails
  simp [healthy] at fails

theorem map_nodeId_relocate (failed : List ℤ) (newNodeId : ℤ)
    (members : List StripeMember) :
    (members.map (relocate failed newNodeId)).map StripeMember.nodeId =
      (members.map StripeMember.nodeId).map fun number =>
        if number ∈ failed then newNodeId else number := by
  rw [List.map_map, List.map_map]
  apply List.map_congr_left
  intro member _
  by_cases gone : member.nodeId ∈ failed
  · simp [relocate, gone]
  · simp [relocate, gone]

end Distinct

/-! ## Healing a block -/

section Blocks

variable
    {library : HealingLibrary}
    {rpc : NodeRPC}
    {ofs : OneFS}
    {block healed : BlockDescriptor}
    {shards : List Bytes}
    {storage : Storage}

theorem SoundBlock.length
    (sound : SoundBlock library ofs block shards)
    (lawful : library.Lawful) :
    block.stripeMembers.length = ofs.dataStripes + ofs.parityStripes := by
  rcases sound.encoded with ⟨split, total, result⟩
  rw [sound.stored.length_eq]
  exact (lawful.keeps.encode_keeps _ _ _ _ total result).1

/-- The shards of a block are rebuilt from those that have not failed. -/
theorem SoundBlock.rebuilt
    (sound : SoundBlock library ofs block shards)
    (lawful : library.Lawful) {held : List Bytes}
    (tolerated :
      (failedMembers ofs.nodes block.stripeMembers).length ≤
        ofs.parityStripes)
    (read :
      readAvailable rpc ofs.storage
        ((failedMembers ofs.nodes block.stripeMembers).map
          StripeMember.nodeId)
        block.stripeMembers = .ok held) :
    library.reconstruct ofs.dataStripes ofs.parityStripes held =
      .ok shards := by
  rcases sound.encoded with ⟨split, total, result⟩
  have nonempty :=
    (lawful.keeps.encode_keeps _ _ _ _ total result).2.2
  have many := countP_readAvailable sound.stored nonempty read
  have gone :
      (block.stripeMembers.countP fun member =>
          member.nodeId ∈
            (failedMembers ofs.nodes block.stripeMembers).map
              StripeMember.nodeId) =
        (failedMembers ofs.nodes block.stripeMembers).length := by
    rw [List.countP_eq_length_filter, failedMembers]
    apply congrArg List.length
    apply List.filter_congr
    intro member listed
    apply Bool.eq_iff_iff.mpr
    rw [decide_eq_true_iff]
    constructor
    · intro among
      exact (nodeFailed_of_mem among).1
    · intro fails
      exact List.mem_map.mpr
        ⟨member, List.mem_filter.mpr ⟨listed, fails⟩, rfl⟩
  rw [gone, sound.length lawful] at many
  exact
    lawful.rebuilds _ _ _ _ _ total result
      ⟨readAvailable_pieces sound.stored read, by omega⟩

theorem SoundBlock.kept
    (sound : SoundBlock library ofs block shards) (failed : List ℤ) :
    Kept block.blockNumber shards failed block.stripeMembers
      ofs.storage := by
  intro index member found
  refine ⟨sound.paths index member found, fun _ => ?_⟩
  rcases List.getElem?_eq_some_iff.mp found with ⟨inside, rfl⟩
  have within : index < shards.length := by
    rw [← sound.stored.length_eq]
    exact inside
  have stored := (List.forall₂_iff_get.mp sound.stored).2 index inside within
  rw [List.getElem?_eq_getElem within]
  exact stored

/-- Without error a block with failed members has them on one replacement. -/
theorem SoundBlock.healBlock
    (sound : SoundBlock library ofs block shards)
    (lawful : library.Lawful) {newNodeId : ℤ}
    (tolerated :
      (failedMembers ofs.nodes block.stripeMembers).length ≤
        ofs.parityStripes)
    (selected :
      ∀ number ∈
          (failedMembers ofs.nodes block.stripeMembers).map
            StripeMember.nodeId,
        selectReplacementNode ofs.nodes number = newNodeId)
    (apart :
      newNodeId ∉
        (failedMembers ofs.nodes block.stripeMembers).map
          StripeMember.nodeId)
    (returned :
      ofs.healBlock library rpc block
          ((failedMembers ofs.nodes block.stripeMembers).map
            StripeMember.nodeId) =
        (.ok (), healed, storage)) :
    healed.stripeMembers =
        block.stripeMembers.map
          (relocate
            ((failedMembers ofs.nodes block.stripeMembers).map
              StripeMember.nodeId)
            newNodeId) ∧
      Stores storage healed.stripeMembers shards := by
  rw [OneFS.healBlock] at returned
  split at returned
  · cases returned
  · rename_i held read
    split at returned
    · cases returned
    · rw [sound.rebuilt lawful tolerated read] at returned
      simp only at returned
      cases result :
          replaceFailed rpc ofs.nodes block.blockNumber shards
            ((failedMembers ofs.nodes block.stripeMembers).map
              StripeMember.nodeId)
            block.stripeMembers ofs.storage with
      | mk failure outcome =>
      rcases outcome with ⟨members, stored⟩
      rw [result] at returned
      cases failure with
      | some error => cases returned
      | none =>
          cases returned
          have kept :=
            (sound.kept _).replaceFailed selected apart result
          refine ⟨kept.1, kept.2.stores ?_⟩
          rw [kept.1, List.length_map, sound.stored.length_eq]

/-- A block of which nothing has failed is redundant. -/
theorem SoundBlock.redundant
    (sound : SoundBlock library ofs block shards)
    (none : failedMembers ofs.nodes block.stripeMembers = []) :
    Redundant ofs.nodes ofs.storage block.stripeMembers shards := by
  refine ⟨sound.distinct, ?_, sound.stored⟩
  intro member listed
  apply healthy_of_not_failed (sound.valid member listed) ?_ listed
  rw [none]
  exact List.not_mem_nil

/-- A block is redundant on a replacement that it was not on before. -/
theorem SoundBlock.redundant_relocate_iff
    (sound : SoundBlock library ofs block shards)
    (indexed : Indexed ofs.nodes) {node : Node}
    (first : ofs.nodes.find? Node.healthy = some node)
    (some : failedMembers ofs.nodes block.stripeMembers ≠ [])
    (stored :
      Stores storage
        (block.stripeMembers.map
          (relocate
            ((failedMembers ofs.nodes block.stripeMembers).map
              StripeMember.nodeId)
            node.id))
        shards) :
    Redundant ofs.nodes storage
        (block.stripeMembers.map
          (relocate
            ((failedMembers ofs.nodes block.stripeMembers).map
              StripeMember.nodeId)
            node.id))
        shards ↔
      Replaceable ofs.nodes block.stripeMembers := by
  have different :
      ((failedMembers ofs.nodes block.stripeMembers).map
        StripeMember.nodeId).Nodup :=
    (List.filter_sublist.map _).nodup sound.distinct
  have condition :
      Replaceable ofs.nodes block.stripeMembers ↔
        ((failedMembers ofs.nodes block.stripeMembers).map
            StripeMember.nodeId).length = 1 ∧
          node.id ∉ block.stripeMembers.map StripeMember.nodeId := by
    rw [Replaceable, List.length_map, first]
    simp [some]
  rw [condition,
    ← nodup_replaced_iff sound.distinct
      (fun _ gone => (nodeFailed_of_mem gone).2)
      (indexed.first_not_failed first) (by simpa using some) different,
    ← map_nodeId_relocate]
  constructor
  · exact Redundant.distinct
  · intro distinct
    refine ⟨distinct, ?_, stored⟩
    intro other listed
    rcases List.mem_map.mp listed with ⟨member, before, rfl⟩
    rw [relocate]
    split
    · exact
        ⟨node, indexed.nodeAt (List.mem_of_find?_eq_some first),
          List.find?_some first⟩
    · rename_i spared
      exact
        healthy_of_not_failed (sound.valid member before) spared before

/-- A block of which nothing has failed is left as it is. -/
theorem SoundBlock.checkAndHealBlock_of_nothing
    (sound : SoundBlock library ofs block shards)
    (none : failedMembers ofs.nodes block.stripeMembers = []) :
    ofs.checkAndHealBlock library rpc block =
      (.ok (), block, ofs.storage) := by
  rw [OneFS.checkAndHealBlock, checkBlockHealth,
    failedNodes_eq sound.valid, none]
  rfl

/-- A block of which some but not too many members have failed is healed. -/
theorem SoundBlock.checkAndHealBlock_of_failed
    (sound : SoundBlock library ofs block shards)
    (some : failedMembers ofs.nodes block.stripeMembers ≠ [])
    (tolerated :
      (failedMembers ofs.nodes block.stripeMembers).length ≤
        ofs.parityStripes) :
    ofs.checkAndHealBlock library rpc block =
      ofs.healBlock library rpc block
        ((failedMembers ofs.nodes block.stripeMembers).map
          StripeMember.nodeId) := by
  have needs :
      (0 < ((failedMembers ofs.nodes block.stripeMembers).map
            StripeMember.nodeId).length &&
          ((failedMembers ofs.nodes block.stripeMembers).map
            StripeMember.nodeId).length ≤ block.parityShards.length) =
        true := by
    have positive := List.length_pos_iff.mpr some
    rw [Bool.and_eq_true, decide_eq_true_iff, decide_eq_true_iff,
      sound.parity, List.length_map]
    exact ⟨positive, tolerated⟩
  rw [OneFS.checkAndHealBlock, checkBlockHealth,
    failedNodes_eq sound.valid]
  simp only [needs]

/-- A healthy node is found for a block with failed members. -/
theorem SoundBlock.exists_first
    (sound : SoundBlock library ofs block shards)
    (lawful : library.Lawful)
    (some : failedMembers ofs.nodes block.stripeMembers ≠ [])
    (enough :
      ofs.dataStripes + ofs.parityStripes ≤
        ofs.nodes.countP Node.healthy) :
    ∃ node, ofs.nodes.find? Node.healthy = Option.some node := by
  have members : 0 < block.stripeMembers.length := by
    apply List.length_pos_iff.mpr
    intro empty
    rw [empty] at some
    exact some rfl
  have spare : 0 < ofs.nodes.countP Node.healthy := by
    rw [sound.length lawful] at members
    exact Nat.lt_of_lt_of_le members enough
  apply Option.isSome_iff_exists.mp
  rw [List.find?_isSome]
  exact List.countP_pos_iff.mp spare

/--
A block that is checked and healed without error is redundant exactly if
nothing had failed, or a single member that the first healthy node replaces
without having another one.
-/
theorem checkAndHealBlock_redundant_iff
    (lawful : library.Lawful) (indexed : Indexed ofs.nodes)
    (sound : SoundBlock library ofs block shards)
    (tolerated :
      (failedMembers ofs.nodes block.stripeMembers).length ≤
        ofs.parityStripes)
    (enough :
      ofs.dataStripes + ofs.parityStripes ≤
        ofs.nodes.countP Node.healthy)
    (returned :
      ofs.checkAndHealBlock library rpc block =
        (.ok (), healed, storage)) :
    Redundant ofs.nodes storage healed.stripeMembers shards ↔
      Replaceable ofs.nodes block.stripeMembers := by
  by_cases none : failedMembers ofs.nodes block.stripeMembers = []
  · rw [sound.checkAndHealBlock_of_nothing none] at returned
    cases returned
    exact iff_of_true (sound.redundant none) (Or.inl none)
  · rcases sound.exists_first lawful none enough with ⟨node, first⟩
    rw [sound.checkAndHealBlock_of_failed none tolerated] at returned
    have selected :
        ∀ number ∈
            (failedMembers ofs.nodes block.stripeMembers).map
              StripeMember.nodeId,
          selectReplacementNode ofs.nodes number = node.id := by
      intro number gone
      exact indexed.selectReplacementNode first (nodeFailed_of_mem gone).1
    rcases
      sound.healBlock lawful tolerated selected
        (indexed.first_not_failed first) returned with
      ⟨moved, stored⟩
    rw [moved] at stored ⊢
    exact sound.redundant_relocate_iff indexed first none stored

end Blocks

/-! ## Blocks that are written -/

section Written

variable
    {library : HealingLibrary}
    {rpc : NodeRPC}
    {ofs written : OneFS}
    {block : BlockDescriptor}
    {shards : List Bytes}
    {stripeNum : Nat}

theorem map_fst_placesFrom (stripeNum shardIdx : Nat) (nodes : List Nat) :
    (placesFrom stripeNum shardIdx nodes).map Prod.fst =
      nodes.map fun node : Nat => (node : ℤ) := by
  induction nodes generalizing shardIdx with
  | nil => rfl
  | cons node rest induction =>
      rw [placesFrom, List.map_cons, induction, List.map_cons]

/-- The parity shards are those whose numbers are no data shards. -/
theorem writeShards_isParityShard
    {dataStripes shardIdx : Nat} {placed : List (Bytes × Nat)}
    {storage : Storage}
    (clean :
      (writeShards rpc dataStripes stripeNum shardIdx placed
        storage).2.1 = []) :
    (writeShards rpc dataStripes stripeNum shardIdx placed
        storage).1.map StripeMember.isParityShard =
      (List.range' shardIdx placed.length).map fun shard =>
        decide (dataStripes ≤ shard) := by
  induction placed generalizing shardIdx storage with
  | nil => rfl
  | cons head rest induction =>
      rcases head with ⟨shard, nodeId⟩
      rw [writeShards] at clean ⊢
      cases failure : rpc.writeShardToNode nodeId
          (generateShardPath stripeNum shardIdx) shard with
      | some error =>
          simp only [failure] at clean
          cases clean
      | none =>
          simp only [failure] at clean
          rw [List.length_cons, List.range'_succ, List.map_cons,
            List.map_cons, ← induction clean]

theorem countP_parity (dataStripes parityStripes : Nat) :
    ((List.range' 0 (dataStripes + parityStripes)).countP fun shard =>
      decide (dataStripes ≤ shard)) = parityStripes := by
  rw [← List.range'_append_1, List.countP_append, Nat.zero_add,
    List.countP_eq_zero.mpr, List.countP_eq_length.mpr,
    List.length_range', Nat.zero_add]
  · intro shard listed
    rw [List.mem_range'_1] at listed
    simpa using listed.1
  · intro shard listed
    rw [List.mem_range'_1] at listed
    simpa using listed.2

/-- As many parity shards are written as there are parity stripes. -/
theorem countP_isParityShard_writeShards
    {dataStripes parityStripes : Nat} {placed : List (Bytes × Nat)}
    {storage : Storage}
    (clean :
      (writeShards rpc dataStripes stripeNum 0 placed storage).2.1 = [])
    (total : placed.length = dataStripes + parityStripes) :
    (writeShards rpc dataStripes stripeNum 0 placed storage).1.countP
        StripeMember.isParityShard =
      parityStripes := by
  calc (writeShards rpc dataStripes stripeNum 0 placed storage).1.countP
          StripeMember.isParityShard
      = ((writeShards rpc dataStripes stripeNum 0 placed storage).1.map
          StripeMember.isParityShard).countP id := by
        rw [List.countP_map]
        rfl
    _ = (List.range' 0 (dataStripes + parityStripes)).countP fun shard =>
          decide (dataStripes ≤ shard) := by
        rw [writeShards_isParityShard clean, total, List.countP_map]
        rfl
    _ = parityStripes := countP_parity _ _

/-- A block that is written to distinct nodes is sound. -/
theorem writeStripeToNodes_sound
    (lawful : library.Lawful) {split : List Bytes}
    (total : split.length = ofs.dataStripes + ofs.parityStripes)
    (encoded :
      library.encode ofs.dataStripes ofs.parityStripes split =
        .ok shards)
    {nodes : List Nat}
    (count : nodes.length = ofs.dataStripes + ofs.parityStripes)
    (valid : ∀ node ∈ nodes, node < ofs.nodes.length)
    (distinct : nodes.Nodup)
    (returned :
      ofs.writeStripeToNodes rpc shards nodes stripeNum =
        (.ok block, written)) :
    SoundBlock library written block shards := by
  have length := (lawful.keeps.encode_keeps _ _ _ _ total encoded).1
  rcases
    writeStripeToNodes_ok (length.trans count.symm) returned with
    ⟨same, placed, stored, _⟩
  have nodes_eq : written.nodes = ofs.nodes := by
    rw [same]
  have numbers :
      block.stripeMembers.map StripeMember.nodeId =
        nodes.map fun node : Nat => (node : ℤ) := by
    have firsts := congrArg (List.map Prod.fst) placed
    rw [List.map_map, map_fst_placesFrom] at firsts
    exact firsts
  rw [OneFS.writeStripeToNodes, if_neg (by omega)] at returned
  cases errors :
      (writeShards rpc ofs.dataStripes stripeNum 0 (shards.zip nodes)
        ofs.storage).2.1 with
  | cons error rest =>
      simp only [errors] at returned
      cases returned
  | nil =>
      simp only [errors] at returned
      have block_eq := Except.ok.inj (Prod.ext_iff.mp returned).1
      refine
        { encoded := ?_
          distinct := ?_
          valid := ?_
          paths := ?_
          stored := stored
          parity := ?_ }
      · rw [same]
        exact ⟨split, total, encoded⟩
      · rw [numbers]
        exact distinct.map fun _ _ equal => Int.ofNat_inj.mp equal
      · intro member listed
        have number :
            member.nodeId ∈ nodes.map fun node : Nat => (node : ℤ) := by
          rw [← numbers]
          exact List.mem_map.mpr ⟨member, listed, rfl⟩
        rcases List.mem_map.mp number with ⟨node, selected, cast⟩
        rw [← cast, nodeAt_natCast, nodes_eq]
        exact ⟨_, List.getElem?_eq_getElem (valid node selected)⟩
      · intro index member found
        have place :
            (placesFrom stripeNum 0 nodes)[index]? =
              some member.place := by
          rw [← placed, List.getElem?_map, found]
          rfl
        have path := getElem?_placesFrom place
        rw [Nat.zero_add] at path
        rw [← block_eq]
        exact path
      · rw [same, ← block_eq]
        simp only [List.length_map]
        have zipped : (shards.zip nodes).length =
            ofs.dataStripes + ofs.parityStripes := by
          rw [List.length_zip, length, count, Nat.min_self]
        rw [← List.countP_eq_length_filter]
        exact countP_isParityShard_writeShards errors zipped

end Written

/-! ## Four nodes -/

/-- The library for a single parity shard rebuilds its shards. -/
def singleParityHealing : HealingLibrary :=
  { singleParity with
    reconstruct := fun _ _ held => .ok (fillMissing held) }

theorem singleParityHealing_lawful : singleParityHealing.Lawful where
  keeps := singleParity_lawful
  rebuilds := by
    intro dataShards parityShards shards encoded held _ returned enough
    exact congrArg Except.ok (singleParity_fills returned enough)

/-- Four nodes, of which the last has failed. -/
def lastFailed : OneFS :=
  OneFS.new
    [{ id := 0 }, { id := 1 }, { id := 2 },
      { id := 3, healthy := false }] 2 1

/-- The block of two bytes and their parity on three nodes. -/
def blockOn (first second third : Nat) : BlockDescriptor where
  blockNumber := 0
  stripeMembers :=
    [⟨first, generateShardPath 0 0, 0, false⟩,
      ⟨second, generateShardPath 0 1, 1, false⟩,
      ⟨third, generateShardPath 0 2, 2, true⟩]
  dataShards := [(first : ℤ), second]
  parityShards := [(third : ℤ)]

/-- The four nodes, with the block written to three of them. -/
def writtenOn (first second third : Nat) : OneFS :=
  (lastFailed.writeStripeToNodes steadyNodes [[3], [2], [1]]
    [first, second, third] 0).2

theorem lastFailed_indexed : Indexed lastFailed.nodes := by
  intro position node found
  match position, found with
  | 0, found => cases found; rfl
  | 1, found => cases found; rfl
  | 2, found => cases found; rfl
  | 3, found => cases found; rfl

theorem writtenOn_sound
    {first second third : Nat}
    (valid : ∀ node ∈ [first, second, third], node < 4)
    (distinct : [first, second, third].Nodup) :
    SoundBlock singleParityHealing (writtenOn first second third)
      (blockOn first second third) [[3], [2], [1]] := by
  have encoded :
      singleParityHealing.encode 2 1 [[3], [2], [0]] =
        .ok [[3], [2], [1]] := by
    decide +kernel
  exact
    @writeStripeToNodes_sound singleParityHealing steadyNodes lastFailed
      (writtenOn first second third) (blockOn first second third)
      [[3], [2], [1]] 0 singleParityHealing_lawful [[3], [2], [0]] rfl
      encoded [first, second, third] rfl valid distinct rfl

theorem checkAndHealBlock_redundant_spare :
    Redundant (writtenOn 1 2 3).nodes
      ((writtenOn 1 2 3).checkAndHealBlock singleParityHealing steadyNodes
        (blockOn 1 2 3)).2.2
      (blockOn 1 2 0).stripeMembers [[3], [2], [1]] := by
  have sound :=
    @writtenOn_sound 1 2 3 (by decide) (by decide)
  have tolerated :
      (failedMembers (writtenOn 1 2 3).nodes
        (blockOn 1 2 3).stripeMembers).length ≤
          (writtenOn 1 2 3).parityStripes := by
    decide +kernel
  have enough :
      (writtenOn 1 2 3).dataStripes + (writtenOn 1 2 3).parityStripes ≤
        (writtenOn 1 2 3).nodes.countP Node.healthy := by
    decide +kernel
  have returned :
      (writtenOn 1 2 3).checkAndHealBlock singleParityHealing steadyNodes
          (blockOn 1 2 3) =
        (.ok (), { blockOn 1 2 0 with parityShards := [3] },
          ((writtenOn 1 2 3).checkAndHealBlock singleParityHealing
            steadyNodes (blockOn 1 2 3)).2.2) := by
    apply Prod.ext
    · decide +kernel
    · apply Prod.ext
      · decide +kernel
      · rfl
  have indexed : Indexed (writtenOn 1 2 3).nodes := lastFailed_indexed
  have redundant :=
    checkAndHealBlock_redundant_iff singleParityHealing_lawful indexed
      sound tolerated enough returned
  apply redundant.mpr
  right
  constructor
  · decide +kernel
  · intro node first
    cases first
    decide +kernel

/--
The four nodes heal the block of the first, the second and the last node
without error, and put two of its shards on the first.
-/
theorem healedBlock_doubled :
    SoundBlock singleParityHealing (writtenOn 0 1 3) (blockOn 0 1 3)
        [[3], [2], [1]] ∧
      (failedMembers (writtenOn 0 1 3).nodes
        (blockOn 0 1 3).stripeMembers).length = 1 ∧
      (writtenOn 0 1 3).nodes.countP Node.healthy = 3 ∧
      ((writtenOn 0 1 3).checkAndHealBlock singleParityHealing steadyNodes
        (blockOn 0 1 3)).1 = .ok () ∧
      ((writtenOn 0 1 3).checkAndHealBlock singleParityHealing steadyNodes
        (blockOn 0 1 3)).2.1.stripeMembers =
          (blockOn 0 1 0).stripeMembers ∧
      ¬ Redundant (writtenOn 0 1 3).nodes
        ((writtenOn 0 1 3).checkAndHealBlock singleParityHealing
          steadyNodes (blockOn 0 1 3)).2.2
        (blockOn 0 1 0).stripeMembers [[3], [2], [1]] := by
  refine
    ⟨@writtenOn_sound 0 1 3 (by decide) (by decide), by decide +kernel,
      by decide +kernel, by decide +kernel, by decide +kernel, ?_⟩
  intro redundant
  exact absurd redundant.distinct (by decide)

end StorageAppliance.PowerScale
