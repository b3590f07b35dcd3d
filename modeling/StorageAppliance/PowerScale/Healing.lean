import StorageAppliance.PowerScale.SingleParity

/-!
# Healing of files

Every ten seconds the blocks of all files are checked (`checkAndHealFiles`).  A
block with failed nodes, but no more of them than it has parity shards, is
healed: its missing shards are rebuilt from the others and written to
replacement nodes.

The number in a stripe member is used as an index into the nodes when a block is
checked (`checkBlockHealth`).  A replacement is the first healthy node that does
not have the number of the failed one as its ID, and its ID becomes the number
(`selectReplacementNode`).

The order in which a walk through the namespace visits the paths is not
specified, so it is an argument.
-/

namespace StorageAppliance.PowerScale

open StorageAppliance.Go
open StorageAppliance.Library

/-- The erasure coding library with the method that rebuilds all shards. -/
structure HealingLibrary extends ReedSolomon where
  reconstruct : Nat → Nat → List Bytes → Except GoError (List Bytes)

/-- All shards are rebuilt from as many as there are data shards. -/
structure HealingLibrary.Lawful (library : HealingLibrary) : Prop where
  keeps : library.toReedSolomon.Lawful
  rebuilds :
    ∀ dataShards parityShards shards encoded held,
      shards.length = dataShards + parityShards →
        library.encode dataShards parityShards shards = .ok encoded →
          Held dataShards encoded held →
            library.reconstruct dataShards parityShards held =
              .ok encoded

/-- The node at an index that may be out of range. -/
def nodeAt (nodes : List Node) (index : ℤ) : Option Node :=
  if 0 ≤ index then nodes[index.toNat]? else none

/-- The numbers of the members whose nodes are not healthy. -/
def failedNodes (nodes : List Node) :
    List StripeMember → Except Fault (List ℤ)
  | [] => .ok []
  | member :: rest =>
      match nodeAt nodes member.nodeId with
      | none => .error (.panic "index out of range")
      | some node =>
          match failedNodes nodes rest with
          | .error fault => .error fault
          | .ok failed =>
              .ok (if node.healthy then failed else member.nodeId :: failed)

/-- The node at an index is not healthy. -/
def nodeFailed (nodes : List Node) (index : ℤ) : Bool :=
  match nodeAt nodes index with
  | some node => !node.healthy
  | none => false

/-- The members whose nodes are not healthy. -/
def failedMembers (nodes : List Node) (members : List StripeMember) :
    List StripeMember :=
  members.filter fun member => nodeFailed nodes member.nodeId

/-- Check whether a block needs healing, and which numbers have failed. -/
def checkBlockHealth (nodes : List Node) (block : BlockDescriptor) :
    Except Fault (Bool × List ℤ) :=
  match failedNodes nodes block.stripeMembers with
  | .error fault => .error fault
  | .ok failed =>
      .ok
        (0 < failed.length && failed.length ≤ block.parityShards.length,
          failed)

/-- Select a replacement for a failed node. -/
def selectReplacementNode (nodes : List Node) (failedNodeId : ℤ) : ℤ :=
  ((nodes.find? fun node =>
    node.id ≠ failedNodeId && node.healthy).map Node.id).getD 0

/-- Read the shards that have not failed. -/
def readAvailable (rpc : NodeRPC) (storage : Storage) (failed : List ℤ) :
    List StripeMember → Except GoError (List Bytes)
  | [] => .ok []
  | member :: rest =>
      if member.nodeId ∈ failed then
        match readAvailable rpc storage failed rest with
        | .error error => .error error
        | .ok shards => .ok ([] :: shards)
      else
        match rpc.readShardFromNode member.nodeId member.localPath with
        | some error => .error error
        | none =>
            match readAvailable rpc storage failed rest with
            | .error error => .error error
            | .ok shards =>
                .ok
                  ((storage.get? (member.nodeId, member.localPath)).getD
                    [] :: shards)

/-- Write the shards of a failed node to its replacement, from a shard on. -/
def replaceMembers (rpc : NodeRPC) (nodes : List Node)
    (blockNumber : Nat) (shards : List Bytes) (failedNodeId : ℤ) :
    Nat → List StripeMember → Storage →
      Option GoError × List StripeMember × Storage
  | _, [], storage => (none, [], storage)
  | index, member :: rest, storage =>
      if member.nodeId = failedNodeId then
        let newNodeId := selectReplacementNode nodes failedNodeId
        let localPath := generateShardPath blockNumber index
        let shard := (shards[index]?).getD []
        match rpc.writeShardToNode newNodeId localPath shard with
        | some error => (some error, member :: rest, storage)
        | none =>
            let (failure, members, written) :=
              replaceMembers rpc nodes blockNumber shards failedNodeId
                (index + 1) rest (storage.set (newNodeId, localPath) shard)
            (failure,
              { member with
                nodeId := newNodeId
                localPath := localPath } :: members,
              written)
      else
        let (failure, members, written) :=
          replaceMembers rpc nodes blockNumber shards failedNodeId
            (index + 1) rest storage
        (failure, member :: members, written)

/-- Write the shards of the failed nodes to their replacements. -/
def replaceFailed (rpc : NodeRPC) (nodes : List Node) (blockNumber : Nat)
    (shards : List Bytes) :
    List ℤ → List StripeMember → Storage →
      Option GoError × List StripeMember × Storage
  | [], members, storage => (none, members, storage)
  | failedNodeId :: rest, members, storage =>
      match
        replaceMembers rpc nodes blockNumber shards failedNodeId 0 members
          storage with
      | (some error, replaced, written) => (some error, replaced, written)
      | (none, replaced, written) =>
          replaceFailed rpc nodes blockNumber shards rest replaced written

namespace OneFS

/-- Heal a block: how it ends, the block and the shards on the nodes. -/
def healBlock (library : HealingLibrary) (rpc : NodeRPC) (self : OneFS)
    (block : BlockDescriptor) (failed : List ℤ) :
    Except Fault Unit × BlockDescriptor × Storage :=
  match readAvailable rpc self.storage failed block.stripeMembers with
  | .error error => (.error (.error error), block, self.storage)
  | .ok shards =>
      match library.new self.dataStripes self.parityStripes with
      | some _ =>
          (.error (.panic "invalid memory address or nil pointer dereference"),
            block, self.storage)
      | none =>
          match
            library.reconstruct self.dataStripes self.parityStripes
              shards with
          | .error error => (.error (.error error), block, self.storage)
          | .ok rebuilt =>
              let (failure, members, storage) :=
                replaceFailed rpc self.nodes block.blockNumber rebuilt
                  failed block.stripeMembers self.storage
              (match failure with
                | some error => .error (.error error)
                | none => .ok (),
                { block with stripeMembers := members },
                storage)

/-- Check a block, and heal it if it needs it. -/
def checkAndHealBlock (library : HealingLibrary) (rpc : NodeRPC)
    (self : OneFS) (block : BlockDescriptor) :
    Except Fault Unit × BlockDescriptor × Storage :=
  match checkBlockHealth self.nodes block with
  | .error fault => (.error fault, block, self.storage)
  | .ok (false, _) => (.ok (), block, self.storage)
  | .ok (true, failed) => self.healBlock library rpc block failed

/-- Check and heal a block of a file.  Errors are printed, not returned. -/
def checkAndHealBlockOf (library : HealingLibrary) (rpc : NodeRPC)
    (self : OneFS) (inode index : Nat) : Except Fault Unit × OneFS :=
  match self.directory.inodeTable.get? inode with
  | none => (.ok (), self)
  | some layout =>
      match layout.blocks[index]? with
      | none => (.ok (), self)
      | some block =>
          match self.checkAndHealBlock library rpc block with
          | (result, healed, storage) =>
              (match result with
                | .error (.panic message) => .error (.panic message)
                | _ => .ok (),
                { self with
                  storage := storage
                  directory :=
                    { self.directory with
                      inodeTable :=
                        self.directory.inodeTable.set inode
                          { layout with
                            blocks := layout.blocks.set index healed } } })

/-- Check and heal blocks of files, as long as nothing panics. -/
def healBlocks (library : HealingLibrary) (rpc : NodeRPC) :
    List (Nat × Nat) → OneFS → Except Fault Unit × OneFS
  | [], self => (.ok (), self)
  | (inode, index) :: rest, self =>
      match self.checkAndHealBlockOf library rpc inode index with
      | (.error fault, healed) => (.error fault, healed)
      | (.ok _, healed) => healBlocks library rpc rest healed

/-- The blocks of the file under a path. -/
def blocksOf (self : OneFS) (path : String) : List (Nat × Nat) :=
  match self.directory.pathCache.get? path with
  | none => []
  | some inode =>
      match self.directory.inodeTable.get? inode with
      | none => []
      | some layout =>
          (List.range layout.blocks.length).map fun index => (inode, index)

/-- Check and heal all files, in the order in which they are visited. -/
def checkAndHealFiles (library : HealingLibrary) (rpc : NodeRPC) :
    List String → OneFS → Except Fault Unit × OneFS
  | [], self => (.ok (), self)
  | path :: rest, self =>
      match healBlocks library rpc (self.blocksOf path) self with
      | (.error fault, healed) => (.error fault, healed)
      | (.ok _, healed) => checkAndHealFiles library rpc rest healed

end OneFS

/-! ## Replacing members -/

section Replacing

variable
    {nodes : List Node}
    {members : List StripeMember}

theorem nodeAt_natCast (nodes : List Node) (position : Nat) :
    nodeAt nodes position = nodes[position]? := by
  rw [nodeAt, if_pos (Int.natCast_nonneg position), Int.toNat_natCast]

/-- The numbers that have failed are those of the members that have. -/
theorem failedNodes_eq
    (valid :
      ∀ member ∈ members, ∃ node,
        nodeAt nodes member.nodeId = some node) :
    failedNodes nodes members =
      .ok ((failedMembers nodes members).map StripeMember.nodeId) := by
  induction members with
  | nil => rfl
  | cons member rest induction =>
      rcases valid member List.mem_cons_self with ⟨node, found⟩
      have later :=
        induction fun other member =>
          valid other (List.mem_cons_of_mem _ member)
      have flag : nodeFailed nodes member.nodeId = !node.healthy := by
        rw [nodeFailed, found]
      simp only [failedNodes, found, later, failedMembers,
        List.filter_cons, flag]
      cases node.healthy with
      | true => rfl
      | false => rfl

end Replacing

end StorageAppliance.PowerScale
