import StorageAppliance.Library.Run
import StorageAppliance.PowerScale.Stripes

/-!
# The places of the shards of different files

A shard is written to the node selected for its stripe number, under a path
made of its stripe number and its shard number.  Neither depends on the file.
The shards of one file are apart, but the first stripes of two files are in the
same places.

`writeFile_collisionFree_iff` says that a run of writes is free of collisions
exactly if no file with stripes is written while another one is live.
-/

namespace StorageAppliance.PowerScale

open StorageAppliance.Go
open StorageAppliance.Library

/-- A call of `WriteFile`, and the answers of the nodes. -/
structure WriteCall where
  path : String
  reader : Reader
  size : ℤ
  rpc : NodeRPC

/-- Execute a call of `WriteFile`. -/
def writeStep (library : ReedSolomon) (ofs : OneFS) (call : WriteCall) :
    OneFS :=
  (ofs.writeFile library call.rpc call.path call.reader call.size).2

/-- The call returns nil. -/
def Succeeds (library : ReedSolomon) (ofs : OneFS) (call : WriteCall) :
    Prop :=
  (ofs.writeFile library call.rpc call.path call.reader call.size).1 =
    .ok ()

instance (library : ReedSolomon) (ofs : OneFS) (call : WriteCall) :
    Decidable (Succeeds library ofs call) :=
  inferInstanceAs (Decidable (_ = _))

/-! ## Collisions -/

/-- A shard of the file that is live under a path. -/
def IsShard (ofs : OneFS) (path : String) (stripe shard : Nat)
    (member : StripeMember) : Prop :=
  ∃ layout block,
    ofs.directory.lookupFile path = .ok layout ∧
      layout.blocks[stripe]? = some block ∧
      block.stripeMembers[shard]? = some member

/-- Different shards of live files are in different places. -/
def CollisionFree (ofs : OneFS) : Prop :=
  ∀ path stripe shard member,
    IsShard ofs path stripe shard member →
      ∀ otherPath otherStripe otherShard other,
        IsShard ofs otherPath otherStripe otherShard other →
          member.place = other.place →
            path = otherPath ∧ stripe = otherStripe ∧ shard = otherShard

/-- The call leaves the shards of the files under other paths alone. -/
def Spares (library : ReedSolomon) (ofs : OneFS) (call : WriteCall) :
    Prop :=
  ∀ path ≠ call.path, ∀ stripe shard member,
    IsShard ofs path stripe shard member →
      (writeStep library ofs call).storage.get? member.place =
        ofs.storage.get? member.place

/--
The file to be written has no stripes, or no other path has a file with stripes
or the inode number that the file will get.
-/
def Unshared (ofs : OneFS) (call : WriteCall) : Prop :=
  (∀ protection ∈ ofs.selectStoragePool,
      ofs.numStripes protection call.size ≤ 0) ∨
    ∀ path ≠ call.path,
      ofs.directory.pathCache.get? path ≠ some ofs.directory.nextInode ∧
        ∀ layout,
          ofs.directory.lookupFile path = .ok layout →
            layout.blocks = []

/-- All files with stripes are live under the same path. -/
def OneStriped (ofs : OneFS) : Prop :=
  ∀ path layout otherPath otherLayout,
    ofs.directory.lookupFile path = .ok layout →
      ofs.directory.lookupFile otherPath = .ok otherLayout →
        layout.blocks ≠ [] → otherLayout.blocks ≠ [] → path = otherPath

/-! ## Lookups -/

section Lookups

variable
    {directory : DistributedNamespace}
    {path other : String}
    {layout found : FileLayout}

theorem lookupFile_ok_iff :
    directory.lookupFile path = .ok layout ↔
      ∃ inode,
        directory.pathCache.get? path = some inode ∧
          directory.inodeTable.get? inode = some layout := by
  rw [DistributedNamespace.lookupFile]
  cases directory.pathCache.get? path with
  | none => simp
  | some inode =>
      cases table : directory.inodeTable.get? inode with
      | none => simp [table]
      | some stored => simp [table]

theorem lookupFile_commitFile_self :
    (directory.commitFile path layout).lookupFile path = .ok layout := by
  rw [lookupFile_ok_iff]
  exact ⟨layout.inodeNumber, Dict.get?_set_self _ _ _,
    Dict.get?_set_self _ _ _⟩

/-- Another path has the committed file if it has its inode number. -/
theorem lookupFile_commitFile_reused
    (apart : other ≠ path)
    (cached :
      directory.pathCache.get? other = some layout.inodeNumber) :
    (directory.commitFile path layout).lookupFile other = .ok layout := by
  rw [lookupFile_ok_iff]
  exact ⟨layout.inodeNumber,
    (Dict.get?_set_ne _ _ apart).trans cached, Dict.get?_set_self _ _ _⟩

/-- Another path keeps its file otherwise. -/
theorem lookupFile_commitFile_ne
    (apart : other ≠ path)
    (fresh :
      directory.pathCache.get? other ≠ some layout.inodeNumber) :
    (directory.commitFile path layout).lookupFile other = .ok found ↔
      directory.lookupFile other = .ok found := by
  rw [lookupFile_ok_iff, lookupFile_ok_iff]
  apply exists_congr
  intro inode
  have cache :
      (directory.commitFile path layout).pathCache.get? other =
        directory.pathCache.get? other :=
    Dict.get?_set_ne _ _ apart
  rw [cache]
  apply and_congr_right
  intro cached
  have different : inode ≠ layout.inodeNumber := by
    intro same
    rw [same] at cached
    exact fresh cached
  rw [DistributedNamespace.commitFile, Dict.get?_set_ne _ _ different]

/-- A file without stripes does not add a file with stripes. -/
theorem lookupFile_of_striped
    (empty : layout.blocks = [])
    (after :
      (directory.commitFile path layout).lookupFile other = .ok found)
    (striped : found.blocks ≠ []) :
    directory.lookupFile other = .ok found := by
  have different : found ≠ layout := by
    intro same
    rw [same] at striped
    exact striped empty
  by_cases apart : other = path
  · rw [apart, lookupFile_commitFile_self] at after
    exact absurd (Except.ok.inj after).symm different
  · by_cases cached :
        directory.pathCache.get? other = some layout.inodeNumber
    · rw [lookupFile_commitFile_reused apart cached] at after
      exact absurd (Except.ok.inj after).symm different
    · exact (lookupFile_commitFile_ne apart cached).mp after

end Lookups

/-! ## Layouts -/

/-- The shards of a file are where its stripes are placed. -/
structure LaidOut (nodes : List Node) (total : Nat)
    (layout : FileLayout) : Prop where
  placed :
    ∀ stripe block,
      layout.blocks[stripe]? = some block →
        block.stripeMembers.map StripeMember.place =
          stripePlaces nodes stripe total
  positive : layout.blocks ≠ [] → 0 < total

/-- A cluster with a fixed protection, whose files are laid out. -/
structure Cluster (library : ReedSolomon) (nodes : List Node)
    (protection : ProtectionLevel) (ofs : OneFS) : Prop where
  nodes_eq : ofs.nodes = nodes
  pool : ofs.selectStoragePool = some protection
  faithful : ofs.Faithful library
  laidOut :
    ∀ inode layout,
      ofs.directory.inodeTable.get? inode = some layout →
        LaidOut nodes protection.totalShards layout

section Layouts

variable
    {library : ReedSolomon}
    {nodes : List Node}
    {protection : ProtectionLevel}
    {ofs after : OneFS}
    {stripeSize : Nat}
    {storage : Storage}

theorem StripesWritten.placed
    {stripeNum : Nat} {reader : Reader} {blocks : List BlockDescriptor}
    (written :
      StripesWritten library nodes protection stripeSize storage stripeNum
        reader blocks) :
    ∀ stripe block,
      blocks[stripe]? = some block →
        block.stripeMembers.map StripeMember.place =
          stripePlaces nodes (stripeNum + stripe)
            protection.totalShards := by
  induction written with
  | nil =>
      intro stripe block found
      cases found
  | cons supplied encoded placed stored rest induction =>
      intro stripe block found
      cases stripe with
      | zero =>
          cases found
          exact placed
      | succ stripe =>
          have later := induction stripe block found
          rw [later]
          congr 1
          omega

theorem StripesWritten.sharded
    {stripeNum : Nat} {reader : Reader} {blocks : List BlockDescriptor}
    (written :
      StripesWritten library nodes protection stripeSize storage stripeNum
        reader blocks)
    (striped : blocks ≠ []) :
    0 < protection.totalShards ∧ protection.totalShards ≤ 65536 := by
  cases written with
  | nil => exact absurd rfl striped
  | cons supplied encoded placed stored rest =>
      have data := encoded.positive
      refine ⟨?_, encoded.bounded⟩
      rw [ProtectionLevel.totalShards]
      omega

theorem Cluster.laidOut_lookup
    (cluster : Cluster library nodes protection ofs)
    {path : String} {layout : FileLayout}
    (found : ofs.directory.lookupFile path = .ok layout) :
    LaidOut nodes protection.totalShards layout := by
  rcases lookupFile_ok_iff.mp found with ⟨inode, _, stored⟩
  exact cluster.laidOut inode layout stored

/-- Writing a file keeps the files laid out. -/
theorem Cluster.writeStep
    (lawful : library.Lawful)
    (cluster : Cluster library nodes protection ofs) (call : WriteCall) :
    Cluster library nodes protection (writeStep library ofs call) := by
  by_cases succeeds : Succeeds library ofs call
  · have returned :
        ofs.writeFile library call.rpc call.path call.reader call.size =
          (.ok (), PowerScale.writeStep library ofs call) :=
      Prod.ext succeeds rfl
    rcases writeFile_ok lawful cluster.faithful returned with
      ⟨used, stripeSize, blocks, written⟩
    have same : used = protection :=
      Option.some.inj (written.pool.symm.trans cluster.pool)
    subst same
    rw [written.after_eq]
    refine ⟨cluster.nodes_eq, cluster.pool, cluster.faithful, ?_⟩
    intro inode layout stored
    have table :
        (ofs.directory.inodeTable.set ofs.directory.nextInode
            { inodeNumber := ofs.directory.nextInode
              fileSize := call.size
              protection := used
              blocks := blocks }).get? inode = some layout :=
      stored
    rw [Dict.get?_set] at table
    split at table
    · cases table
      constructor
      · intro stripe block found
        have placed := written.stripes.placed stripe block found
        rw [Nat.zero_add, cluster.nodes_eq] at placed
        exact placed
      · exact fun striped => (written.stripes.sharded striped).1
    · exact cluster.laidOut inode layout table
  · rw [PowerScale.writeStep, writeFile_failed succeeds]
    exact ⟨cluster.nodes_eq, cluster.pool, cluster.faithful,
      cluster.laidOut⟩

/-- The place of a shard, as its stripe is placed. -/
theorem IsShard.place
    (cluster : Cluster library nodes protection ofs)
    {path : String} {stripe shard : Nat} {member : StripeMember}
    (listed : IsShard ofs path stripe shard member) :
    (stripePlaces nodes stripe protection.totalShards)[shard]? =
      some member.place := by
  rcases listed with ⟨layout, block, found, striped, sharded⟩
  rw [← (cluster.laidOut_lookup found).placed stripe block striped,
    List.getElem?_map, sharded]
  rfl

/-- Shards of a file with stripes are where those of any other are. -/
theorem exists_first_shard
    (cluster : Cluster library nodes protection ofs)
    {path : String} {layout : FileLayout}
    (found : ofs.directory.lookupFile path = .ok layout)
    (striped : layout.blocks ≠ []) :
    ∃ member, IsShard ofs path 0 0 member := by
  rcases List.exists_cons_of_ne_nil striped with ⟨block, rest, blocks⟩
  have first : layout.blocks[0]? = some block := by
    rw [blocks]
    rfl
  have laidOut := cluster.laidOut_lookup found
  have lengths := congrArg List.length (laidOut.placed 0 block first)
  rw [List.length_map, stripePlaces, length_placesFrom,
    length_selectFrom] at lengths
  have positive := laidOut.positive striped
  exact ⟨_, layout, block, found, first,
    List.getElem?_eq_getElem (by omega)⟩

/-- Shards collide exactly if two files have stripes. -/
theorem collisionFree_iff_oneStriped
    (cluster : Cluster library nodes protection ofs) :
    CollisionFree ofs ↔ OneStriped ofs := by
  constructor
  · intro free path layout otherPath otherLayout found otherFound striped
      otherStriped
    rcases exists_first_shard cluster found striped with
      ⟨member, listed⟩
    rcases exists_first_shard cluster otherFound otherStriped with
      ⟨other, otherListed⟩
    have same : member.place = other.place :=
      Option.some.inj
        ((listed.place cluster).symm.trans (otherListed.place cluster))
    exact (free _ _ _ _ listed _ _ _ _ otherListed same).1
  · intro one path stripe shard member listed otherPath otherStripe
      otherShard other otherListed same
    have first := getElem?_placesFrom (listed.place cluster)
    have second := getElem?_placesFrom (otherListed.place cluster)
    have numbers :=
      generateShardPath_inj
        (first.symm.trans ((congrArg Prod.snd same).trans second))
    rw [Nat.zero_add, Nat.zero_add] at numbers
    rcases listed with ⟨layout, block, found, striped, _⟩
    rcases otherListed with
      ⟨otherLayout, otherBlock, otherFound, otherStriped, _⟩
    have paths :=
      one path layout otherPath otherLayout found otherFound
        (List.ne_nil_of_mem (List.mem_of_getElem? striped))
        (List.ne_nil_of_mem (List.mem_of_getElem? otherStriped))
    exact ⟨paths, numbers⟩

/-! ## Writing a file -/

theorem oneStriped_writeStep_of_failed
    {call : WriteCall} (failed : ¬ Succeeds library ofs call) :
    OneStriped (PowerScale.writeStep library ofs call) ↔
      OneStriped ofs := by
  rw [PowerScale.writeStep, writeFile_failed failed]
  exact Iff.rfl

/-- A file that is written leaves one striped file exactly if it is unshared. -/
theorem oneStriped_writeStep_iff
    (lawful : library.Lawful)
    (cluster : Cluster library nodes protection ofs) {call : WriteCall}
    (succeeds : Succeeds library ofs call) (one : OneStriped ofs) :
    OneStriped (PowerScale.writeStep library ofs call) ↔
      Unshared ofs call := by
  have returned :
      ofs.writeFile library call.rpc call.path call.reader call.size =
        (.ok (), PowerScale.writeStep library ofs call) :=
    Prod.ext succeeds rfl
  rcases writeFile_ok lawful cluster.faithful returned with
    ⟨used, stripeSize, blocks, written⟩
  have directory :
      (PowerScale.writeStep library ofs call).directory =
        ofs.directory.allocateInode.2.commitFile call.path
          { inodeNumber := ofs.directory.nextInode
            fileSize := call.size
            protection := used
            blocks := blocks } := by
    rw [written.after_eq]
  rw [OneStriped, directory]
  constructor
  · intro oneAfter
    by_cases striped : blocks = []
    · left
      intro other pool
      cases written.pool.symm.trans pool
      rw [written.numStripes_eq, striped]
      exact Int.le_refl _
    · right
      intro path apart
      have fresh :
          ofs.directory.pathCache.get? path ≠
            some ofs.directory.nextInode := by
        intro cached
        exact apart
          (oneAfter path _ call.path _
            (lookupFile_commitFile_reused apart cached)
            lookupFile_commitFile_self striped striped)
      refine ⟨fresh, ?_⟩
      intro layout found
      by_contra otherStriped
      exact apart
        (oneAfter path layout call.path _
          ((lookupFile_commitFile_ne apart fresh).mpr found)
          lookupFile_commitFile_self otherStriped striped)
  · rintro (few | alone)
    · have empty : blocks = [] := by
        have none := few used written.pool
        rw [written.numStripes_eq] at none
        exact List.length_eq_zero_iff.mp (by omega)
      intro path layout otherPath otherLayout found otherFound striped
        otherStriped
      rw [empty] at found otherFound
      exact one path layout otherPath otherLayout
        (lookupFile_of_striped rfl found striped)
        (lookupFile_of_striped rfl otherFound otherStriped) striped
        otherStriped
    · have only :
          ∀ path layout,
            (ofs.directory.allocateInode.2.commitFile call.path
                { inodeNumber := ofs.directory.nextInode
                  fileSize := call.size
                  protection := used
                  blocks := blocks }).lookupFile path = .ok layout →
              layout.blocks ≠ [] → path = call.path := by
        intro path layout found striped
        by_contra apart
        have before :=
          (lookupFile_commitFile_ne apart (alone path apart).1).mp found
        exact striped ((alone path apart).2 layout before)
      intro path layout otherPath otherLayout found otherFound striped
        otherStriped
      exact (only path layout found striped).trans
        (only otherPath otherLayout otherFound otherStriped).symm

/-- A run step that is unshared spares the other files. -/
theorem Unshared.spares
    {call : WriteCall} (unshared : Unshared ofs call) :
    Spares library ofs call := by
  intro path apart stripe shard member listed
  rcases unshared with few | alone
  · rw [PowerScale.writeStep, writeFile_noStripes few]
  · rcases listed with ⟨layout, block, found, striped, _⟩
    rw [(alone path apart).2 layout found] at striped
    cases striped

theorem collisionFree_writeStep_iff
    (lawful : library.Lawful)
    (cluster : Cluster library nodes protection ofs) (call : WriteCall)
    (free : CollisionFree ofs) :
    CollisionFree (PowerScale.writeStep library ofs call) ↔
      (Succeeds library ofs call → Unshared ofs call) := by
  have after := cluster.writeStep lawful call
  rw [collisionFree_iff_oneStriped after]
  rw [collisionFree_iff_oneStriped cluster] at free
  by_cases succeeds : Succeeds library ofs call
  · rw [oneStriped_writeStep_iff lawful cluster succeeds free]
    exact ⟨fun unshared _ => unshared, fun unshared => unshared succeeds⟩
  · rw [oneStriped_writeStep_of_failed succeeds]
    exact ⟨fun _ returned => absurd returned succeeds, fun _ => free⟩

end Layouts

/-! ## Runs -/

/-- A new file system with an encoder. -/
def newCluster (nodes : List Node) (protection : ProtectionLevel)
    (encoder : Option DPUEncoder) : OneFS :=
  { OneFS.new nodes protection.dataStripes protection.parityStripes with
    dpuEncoder := encoder }

section Runs

variable
    {library : ReedSolomon}

theorem newCluster_cluster
    (nodes : List Node) (protection : ProtectionLevel)
    {encoder : Option DPUEncoder}
    (faithful :
      ∀ installed ∈ encoder, DPUEncoder.Faithful library installed) :
    Cluster library nodes protection
      (newCluster nodes protection encoder) where
  nodes_eq := rfl
  pool := by
    rw [OneFS.selectStoragePool, newCluster, OneFS.new,
      Dict.get?_set_self]
  faithful := faithful
  laidOut := by
    intro inode layout stored
    cases stored

theorem newCluster_collisionFree
    (nodes : List Node) (protection : ProtectionLevel)
    (encoder : Option DPUEncoder) :
    CollisionFree (newCluster nodes protection encoder) := by
  intro path stripe shard member listed
  rcases listed with ⟨layout, block, found, _⟩
  cases found

/--
In every run of writes the shards of live files are apart in every state exactly
if each file that is written is unshared, and as long as each call is unshared
no call touches a shard of a file under another path.
-/
theorem writeFile_collisionFree_iff
    (lawful : library.Lawful) (nodes : List Node)
    (protection : ProtectionLevel) {encoder : Option DPUEncoder}
    (faithful :
      ∀ installed ∈ encoder, DPUEncoder.Faithful library installed)
    (calls : List WriteCall) :
    (AllSteps (writeStep library)
          (fun ofs call => CollisionFree (writeStep library ofs call))
          (newCluster nodes protection encoder) calls ↔
        AllSteps (writeStep library)
          (fun ofs call => Succeeds library ofs call → Unshared ofs call)
          (newCluster nodes protection encoder) calls) ∧
      (AllSteps (writeStep library) Unshared
          (newCluster nodes protection encoder) calls →
        AllSteps (writeStep library) (Spares library)
          (newCluster nodes protection encoder) calls) := by
  constructor
  · apply
      @allSteps_property_iff _ _ _ _ (Cluster library nodes protection)
        CollisionFree
    · exact fun ofs call cluster _ => cluster.writeStep lawful call
    · exact fun ofs call cluster free =>
        collisionFree_writeStep_iff lawful cluster call free
    · exact newCluster_cluster nodes protection faithful
    · exact newCluster_collisionFree nodes protection encoder
  · intro unshared
    exact unshared.mono fun ofs call meets => meets.spares

end Runs

/-- Nodes whose remote calls do not fail. -/
def steadyNodes : NodeRPC where
  writeShardToNode _ _ _ := none
  readShardFromNode _ _ := none

/-- Write a file of one byte. -/
def writeByte (path : String) : WriteCall where
  path := path
  reader := { bytes := [0] }
  size := 1
  rpc := steadyNodes

/-- A cluster of one node, for two data shards and one parity shard. -/
def oneNode : OneFS :=
  newCluster [{ id := 0 }] ⟨2, 1⟩ none

/-- Only the listed paths decide whether a call is unshared. -/
theorem unshared_iff_items {ofs : OneFS} {call : WriteCall} :
    Unshared ofs call ↔
      (∀ protection ∈ ofs.selectStoragePool,
          ofs.numStripes protection call.size ≤ 0) ∨
        ∀ item ∈ ofs.directory.pathCache.items,
          item.1 ≠ call.path →
            item.2 ≠ ofs.directory.nextInode ∧
              ∀ layout ∈ ofs.directory.inodeTable.get? item.2,
                layout.blocks = [] := by
  apply or_congr_right
  constructor
  · rintro alone ⟨path, inode⟩ listed apart
    have cached := Dict.get?_eq_some_iff.mpr listed
    rcases alone path apart with ⟨fresh, empty⟩
    refine ⟨fun same => fresh (cached.trans (congrArg some same)), ?_⟩
    intro layout stored
    exact empty layout (lookupFile_ok_iff.mpr ⟨inode, cached, stored⟩)
  · intro alone path apart
    constructor
    · intro cached
      have listed := Dict.get?_eq_some_iff.mp cached
      exact (alone _ listed apart).1 rfl
    · intro layout found
      rcases lookupFile_ok_iff.mp found with ⟨inode, cached, stored⟩
      have listed := Dict.get?_eq_some_iff.mp cached
      exact (alone _ listed apart).2 layout stored

instance (ofs : OneFS) (call : WriteCall) :
    Decidable (Unshared ofs call) :=
  decidable_of_iff _ unshared_iff_items.symm

/-- An empty file, a file and the same file again. -/
def rewrites : List WriteCall :=
  [{ path := "/empty", reader := { bytes := [] }, size := 0
     rpc := steadyNodes },
    writeByte "/a", writeByte "/a"]

theorem writeFile_collisionFree_rewrites :
    AllSteps (writeStep xorParity) (Succeeds xorParity) oneNode rewrites ∧
      AllSteps (writeStep xorParity)
        (fun ofs call => CollisionFree (writeStep xorParity ofs call))
        oneNode rewrites ∧
      AllSteps (writeStep xorParity) (Spares xorParity) oneNode
        rewrites := by
  have faithful :
      ∀ installed ∈ (none : Option DPUEncoder),
        DPUEncoder.Faithful xorParity installed := by
    intro installed member
    cases member
  have unshared :
      AllSteps (writeStep xorParity) Unshared oneNode rewrites := by
    decide +kernel
  have apart :=
    writeFile_collisionFree_iff xorParity_lawful [{ id := 0 }] ⟨2, 1⟩
      faithful rewrites
  exact
    ⟨by decide +kernel,
      apart.1.mpr (unshared.mono fun _ _ meets _ => meets),
      apart.2 unshared⟩

/-- The stripe of a file of one byte on one node. -/
def byteStripe : BlockDescriptor where
  blockNumber := 0
  stripeMembers :=
    [⟨0, "/ifs/.ifsvar/stripe-0/shard-0", 0, false⟩,
      ⟨0, "/ifs/.ifsvar/stripe-0/shard-1", 1, false⟩,
      ⟨0, "/ifs/.ifsvar/stripe-0/shard-2", 2, true⟩]
  dataShards := [0, 0]
  parityShards := [0]

theorem twoFiles_collide :
    ¬ CollisionFree
      (run (writeStep xorParity) oneNode
        [writeByte "/a", writeByte "/b"]) := by
  intro free
  have files :
      (run (writeStep xorParity) oneNode
            [writeByte "/a", writeByte "/b"]).directory.lookupFile "/a" =
          .ok ⟨1, 1, ⟨2, 1⟩, [byteStripe]⟩ ∧
        (run (writeStep xorParity) oneNode
            [writeByte "/a", writeByte "/b"]).directory.lookupFile "/b" =
          .ok ⟨2, 1, ⟨2, 1⟩, [byteStripe]⟩ := by
    decide +kernel
  have same :=
    free "/a" 0 0 _ ⟨_, byteStripe, files.1, rfl, rfl⟩ "/b" 0 0 _
      ⟨_, byteStripe, files.2, rfl, rfl⟩ rfl
  exact absurd same.1 (by decide)

end StorageAppliance.PowerScale
