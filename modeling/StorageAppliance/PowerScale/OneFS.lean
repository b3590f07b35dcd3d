import StorageAppliance.Library.Dict
import StorageAppliance.PowerScale.Placement

/-!
# Files in stripes

A file is written in stripes, each split into data shards, extended by parity
shards and placed on nodes (`OneFS.WriteFile`), and read back stripe by stripe
(`OneFS.ReadFile`).

The Reed-Solomon library is not in the repository.  It is a `ReedSolomon`, and
`ReedSolomon.Lawful` names what its documentation promises.  The remote calls to
the nodes are stubs, so their results are the fields of a `NodeRPC`: a write
that does not fail stores the shard under its node and path, and a read that
does not fail returns what is stored there.

The shards of a stripe are written and read in parallel.  They have paths of
their own, so the order does not matter, and the model takes them in the order
of their numbers.  Checksums are left out, because no function reads them.
-/

namespace StorageAppliance.PowerScale

open StorageAppliance.Go
open StorageAppliance.Library

/-! ## What is not in the repository -/

/-- The erasure coding library: the error of `New`, and the methods. -/
structure ReedSolomon where
  new : Nat → Nat → Option GoError
  encode : Nat → Nat → List Bytes → Except GoError (List Bytes)
  reconstructData : Nat → Nat → List Bytes → Except GoError (List Bytes)

/-- Enough of the shards are held, and those that are missing are empty. -/
def Held (dataShards : Nat) (shards held : List Bytes) : Prop :=
  List.Forall₂ (fun shard piece => piece = shard ∨ piece = []) shards
      held ∧
    dataShards ≤ held.countP fun piece => piece ≠ []

/--
What the library promises: it takes at most 65536 shards, encoding keeps the
data shards and refuses empty ones, and the data shards are reconstructed from
any shards of which there are as many.
-/
structure ReedSolomon.Lawful (library : ReedSolomon) : Prop where
  new_bounded :
    ∀ dataShards parityShards,
      library.new dataShards parityShards = none →
        0 < dataShards ∧ dataShards + parityShards ≤ 65536
  encode_keeps :
    ∀ dataShards parityShards shards encoded,
      shards.length = dataShards + parityShards →
        library.encode dataShards parityShards shards = .ok encoded →
          encoded.length = dataShards + parityShards ∧
            encoded.take dataShards = shards.take dataShards ∧
            ∀ shard ∈ encoded, shard ≠ []
  reconstructs :
    ∀ dataShards parityShards shards encoded held,
      shards.length = dataShards + parityShards →
        library.encode dataShards parityShards shards = .ok encoded →
          Held dataShards encoded held →
            ∃ reconstructed,
              library.reconstructData dataShards parityShards held =
                  .ok reconstructed ∧
                reconstructed.take dataShards = encoded.take dataShards

/-- The errors of the remote calls to a node. -/
structure NodeRPC where
  writeShardToNode : ℤ → String → Bytes → Option GoError
  readShardFromNode : ℤ → String → Option GoError

/-- The shards stored on the nodes, under node and path. -/
abbrev Storage :=
  Dict (ℤ × String) Bytes

/-! ## Files -/

/-- A shard of a stripe: its node, its path and its number. -/
structure StripeMember where
  nodeId : ℤ
  localPath : String
  shardIndex : Nat
  isParityShard : Bool
deriving DecidableEq

/-- A stripe of a file. -/
structure BlockDescriptor where
  blockNumber : Nat
  stripeMembers : List StripeMember
  dataShards : List ℤ
  parityShards : List ℤ
deriving DecidableEq

/-- The bytes of a `BlockDescriptor`: an integer, four slices and a string. -/
def blockDescriptorSize : Nat :=
  8 + 4 * 24 + 16

/-- How a file is distributed. -/
structure FileLayout where
  inodeNumber : Nat
  fileSize : ℤ
  protection : ProtectionLevel
  blocks : List BlockDescriptor
deriving DecidableEq

/-- The inodes of the paths and their layouts. -/
structure DistributedNamespace where
  inodeTable : Dict Nat FileLayout := Dict.empty
  pathCache : Dict String Nat := Dict.empty
  nextInode : Nat := 1
deriving DecidableEq

/-- An encoder that takes the place of the library. -/
abbrev DPUEncoder :=
  Bytes → ProtectionLevel → Except Fault (List Bytes)

/-- The file system and the shards on its nodes. -/
structure OneFS where
  nodes : List Node
  dataStripes : Nat
  parityStripes : Nat
  stripeWidth : ℤ
  storagePools : Dict String ProtectionLevel
  directory : DistributedNamespace := {}
  dpuEncoder : Option DPUEncoder := none
  storage : Storage := Dict.empty

namespace DistributedNamespace

/-- Allocate a new inode number. -/
def allocateInode (self : DistributedNamespace) :
    Nat × DistributedNamespace :=
  (self.nextInode,
    { self with nextInode := (self.nextInode + 1) % 2 ^ 64 })

/-- Commit a file layout. -/
def commitFile (self : DistributedNamespace) (path : String)
    (layout : FileLayout) : DistributedNamespace :=
  { self with
    inodeTable := self.inodeTable.set layout.inodeNumber layout
    pathCache := self.pathCache.set path layout.inodeNumber }

/-- Look up a file by path. -/
def lookupFile (self : DistributedNamespace) (path : String) :
    Except Fault FileLayout :=
  match self.pathCache.get? path with
  | some inode =>
      match self.inodeTable.get? inode with
      | some layout => .ok layout
      | none => .error (errorf ("file not found: " ++ path))
  | none => .error (errorf ("file not found: " ++ path))

end DistributedNamespace

/-- The local path of a shard. -/
def generateShardPath (stripeNum shardIdx : Nat) : String :=
  "/ifs/.ifsvar/stripe-" ++ decimal stripeNum ++ "/shard-" ++
    decimal shardIdx

/-! ## Encoding -/

/-- The size of the shards of some data. -/
def shardSize (dataStripes length : Nat) : Nat :=
  (length + dataStripes - 1) / dataStripes

/-- A data shard, padded with zeros. -/
def dataShard (data : Bytes) (size index : Nat) : Except Fault Bytes :=
  let start := index * size
  let stop := min (start + size) data.length
  if stop < start then
    .error (.panic "slice bounds out of range")
  else
    .ok (copy (zeros size) ((data.take stop).drop start))

/-- A number of data shards, from an index on. -/
def dataShardsFrom (data : Bytes) (size : Nat) :
    Nat → Nat → Except Fault (List Bytes)
  | 0, _ => .ok []
  | count + 1, index =>
      match dataShard data size index with
      | .error fault => .error fault
      | .ok shard =>
          match dataShardsFrom data size count (index + 1) with
          | .error fault => .error fault
          | .ok rest => .ok (shard :: rest)

/-- Split data into shards and encode them. -/
def encodeShards (library : ReedSolomon) (data : Bytes)
    (protection : ProtectionLevel) : Except Fault (List Bytes) :=
  match library.new protection.dataStripes protection.parityStripes with
  | some error => .error (.error error)
  | none =>
      if protection.dataStripes = 0 then
        .error (.panic "integer divide by zero")
      else
        let size := shardSize protection.dataStripes data.length
        match dataShardsFrom data size protection.dataStripes 0 with
        | .error fault => .error fault
        | .ok shards =>
            let parity :=
              List.replicate protection.parityStripes (zeros size)
            match
              library.encode protection.dataStripes
                protection.parityStripes (shards ++ parity) with
            | .error error => .error (.error error)
            | .ok encoded => .ok encoded

/-- Encode with the local emulation of a DPU. -/
def LocalDPUEncoder.encode (library : ReedSolomon) : DPUEncoder :=
  fun data protection =>
    if protection.dataStripes = 0 ∨ protection.parityStripes = 0 then
      .error (errorf "invalid protection level")
    else
      encodeShards library data protection

/-- Decode data from shards. -/
def decodeStripe (library : ReedSolomon) (shards : List Bytes)
    (protection : ProtectionLevel) : Except Fault Bytes :=
  match library.new protection.dataStripes protection.parityStripes with
  | some error => .error (.error error)
  | none =>
      match
        library.reconstructData protection.dataStripes
          protection.parityStripes shards with
      | .error error => .error (.error error)
      | .ok reconstructed =>
          if reconstructed.length < protection.dataStripes then
            .error (.panic "index out of range")
          else
            .ok (reconstructed.take protection.dataStripes).flatten

/-! ## Remote shards -/

/-- Write shards to their nodes, from an index on. -/
def writeShards (rpc : NodeRPC) (dataStripes stripeNum : Nat) :
    Nat → List (Bytes × Nat) → Storage →
      List StripeMember × List GoError × Storage
  | _, [], storage => ([], [], storage)
  | shardIdx, (shard, nodeId) :: rest, storage =>
      let localPath := generateShardPath stripeNum shardIdx
      match rpc.writeShardToNode nodeId localPath shard with
      | some error =>
          let (members, errors, written) :=
            writeShards rpc dataStripes stripeNum (shardIdx + 1) rest
              storage
          (members, error :: errors, written)
      | none =>
          let member : StripeMember :=
            { nodeId := nodeId
              localPath := localPath
              shardIndex := shardIdx
              isParityShard := dataStripes ≤ shardIdx }
          let (members, errors, written) :=
            writeShards rpc dataStripes stripeNum (shardIdx + 1) rest
              (storage.set (nodeId, localPath) shard)
          (member :: members, errors, written)

/-- Read the shards of a stripe. -/
def readStripeFromNodes (rpc : NodeRPC) (storage : Storage) :
    List StripeMember → Except Fault (List Bytes)
  | [] => .ok []
  | member :: rest =>
      match rpc.readShardFromNode member.nodeId member.localPath with
      | some error => .error (.error error)
      | none =>
          match readStripeFromNodes rpc storage rest with
          | .error fault => .error fault
          | .ok shards =>
              .ok
                ((storage.get? (member.nodeId, member.localPath)).getD
                  [] :: shards)

namespace OneFS

/-- A new file system. -/
def new (nodes : List Node) (dataStripes parityStripes : Nat) :
    OneFS where
  nodes := nodes
  dataStripes := dataStripes
  parityStripes := parityStripes
  stripeWidth := 1024 * 1024
  storagePools :=
    Dict.empty.set "default"
      { dataStripes := dataStripes, parityStripes := parityStripes }

/-- Select the protection of a file. -/
def selectStoragePool (self : OneFS) : Option ProtectionLevel :=
  self.storagePools.get? "default"

/-- Encode a stripe. -/
def encodeStripe (library : ReedSolomon) (self : OneFS) (data : Bytes)
    (protection : ProtectionLevel) : Except Fault (List Bytes) :=
  match self.dpuEncoder with
  | some encoder => encoder data protection
  | none => encodeShards library data protection

/-- Write the shards of a stripe to the selected nodes. -/
def writeStripeToNodes (rpc : NodeRPC) (self : OneFS)
    (shards : List Bytes) (nodes : List Nat) (stripeNum : Nat) :
    Except Fault BlockDescriptor × OneFS :=
  if nodes.length < shards.length then
    (.error (.panic "index out of range"), self)
  else
    let (members, errors, storage) :=
      writeShards rpc self.dataStripes stripeNum 0 (shards.zip nodes)
        self.storage
    let written := { self with storage := storage }
    match errors with
    | error :: _ => (.error (.error error), written)
    | [] =>
        let parity := members.filter StripeMember.isParityShard
        let data := members.filter fun member => !member.isParityShard
        (.ok
          { blockNumber := stripeNum
            stripeMembers := members
            dataShards := data.map StripeMember.nodeId
            parityShards := parity.map StripeMember.nodeId },
          written)

/-- Write a number of stripes, from a stripe on. -/
def writeStripes (library : ReedSolomon) (rpc : NodeRPC)
    (protection : ProtectionLevel) (stripeSize : Nat) :
    Nat → Nat → Reader → OneFS →
      Except Fault (List BlockDescriptor) × OneFS
  | 0, _, _, self => (.ok [], self)
  | count + 1, stripeNum, reader, self =>
      let (data, failure, rest) := reader.readFull stripeSize
      if failure ≠ none ∧ failure ≠ some .unexpectedEOF then
        (.error (.error (failure.getD .eof)), self)
      else
        match self.encodeStripe library data protection with
        | .error fault => (.error fault, self)
        | .ok shards =>
            match
              selectNodesForStripe self.nodes stripeNum protection with
            | .error fault => (.error fault, self)
            | .ok nodes =>
                match
                  self.writeStripeToNodes rpc shards nodes stripeNum with
                | (.error fault, written) => (.error fault, written)
                | (.ok block, written) =>
                    match
                      writeStripes library rpc protection stripeSize count
                        (stripeNum + 1) rest written with
                    | (.error fault, finished) => (.error fault, finished)
                    | (.ok blocks, finished) =>
                        (.ok (block :: blocks), finished)

/-- The bytes of a stripe. -/
def stripeSize (self : OneFS) (protection : ProtectionLevel) : ℤ :=
  int64 (self.stripeWidth * protection.dataStripes)

/-- The number of stripes of a file, for stripes that are not empty. -/
def numStripes (self : OneFS) (protection : ProtectionLevel)
    (size : ℤ) : ℤ :=
  (int64 (size + self.stripeSize protection - 1)).tdiv
    (self.stripeSize protection)

/-- Write a file. -/
def writeFile (library : ReedSolomon) (rpc : NodeRPC) (self : OneFS)
    (path : String) (reader : Reader) (size : ℤ) :
    Except Fault Unit × OneFS :=
  let (inode, directory) := self.directory.allocateInode
  let allocated := { self with directory := directory }
  match self.selectStoragePool with
  | none =>
      (.error (.panic "invalid memory address or nil pointer dereference"),
        allocated)
  | some protection =>
      if self.stripeSize protection = 0 then
        (.error (.panic "integer divide by zero"), allocated)
      else
        match
          makeSliceOf blockDescriptorSize
            (self.numStripes protection size) with
        | .error fault => (.error fault, allocated)
        | .ok count =>
            match makeSlice (self.stripeSize protection) with
            | .error fault => (.error fault, allocated)
            | .ok stripeSize =>
                match
                  allocated.writeStripes library rpc protection stripeSize
                    count 0 reader with
                | (.error fault, written) => (.error fault, written)
                | (.ok blocks, written) =>
                    (.ok (),
                      { written with
                        directory :=
                          written.directory.commitFile path
                            { inodeNumber := inode
                              fileSize := size
                              protection := protection
                              blocks := blocks } })

/-- Read stripes: what is written out, and how the reading fails. -/
def readStripes (library : ReedSolomon) (rpc : NodeRPC) (self : OneFS)
    (protection : ProtectionLevel) :
    List BlockDescriptor → Bytes × Option Fault
  | [] => ([], none)
  | block :: rest =>
      match
        readStripeFromNodes rpc self.storage block.stripeMembers with
      | .error fault => ([], some fault)
      | .ok shards =>
          match decodeStripe library shards protection with
          | .error fault => ([], some fault)
          | .ok data =>
              let (more, fault) :=
                self.readStripes library rpc protection rest
              (data ++ more, fault)

/-- Read a file: what is written out, and how the reading fails. -/
def readFile (library : ReedSolomon) (rpc : NodeRPC) (self : OneFS)
    (path : String) : Bytes × Option Fault :=
  match self.directory.lookupFile path with
  | .error fault => ([], some fault)
  | .ok layout =>
      self.readStripes library rpc layout.protection layout.blocks

end OneFS

end StorageAppliance.PowerScale
