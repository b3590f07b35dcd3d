import StorageAppliance.PowerScale.ShardPlaces

/-!
# Reading a file back

The shards of a stripe have equal sizes, so the data of a stripe is filled up
with zeros to a multiple of the number of data shards.  The layout of a file
records its size, but `OneFS.ReadFile` writes the data shards as they are.

A full stripe is a multiple of the number of data shards.  What is added to the
last stripe is read back with it, and `readFile_writeFile_iff` says that a file
is read back as it was written exactly if nothing is added.
-/

namespace StorageAppliance.PowerScale

open StorageAppliance.Go
open StorageAppliance.Library

/-- The shards of some data fit it if it is a multiple of their number. -/
theorem padding_eq_zero_iff
    {dataStripes : Nat} (positive : 0 < dataStripes) (length : Nat) :
    padding dataStripes length = 0 ↔ dataStripes ∣ length := by
  have room := le_mul_shardSize positive length
  rw [padding]
  constructor
  · intro fits
    have exact : length =
        dataStripes * shardSize dataStripes length := by
      omega
    rw [exact]
    exact Nat.dvd_mul_right _ _
  · intro multiple
    apply Nat.eq_zero_of_dvd_of_lt
    · exact Nat.dvd_sub (Nat.dvd_mul_right _ _) multiple
    · omega

/-- A number of bytes takes no stripes if there are none. -/
theorem stripes_eq_zero_iff
    {stripeSize length : Nat} (positive : 0 < stripeSize) :
    (length + stripeSize - 1) / stripeSize = 0 ↔ length = 0 := by
  rw [Nat.div_eq_zero_iff]
  omega

/-- A full stripe is one more than what is left needs. -/
theorem stripes_of_full
    {stripeSize length : Nat} (positive : 0 < stripeSize)
    (full : stripeSize ≤ length) :
    (length + stripeSize - 1) / stripeSize =
      (length - stripeSize + stripeSize - 1) / stripeSize + 1 := by
  rw [← Nat.add_div_right _ positive]
  congr 1
  omega

/-- Less than a full stripe takes one. -/
theorem stripes_of_part
    {stripeSize length : Nat} (some : 0 < length)
    (part : length < stripeSize) :
    (length + stripeSize - 1) / stripeSize = 1 := by
  rw [Nat.div_eq_iff (by omega)]
  omega

/-! ## The number of stripes -/

section NumStripes

variable
    {ofs : OneFS}
    {protection : ProtectionLevel}
    {stripeSize size : Nat}

/-- The number of stripes is rounded up, unless its computation wraps. -/
theorem numStripes_of_fits
    (positive : 0 < stripeSize)
    (stripe : ofs.stripeSize protection = stripeSize)
    (unwrapped : size + stripeSize - 1 < 2 ^ 63) :
    ofs.numStripes protection size =
      ((size + stripeSize - 1) / stripeSize : Nat) := by
  have exact :
      int64 ((size : ℤ) + stripeSize - 1) =
        ((size + stripeSize - 1 : Nat) : ℤ) := by
    rw [int64_of_range (by omega) (by omega)]
    omega
  rw [OneFS.numStripes, stripe, exact, ← Int.ofNat_tdiv]

/-- If the computation wraps, the number of stripes is negative. -/
theorem numStripes_of_wrapped
    (positive : 0 < stripeSize)
    (allocated : (stripeSize : ℤ) ≤ maxAlloc)
    (stripe : ofs.stripeSize protection = stripeSize)
    (range : size < 2 ^ 63)
    (wrapped : ¬ size + stripeSize - 1 < 2 ^ 63) :
    ofs.numStripes protection size < 0 := by
  rw [maxAlloc] at allocated
  rw [OneFS.numStripes, stripe, int64_of_large (by omega) (by omega),
    Int.neg_tdiv]
  have large :
      (2 : ℤ) ^ 64 - ((size : ℤ) + stripeSize - 1) =
        ((2 ^ 64 - (size + stripeSize - 1) : Nat) : ℤ) := by
    omega
  rw [large, ← Int.ofNat_tdiv]
  have full : 0 < (2 ^ 64 - (size + stripeSize - 1)) / stripeSize :=
    Nat.div_pos (by omega) positive
  omega

end NumStripes

/-! ## Stripes -/

section Stripes

variable
    {library : ReedSolomon}
    {rpc : NodeRPC}
    {ofs : OneFS}
    {nodes : List Node}
    {protection : ProtectionLevel}
    {stripeSize stripeNum : Nat}
    {reader : Reader}
    {blocks : List BlockDescriptor}

/-- A stripe that is stored is read back with the zeros added to it. -/
theorem readStripes_cons
    {block : BlockDescriptor} {data : Bytes} {shards : List Bytes}
    (encoded : EncodedStripe library data protection shards)
    (stored : Stores ofs.storage block.stripeMembers shards)
    (reads :
      ∀ nodeId path, rpc.readShardFromNode nodeId path = none) :
    ofs.readStripes library rpc protection (block :: blocks) =
      (data ++ zeros (padding protection.dataStripes data.length) ++
          (ofs.readStripes library rpc protection blocks).1,
        (ofs.readStripes library rpc protection blocks).2) := by
  simp only [OneFS.readStripes, stored.read reads, encoded.decodes]

/-- The stripes of a file are read back with the zeros added to the last. -/
theorem StripesWritten.read
    (written :
      StripesWritten library nodes protection stripeSize ofs.storage
        stripeNum reader blocks)
    (reads :
      ∀ nodeId path, rpc.readShardFromNode nodeId path = none)
    (aligned : protection.dataStripes ∣ stripeSize)
    (positive : 0 < stripeSize)
    (ends : reader.failure = .eof)
    (count :
      blocks.length =
        (reader.bytes.length + stripeSize - 1) / stripeSize) :
    ∃ added,
      ofs.readStripes library rpc protection blocks =
          (reader.bytes ++ zeros added, none) ∧
        (added = 0 ↔ protection.dataStripes ∣ reader.bytes.length) := by
  induction written with
  | @nil stripeNum reader =>
      have empty : reader.bytes.length = 0 :=
        (stripes_eq_zero_iff positive).mp count.symm
      refine ⟨0, ?_, ?_⟩
      · rw [List.length_eq_zero_iff.mp empty]
        rfl
      · simp [empty]
  | @cons stripeNum reader block blocks shards supplied encoded placed
      stored rest induction =>
      rw [readStripes_cons encoded stored reads]
      by_cases full : stripeSize ≤ reader.bytes.length
      · have chunk :
            reader.readFull stripeSize =
              (reader.bytes.take stripeSize, none,
                { reader with bytes := reader.bytes.drop stripeSize }) := by
          rw [Reader.readFull, if_pos full]
        rw [chunk] at rest induction ⊢
        have fewer :
            blocks.length =
              ((reader.bytes.drop stripeSize).length + stripeSize - 1) /
                stripeSize := by
          rw [List.length_drop]
          rw [List.length_cons, stripes_of_full positive full] at count
          exact Nat.succ.inj count
        rcases induction ends fewer with ⟨added, read, fits⟩
        have none :
            padding protection.dataStripes
              (reader.bytes.take stripeSize).length = 0 := by
          rw [List.length_take, Nat.min_eq_left full]
          exact (padding_eq_zero_iff encoded.positive stripeSize).mpr
            aligned
        refine ⟨added, ?_, ?_⟩
        · simp only at read
          rw [read, none, zeros, List.replicate_zero, List.append_nil,
            ← List.append_assoc, List.take_append_drop]
        · rw [fits, List.length_drop]
          exact Nat.dvd_sub_iff_left full aligned
      · by_cases empty : reader.bytes = []
        · have chunk :
              reader.readFull stripeSize =
                ([], some reader.failure, reader) := by
            rw [Reader.readFull, if_neg full, if_pos empty]
          rw [chunk, ends] at supplied
          rcases supplied with failed | failed
          · cases failed
          · cases failed
        · have chunk :
              (reader.readFull stripeSize).1 = reader.bytes := by
            rw [Reader.readFull, if_neg full, if_neg empty, if_pos ends]
          have last : blocks = [] := by
            rw [List.length_cons,
              stripes_of_part (List.length_pos_iff.mpr empty)
                (by omega)] at count
            exact List.length_eq_zero_iff.mp (by omega)
          rw [chunk] at encoded ⊢
          refine
            ⟨padding protection.dataStripes reader.bytes.length, ?_, ?_⟩
          · rw [last, OneFS.readStripes, List.append_nil]
          · exact padding_eq_zero_iff encoded.positive _

end Stripes

/-! ## Files -/

section Files

variable
    {library : ReedSolomon}
    {protection : ProtectionLevel}
    {encoder : Option DPUEncoder}
    {writing reading : NodeRPC}
    {path : String}
    {data : Bytes}
    {ofs after : OneFS}
    {stripeSize : Nat}
    {blocks : List BlockDescriptor}

/-- The number of stripes of a file that is written is not wrapped. -/
theorem FileWritten.length_blocks
    {reader : Reader}
    (written :
      FileWritten library ofs path reader data.length protection stripeSize
        blocks after)
    (range : data.length < 2 ^ 63) :
    blocks.length = (data.length + stripeSize - 1) / stripeSize := by
  have count := written.numStripes_eq
  by_cases unwrapped : data.length + stripeSize - 1 < 2 ^ 63
  · rw [numStripes_of_fits written.positive written.stripeSize_eq
      unwrapped] at count
    exact (Int.ofNat_inj.mp count).symm
  · have negative :=
      numStripes_of_wrapped written.positive written.allocated
        written.stripeSize_eq range unwrapped
    omega

/-- The bytes of a stripe are a multiple of the number of data shards. -/
theorem FileWritten.aligned
    {reader : Reader}
    (width : ofs.stripeWidth = 1024 * 1024)
    (written :
      FileWritten library ofs path reader data.length protection stripeSize
        blocks after)
    (bounded : protection.totalShards ≤ 65536) :
    protection.dataStripes ∣ stripeSize := by
  have size := written.stripeSize_eq
  rw [ProtectionLevel.totalShards] at bounded
  rw [OneFS.stripeSize, width,
    int64_of_range (by omega) (by omega)] at size
  refine ⟨1024 * 1024, ?_⟩
  omega

/--
In whatever state a file is written, it is read back as it was written exactly
if its size is a multiple of the number of data shards.
-/
theorem readFile_writeFile_iff
    (lawful : library.Lawful) (nodes : List Node)
    (faithful :
      ∀ installed ∈ encoder, DPUEncoder.Faithful library installed)
    (directory : DistributedNamespace) (storage : Storage)
    (reads :
      ∀ nodeId path, reading.readShardFromNode nodeId path = none)
    (range : data.length < 2 ^ 63)
    (returned :
      OneFS.writeFile library writing
          { newCluster nodes protection encoder with
            directory := directory
            storage := storage }
          path { bytes := data } data.length =
        (.ok (), after)) :
    after.readFile library reading path = (data, none) ↔
      protection.dataStripes ∣ data.length := by
  have keeps :
      OneFS.Faithful library
        { newCluster nodes protection encoder with
          directory := directory
          storage := storage } :=
    faithful
  rcases writeFile_ok lawful keeps returned with
    ⟨used, stripeSize, blocks, written⟩
  have same : used = protection := by
    have pool := (newCluster_cluster nodes protection faithful).pool
    exact Option.some.inj (written.pool.symm.trans pool)
  subst same
  have found :
      after.readFile library reading path =
        after.readStripes library reading used blocks := by
    have lookup :
        after.directory.lookupFile path =
          .ok ⟨directory.nextInode, data.length, used, blocks⟩ := by
      rw [written.after_eq]
      exact lookupFile_commitFile_self
    rw [OneFS.readFile, lookup]
  have count := written.length_blocks range
  rw [found]
  by_cases striped : blocks = []
  · rw [striped, List.length_nil] at count
    have empty :=
      (stripes_eq_zero_iff written.positive).mp count.symm
    rw [striped, empty, List.length_eq_zero_iff.mp empty]
    simp [OneFS.readStripes]
  · have aligned :=
      written.aligned rfl (written.stripes.sharded striped).2
    rcases
      written.stripes.read reads aligned written.positive rfl count with
      ⟨added, read, fits⟩
    rw [read, ← fits]
    simp [zeros]

end Files

/-- A file system without files, after a file of two bytes is written. -/
def writeTwoBytes : Except Fault Unit × OneFS :=
  OneFS.writeFile xorParity steadyNodes
    { newCluster [{ id := 0 }] ⟨2, 1⟩ none with
      directory := {}
      storage := Dict.empty }
    "/a" { bytes := [3, 2] } ([3, 2] : Bytes).length

theorem readFile_writeFile_twoBytes :
    writeTwoBytes.1 = .ok () ∧
      writeTwoBytes.2.readFile xorParity steadyNodes "/a" =
        ([3, 2], none) := by
  have returned : writeTwoBytes = (.ok (), writeTwoBytes.2) := by
    apply Prod.ext
    · decide +kernel
    · rfl
  have faithful :
      ∀ installed ∈ (none : Option DPUEncoder),
        DPUEncoder.Faithful xorParity installed := by
    intro installed member
    cases member
  have range : ([3, 2] : Bytes).length < 2 ^ 63 := by
    simp
  have reads :
      ∀ nodeId path, steadyNodes.readShardFromNode nodeId path = none :=
    fun _ _ => rfl
  have read :=
    readFile_writeFile_iff xorParity_lawful [{ id := 0 }] faithful {}
      Dict.empty reads range returned
  exact ⟨congrArg Prod.fst returned, read.mpr (by decide)⟩

theorem writeByte_readBack :
    xorParity.Lawful ∧ Succeeds xorParity oneNode (writeByte "/a") ∧
      (writeStep xorParity oneNode (writeByte "/a")).readFile xorParity
          steadyNodes "/a" = ([0, 0], none) ∧
      (writeByte "/a").reader.bytes = [0] := by
  refine ⟨xorParity_lawful, ?_, ?_, rfl⟩
  · decide +kernel
  · decide +kernel

end StorageAppliance.PowerScale
