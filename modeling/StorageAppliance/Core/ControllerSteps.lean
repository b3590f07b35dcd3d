import StorageAppliance.Core.Controller

/-!
# What the calls of the controller can do

Inversion lemmas for `write` and `deleteVolume` under the default settings.  A
write that is accepted first takes a reference to a stored block, which is
`Referenced`, and then records it in the volume map, which is `recordWrite`.
Deleting a volume drains the references of its blocks, in the sense of the
reference count library: `releaseBlocks` on the dedupe table is `drain` on the
counts, and the files that disappear are those of the discarded blocks.
-/

namespace StorageAppliance.Core

open StorageAppliance.Python
open StorageAppliance.Library
open StorageAppliance.Storage
open StorageAppliance.Purity
open StorageController

/-- The dedupe table of a controller. -/
abbrev StorageController.table (controller : StorageController) :
    Dict String DedupEntry :=
  controller.purity.deduplication.dedupeTable

/-- The stored files of a controller. -/
abbrev StorageController.files (controller : StorageController) :
    Dict String Bytes :=
  controller.backend.files

/-- The live volumes of a controller. -/
abbrev StorageController.volumes (controller : StorageController) :
    Dict String Volume :=
  controller.volumeManager.volumes

/-- The live snapshots of a controller. -/
abbrev StorageController.snapshots (controller : StorageController) :
    Dict String Snapshot :=
  controller.snapshotManager.snapshots

/-- The number of references counted under a fingerprint. -/
abbrev StorageController.references (controller : StorageController) :
    String → Nat :=
  controller.purity.deduplication.references

/-! ## Reading -/

/-- The bytes that `read` returns. -/
def StorageController.readData (controller : StorageController)
    (platform : Platform) (volumeId : String) (offset : ℤ) :
    Except PyException (Option Bytes) :=
  (controller.read platform volumeId offset).1.map
    (Option.map ReadResult.data)

/-- The block that a volume maps at an offset. -/
def StorageController.mapped (controller : StorageController)
    (volumeId : String) (offset : ℤ) : Option VolumeBlock :=
  controller.volumeManager.getBlock volumeId offset

theorem readData_unmapped
    {controller : StorageController} {volumeId : String} {offset : ℤ}
    (platform : Platform)
    (unmapped : controller.mapped volumeId offset = none) :
    controller.readData platform volumeId offset = .ok none := by
  have absent :
      controller.volumeManager.getBlock volumeId offset = none := unmapped
  simp [readData, StorageController.read, absent, Except.map]

theorem readData_mapped
    {controller : StorageController} {volumeId : String} {offset : ℤ}
    {block : VolumeBlock}
    (platform : Platform)
    (mapped : controller.mapped volumeId offset = some block) :
    controller.readData platform volumeId offset =
      (controller.purity.retrieve platform controller.backend
        block.blockId).1.map some := by
  have present :
      controller.volumeManager.getBlock volumeId offset = some block :=
    mapped
  simp only [readData, StorageController.read, present]
  split <;> rename_i equal <;> rw [equal] <;> rfl

/-! ## Taking a reference -/

/-- A controller takes one reference to a block that holds the data. -/
inductive Referenced (platform : Platform) (before : StorageController)
    (data : Bytes) : ReductionResult → StorageController → Prop where
  | duplicate {encoded : Bytes} {entry : DedupEntry}
      {result : ReductionResult} {engine : PurityEngine}
      (encodes : Encodes data encoded)
      (found :
        before.table.get? (platform.sha256Hex encoded) = some entry)
      (sameBlock : result.blockId = entry.blockId)
      (recorded :
        result.dedupeResult.fingerprint = platform.sha256Hex encoded)
      (counted :
        engine.deduplication =
          (before.purity.deduplication.registerBlock platform encoded
            entry.blockId).2)
      (standard : engine.Standard) :
      Referenced platform before data result
        { before with purity := engine }
  | stored {encoded stored : Bytes} {result : ReductionResult}
      {engine : PurityEngine}
      (encodes : Encodes data encoded)
      (absent :
        before.table.get? (platform.sha256Hex encoded) = none)
      (sameBlock : result.blockId = before.nextUuid platform)
      (recorded :
        result.dedupeResult.fingerprint = platform.sha256Hex encoded)
      (unwraps : PurityEngine.unwrap platform stored = .ok encoded)
      (counted :
        engine.deduplication =
          (before.purity.deduplication.registerBlock platform data
            (before.nextUuid platform)).2)
      (standard : engine.Standard) :
      Referenced platform before data result
        { before.drawUuid with
          purity := engine
          backend :=
            (before.backend.writeBlock platform
              (before.nextUuid platform) stored).2 }

/-- Everything `write` can do. -/
inductive Written (platform : Platform) (before : StorageController)
    (volumeId : String) (offset : ℤ) (data : Bytes) :
    Except PyException (Option WriteResult) → StorageController →
      Prop where
  | unknown
      (absent : before.volumes.get? volumeId = none) :
      Written platform before volumeId offset data (.ok none) before
  | misaligned {volume : Volume}
      (found : before.volumes.get? volumeId = some volume)
      (misaligned : offset % 4096 ≠ 0) :
      Written platform before volumeId offset data
        (.error (.valueError (misalignedMessage 4096))) before
  | refused {volume : Volume} {exception : PyException}
      {engine : PurityEngine}
      (found : before.volumes.get? volumeId = some volume)
      (aligned : offset % 4096 = 0)
      (refused : Refused platform before.purity data)
      (uncounted :
        engine.deduplication = before.purity.deduplication)
      (standard : engine.Standard) :
      Written platform before volumeId offset data (.error exception)
        { before with purity := engine }
  | accepted {volume : Volume} {reduction : ReductionResult}
      {middle : StorageController}
      (found : before.volumes.get? volumeId = some volume)
      (aligned : offset % 4096 = 0)
      (notRefused : ¬ Refused platform before.purity data)
      (referenced : Referenced platform before data reduction middle) :
      Written platform before volumeId offset data
        (middle.recordWrite volumeId offset data reduction).1
        (middle.recordWrite volumeId offset data reduction).2

section Write

variable
    {platform : Platform}
    {before : StorageController}

theorem beginWrite_of_unknown
    {volumeId : String}
    (absent : before.volumes.get? volumeId = none)
    (offset : ℤ) (data : Bytes) :
    before.beginWrite platform volumeId offset data =
      (.answered (.ok none), before) := by
  have notLive : before.volumeManager.getVolume volumeId = none := absent
  simp [beginWrite, notLive]

/-- The remainder of an offset by a zero block size raises. -/
theorem beginWrite_of_zero
    {volumeId : String} {volume : Volume}
    (found : before.volumes.get? volumeId = some volume)
    (zero : before.settings.defaultBlockSize = 0)
    (offset : ℤ) (data : Bytes) :
    before.beginWrite platform volumeId offset data =
      (.answered (.error
          (.zeroDivisionError "integer modulo by zero")),
        before) := by
  have live : before.volumeManager.getVolume volumeId = some volume :=
    found
  simp only [beginWrite, live]
  exact if_pos zero

/-- The offsets `write` accepts. -/
def StorageController.Aligned (controller : StorageController)
    (offset : ℤ) : Prop :=
  controller.settings.defaultBlockSize ≠ 0 ∧
    offset % controller.settings.defaultBlockSize = 0

theorem beginWrite_misaligned
    {volumeId : String} {volume : Volume} {offset : ℤ}
    (found : before.volumes.get? volumeId = some volume)
    (nonzero : before.settings.defaultBlockSize ≠ 0)
    (misaligned : ¬ before.Aligned offset) (data : Bytes) :
    before.beginWrite platform volumeId offset data =
      (.answered (.error (.valueError
          (misalignedMessage before.settings.defaultBlockSize))),
        before) := by
  have live : before.volumeManager.getVolume volumeId = some volume :=
    found
  simp only [beginWrite, live]
  rw [if_neg nonzero, if_pos fun aligned => misaligned ⟨nonzero, aligned⟩]

/-- An aligned write to a live volume goes through the pipeline. -/
theorem beginWrite_aligned
    {volumeId : String} {volume : Volume} {offset : ℤ}
    (found : before.volumes.get? volumeId = some volume)
    (aligned : before.Aligned offset) (data : Bytes) :
    before.beginWrite platform volumeId offset data =
      match before.purity.reduce platform data with
      | (.failed exception, engine) =>
          (.answered (.error exception), { before with purity := engine })
      | (.duplicate result, engine) =>
          (.answered
              ({ before with purity := engine }.recordWrite volumeId
                offset data result).1,
            ({ before with purity := engine }.recordWrite volumeId offset
              data result).2)
      | (.store pending, engine) =>
          (.storing (before.nextUuid platform) pending,
            { before.drawUuid with purity := engine }) := by
  have live : before.volumeManager.getVolume volumeId = some volume :=
    found
  simp only [beginWrite, live]
  rw [if_neg aligned.1]
  exact if_neg (not_not.mpr aligned.2)

theorem beginWrite_of_misaligned
    {volumeId : String} {volume : Volume} {offset : ℤ}
    (settings : before.settings = {})
    (found : before.volumes.get? volumeId = some volume)
    (misaligned : offset % 4096 ≠ 0) (data : Bytes) :
    before.beginWrite platform volumeId offset data =
      (.answered (.error (.valueError (misalignedMessage 4096))),
        before) := by
  have blockSize : before.settings.defaultBlockSize = 4096 := by
    rw [settings]
  have rejected : ¬ before.Aligned offset := by
    rw [Aligned, blockSize]
    exact fun aligned => misaligned aligned.2
  rw [beginWrite_misaligned found (by simp [blockSize]) rejected,
    blockSize]

theorem beginWrite_of_aligned
    {volumeId : String} {volume : Volume} {offset : ℤ}
    (settings : before.settings = {})
    (found : before.volumes.get? volumeId = some volume)
    (aligned : offset % 4096 = 0) (data : Bytes) :
    before.beginWrite platform volumeId offset data =
      match before.purity.reduce platform data with
      | (.failed exception, engine) =>
          (.answered (.error exception), { before with purity := engine })
      | (.duplicate result, engine) =>
          (.answered
              ({ before with purity := engine }.recordWrite volumeId
                offset data result).1,
            ({ before with purity := engine }.recordWrite volumeId offset
              data result).2)
      | (.store pending, engine) =>
          (.storing (before.nextUuid platform) pending,
            { before.drawUuid with purity := engine }) := by
  have accepted : before.Aligned offset := by
    rw [Aligned, settings]
    exact ⟨by decide, aligned⟩
  exact beginWrite_aligned found accepted data

/-- Inversion of `write` under the default settings. -/
theorem write_cases
    (lawful : platform.Lawful)
    (settings : before.settings = {})
    (standard : before.purity.Standard)
    (volumeId : String) (offset : ℤ) (data : Bytes) :
    Written platform before volumeId offset data
      (before.write platform volumeId offset data).1
      (before.write platform volumeId offset data).2 := by
  have reducedStandard :
      (before.purity.reduce platform data).2.Standard :=
    reduce_standard standard data
  have reduced := reduce_cases lawful standard data
  cases found : before.volumes.get? volumeId with
  | none =>
      rw [write, beginWrite_of_unknown found]
      exact .unknown found
  | some volume =>
      by_cases aligned : offset % 4096 = 0
      · rw [write, beginWrite_of_aligned settings found aligned]
        cases outcome : before.purity.reduce platform data with
        | mk reduction engine =>
            rw [outcome] at reduced reducedStandard
            have refusedOnly := reduced.failed_iff.mpr
            cases reduced with
            | failed exception refused uncounted =>
                exact .refused found aligned refused uncounted
                  reducedStandard
            | duplicate encodes entryFound sameBlock recorded _ counted =>
                exact .accepted found aligned
                  (fun refused => by
                    rcases refusedOnly refused with ⟨_, equal⟩
                    cases equal)
                  (.duplicate encodes entryFound sameBlock recorded counted
                    reducedStandard)
            | @store encoded pending _ encodes absent _ sameData recorded
                unwraps uncounted =>
                have counted :
                    (engine.finishStore platform pending
                        (before.nextUuid platform)).2.deduplication =
                      (before.purity.deduplication.registerBlock platform
                        data (before.nextUuid platform)).2 := by
                  simp only [PurityEngine.finishStore]
                  rw [sameData, uncounted]
                exact .accepted found aligned
                  (fun refused => by
                    rcases refusedOnly refused with ⟨_, equal⟩
                    cases equal)
                  (.stored encodes absent rfl recorded unwraps counted
                    (finishStore_standard reducedStandard pending _))
      · rw [write, beginWrite_of_misaligned settings found aligned]
        exact .misaligned found aligned

/-- Recording changes only the volumes. -/
theorem recordWrite_frame
    (middle : StorageController) (volumeId : String) (offset : ℤ)
    (data : Bytes) (reduction : ReductionResult) :
    (middle.recordWrite volumeId offset data reduction).2 =
      { middle with
        volumeManager :=
          (middle.volumeManager.writeBlock volumeId offset
            reduction.blockId reduction.dedupeResult.fingerprint
            data.length reduction.storedSize).2 } := by
  rw [recordWrite]
  split <;> rename_i equal <;> rw [equal]

/-- Recording into a live volume maps the block, if it fits. -/
theorem recordWrite_volumes
    {middle : StorageController} {volumeId : String} {volume : Volume}
    (found : middle.volumes.get? volumeId = some volume)
    (offset : ℤ) (data : Bytes) (reduction : ReductionResult) :
    (middle.recordWrite volumeId offset data reduction).2.volumes =
      if volume.sizeBytes < offset + data.length then
        middle.volumes
      else
        middle.volumes.set volumeId
          (VolumeManager.mapBlock volume offset reduction.blockId
            reduction.dedupeResult.fingerprint data.length
            reduction.storedSize) := by
  have live :
      middle.volumeManager.getVolume volumeId = some volume := found
  rw [recordWrite_frame]
  simp only [StorageController.volumes, VolumeManager.writeBlock, live]
  split <;> rfl

theorem recordWrite_answer
    {middle : StorageController} {volumeId : String} {volume : Volume}
    (found : middle.volumes.get? volumeId = some volume)
    (offset : ℤ) (data : Bytes) (reduction : ReductionResult) :
    (middle.recordWrite volumeId offset data reduction).1 =
      if volume.sizeBytes < offset + data.length then
        .error (.valueError "Write exceeds volume size")
      else
        .ok (some ⟨volumeId, offset, data.length, reduction⟩) := by
  have live :
      middle.volumeManager.getVolume volumeId = some volume := found
  by_cases exceeds : volume.sizeBytes < offset + data.length
  · simp [recordWrite, VolumeManager.writeBlock, live, exceeds]
  · simp [recordWrite, VolumeManager.writeBlock, live, exceeds]

theorem Referenced.volumes
    {data : Bytes} {result : ReductionResult} {after : StorageController}
    (referenced : Referenced platform before data result after) :
    after.volumes = before.volumes := by
  cases referenced <;> rfl

end Write

/-! ## Dropping references -/

/-- The block and the fingerprint that a mapping refers to. -/
def VolumeBlock.reference (block : VolumeBlock) : String × String :=
  (block.blockId, block.fingerprint)

section Release

variable {controller : StorageController}

/-- One dropped reference, on counts and on files. -/
theorem releaseBlock_spec
    (wellFormed : controller.backend.WellFormed) (block : VolumeBlock) :
    (controller.releaseBlock block).references =
        release controller.references block.fingerprint ∧
      (controller.releaseBlock block).backend.WellFormed ∧
      ∀ blockId,
        (controller.releaseBlock block).files.get? blockId =
          if blockId = block.blockId ∧
              release controller.references block.fingerprint
                block.fingerprint = 0 then
            none
          else
            controller.files.get? blockId := by
  have counted :=
    dereferenceBlock_fst controller.purity.deduplication block.fingerprint
  have dropped :=
    dereferenceBlock_references controller.purity.deduplication
      block.fingerprint
  by_cases last :
      release controller.references block.fingerprint block.fingerprint = 0
  · have lastCount :
        (controller.purity.deduplication.dereferenceBlock
          block.fingerprint).1 = 0 := counted.trans last
    refine ⟨?_, ?_, ?_⟩
    · simpa [releaseBlock, PurityEngine.delete, lastCount] using dropped
    · simpa [releaseBlock, PurityEngine.delete, lastCount] using
        wellFormed.delete block.blockId
    · intro blockId
      simpa [releaseBlock, PurityEngine.delete, lastCount, last] using
        (deleteBlock_get? wellFormed block.blockId blockId).1
  · have notLast :
        ¬ (controller.purity.deduplication.dereferenceBlock
          block.fingerprint).1 = 0 := fun zero =>
      last (counted.symm.trans zero)
    refine ⟨?_, ?_, ?_⟩
    · simpa [releaseBlock, PurityEngine.delete, notLast] using dropped
    · simpa [releaseBlock, PurityEngine.delete, notLast] using wellFormed
    · intro blockId
      simp [releaseBlock, PurityEngine.delete, notLast, last]

/-- Dropping references in order is `drain`. -/
theorem releaseBlocks_spec
    (wellFormed : controller.backend.WellFormed)
    (blocks : List VolumeBlock) :
    (controller.releaseBlocks blocks).references =
        (drain controller.references
          (blocks.map VolumeBlock.reference)).1 ∧
      (controller.releaseBlocks blocks).backend.WellFormed ∧
      ∀ blockId,
        (controller.releaseBlocks blocks).files.get? blockId =
          if blockId ∈ (drain controller.references
              (blocks.map VolumeBlock.reference)).2 then
            none
          else
            controller.files.get? blockId := by
  induction blocks generalizing controller with
  | nil => simp [releaseBlocks, drain, wellFormed]
  | cons block rest induction =>
      rcases releaseBlock_spec wellFormed block with
        ⟨references, released, files⟩
      rcases induction released with
        ⟨tailReferences, tailReleased, tailFiles⟩
      rw [references] at tailReferences tailFiles
      rw [releaseBlocks, List.map_cons, drain]
      refine ⟨?_, tailReleased, ?_⟩
      · rw [tailReferences]
        split <;> rfl
      · intro blockId
        rw [tailFiles blockId, files blockId]
        by_cases last :
            release controller.references block.fingerprint
              block.fingerprint = 0
        · simp only [VolumeBlock.reference, last, if_true,
            List.mem_cons, and_true]
          split
          · rename_i inTail
            rw [if_pos (Or.inr inTail)]
          · rename_i notInTail
            simp only [notInTail, or_false]
        · simp only [VolumeBlock.reference, last, if_false, and_false]

/-- Releasing leaves the volumes, the snapshots and the settings alone. -/
theorem releaseBlocks_frame
    (controller : StorageController) (blocks : List VolumeBlock) :
    (controller.releaseBlocks blocks).volumeManager =
        controller.volumeManager ∧
      (controller.releaseBlocks blocks).snapshotManager =
        controller.snapshotManager ∧
      (controller.releaseBlocks blocks).settings = controller.settings ∧
      (controller.releaseBlocks blocks).uuidsDrawn =
        controller.uuidsDrawn := by
  induction blocks generalizing controller with
  | nil => exact ⟨rfl, rfl, rfl, rfl⟩
  | cons block rest induction =>
      exact induction (controller.releaseBlock block)

theorem releaseBlock_standard
    (standard : controller.purity.Standard) (block : VolumeBlock) :
    (controller.releaseBlock block).purity.Standard := by
  have frame :
      (controller.releaseBlock block).purity =
        { controller.purity with
          deduplication :=
            (controller.purity.deduplication.dereferenceBlock
              block.fingerprint).2 } := by
    simp only [releaseBlock, PurityEngine.delete]
    split <;> rfl
  rw [frame]
  exact ⟨standard.settings, standard.minBlockSize, standard.algorithm⟩

end Release

/-- The references a volume holds, in the order of its block map. -/
def Volume.references (volume : Volume) : List (String × String) :=
  volume.blocks.values.map VolumeBlock.reference

/-- Deleting the volume removes the file of this block. -/
def Discards (controller : StorageController) (volumeId blockId : String) :
    Prop :=
  ∃ volume,
    controller.volumes.get? volumeId = some volume ∧
      Discarded controller.references volume.references blockId

/-- What deleting a volume does to files, counts and volumes. -/
theorem deleteVolume_spec
    {controller : StorageController}
    (wellFormed : controller.backend.WellFormed) (volumeId : String) :
    (controller.deleteVolume volumeId).2.backend.WellFormed ∧
      (∀ blockId,
        Discards controller volumeId blockId →
          (controller.deleteVolume volumeId).2.files.get? blockId =
            none) ∧
      (∀ blockId,
        ¬ Discards controller volumeId blockId →
          (controller.deleteVolume volumeId).2.files.get? blockId =
            controller.files.get? blockId) ∧
      ∀ other,
        (controller.deleteVolume volumeId).2.volumes.get? other =
          if other = volumeId then none else controller.volumes.get? other := by
  cases found : controller.volumes.get? volumeId with
  | none =>
      have unchanged :
          (controller.deleteVolume volumeId).2 = controller := by
        have absent :
            controller.volumeManager.getVolume volumeId = none := found
        simp [deleteVolume, absent]
      rw [unchanged]
      refine ⟨wellFormed, ?_, fun _ _ => rfl, ?_⟩
      · rintro blockId ⟨volume, live, _⟩
        rw [found] at live
        simp at live
      · intro other
        split
        · rename_i same
          rw [same, found]
        · rfl
  | some volume =>
      have live :
          controller.volumeManager.getVolume volumeId = some volume :=
        found
      have discards :
          ∀ blockId,
            Discards controller volumeId blockId ↔
              blockId ∈ (drain controller.references
                (volume.blocks.values.map VolumeBlock.reference)).2 := by
        intro blockId
        rw [mem_drain_iff]
        constructor
        · rintro ⟨other, otherFound, discarded⟩
          rw [found, Option.some.injEq] at otherFound
          subst otherFound
          exact discarded
        · intro discarded
          exact ⟨volume, found, discarded⟩
      have released :=
        releaseBlocks_spec wellFormed volume.blocks.values
      have removed :
          (controller.deleteVolume volumeId).2 =
            ((controller.releaseBlocks volume.blocks.values).removeVolume
              volumeId).2 := by
        simp [deleteVolume, live]
      rw [removed]
      refine ⟨released.2.1, ?_, ?_, ?_⟩
      · intro blockId discarded
        exact (released.2.2 blockId).trans
          (if_pos ((discards blockId).mp discarded))
      · intro blockId kept
        exact (released.2.2 blockId).trans
          (if_neg fun member => kept ((discards blockId).mpr member))
      · intro other
        have sameVolumes :=
          (releaseBlocks_frame controller volume.blocks.values).1
        simp only [StorageController.volumes, removeVolume, sameVolumes]
        exact deleteVolume_volumes controller.volumeManager volumeId other

end StorageAppliance.Core
