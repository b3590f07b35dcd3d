import StorageAppliance.Core.Frames

/-!
# The live references

The block maps of the live volumes hold references: a block and the
fingerprint under which it is released.  `live` lists them all.  Up to order, a
write puts its reference in the place of the one it overwrites, and a deletion
takes away the references of the volume and nothing else.

The last section says what a deletion does to the dedupe table: every entry
loses as many references as the volume holds under its fingerprint, and
disappears when none is left.
-/

namespace StorageAppliance.Core

open StorageAppliance.Python
open StorageAppliance.Library
open StorageAppliance.Storage
open StorageAppliance.Purity
open StorageController

/-- The references of all live volumes. -/
def StorageController.live (controller : StorageController) :
    List (String × String) :=
  controller.volumes.values.flatMap Volume.references

/-- The reference that a write to the offset replaces, if there is one. -/
def StorageController.displaced (controller : StorageController)
    (volumeId : String) (offset : ℤ) : List (String × String) :=
  ((controller.mapped volumeId offset).map VolumeBlock.reference).toList

/-- The write goes through the reduction pipeline and takes a reference. -/
def Accepts (platform : Platform) (controller : StorageController)
    (volumeId : String) (offset : ℤ) (data : Bytes) : Prop :=
  controller.volumes.get? volumeId ≠ none ∧ offset % 4096 = 0 ∧
    ¬ Refused platform controller.purity data

/-- The written range ends within the volume. -/
def Fits (controller : StorageController) (volumeId : String)
    (offset : ℤ) (data : Bytes) : Prop :=
  ∃ volume ∈ controller.volumes.get? volumeId,
    offset + data.length ≤ volume.sizeBytes

instance (controller : StorageController) (volumeId : String)
    (offset : ℤ) (data : Bytes) :
    Decidable (Fits controller volumeId offset data) :=
  inferInstanceAs (Decidable (∃ volume ∈ _, _))

/-- The calls that create, write or delete volumes. -/
def StorageController.Call.Manages : Call → Prop
  | .createVolume _ _ _ _ => True
  | .write _ _ _ => True
  | .deleteVolume _ => True
  | _ => False

section Live

variable
    {platform : Platform}
    {controller after : StorageController}

theorem fits_iff
    {volumeId : String} {volume : Volume}
    (found : controller.volumes.get? volumeId = some volume)
    (offset : ℤ) (data : Bytes) :
    Fits controller volumeId offset data ↔
      ¬ volume.sizeBytes < offset + data.length := by
  simp [Fits, found]

/-- A reference is live exactly when some volume maps it. -/
theorem mem_live_iff {reference : String × String} :
    reference ∈ controller.live ↔
      ∃ volumeId offset block,
        controller.mapped volumeId offset = some block ∧
          block.reference = reference := by
  constructor
  · intro member
    rcases List.mem_flatMap.mp member with ⟨volume, live, held⟩
    rcases Dict.mem_values_iff.mp live with ⟨volumeId, found⟩
    rcases List.mem_map.mp held with ⟨block, mapped, same⟩
    rcases Dict.mem_values_iff.mp mapped with ⟨offset, blockFound⟩
    exact ⟨volumeId, offset, block,
      (mapped_of_volume found offset).trans blockFound, same⟩
  · rintro ⟨volumeId, offset, block, mapped, same⟩
    cases found : controller.volumes.get? volumeId with
    | none =>
        rw [mapped_of_absent found] at mapped
        cases mapped
    | some volume =>
        rw [mapped_of_volume found] at mapped
        apply List.mem_flatMap.mpr
        refine ⟨volume, Dict.mem_values_iff.mpr ⟨volumeId, found⟩, ?_⟩
        apply List.mem_map.mpr
        exact ⟨block, Dict.mem_values_iff.mpr ⟨offset, mapped⟩, same⟩

/-! ## Creating and deleting volumes -/

/-- A new volume holds no reference. -/
theorem live_addVolume
    {volumeId : String} {new : Volume}
    (absent : controller.volumes.get? volumeId = none)
    (changed : after.volumes = controller.volumes.set volumeId new)
    (noBlocks : new.blocks = Dict.empty) :
    after.live.Perm controller.live := by
  have values :=
    Dict.values_set_perm_of_absent new absent
  rw [← changed] at values
  have flat := values.flatMap_right Volume.references
  have nothing : new.references = [] := by
    rw [Volume.references, noBlocks]
    rfl
  rw [List.flatMap_cons, nothing] at flat
  exact flat

theorem live_createVolume
    (lawful : platform.Lawful) (sound : Sound platform controller)
    (name : String) (sizeGb : ℚ) (description : String)
    (tags : Dict String String) :
    (controller.createVolume platform name sizeGb description
      tags).2.live.Perm controller.live :=
  live_addVolume (sound.next_fresh_volume lawful) rfl rfl

/-- Deleting a volume takes its references away. -/
theorem live_deleteVolume
    {volumeId : String} {volume : Volume}
    (found : controller.volumes.get? volumeId = some volume) :
    controller.live.Perm
      (volume.references ++ (controller.deleteVolume volumeId).2.live) := by
  have live :
      controller.volumeManager.getVolume volumeId = some volume := found
  have frame :=
    (releaseBlocks_frame controller volume.blocks.values).1
  have removed :
      (controller.deleteVolume volumeId).2.volumes =
        controller.volumes.erase volumeId := by
    simp [StorageController.deleteVolume, removeVolume,
      VolumeManager.deleteVolume, live, frame, StorageController.volumes]
  have values := Dict.values_perm_erase found
  have flat := values.flatMap_right Volume.references
  rw [List.flatMap_cons, ← removed] at flat
  exact flat

/-! ## Writing -/

/-- Up to order, mapping a block replaces the reference at its offset. -/
theorem mapBlock_references
    (volume : Volume) (offset : ℤ) (blockId fingerprint : String)
    (size physicalSize : ℤ) :
    ∃ rest,
      volume.references.Perm
          (((volume.blocks.get? offset).map
            VolumeBlock.reference).toList ++ rest) ∧
        (VolumeManager.mapBlock volume offset blockId fingerprint size
            physicalSize).references.Perm
          ((blockId, fingerprint) :: rest) := by
  refine
    ⟨(volume.blocks.erase offset).values.map VolumeBlock.reference,
      ?_, ?_⟩
  · cases old : volume.blocks.get? offset with
    | none =>
        have added :=
          Dict.values_set_perm_of_absent
            (⟨offset, blockId, fingerprint, size⟩ : VolumeBlock) old
        have replaced :=
          Dict.values_set_perm volume.blocks offset
            (⟨offset, blockId, fingerprint, size⟩ : VolumeBlock)
        have same := (added.symm.trans replaced).cons_inv
        exact same.map VolumeBlock.reference
    | some block =>
        exact (Dict.values_perm_erase old).map VolumeBlock.reference
  · exact (Dict.values_set_perm volume.blocks offset _).map
      VolumeBlock.reference

/-- Up to order, a recorded write replaces the reference at its offset. -/
theorem live_recordWrite
    {middle : StorageController}
    (sameVolumes : middle.volumes = controller.volumes)
    {volumeId : String} {volume : Volume}
    (found : controller.volumes.get? volumeId = some volume)
    {offset : ℤ} {data : Bytes}
    (fits : Fits controller volumeId offset data)
    (reduction : ReductionResult) :
    ∃ rest,
      controller.live.Perm (controller.displaced volumeId offset ++ rest) ∧
        (middle.recordWrite volumeId offset data reduction).2.live.Perm
          ((reduction.blockId, reduction.dedupeResult.fingerprint) ::
            rest) := by
  have middleFound : middle.volumes.get? volumeId = some volume := by
    rw [sameVolumes]
    exact found
  have recorded := recordWrite_volumes middleFound offset data reduction
  rw [if_neg ((fits_iff found offset data).mp fits), sameVolumes]
    at recorded
  rcases
    mapBlock_references volume offset reduction.blockId
      reduction.dedupeResult.fingerprint data.length
      reduction.storedSize with
    ⟨rest, old, new⟩
  refine
    ⟨rest ++ (controller.volumes.erase volumeId).values.flatMap
      Volume.references, ?_, ?_⟩
  · have values :=
      (Dict.values_perm_erase found).flatMap_right Volume.references
    rw [List.flatMap_cons] at values
    rw [displaced, mapped_of_volume found, ← List.append_assoc]
    exact values.trans (old.append_right _)
  · rw [live, recorded]
    have values :=
      (Dict.values_set_perm controller.volumes volumeId
        (VolumeManager.mapBlock volume offset reduction.blockId
          reduction.dedupeResult.fingerprint data.length
          reduction.storedSize)).flatMap_right Volume.references
    rw [List.flatMap_cons] at values
    rw [← List.cons_append]
    exact values.trans (new.append_right _)

/-- A write that does not fit leaves the live references alone. -/
theorem live_recordWrite_exceeds
    {middle : StorageController}
    (sameVolumes : middle.volumes = controller.volumes)
    {volumeId : String} {volume : Volume}
    (found : controller.volumes.get? volumeId = some volume)
    {offset : ℤ} {data : Bytes}
    (exceeds : ¬ Fits controller volumeId offset data)
    (reduction : ReductionResult) :
    (middle.recordWrite volumeId offset data reduction).2.live =
      controller.live := by
  have middleFound : middle.volumes.get? volumeId = some volume := by
    rw [sameVolumes]
    exact found
  have recorded := recordWrite_volumes middleFound offset data reduction
  rw [if_pos (not_not.mp ((fits_iff found offset data).not.mp exceeds)),
    sameVolumes] at recorded
  rw [live, recorded, live]

/-! ## The dedupe table after a deletion -/

/-- What is left of an entry when references of its fingerprint are dropped. -/
def DedupEntry.without (entry : DedupEntry) (dropped : Nat) :
    Option DedupEntry :=
  if dropped = 0 then
    some entry
  else if entry.referenceCount ≤ dropped then
    none
  else
    some { entry with referenceCount := entry.referenceCount - dropped }

theorem DedupEntry.without_eq_none
    {entry : DedupEntry} {dropped : Nat}
    (gone : DedupEntry.without entry dropped = none) :
    entry.referenceCount ≤ dropped := by
  rw [DedupEntry.without] at gone
  split at gone
  · cases gone
  · split at gone
    · assumption
    · cases gone

theorem DedupEntry.without_eq_some
    {entry left : DedupEntry} {dropped : Nat}
    (kept : DedupEntry.without entry dropped = some left) :
    left.blockId = entry.blockId ∧
      left.referenceCount = entry.referenceCount - dropped ∧
      (0 < dropped → dropped < entry.referenceCount) := by
  rw [DedupEntry.without] at kept
  split at kept
  · rename_i none
    cases kept
    simp [none]
  · split at kept
    · cases kept
    · rename_i more
      cases kept
      exact ⟨rfl, rfl, fun _ => Nat.lt_of_not_le more⟩

/-- Dropping references twice is dropping them all. -/
theorem DedupEntry.without_without
    (entry : DedupEntry) (first second : Nat) :
    ((DedupEntry.without entry first).bind fun left =>
        DedupEntry.without left second) =
      DedupEntry.without entry (first + second) := by
  by_cases none : first = 0
  · simp [DedupEntry.without, none]
  · by_cases drained : entry.referenceCount ≤ first
    · have stillDrained : entry.referenceCount ≤ first + second :=
        Nat.le_trans drained (Nat.le_add_right first second)
      simp [DedupEntry.without, none, drained, stillDrained]
    · simp only [DedupEntry.without, none, drained, if_false,
        Option.bind_some, Nat.add_eq_zero_iff, false_and]
      by_cases noMore : second = 0
      · simp [noMore, drained]
      · simp only [noMore, if_false, Nat.sub_sub]
        split <;> split <;> first | rfl | omega

/-- Dropping one reference takes it from the entry of its fingerprint. -/
theorem dereferenceBlock_get?
    (engine : DeduplicationEngine) (dropped fingerprint : String) :
    (engine.dereferenceBlock dropped).2.dedupeTable.get? fingerprint =
      (engine.dedupeTable.get? fingerprint).bind fun entry =>
        DedupEntry.without entry
          (if dropped = fingerprint then 1 else 0) := by
  by_cases same : dropped = fingerprint
  · subst same
    rw [dereferenceBlock_get?_self]
    simp [DedupEntry.without]
  · rw [dereferenceBlock_get?_ne _ (Ne.symm same)]
    simp [DedupEntry.without, same]

/-- Each entry loses the references of its fingerprint. -/
theorem releaseBlocks_get?
    (controller : StorageController) (blocks : List VolumeBlock)
    (fingerprint : String) :
    (controller.releaseBlocks blocks).table.get? fingerprint =
      (controller.table.get? fingerprint).bind fun entry =>
        DedupEntry.without entry
          (keyCount (blocks.map VolumeBlock.reference) fingerprint) := by
  induction blocks generalizing controller with
  | nil =>
      simp [releaseBlocks, DedupEntry.without]
  | cons block rest induction =>
      have frame :
          (controller.releaseBlock block).table =
            (controller.purity.deduplication.dereferenceBlock
              block.fingerprint).2.dedupeTable := by
        simp only [StorageController.releaseBlock, PurityEngine.delete]
        split <;> rfl
      rw [releaseBlocks, induction, frame, dereferenceBlock_get?,
        Option.bind_assoc, List.map_cons, keyCount_cons, Nat.add_comm]
      congr 1
      funext entry
      exact DedupEntry.without_without entry _ _

theorem deleteVolume_get?
    {volumeId : String} {volume : Volume}
    (found : controller.volumes.get? volumeId = some volume)
    (fingerprint : String) :
    (controller.deleteVolume volumeId).2.table.get? fingerprint =
      (controller.table.get? fingerprint).bind fun entry =>
        DedupEntry.without entry
          (keyCount volume.references fingerprint) := by
  have live :
      controller.volumeManager.getVolume volumeId = some volume := found
  have released :=
    releaseBlocks_get? controller volume.blocks.values fingerprint
  simp only [StorageController.deleteVolume, live]
  exact released

/-- Each count falls by the number of references of the volume. -/
theorem deleteVolume_references
    (wellFormed : controller.backend.WellFormed)
    {volumeId : String} {volume : Volume}
    (found : controller.volumes.get? volumeId = some volume)
    (fingerprint : String) :
    (controller.deleteVolume volumeId).2.references fingerprint =
      controller.references fingerprint -
        keyCount volume.references fingerprint := by
  have live :
      controller.volumeManager.getVolume volumeId = some volume := found
  have released :=
    (releaseBlocks_spec wellFormed volume.blocks.values).1
  have drained := congrFun released fingerprint
  rw [drain_counts] at drained
  simp only [StorageController.deleteVolume, live]
  exact drained

end Live

end StorageAppliance.Core
