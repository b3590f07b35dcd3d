import StorageAppliance.Core.VolumeChanges

/-!
# What a call leaves alone

A call changes the file of a stored block only by deleting a volume that
discards the block, and it changes what a volume maps at an offset only if it
writes there, restores into the volume or deletes it.  Both frame rules need the
invariant of the reachable states: a new block or volume takes an identifier
that is not in use.
-/

namespace StorageAppliance.Core

open StorageAppliance.Python
open StorageAppliance.Library
open StorageAppliance.Storage
open StorageAppliance.Purity
open StorageController

/-- The call deletes a volume that discards the block. -/
def DiscardedBy (controller : StorageController) (call : Call)
    (blockId : String) : Prop :=
  match call with
  | .deleteVolume volumeId => Discards controller volumeId blockId
  | _ => False

/-- The call may change what the volume maps at the offset. -/
def StorageController.Call.Remaps (call : Call) (volumeId : String)
    (offset : ℤ) : Prop :=
  match call with
  | .write target targetOffset _ =>
      target = volumeId ∧ targetOffset = offset
  | .deleteVolume target => target = volumeId
  | .restoreSnapshot _ target => target = some volumeId
  | _ => False

section Frames

variable
    {platform : Platform}
    {controller : StorageController}

/-! ## Files -/

/-- Retrieving a block changes no file. -/
theorem retrieve_files
    (platform : Platform) (engine : PurityEngine) (backend : FileBackend)
    (blockId : String) :
    (engine.retrieve platform backend blockId).2.files =
      backend.files := by
  simp only [PurityEngine.retrieve, FileBackend.readBlock]
  cases backend.files.get? blockId with
  | none => rfl
  | some stored =>
      cases unwrapped : PurityEngine.unwrap platform stored with
      | error exception => simp [unwrapped]
      | ok data => simp [unwrapped]

theorem read_files (volumeId : String) (offset : ℤ) :
    (controller.read platform volumeId offset).2.files =
      controller.files := by
  rw [StorageController.read]
  split
  · rfl
  · rename_i block _
    have same :=
      retrieve_files platform controller.purity controller.backend
        block.blockId
    split <;> rename_i equal <;> rw [equal] at same <;> exact same

/-- Taking a reference keeps the files that are in use. -/
theorem Referenced.files
    (lawful : platform.Lawful) (sound : Sound platform controller)
    {data : Bytes} {result : ReductionResult} {after : StorageController}
    (referenced : Referenced platform controller data result after)
    {blockId : String}
    (drawn : Drawn platform controller.uuidsDrawn blockId) :
    after.files.get? blockId = controller.files.get? blockId := by
  cases referenced with
  | duplicate => rfl
  | @stored _ stored =>
      have fresh := sound.next_fresh_metadata lawful
      have distinct := drawn.ne_next lawful
      exact (writeBlock_files platform stored fresh blockId).trans
        (if_neg distinct)

/-- A write keeps the files that are in use. -/
theorem write_files
    (lawful : platform.Lawful) (sound : Sound platform controller)
    (volumeId : String) (offset : ℤ) (data : Bytes)
    {blockId : String}
    (drawn : Drawn platform controller.uuidsDrawn blockId) :
    (controller.write platform volumeId offset data).2.files.get? blockId =
      controller.files.get? blockId := by
  have written :=
    write_cases lawful sound.settings sound.standard volumeId offset data
  generalize
    (controller.write platform volumeId offset data).1 = answer,
    (controller.write platform volumeId offset data).2 = after
    at written
  cases written with
  | unknown => rfl
  | misaligned => rfl
  | refused => rfl
  | accepted _ _ _ referenced =>
      rw [recordWrite_frame]
      exact referenced.files lawful sound drawn

theorem restoreSnapshot_backend
    (snapshotId : String) (target : Option String) :
    (controller.restoreSnapshot platform snapshotId target).2.backend =
      controller.backend := by
  rw [StorageController.restoreSnapshot]
  split
  · rfl
  · dsimp only
    split
    · split <;> rfl
    · rfl

/-- A call removes the file of a discarded block. -/
theorem files_step_discarded
    (sound : Sound platform controller) {call : Call} {blockId : String}
    (discarded : DiscardedBy controller call blockId) :
    (controller.step platform call).files.get? blockId = none := by
  cases call with
  | deleteVolume volumeId =>
      exact (deleteVolume_spec sound.wellFormed volumeId).2.1 blockId
        discarded
  | _ => exact discarded.elim

/-- A call keeps every other file in use. -/
theorem files_step_kept
    (lawful : platform.Lawful) (sound : Sound platform controller)
    {call : Call} {blockId : String}
    (drawn : Drawn platform controller.uuidsDrawn blockId)
    (kept : ¬ DiscardedBy controller call blockId) :
    (controller.step platform call).files.get? blockId =
      controller.files.get? blockId := by
  cases call with
  | createVolume => rfl
  | updateVolume => rfl
  | resizeVolume => rfl
  | deleteVolume volumeId =>
      exact (deleteVolume_spec sound.wellFormed volumeId).2.2.1 blockId
        kept
  | cloneVolume sourceId newName description =>
      simp only [StorageController.step, StorageController.cloneVolume]
      split <;> rfl
  | write volumeId offset data =>
      exact write_files lawful sound volumeId offset data drawn
  | read volumeId offset =>
      exact congrArg (Dict.get? · blockId) (read_files volumeId offset)
  | createSnapshot volumeId name description timestamp =>
      simp only [StorageController.step, StorageController.createSnapshot]
      split <;> rfl
  | deleteSnapshot snapshotId =>
      simp only [StorageController.step, StorageController.deleteSnapshot]
      split <;> rfl
  | restoreSnapshot snapshotId target =>
      exact congrArg (fun backend => backend.files.get? blockId)
        (restoreSnapshot_backend snapshotId target)

/-! ## Block maps -/

theorem mapped_of_volumes
    {after : StorageController} {volumeId : String}
    (same : after.volumes.get? volumeId = controller.volumes.get? volumeId)
    (offset : ℤ) :
    after.mapped volumeId offset = controller.mapped volumeId offset := by
  simp only [mapped, VolumeManager.getBlock, VolumeManager.getVolume]
  rw [show after.volumeManager.volumes.get? volumeId = _ from same]

theorem mapped_of_volume
    {volumeId : String} {volume : Volume}
    (found : controller.volumes.get? volumeId = some volume)
    (offset : ℤ) :
    controller.mapped volumeId offset = volume.blocks.get? offset := by
  simp only [mapped, VolumeManager.getBlock, VolumeManager.getVolume]
  rw [show controller.volumeManager.volumes.get? volumeId = _ from found]

theorem mapped_of_absent
    {volumeId : String}
    (absent : controller.volumes.get? volumeId = none) (offset : ℤ) :
    controller.mapped volumeId offset = none := by
  simp only [mapped, VolumeManager.getBlock, VolumeManager.getVolume]
  rw [show controller.volumeManager.volumes.get? volumeId = _ from absent]

/-- Rewriting a volume without touching its blocks changes no mapping. -/
theorem mapped_setVolume
    {after : StorageController} {target : String} {old new : Volume}
    (found : controller.volumes.get? target = some old)
    (changed : after.volumes = controller.volumes.set target new)
    {volumeId : String} {offset : ℤ}
    (same :
      volumeId = target → new.blocks.get? offset = old.blocks.get? offset) :
    after.mapped volumeId offset = controller.mapped volumeId offset := by
  by_cases hit : volumeId = target
  · subst hit
    have newFound : after.volumes.get? volumeId = some new := by
      rw [changed]
      exact Dict.get?_set_self _ _ _
    rw [mapped_of_volume newFound, mapped_of_volume found]
    exact same rfl
  · apply mapped_of_volumes
    rw [changed]
    exact Dict.get?_set_ne _ _ hit

/-- Adding a volume under a fresh identifier changes no mapping. -/
theorem mapped_addVolume
    (lawful : platform.Lawful)
    {after : StorageController} {new : Volume}
    (changed :
      after.volumes =
        controller.volumes.set (controller.nextUuid platform) new)
    {volumeId : String}
    (drawn : Drawn platform controller.uuidsDrawn volumeId)
    (offset : ℤ) :
    after.mapped volumeId offset = controller.mapped volumeId offset := by
  apply mapped_of_volumes
  rw [changed]
  exact Dict.get?_set_ne _ _ (drawn.ne_next lawful)

/-- Recording a write changes no mapping but the one it targets. -/
theorem mapped_recordWrite
    {middle : StorageController}
    (sameVolumes : middle.volumes = controller.volumes)
    {target : String} {old : Volume}
    (found : controller.volumes.get? target = some old)
    (targetOffset : ℤ) (data : Bytes) (reduction : ReductionResult)
    {volumeId : String} {offset : ℤ}
    (apart : ¬ (target = volumeId ∧ targetOffset = offset)) :
    (middle.recordWrite target targetOffset data
        reduction).2.mapped volumeId offset =
      controller.mapped volumeId offset := by
  have middleFound : middle.volumes.get? target = some old := by
    rw [sameVolumes]
    exact found
  have recorded :=
    recordWrite_volumes middleFound targetOffset data reduction
  rw [sameVolumes] at recorded
  split at recorded
  · apply mapped_of_volumes
    rw [recorded]
  · apply mapped_setVolume found recorded
    intro hit
    apply Dict.get?_set_ne
    intro sameOffset
    exact apart ⟨hit.symm, sameOffset.symm⟩

theorem mapped_write
    (lawful : platform.Lawful) (sound : Sound platform controller)
    {target volumeId : String} {targetOffset offset : ℤ} {data : Bytes}
    (apart : ¬ (target = volumeId ∧ targetOffset = offset)) :
    (controller.write platform target targetOffset
        data).2.mapped volumeId offset =
      controller.mapped volumeId offset := by
  have written :=
    write_cases lawful sound.settings sound.standard target
      targetOffset data
  generalize
    (controller.write platform target targetOffset data).1 = answer,
    (controller.write platform target targetOffset data).2 = after
    at written
  cases written with
  | unknown => rfl
  | misaligned => rfl
  | refused => rfl
  | accepted found _ _ referenced =>
      exact mapped_recordWrite referenced.volumes found _ _ _ apart

/-- A restore changes the mappings of the volume it names, if any. -/
theorem mapped_restoreSnapshot
    (lawful : platform.Lawful)
    {snapshotId volumeId : String} {target : Option String} {offset : ℤ}
    (drawn : Drawn platform controller.uuidsDrawn volumeId)
    (apart : target ≠ some volumeId) :
    (controller.restoreSnapshot platform snapshotId
        target).2.mapped volumeId offset =
      controller.mapped volumeId offset := by
  simp only [StorageController.restoreSnapshot]
  split
  · rfl
  · split
    · rename_i named
      split
      · rfl
      · rename_i old found
        apply mapped_setVolume found rfl
        intro hit
        cases target with
        | none => exact (named rfl).elim
        | some target => exact (apart (congrArg some hit.symm)).elim
    · apply mapped_of_volumes
      have distinct := drawn.ne_next lawful
      exact (Dict.get?_set_ne _ _ distinct).trans
        (Dict.get?_set_ne _ _ distinct)

/-- A call changes no mapping but those it targets. -/
theorem mapped_step
    (lawful : platform.Lawful) (sound : Sound platform controller)
    {call : Call} {volumeId : String} {offset : ℤ}
    (drawn : Drawn platform controller.uuidsDrawn volumeId)
    (apart : ¬ call.Remaps volumeId offset) :
    (controller.step platform call).mapped volumeId offset =
      controller.mapped volumeId offset := by
  cases call with
  | createVolume name sizeGb description tags =>
      exact mapped_addVolume lawful rfl drawn offset
  | updateVolume target name description tags =>
      simp only [StorageController.step, VolumeManager.updateVolume]
      split
      · rfl
      · rename_i old found
        apply mapped_setVolume found rfl
        intro _
        rfl
  | resizeVolume target newSizeBytes =>
      simp only [StorageController.step, VolumeManager.resizeVolume]
      split
      · rfl
      · rename_i old found
        split
        · rfl
        · apply mapped_setVolume found rfl
          intro _
          rfl
  | deleteVolume target =>
      apply mapped_of_volumes
      have removed :=
        (deleteVolume_spec sound.wellFormed target).2.2.2 volumeId
      exact removed.trans (if_neg fun same => apart same.symm)
  | cloneVolume sourceId newName description =>
      simp only [StorageController.step, StorageController.cloneVolume]
      split
      · rfl
      · rename_i source found
        apply mapped_of_volumes
        simp only [VolumeManager.cloneVolume, found, createVolume_volumes]
        have distinct := drawn.ne_next lawful
        exact (Dict.get?_set_ne _ _ distinct).trans
          (Dict.get?_set_ne _ _ distinct)
  | write => exact mapped_write lawful sound apart
  | read =>
      apply mapped_of_volumes
      rw [volumes, volumeManager_step]
  | createSnapshot =>
      apply mapped_of_volumes
      rw [volumes, volumeManager_step]
  | deleteSnapshot =>
      apply mapped_of_volumes
      rw [volumes, volumeManager_step]
  | restoreSnapshot =>
      exact mapped_restoreSnapshot lawful drawn apart

end Frames

end StorageAppliance.Core
