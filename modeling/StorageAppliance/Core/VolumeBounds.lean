import StorageAppliance.Core.VolumeChanges

/-!
# Blocks inside their volume

Of all calls only a write looks at the size of the volume, and only at its end:
a negative offset that is a multiple of the block size passes.  A resize and a
clone cannot move a block out of its volume.  A restore maps the blocks of the
snapshot into a volume of any size.
-/

namespace StorageAppliance.Core

open StorageAppliance.Python
open StorageAppliance.Library
open StorageAppliance.Storage
open StorageAppliance.Purity
open StorageController

/-- Every block of the map lies between zero and a size. -/
def Inside (blocks : Dict ℤ VolumeBlock) (sizeBytes : ℤ) : Prop :=
  ∀ offset block,
    blocks.get? offset = some block →
      0 ≤ block.offset ∧ block.offset + block.size ≤ sizeBytes

/-- Every block of every live volume lies inside it. -/
def BlocksInside (controller : StorageController) : Prop :=
  ∀ volumeId volume,
    controller.volumes.get? volumeId = some volume →
      Inside volume.blocks volume.sizeBytes

/--
A recorded write has an offset that is not negative, and a restore finds a
volume that the blocks of the snapshot fit into.
-/
def KeepsBounds (platform : Platform) (before : StorageController) :
    Call → Prop
  | .write volumeId offset data =>
      ∀ volume,
        Records platform before volumeId volume offset data → 0 ≤ offset
  | .restoreSnapshot snapshotId target =>
      ∀ snapshot,
        before.snapshots.get? snapshotId = some snapshot →
          if target.getD "" = "" then
            Inside snapshot.blocks (restoredSize snapshot)
          else
            ∀ volume,
              before.volumes.get? (target.getD "") = some volume →
                Inside snapshot.blocks volume.sizeBytes
  | _ => True

theorem inside_empty (sizeBytes : ℤ) :
    Inside Dict.empty sizeBytes := by
  intro offset block found
  simp at found

theorem Inside.mono
    {blocks : Dict ℤ VolumeBlock} {smaller larger : ℤ}
    (inside : Inside blocks smaller) (grows : smaller ≤ larger) :
    Inside blocks larger := by
  intro offset block found
  have bounds := inside offset block found
  exact ⟨bounds.1, bounds.2.trans grows⟩

/-- A map with one more block is inside if the block is. -/
theorem Inside.mapBlock
    {volume : Volume} (inside : Inside volume.blocks volume.sizeBytes)
    {offset size : ℤ} (nonneg : 0 ≤ offset)
    (within : offset + size ≤ volume.sizeBytes)
    (blockId fingerprint : String) (physicalSize : ℤ) :
    Inside
      (VolumeManager.mapBlock volume offset blockId fingerprint size
        physicalSize).blocks
      volume.sizeBytes := by
  intro other block found
  rw [mapBlock_get?] at found
  split at found
  · cases found
    exact ⟨nonneg, within⟩
  · exact inside other block found

section Steps

variable
    {platform : Platform}
    {controller : StorageController}

theorem BlocksInside.step
    (inside : BlocksInside controller) {call : Call}
    (keeps : KeepsBounds platform controller call) :
    BlocksInside (controller.step platform call) := by
  intro volumeId volume found
  rcases volume_step_cases found with old | ⟨makes, _⟩
  · exact inside volumeId volume old
  · cases makes with
    | created blank =>
        rw [blank.blocks]
        exact inside_empty _
    | adjusted live blocks _ _ size =>
        rw [blocks]
        exact (inside _ _ live).mono size
    | cloned live blocks _ _ size =>
        rw [blocks, size]
        exact inside _ _ live
    | written records =>
        exact
          (inside _ _ records.found).mapBlock (keeps _ records)
            records.within _ _ _
    | @restored _ _ _ old taken named live =>
        have fits := keeps _ taken
        rw [if_neg named] at fits
        exact fits old live
    | recovered taken unnamed _ size =>
        have fits := keeps _ taken
        rw [if_pos unnamed, ← size] at fits
        exact fits

/-- A call that keeps the blocks inside meets the condition. -/
theorem keepsBounds_of_step
    {call : Call}
    (inside : BlocksInside (controller.step platform call)) :
    KeepsBounds platform controller call := by
  cases call with
  | write volumeId offset data =>
      intro volume records
      rcases write_live records with ⟨blockId, fingerprint, live⟩
      have mapped := mapBlock_get? volume offset blockId fingerprint
        data.length (storedSize platform controller.purity data) offset
      rw [if_pos rfl] at mapped
      exact (inside volumeId _ live offset _ mapped).1
  | restoreSnapshot snapshotId target =>
      intro snapshot taken
      by_cases unnamed : target.getD "" = ""
      · rw [if_pos unnamed]
        rcases recovered_live taken unnamed with ⟨volume, _, size, live⟩
        rw [← size]
        exact inside _ _ live
      · rw [if_neg unnamed]
        intro volume found
        exact inside _ _ (restored_live taken unnamed found)
  | _ => trivial

end Steps

/-! ## Every run -/

/--
The blocks of every live volume lie inside it after each call of a run, under
any settings, exactly if no recorded write of the run has a negative offset and
the blocks of every restored snapshot fit into the volume they are restored to.
-/
theorem blocksInside_after_each_iff
    (platform : Platform) (settings : Settings) (calls : List Call) :
    AllSteps (StorageController.step platform)
        (fun controller call =>
          BlocksInside (controller.step platform call))
        (StorageController.new settings) calls ↔
      AllSteps (StorageController.step platform) (KeepsBounds platform)
        (StorageController.new settings) calls := by
  apply
    @allSteps_property_iff _ _ _ _ (fun _ => True) BlocksInside
  · exact fun _ _ _ _ => trivial
  · exact fun controller call _ inside =>
      ⟨keepsBounds_of_step, inside.step⟩
  · trivial
  · intro volumeId volume found
    rw [volumes_new] at found
    cases found

/-- A block at 4096 is restored into a volume of that size. -/
def shrunkRun : List Call :=
  [createGibibyte "large", .createVolume "small" (1 / 262144) "" Dict.empty,
    .write "0" 4096 [1, 2],
    .createSnapshot "0" none "" "20240101-000000",
    .restoreSnapshot "3" (some "1")]

theorem block_outside_after_restore :
    ¬ BlocksInside (reached storingPlatform shrunkRun) := by
  have small :
      ((reached storingPlatform shrunkRun).volumes.get? "1").map
          (fun volume =>
            (volume.sizeBytes,
              (volume.blocks.get? 4096).map fun block =>
                (block.offset, block.size))) =
        some (4096, some (4096, 2)) := by
    decide +kernel
  rw [Option.map_eq_some_iff] at small
  rcases small with ⟨volume, found, values⟩
  rw [Prod.mk.injEq, Option.map_eq_some_iff] at values
  rcases values with ⟨size, block, mapped, extent⟩
  rw [Prod.mk.injEq] at extent
  intro inside
  have bounds := (inside "1" volume found 4096 block mapped).2
  omega

end StorageAppliance.Core
