import StorageAppliance.Library.DictSum
import StorageAppliance.Core.VolumeChanges

/-!
# The usage counters of a volume

`used_bytes` is the sum of the sizes in the block map after every call, because
a restore replaces both together.  `logical_bytes` follows a write and a clone
in the same way, and a restore leaves it as it was.  So the two counters agree
exactly as long as every restore finds a volume whose logical size is the usage
of the snapshot, which for a new volume means an empty snapshot.
-/

namespace StorageAppliance.Core

open StorageAppliance.Python
open StorageAppliance.Library
open StorageAppliance.Storage
open StorageAppliance.Purity
open StorageController

/-- The usage is the sum of the sizes in the map, none of them negative. -/
structure Measures (blocks : Dict ℤ VolumeBlock) (usedBytes : ℤ) :
    Prop where
  total : usedBytes = blocks.sumBy VolumeBlock.size
  sizes : ∀ offset block, blocks.get? offset = some block → 0 ≤ block.size

/-- Every live volume and every live snapshot is measured by its usage. -/
structure Measured (controller : StorageController) : Prop where
  volumes :
    ∀ volumeId volume,
      controller.volumes.get? volumeId = some volume →
        Measures volume.blocks volume.usedBytes
  snapshots :
    ∀ snapshotId snapshot,
      controller.snapshots.get? snapshotId = some snapshot →
        Measures snapshot.blocks snapshot.usedBytes

/-- Both counters of every live volume are the sum of its block sizes. -/
def UsageExact (controller : StorageController) : Prop :=
  ∀ volumeId volume,
    controller.volumes.get? volumeId = some volume →
      volume.usedBytes = volume.logicalBytes ∧
        volume.logicalBytes = volume.blocks.sumBy VolumeBlock.size ∧
        0 ≤ volume.usedBytes ∧ 0 ≤ volume.logicalBytes

/-- A restore finds a volume whose logical size is the restored usage. -/
def KeepsUsage (before : StorageController) : Call → Prop
  | .restoreSnapshot snapshotId target =>
      ∀ snapshot,
        before.snapshots.get? snapshotId = some snapshot →
          if target.getD "" = "" then
            snapshot.usedBytes = 0
          else
            ∀ volume,
              before.volumes.get? (target.getD "") = some volume →
                volume.logicalBytes = snapshot.usedBytes
  | _ => True

/-! ## What is measured -/

theorem measures_empty : Measures Dict.empty 0 where
  total := rfl
  sizes := by
    intro offset block found
    simp at found

theorem Measures.nonneg
    {blocks : Dict ℤ VolumeBlock} {usedBytes : ℤ}
    (measures : Measures blocks usedBytes) :
    0 ≤ usedBytes := by
  rw [measures.total]
  exact Dict.sumBy_nonneg measures.sizes

/-- Mapping a block replaces the size it overwrites. -/
theorem Measures.mapBlock
    {volume : Volume} (measures : Measures volume.blocks volume.usedBytes)
    (offset : ℤ) (blockId fingerprint : String)
    {size : ℤ} (nonneg : 0 ≤ size) (physicalSize : ℤ) :
    Measures
      (VolumeManager.mapBlock volume offset blockId fingerprint size
        physicalSize).blocks
      (VolumeManager.mapBlock volume offset blockId fingerprint size
        physicalSize).usedBytes where
  total := by
    simp only [VolumeManager.mapBlock, VolumeManager.overwrittenSize]
    cases found : volume.blocks.get? offset with
    | none =>
        rw [Dict.sumBy_set_of_absent _ found, measures.total]
        dsimp only
        omega
    | some old =>
        rw [Dict.sumBy_set found, measures.total]
  sizes := by
    intro other block found
    rw [mapBlock_get?] at found
    split at found
    · cases found
      exact nonneg
    · exact measures.sizes other block found

section Steps

variable
    {platform : Platform}
    {controller : StorageController}

theorem measured_new (settings : Settings) :
    Measured (StorageController.new settings) where
  volumes := by
    intro volumeId volume found
    rw [volumes_new] at found
    cases found
  snapshots := by
    intro snapshotId snapshot found
    rw [snapshots_new] at found
    cases found

/-- Every call keeps volumes and snapshots measured. -/
theorem Measured.step
    (measured : Measured controller) (call : Call) :
    Measured (controller.step platform call) := by
  have kept :
      ∀ volume,
        Made platform controller call volume →
          Measures volume.blocks volume.usedBytes := by
    intro volume makes
    cases makes with
    | created blank =>
        rw [blank.blocks, blank.usedBytes]
        exact measures_empty
    | adjusted found blocks usedBytes =>
        rw [blocks, usedBytes]
        exact measured.volumes _ _ found
    | cloned found blocks usedBytes =>
        rw [blocks, usedBytes]
        exact measured.volumes _ _ found
    | written records blockId fingerprint =>
        exact
          (measured.volumes _ _ records.found).mapBlock _ _ _
            (Int.natCast_nonneg _) _
    | restored taken => exact measured.snapshots _ _ taken
    | recovered taken => exact measured.snapshots _ _ taken
  have both :=
    @step_keeps platform controller
      (fun volume => Measures volume.blocks volume.usedBytes)
      (fun snapshot => Measures snapshot.blocks snapshot.usedBytes) call
      measured.volumes measured.snapshots kept
      (fun _ _ measures => measures)
      (fun snapshot volume measures copies => by
        rw [copies.blocks, copies.usedBytes]
        exact measures)
  exact ⟨both.1, both.2⟩

/-- Of a measured volume only the logical size can be wrong. -/
theorem Measured.usageExact_iff (measured : Measured controller) :
    UsageExact controller ↔
      ∀ volumeId volume,
        controller.volumes.get? volumeId = some volume →
          volume.logicalBytes = volume.usedBytes := by
  constructor
  · intro exact volumeId volume found
    exact (exact volumeId volume found).1.symm
  · intro agree volumeId volume found
    have same := agree volumeId volume found
    have measures := measured.volumes volumeId volume found
    refine ⟨same.symm, same.trans measures.total, measures.nonneg, ?_⟩
    rw [same]
    exact measures.nonneg

/-- A call keeps the counters exact if its restore finds the right volume. -/
theorem UsageExact.step
    (measured : Measured controller) (exact : UsageExact controller)
    {call : Call} (keeps : KeepsUsage controller call) :
    UsageExact (controller.step platform call) := by
  rw [measured.usageExact_iff] at exact
  rw [(measured.step call).usageExact_iff]
  intro volumeId volume found
  rcases volume_step_cases found with old | ⟨makes, _⟩
  · exact exact volumeId volume old
  · cases makes with
    | created blank => rw [blank.logicalBytes, blank.usedBytes]
    | adjusted live _ usedBytes logicalBytes =>
        rw [logicalBytes, usedBytes]
        exact exact _ _ live
    | cloned live _ usedBytes logicalBytes =>
        rw [logicalBytes, usedBytes]
        exact exact _ _ live
    | written records =>
        have same := exact _ _ records.found
        simp only [VolumeManager.mapBlock, same]
    | @restored _ _ _ old taken named live =>
        have fits := keeps _ taken
        rw [if_neg named] at fits
        exact fits old live
    | recovered taken unnamed blank =>
        have empty := keeps _ taken
        rw [if_pos unnamed] at empty
        exact blank.logicalBytes.trans empty.symm

/-- Only such calls keep them exact. -/
theorem keepsUsage_of_step
    (measured : Measured controller) {call : Call}
    (exact : UsageExact (controller.step platform call)) :
    KeepsUsage controller call := by
  rw [(measured.step call).usageExact_iff] at exact
  cases call with
  | restoreSnapshot snapshotId target =>
      intro snapshot taken
      by_cases unnamed : target.getD "" = ""
      · rw [if_pos unnamed]
        rcases recovered_live taken unnamed with ⟨volume, blank, _, live⟩
        have same := exact _ _ live
        exact same.symm.trans blank.logicalBytes
      · rw [if_neg unnamed]
        intro volume found
        exact exact _ _ (restored_live taken unnamed found)
  | _ => trivial

end Steps

/-! ## Every run -/

/--
The counters of every live volume are exact after each call of a run, under any
settings, exactly if every restore of the run finds a volume whose logical size
is the usage of its snapshot.
-/
theorem usageExact_after_each_iff
    (platform : Platform) (settings : Settings) (calls : List Call) :
    AllSteps (StorageController.step platform)
        (fun controller call =>
          UsageExact (controller.step platform call))
        (StorageController.new settings) calls ↔
      AllSteps (StorageController.step platform) KeepsUsage
        (StorageController.new settings) calls := by
  apply
    @allSteps_property_iff _ _ _ _ Measured UsageExact
  · exact fun controller call measured _ => measured.step call
  · exact fun controller call measured exact =>
      ⟨keepsUsage_of_step measured, exact.step measured⟩
  · exact measured_new settings
  · intro volumeId volume found
    rw [volumes_new] at found
    cases found

/-- A volume of two bytes, and its snapshot restored into a new volume. -/
def restoredRun : List Call :=
  [createGibibyte "volume", .write "0" 0 [1, 2],
    .createSnapshot "0" none "" "20240101-000000",
    .restoreSnapshot "2" none]

theorem usage_lost_by_restore :
    ¬ UsageExact (reached storingPlatform restoredRun) := by
  have counters :
      ((reached storingPlatform restoredRun).volumes.get? "3").map
          (fun volume => (volume.usedBytes, volume.logicalBytes)) =
        some (2, 0) := by
    decide +kernel
  rw [Option.map_eq_some_iff] at counters
  rcases counters with ⟨volume, found, values⟩
  rw [Prod.mk.injEq] at values
  intro exact
  have same := (exact "3" volume found).1
  omega

end StorageAppliance.Core
