import StorageAppliance.Library.DisjointSets
import StorageAppliance.Core.UsageCounters
import StorageAppliance.Core.VolumeBounds

/-!
# Overlapping blocks

A block map is keyed by the offset a block starts at, and a block may be longer
than the distance to the next key.  Writing at an offset replaces the block that
starts there and no other, so a write can start inside an earlier block or reach
over a later one.  Clones, snapshots and restores copy whole maps and cannot
make an overlap.

Blocks that do not overlap and lie inside their volume use no more than its
size, by the bound on disjoint intervals.
-/

namespace StorageAppliance.Core

open StorageAppliance.Python
open StorageAppliance.Library
open StorageAppliance.Storage
open StorageAppliance.Purity
open StorageController

/-- Where a block starts and how long it is. -/
def VolumeBlock.span (block : VolumeBlock) : ℤ × ℤ :=
  (block.offset, block.size)

/-- Blocks at different offsets have no byte in common. -/
def Apart (blocks : Dict ℤ VolumeBlock) : Prop :=
  ∀ first second left right,
    blocks.get? first = some left → blocks.get? second = some right →
      first ≠ second → Disjoint (extent left.span) (extent right.span)

/--
The blocks of every live volume are disjoint, and if they lie inside it they use
no more than its size.
-/
def NoOverlap (controller : StorageController) : Prop :=
  ∀ volumeId volume,
    controller.volumes.get? volumeId = some volume →
      Apart volume.blocks ∧
        (Inside volume.blocks volume.sizeBytes →
          volume.usedBytes ≤ volume.sizeBytes)

/--
A recorded write is disjoint from the blocks that start at other offsets, and no
volume is created with a negative size.
-/
def KeepsApart (platform : Platform) (before : StorageController) :
    Call → Prop
  | .createVolume _ sizeGb _ _ =>
      0 ≤ truncate (sizeGb * 1024 * 1024 * 1024)
  | .write volumeId offset data =>
      ∀ volume,
        Records platform before volumeId volume offset data →
          ∀ other block,
            volume.blocks.get? other = some block → offset ≠ other →
              Disjoint (extent (offset, data.length)) (extent block.span)
  | _ => True

/-! ## Maps without overlaps -/

theorem apart_empty : Apart Dict.empty := by
  intro first second left right found
  simp at found

theorem Apart.mapBlock
    {volume : Volume} (apart : Apart volume.blocks)
    {offset size : ℤ}
    (disjoint :
      ∀ other block,
        volume.blocks.get? other = some block → offset ≠ other →
          Disjoint (extent (offset, size)) (extent block.span))
    (blockId fingerprint : String) (physicalSize : ℤ) :
    Apart
      (VolumeManager.mapBlock volume offset blockId fingerprint size
        physicalSize).blocks := by
  intro first second left right foundLeft foundRight distinct
  rw [mapBlock_get?] at foundLeft foundRight
  split at foundLeft
  · rename_i atFirst
    subst atFirst
    rw [if_neg (Ne.symm distinct)] at foundRight
    cases foundLeft
    exact disjoint second right foundRight distinct
  · split at foundRight
    · rename_i atSecond
      subst atSecond
      cases foundRight
      exact (disjoint first left foundLeft (Ne.symm distinct)).symm
    · exact apart first second left right foundLeft foundRight distinct

/-- Disjoint blocks inside a volume use at most its size. -/
theorem Apart.usage_le
    {blocks : Dict ℤ VolumeBlock} {usedBytes sizeBytes : ℤ}
    (apart : Apart blocks) (measures : Measures blocks usedBytes)
    (inside : Inside blocks sizeBytes) (nonneg : 0 ≤ sizeBytes) :
    usedBytes ≤ sizeBytes := by
  have bounded :
      ((blocks.values.map VolumeBlock.span).map Prod.snd).sum ≤
        sizeBytes := by
    apply sum_lengths_le_of_pairwise_disjoint nonneg
    · intro interval member
      rcases List.mem_map.mp member with ⟨block, listed, rfl⟩
      rcases Dict.mem_values_iff.mp listed with ⟨offset, found⟩
      exact measures.sizes offset block found
    · exact List.pairwise_map.mpr (Dict.pairwise_values apart)
    · intro interval member
      rcases List.mem_map.mp member with ⟨block, listed, rfl⟩
      rcases Dict.mem_values_iff.mp listed with ⟨offset, found⟩
      exact inside offset block found
  rw [List.map_map] at bounded
  rw [measures.total]
  exact bounded

/-! ## Volumes and snapshots without overlaps -/

/-- A map without overlaps, taken at a size that is not negative. -/
structure Tiled (blocks : Dict ℤ VolumeBlock) (sizeBytes : ℤ) : Prop where
  apart : Apart blocks
  nonneg : 0 ≤ sizeBytes

/-- Every live volume and every live snapshot is tiled. -/
structure AllTiled (controller : StorageController) : Prop where
  volumes :
    ∀ volumeId volume,
      controller.volumes.get? volumeId = some volume →
        Tiled volume.blocks volume.sizeBytes
  snapshots :
    ∀ snapshotId snapshot,
      controller.snapshots.get? snapshotId = some snapshot →
        Tiled snapshot.blocks snapshot.sizeBytes

theorem restoredSize_nonneg
    {snapshot : Snapshot} (nonneg : 0 ≤ snapshot.sizeBytes) :
    0 ≤ restoredSize snapshot := by
  rw [restoredSize_eq]
  exact nearestDouble_nonneg nonneg

section Steps

variable
    {platform : Platform}
    {controller : StorageController}

theorem AllTiled.noOverlap
    (tiled : AllTiled controller) (measured : Measured controller) :
    NoOverlap controller := by
  intro volumeId volume found
  have tiles := tiled.volumes volumeId volume found
  exact
    ⟨tiles.apart, fun inside =>
      tiles.apart.usage_le (measured.volumes volumeId volume found) inside
        tiles.nonneg⟩

theorem AllTiled.step
    (tiled : AllTiled controller) {call : Call}
    (keeps : KeepsApart platform controller call) :
    AllTiled (controller.step platform call) := by
  have kept :
      ∀ volume,
        Made platform controller call volume →
          Tiled volume.blocks volume.sizeBytes := by
    intro volume makes
    cases makes with
    | created blank size =>
        rw [blank.blocks, size]
        exact ⟨apart_empty, keeps⟩
    | adjusted live blocks _ _ size =>
        have tiles := tiled.volumes _ _ live
        rw [blocks]
        exact ⟨tiles.apart, tiles.nonneg.trans size⟩
    | cloned live blocks _ _ size =>
        rw [blocks, size]
        exact tiled.volumes _ _ live
    | written records =>
        have tiles := tiled.volumes _ _ records.found
        exact
          ⟨tiles.apart.mapBlock (keeps _ records) _ _ _, tiles.nonneg⟩
    | restored taken _ live =>
        exact
          ⟨(tiled.snapshots _ _ taken).apart,
            (tiled.volumes _ _ live).nonneg⟩
    | @recovered _ _ _ created taken _ _ size =>
        have tiles := tiled.snapshots _ _ taken
        have sizeNonneg : 0 ≤ created.sizeBytes := by
          rw [size]
          exact restoredSize_nonneg tiles.nonneg
        exact ⟨tiles.apart, sizeNonneg⟩
  have both :=
    @step_keeps platform controller
      (fun volume => Tiled volume.blocks volume.sizeBytes)
      (fun snapshot => Tiled snapshot.blocks snapshot.sizeBytes) call
      tiled.volumes tiled.snapshots kept
      (fun _ _ tiles => tiles)
      (fun snapshot volume tiles copies => by
        rw [copies.blocks, copies.sizeBytes]
        exact tiles)
  exact ⟨both.1, both.2⟩

/-- A call after which no blocks overlap meets the condition. -/
theorem keepsApart_of_step
    {call : Call}
    (noOverlap : NoOverlap (controller.step platform call)) :
    KeepsApart platform controller call := by
  cases call with
  | createVolume name sizeGb description tags =>
      rcases created_live name description sizeGb tags with
        ⟨volume, blank, size, live⟩
      have used := (noOverlap _ volume live).2
      rw [blank.blocks, blank.usedBytes, size] at used
      exact used (inside_empty _)
  | write volumeId offset data =>
      intro volume records other block found distinct
      rcases write_live records with ⟨blockId, fingerprint, live⟩
      have mapped :=
        mapBlock_get? volume offset blockId fingerprint data.length
          (storedSize platform controller.purity data)
      have written := mapped offset
      have kept := mapped other
      rw [if_pos rfl] at written
      rw [if_neg (Ne.symm distinct), found] at kept
      have apart :=
        (noOverlap volumeId _ live).1 offset other _ block written kept
          distinct
      exact apart
  | _ => trivial

end Steps

/-! ## Every run -/

/--
After each call of a run, under any settings, the blocks of every live volume
are disjoint and those inside it use no more than its size, exactly if every
recorded write of the run is disjoint from the blocks that start at other
offsets and no volume is created with a negative size.
-/
theorem noOverlap_after_each_iff
    (platform : Platform) (settings : Settings) (calls : List Call) :
    AllSteps (StorageController.step platform)
        (fun controller call => NoOverlap (controller.step platform call))
        (StorageController.new settings) calls ↔
      AllSteps (StorageController.step platform) (KeepsApart platform)
        (StorageController.new settings) calls := by
  have start :
      Measured (StorageController.new settings) ∧
        AllTiled (StorageController.new settings) := by
    refine ⟨measured_new settings, ?_, ?_⟩
    · intro volumeId volume found
      rw [volumes_new] at found
      cases found
    · intro snapshotId snapshot found
      rw [snapshots_new] at found
      cases found
  apply
    @allSteps_after_iff _ _ _ _ (fun _ => True)
      (fun controller => Measured controller ∧ AllTiled controller)
      NoOverlap
  · rintro controller call _ ⟨measured, tiled⟩ keeps
    exact ⟨measured.step call, tiled.step keeps⟩
  · rintro controller call _ ⟨measured, tiled⟩
    exact
      ⟨keepsApart_of_step, fun keeps =>
        (tiled.step keeps).noOverlap (measured.step call)⟩
  · exact fun _ _ => trivial
  · exact start

/-- A block of two block sizes at 0, then a short one at 4096. -/
def overlappingRun (long : Bytes) : List Call :=
  [createGibibyte "volume", .write "0" 0 long, .write "0" 4096 [1, 2]]

theorem blocks_overlap_of_length
    {long : Bytes} (length : long.length = 8192) :
    ¬ NoOverlap (reached storingPlatform (overlappingRun long)) := by
  let created := reached storingPlatform [createGibibyte "volume"]
  change
    ¬ NoOverlap
      ((created.step storingPlatform (.write "0" 0 long)).step
        storingPlatform (.write "0" 4096 [1, 2]))
  have size :
      (created.volumes.get? "0").map Volume.sizeBytes =
        some (1024 ^ 3) := by
    decide +kernel
  rw [Option.map_eq_some_iff] at size
  rcases size with ⟨volume, found, size⟩
  have first : Records storingPlatform created "0" volume 0 long := by
    refine ⟨found, ⟨by decide, by decide⟩, ?_, ?_⟩
    · exact fun refuses => refuses.long (by rw [length]; decide)
    · rw [length, size]
      decide
  rcases write_live first with ⟨blockId, fingerprint, live⟩
  have sameSettings :=
    (write_kept storingPlatform created "0" 0 long).1
  have second :
      Records storingPlatform
        (created.step storingPlatform (.write "0" 0 long)) "0"
        (VolumeManager.mapBlock volume 0 blockId fingerprint long.length
          (storedSize storingPlatform created.purity long))
        4096 [1, 2] := by
    refine ⟨live, ?_, ?_, ?_⟩
    · rw [Aligned, StorageController.step, sameSettings]
      exact ⟨by decide, by decide⟩
    · exact fun refuses => refuses.long (by decide)
    · change 4096 + 2 ≤ volume.sizeBytes
      rw [size]
      decide
  intro noOverlap
  have mapped :=
    mapBlock_get? volume 0 blockId fingerprint long.length
      (storedSize storingPlatform created.purity long) 0
  rw [if_pos rfl] at mapped
  have disjoint :=
    keepsApart_of_step noOverlap _ second 0 _ mapped (by decide)
  have starts : (0 : ℤ) ≤ 4096 := by decide
  have reaches : (4096 : ℤ) < 0 + long.length := by
    rw [length]
    decide
  rw [Finset.disjoint_left] at disjoint
  exact
    @disjoint 4096 (mem_extent.mpr ⟨by decide, by decide⟩)
      (mem_extent.mpr ⟨starts, reaches⟩)

theorem blocks_overlap :
    ¬ NoOverlap
      (reached storingPlatform (overlappingRun (List.replicate 8192 1))) :=
  blocks_overlap_of_length List.length_replicate

end StorageAppliance.Core
