import StorageAppliance.Core.Soundness
import StorageAppliance.Core.Writes

/-!
# What the calls do to volumes and snapshots

Under any settings a call leaves each volume as it was, removes one, or puts one
in its place.  `Made` lists the volumes a call can put, and a live snapshot is
an old one or a copy of a live volume.  An invariant on volumes and snapshots
is then kept by a call if the volumes it makes keep it.

The bookkeeping of the volume manager follows no restore: `restoreInto` changes
a volume behind its back.
-/

namespace StorageAppliance.Core

open StorageAppliance.Python
open StorageAppliance.Library
open StorageAppliance.Storage
open StorageAppliance.Purity
open StorageController

/-! ## Restored volumes -/

/-- A volume with the map and the usage of a snapshot. -/
def Volume.restoredFrom (volume : Volume) (snapshot : Snapshot) : Volume :=
  { volume with
    blocks := snapshot.blocks
    usedBytes := snapshot.usedBytes }

/-- The size of the volume that a snapshot is restored into by default. -/
def restoredSize (snapshot : Snapshot) : ℤ :=
  truncate
    (nearestDouble snapshot.sizeBytes / 1024 ^ 3 * 1024 * 1024 * 1024)

theorem truncate_intCast (number : ℤ) : truncate number = number := by
  rw [truncate]
  split
  · exact Int.floor_intCast number
  · exact Int.ceil_intCast number

/-- It is the size of the snapshot as a floating point number. -/
theorem restoredSize_eq (snapshot : Snapshot) :
    restoredSize snapshot = nearestDouble snapshot.sizeBytes := by
  have cancelled :
      (nearestDouble snapshot.sizeBytes : ℚ) / 1024 ^ 3 * 1024 * 1024 *
          1024 = nearestDouble snapshot.sizeBytes := by
    ring
  rw [restoredSize, cancelled, truncate_intCast]

/-- A volume that has just been created. -/
structure Volume.Blank (volume : Volume) : Prop where
  blocks : volume.blocks = Dict.empty
  usedBytes : volume.usedBytes = 0
  logicalBytes : volume.logicalBytes = 0
  physicalBytes : volume.physicalBytes = 0

@[simp]
theorem volumes_new (settings : Settings) (volumeId : String) :
    (StorageController.new settings).volumes.get? volumeId = none :=
  rfl

@[simp]
theorem snapshots_new (settings : Settings) (snapshotId : String) :
    (StorageController.new settings).snapshots.get? snapshotId = none :=
  rfl

/-! ## Recorded writes -/

/-- The write passes every check, so the block is mapped into the volume. -/
structure Records (platform : Platform) (before : StorageController)
    (volumeId : String) (volume : Volume) (offset : ℤ) (data : Bytes) :
    Prop where
  found : before.volumes.get? volumeId = some volume
  aligned : before.Aligned offset
  accepted : ¬ Refuses platform before.purity data
  within : offset + data.length ≤ volume.sizeBytes

section Writes

variable
    {platform : Platform}
    {before : StorageController}
    {volumeId : String}
    {volume : Volume}
    {offset : ℤ}
    {data : Bytes}

/-- A write changes neither the settings nor the snapshots. -/
theorem write_kept
    (platform : Platform) (before : StorageController)
    (volumeId : String) (offset : ℤ) (data : Bytes) :
    let after := (before.write platform volumeId offset data).2
    after.settings = before.settings ∧
      after.snapshotManager = before.snapshotManager ∧
      before.uuidsDrawn ≤ after.uuidsDrawn := by
  have outcome := write_outcome platform before volumeId offset data
  dsimp only
  generalize (before.write platform volumeId offset data).1 = answer
    at outcome
  generalize (before.write platform volumeId offset data).2 = after
    at outcome ⊢
  cases outcome with
  | unknown => exact ⟨rfl, rfl, Nat.le_refl _⟩
  | zeroBlockSize => exact ⟨rfl, rfl, Nat.le_refl _⟩
  | misaligned => exact ⟨rfl, rfl, Nat.le_refl _⟩
  | refused => exact ⟨rfl, rfl, Nat.le_refl _⟩
  | accepted _ _ _ taken =>
      rw [recordWrite_frame]
      exact ⟨taken.settings, taken.snapshotManager, taken.drawn⟩

/-- A recorded write goes to the volume manager with its stored size. -/
theorem write_of_records
    (records : Records platform before volumeId volume offset data) :
    ∃ blockId fingerprint,
      (before.write platform volumeId offset data).2.volumeManager =
        (before.volumeManager.writeBlock volumeId offset blockId
          fingerprint data.length
          (storedSize platform before.purity data)).2 := by
  have outcome := write_outcome platform before volumeId offset data
  generalize (before.write platform volumeId offset data).1 = answer
    at outcome
  generalize (before.write platform volumeId offset data).2 = after
    at outcome ⊢
  cases outcome with
  | unknown absent =>
      have found := records.found
      rw [absent] at found
      cases found
  | zeroBlockSize _ zero => exact (records.aligned.1 zero).elim
  | misaligned _ misaligned => exact (misaligned records.aligned).elim
  | refused _ _ refuses => exact (records.accepted refuses).elim
  | @accepted _ reduction _ _ _ _ taken =>
      refine ⟨reduction.blockId, reduction.dedupeResult.fingerprint, ?_⟩
      rw [recordWrite_frame, taken.volumeManager, taken.size]

/-- Any other write leaves the volume manager alone. -/
theorem write_of_not_records
    (ignored :
      ¬ ∃ volume, Records platform before volumeId volume offset data) :
    (before.write platform volumeId offset data).2.volumeManager =
      before.volumeManager := by
  have outcome := write_outcome platform before volumeId offset data
  generalize (before.write platform volumeId offset data).1 = answer
    at outcome
  generalize (before.write platform volumeId offset data).2 = after
    at outcome ⊢
  cases outcome with
  | unknown => rfl
  | zeroBlockSize => rfl
  | misaligned => rfl
  | refused => rfl
  | @accepted volume _ _ found aligned accepted taken =>
      have exceeds : volume.sizeBytes < offset + data.length := by
        by_contra within
        exact ignored
          ⟨volume, found, aligned, accepted, Int.not_lt.mp within⟩
      have live :
          before.volumeManager.getVolume volumeId = some volume := found
      rw [recordWrite_frame, taken.volumeManager]
      simp only [VolumeManager.writeBlock, live, if_pos exceeds]

/-- A block that fits is mapped and counted. -/
theorem writeBlock_within
    {manager : VolumeManager} {size physicalSize : ℤ}
    (found : manager.volumes.get? volumeId = some volume)
    (within : offset + size ≤ volume.sizeBytes)
    (blockId fingerprint : String) :
    (manager.writeBlock volumeId offset blockId fingerprint size
        physicalSize).2 =
      { manager with
        volumes :=
          manager.volumes.set volumeId
            (VolumeManager.mapBlock volume offset blockId fingerprint size
              physicalSize)
        stats :=
          { manager.stats with
            totalUsedBytes := manager.stats.totalUsedBytes + size
            totalLogicalBytes :=
              manager.stats.totalLogicalBytes + size } } := by
  have live : manager.getVolume volumeId = some volume := found
  simp only [VolumeManager.writeBlock, live,
    if_neg (Int.not_lt.mpr within)]

/-- A recorded write puts the volume with the block mapped. -/
theorem write_volumes
    (records : Records platform before volumeId volume offset data) :
    ∃ blockId fingerprint,
      (before.write platform volumeId offset data).2.volumes =
        before.volumes.set volumeId
          (VolumeManager.mapBlock volume offset blockId fingerprint
            data.length (storedSize platform before.purity data)) := by
  rcases write_of_records records with ⟨blockId, fingerprint, recorded⟩
  refine ⟨blockId, fingerprint, ?_⟩
  rw [volumes, recorded, writeBlock_within records.found records.within]

end Writes

/-! ## The other calls -/

section Calls

variable
    {platform : Platform}
    {before : StorageController}

theorem deleteVolume_volumeManager (volumeId : String) :
    (before.deleteVolume volumeId).2.volumeManager =
      (before.volumeManager.deleteVolume volumeId).2 := by
  rw [StorageController.deleteVolume, VolumeManager.deleteVolume]
  cases found : before.volumeManager.getVolume volumeId with
  | none => rfl
  | some volume =>
      have kept := (releaseBlocks_frame before volume.blocks.values).1
      simp only [removeVolume, kept, VolumeManager.deleteVolume, found]

theorem cloneVolume_volumeManager (sourceId newName description : String) :
    (before.cloneVolume platform sourceId newName
        description).2.volumeManager =
      (before.volumeManager.cloneVolume (before.nextUuid platform)
        sourceId newName description).2 := by
  rw [StorageController.cloneVolume]
  cases found : before.volumeManager.getVolume sourceId with
  | none => simp only [VolumeManager.cloneVolume, found]
  | some source => rfl

theorem cloneVolume_volumes
    {manager : VolumeManager} {sourceId : String} {source : Volume}
    (found : manager.volumes.get? sourceId = some source)
    (cloneId newName description : String) :
    ∃ clone : Volume,
      (manager.cloneVolume cloneId sourceId newName
          description).2.volumes = manager.volumes.set cloneId clone ∧
        clone.blocks = source.blocks ∧
        clone.sizeBytes = source.sizeBytes ∧
        clone.usedBytes = source.usedBytes ∧
        clone.logicalBytes = source.logicalBytes ∧
        clone.physicalBytes = 0 := by
  have live : manager.getVolume sourceId = some source := found
  simp only [VolumeManager.cloneVolume, live]
  refine ⟨_, Dict.set_set _ _ _ _, rfl, rfl, rfl, rfl, rfl⟩

/-- A restore into a live volume replaces its map and its usage. -/
theorem restoreSnapshot_into
    {snapshotId : String} {target : Option String} {snapshot : Snapshot}
    {volume : Volume}
    (taken : before.snapshots.get? snapshotId = some snapshot)
    (named : target.getD "" ≠ "")
    (found : before.volumes.get? (target.getD "") = some volume) :
    (before.restoreSnapshot platform snapshotId
        target).2.volumeManager =
      { before.volumeManager with
        volumes :=
          before.volumes.set (target.getD "")
            (volume.restoredFrom snapshot) } := by
  have live :
      before.volumeManager.getVolume (target.getD "") = some volume :=
    found
  have present :
      before.snapshotManager.getSnapshot snapshotId = some snapshot := taken
  simp only [StorageController.restoreSnapshot, present]
  rw [if_pos named]
  simp only [live]
  rfl

/-- Any other restore creates a volume first. -/
theorem restoreSnapshot_new
    {snapshotId : String} {target : Option String} {snapshot : Snapshot}
    (taken : before.snapshots.get? snapshotId = some snapshot)
    (unnamed : target.getD "" = "") :
    ∃ (name description : String) (volume : Volume),
      volume.Blank ∧
        volume.sizeBytes = restoredSize snapshot ∧
        (before.restoreSnapshot platform snapshotId
            target).2.volumeManager =
          { (before.volumeManager.createVolume (before.nextUuid platform)
              name (restoredSize snapshot) description Dict.empty).2 with
            volumes :=
              before.volumes.set (before.nextUuid platform)
                (volume.restoredFrom snapshot) } := by
  have present :
      before.snapshotManager.getSnapshot snapshotId = some snapshot := taken
  let name := snapshot.volumeName ++ "-restored"
  let description := "Restored from snapshot " ++ snapshot.name
  let volume : Volume :=
    { id := before.nextUuid platform
      name := name
      sizeBytes := restoredSize snapshot
      description := description
      tags := Dict.empty }
  refine
    ⟨name, description, volume, ⟨rfl, rfl, rfl, rfl⟩, rfl, ?_⟩
  simp only [StorageController.restoreSnapshot, present]
  rw [if_neg (not_not.mpr unnamed)]
  have once :=
    Dict.set_set before.volumes (before.nextUuid platform) volume
      (volume.restoredFrom snapshot)
  rw [← once]
  rfl

theorem restoreSnapshot_ignored
    {snapshotId : String} {target : Option String}
    (ignored :
      before.snapshots.get? snapshotId = none ∨
        (target.getD "" ≠ "" ∧
          before.volumes.get? (target.getD "") = none)) :
    (before.restoreSnapshot platform snapshotId target).2 = before := by
  rw [StorageController.restoreSnapshot]
  rcases ignored with absent | ⟨named, unknown⟩
  · have missing :
        before.snapshotManager.getSnapshot snapshotId = none := absent
    simp only [missing]
  · have notLive :
        before.volumeManager.getVolume (target.getD "") = none := unknown
    split
    · rfl
    · rw [if_pos named]
      simp only [notLive]

/-- A restore changes neither the settings nor the snapshots. -/
theorem restoreSnapshot_kept
    (platform : Platform) (before : StorageController)
    (snapshotId : String) (target : Option String) :
    let after := (before.restoreSnapshot platform snapshotId target).2
    after.settings = before.settings ∧
      after.snapshotManager = before.snapshotManager ∧
      before.uuidsDrawn ≤ after.uuidsDrawn := by
  dsimp only
  rw [StorageController.restoreSnapshot]
  split
  · exact ⟨rfl, rfl, Nat.le_refl _⟩
  · dsimp only
    split
    · split
      · exact ⟨rfl, rfl, Nat.le_refl _⟩
      · exact ⟨rfl, rfl, Nat.le_refl _⟩
    · exact ⟨rfl, rfl, Nat.le_succ _⟩

end Calls

/-! ## Every call -/

/-- What a call does to the volume manager. -/
theorem volumeManager_step
    (platform : Platform) (before : StorageController) (call : Call) :
    (before.step platform call).volumeManager =
      match call with
      | .createVolume name sizeGb description tags =>
          (before.volumeManager.createVolume (before.nextUuid platform)
            name (truncate (sizeGb * 1024 * 1024 * 1024)) description
            tags).2
      | .updateVolume volumeId name description tags =>
          (before.volumeManager.updateVolume volumeId name description
            tags).2
      | .resizeVolume volumeId newSizeBytes =>
          (before.volumeManager.resizeVolume volumeId newSizeBytes).2
      | .deleteVolume volumeId =>
          (before.volumeManager.deleteVolume volumeId).2
      | .cloneVolume sourceId newName description =>
          (before.volumeManager.cloneVolume (before.nextUuid platform)
            sourceId newName description).2
      | .write volumeId offset data =>
          (before.write platform volumeId offset data).2.volumeManager
      | .restoreSnapshot snapshotId target =>
          (before.restoreSnapshot platform snapshotId
            target).2.volumeManager
      | _ => before.volumeManager := by
  cases call with
  | createVolume => rfl
  | updateVolume => rfl
  | resizeVolume => rfl
  | deleteVolume volumeId => exact deleteVolume_volumeManager volumeId
  | cloneVolume sourceId newName description =>
      exact cloneVolume_volumeManager sourceId newName description
  | write => rfl
  | read volumeId offset =>
      simp only [StorageController.step, StorageController.read]
      split
      · rfl
      · split <;> rfl
  | createSnapshot volumeId name description timestamp =>
      simp only [StorageController.step, StorageController.createSnapshot]
      split <;> rfl
  | deleteSnapshot snapshotId =>
      simp only [StorageController.step, StorageController.deleteSnapshot]
      split <;> rfl
  | restoreSnapshot => rfl

/-- What a call does to the snapshot manager. -/
theorem snapshotManager_step
    (platform : Platform) (before : StorageController) (call : Call) :
    (before.step platform call).snapshotManager =
      match call with
      | .createSnapshot volumeId name description timestamp =>
          match before.volumeManager.getVolume volumeId with
          | none => before.snapshotManager
          | some volume =>
              (before.snapshotManager.createSnapshot
                (before.nextUuid platform) volume name description
                timestamp Dict.empty).2
      | .deleteSnapshot snapshotId =>
          (before.snapshotManager.deleteSnapshot snapshotId).2
      | _ => before.snapshotManager := by
  cases call with
  | createVolume => rfl
  | updateVolume => rfl
  | resizeVolume => rfl
  | deleteVolume volumeId =>
      simp only [StorageController.step, StorageController.deleteVolume]
      split
      · rfl
      · rename_i volume _
        exact (releaseBlocks_frame before volume.blocks.values).2.1
  | cloneVolume sourceId newName description =>
      simp only [StorageController.step, StorageController.cloneVolume]
      split <;> rfl
  | write volumeId offset data =>
      exact (write_kept platform before volumeId offset data).2.1
  | read volumeId offset =>
      simp only [StorageController.step, StorageController.read]
      split
      · rfl
      · split <;> rfl
  | createSnapshot volumeId name description timestamp =>
      simp only [StorageController.step, StorageController.createSnapshot]
      cases before.volumeManager.getVolume volumeId with
      | none => rfl
      | some volume => rfl
  | deleteSnapshot snapshotId =>
      simp only [StorageController.step, StorageController.deleteSnapshot]
      cases found : before.snapshotManager.getSnapshot snapshotId with
      | none => simp only [SnapshotManager.deleteSnapshot, found]
      | some snapshot => rfl
  | restoreSnapshot snapshotId target =>
      exact (restoreSnapshot_kept platform before snapshotId target).2.1

/-- The volumes a call can put among the live ones. -/
inductive Made (platform : Platform) (before : StorageController) :
    Call → Volume → Prop where
  | created {name description : String} {sizeGb : ℚ}
      {tags : Dict String String} {volume : Volume}
      (blank : volume.Blank)
      (size :
        volume.sizeBytes = truncate (sizeGb * 1024 * 1024 * 1024)) :
      Made platform before (.createVolume name sizeGb description tags)
        volume
  | adjusted {call : Call} {volumeId : String} {old volume : Volume}
      (found : before.volumes.get? volumeId = some old)
      (blocks : volume.blocks = old.blocks)
      (usedBytes : volume.usedBytes = old.usedBytes)
      (logicalBytes : volume.logicalBytes = old.logicalBytes)
      (size : old.sizeBytes ≤ volume.sizeBytes) :
      Made platform before call volume
  | cloned {sourceId newName description : String}
      {source volume : Volume}
      (found : before.volumes.get? sourceId = some source)
      (blocks : volume.blocks = source.blocks)
      (usedBytes : volume.usedBytes = source.usedBytes)
      (logicalBytes : volume.logicalBytes = source.logicalBytes)
      (size : volume.sizeBytes = source.sizeBytes) :
      Made platform before (.cloneVolume sourceId newName description)
        volume
  | written {volumeId : String} {volume : Volume} {offset : ℤ}
      {data : Bytes}
      (records : Records platform before volumeId volume offset data)
      (blockId fingerprint : String) :
      Made platform before (.write volumeId offset data)
        (VolumeManager.mapBlock volume offset blockId fingerprint
          data.length (storedSize platform before.purity data))
  | restored {snapshotId : String} {target : Option String}
      {snapshot : Snapshot} {volume : Volume}
      (taken : before.snapshots.get? snapshotId = some snapshot)
      (named : target.getD "" ≠ "")
      (found : before.volumes.get? (target.getD "") = some volume) :
      Made platform before (.restoreSnapshot snapshotId target)
        (volume.restoredFrom snapshot)
  | recovered {snapshotId : String} {target : Option String}
      {snapshot : Snapshot} {volume : Volume}
      (taken : before.snapshots.get? snapshotId = some snapshot)
      (unnamed : target.getD "" = "")
      (blank : volume.Blank)
      (size : volume.sizeBytes = restoredSize snapshot) :
      Made platform before (.restoreSnapshot snapshotId target)
        (volume.restoredFrom snapshot)

section Steps

variable
    {platform : Platform}
    {before : StorageController}

/-- The identifier is that of a live volume or the one just drawn. -/
def Placed (platform : Platform) (before after : StorageController)
    (volumeId : String) : Prop :=
  (∃ old, before.volumes.get? volumeId = some old) ∨
    (volumeId = before.nextUuid platform ∧
      before.uuidsDrawn < after.uuidsDrawn)

theorem get?_set_cases
    {after : StorageController} {volumes : Dict String Volume}
    {key volumeId : String} {made volume : Volume} {call : Call}
    (makes : Made platform before call made)
    (placed : Placed platform before after key)
    (found : (volumes.set key made).get? volumeId = some volume) :
    volumes.get? volumeId = some volume ∨
      (Made platform before call volume ∧
        Placed platform before after volumeId) := by
  rw [Dict.get?_set] at found
  split at found
  · rename_i same
    cases found
    rw [same]
    exact Or.inr ⟨makes, placed⟩
  · exact Or.inl found

theorem volume_cloneVolume_cases
    {sourceId newName description volumeId : String} {volume : Volume}
    (found :
      (before.step platform
          (.cloneVolume sourceId newName description)).volumes.get?
            volumeId = some volume) :
    before.volumes.get? volumeId = some volume ∨
      (Made platform before (.cloneVolume sourceId newName description)
          volume ∧
        Placed platform before
          (before.step platform
            (.cloneVolume sourceId newName description))
          volumeId) := by
  rw [volumes, volumeManager_step] at found
  cases live : before.volumes.get? sourceId with
  | none =>
      have absent :
          before.volumeManager.getVolume sourceId = none := live
      simp only [VolumeManager.cloneVolume, absent] at found
      exact Or.inl found
  | some source =>
      rcases cloneVolume_volumes live (before.nextUuid platform) newName
          description with
        ⟨clone, cloned, blocks, size, usedBytes, logicalBytes, _⟩
      dsimp only at found
      rw [cloned] at found
      refine get?_set_cases
        (.cloned live blocks usedBytes logicalBytes size) ?_ found
      refine Or.inr ⟨rfl, ?_⟩
      have present :
          before.volumeManager.getVolume sourceId = some source := live
      simp only [StorageController.step, StorageController.cloneVolume,
        present]
      exact Nat.lt_succ_self _

theorem volume_write_cases
    {target volumeId : String} {offset : ℤ} {data : Bytes}
    {volume : Volume}
    (found :
      (before.write platform target offset data).2.volumes.get?
          volumeId = some volume) :
    before.volumes.get? volumeId = some volume ∨
      (Made platform before (.write target offset data) volume ∧
        Placed platform before
          (before.write platform target offset data).2 volumeId) := by
  by_cases recorded :
      ∃ volume, Records platform before target volume offset data
  · rcases recorded with ⟨old, records⟩
    rcases write_volumes records with ⟨blockId, fingerprint, mapped⟩
    rw [mapped] at found
    exact get?_set_cases (.written records blockId fingerprint)
      (Or.inl ⟨old, records.found⟩) found
  · rw [volumes, write_of_not_records recorded] at found
    exact Or.inl found

/-- A restore makes a new volume, or changes the one that it names. -/
theorem volume_restoreSnapshot_cases
    {snapshotId volumeId : String} {target : Option String}
    {volume : Volume}
    (found :
      (before.restoreSnapshot platform snapshotId target).2.volumes.get?
          volumeId = some volume) :
    before.volumes.get? volumeId = some volume ∨
      (Made platform before (.restoreSnapshot snapshotId target) volume ∧
        Placed platform before
          (before.restoreSnapshot platform snapshotId target).2
          volumeId) := by
  cases taken : before.snapshots.get? snapshotId with
  | none =>
      rw [restoreSnapshot_ignored (Or.inl taken)] at found
      exact Or.inl found
  | some snapshot =>
      by_cases unnamed : target.getD "" = ""
      · rcases restoreSnapshot_new taken unnamed with
          ⟨name, description, created, blank, size, recovered⟩
        rw [volumes, recovered] at found
        refine get?_set_cases (.recovered taken unnamed blank size)
          (Or.inr ⟨rfl, ?_⟩) found
        have present :
            before.snapshotManager.getSnapshot snapshotId =
              some snapshot := taken
        simp only [StorageController.restoreSnapshot, present]
        rw [if_neg (not_not.mpr unnamed)]
        exact Nat.lt_succ_self _
      · cases live : before.volumes.get? (target.getD "") with
        | none =>
            rw [restoreSnapshot_ignored (Or.inr ⟨unnamed, live⟩)]
              at found
            exact Or.inl found
        | some old =>
            rw [volumes, restoreSnapshot_into taken unnamed live]
              at found
            exact get?_set_cases (.restored taken unnamed live)
              (Or.inl ⟨old, live⟩) found

/-- A live volume after a call is an old one or one that the call made. -/
theorem volume_step_cases
    {call : Call} {volumeId : String} {volume : Volume}
    (found :
      (before.step platform call).volumes.get? volumeId = some volume) :
    before.volumes.get? volumeId = some volume ∨
      (Made platform before call volume ∧
        Placed platform before (before.step platform call) volumeId) := by
  cases call with
  | createVolume name sizeGb description tags =>
      rw [volumes, volumeManager_step] at found
      refine get?_set_cases (.created ⟨rfl, rfl, rfl, rfl⟩ rfl) ?_ found
      exact Or.inr ⟨rfl, Nat.lt_succ_self _⟩
  | updateVolume target name description tags =>
      rw [volumes, volumeManager_step] at found
      simp only [VolumeManager.updateVolume] at found
      split at found
      · exact Or.inl found
      · rename_i old live
        refine get?_set_cases ?_ (Or.inl ⟨old, live⟩) found
        exact .adjusted live rfl rfl rfl (Int.le_refl _)
  | resizeVolume target newSizeBytes =>
      rw [volumes, volumeManager_step] at found
      simp only [VolumeManager.resizeVolume] at found
      split at found
      · exact Or.inl found
      · rename_i old live
        split at found
        · exact Or.inl found
        · rename_i grows
          refine get?_set_cases ?_ (Or.inl ⟨old, live⟩) found
          exact .adjusted live rfl rfl rfl (Int.not_lt.mp grows)
  | deleteVolume target =>
      rw [volumes, volumeManager_step] at found
      simp only [deleteVolume_volumes] at found
      split at found
      · cases found
      · exact Or.inl found
  | cloneVolume => exact volume_cloneVolume_cases found
  | write => exact volume_write_cases found
  | read =>
      rw [volumes, volumeManager_step] at found
      exact Or.inl found
  | createSnapshot =>
      rw [volumes, volumeManager_step] at found
      exact Or.inl found
  | deleteSnapshot =>
      rw [volumes, volumeManager_step] at found
      exact Or.inl found
  | restoreSnapshot => exact volume_restoreSnapshot_cases found

/-- Identifiers stay drawn. -/
theorem uuidsDrawn_step
    (platform : Platform) (before : StorageController) (call : Call) :
    before.uuidsDrawn ≤ (before.step platform call).uuidsDrawn := by
  cases call with
  | createVolume => exact Nat.le_succ _
  | updateVolume => exact Nat.le_refl _
  | resizeVolume => exact Nat.le_refl _
  | deleteVolume volumeId =>
      simp only [StorageController.step, StorageController.deleteVolume]
      split
      · exact Nat.le_refl _
      · rename_i volume _
        have frame :=
          (releaseBlocks_frame before volume.blocks.values).2.2.2
        simp only [removeVolume, frame]
        exact Nat.le_refl _
  | cloneVolume sourceId newName description =>
      simp only [StorageController.step, StorageController.cloneVolume]
      split
      · exact Nat.le_refl _
      · exact Nat.le_succ _
  | write volumeId offset data =>
      exact (write_kept platform before volumeId offset data).2.2
  | read volumeId offset =>
      simp only [StorageController.step, StorageController.read]
      split
      · exact Nat.le_refl _
      · split <;> exact Nat.le_refl _
  | createSnapshot volumeId name description timestamp =>
      simp only [StorageController.step, StorageController.createSnapshot]
      split
      · exact Nat.le_refl _
      · exact Nat.le_succ _
  | deleteSnapshot snapshotId =>
      simp only [StorageController.step, StorageController.deleteSnapshot]
      split <;> exact Nat.le_refl _
  | restoreSnapshot snapshotId target =>
      exact
        (restoreSnapshot_kept platform before snapshotId target).2.2

/-- The identifiers of the live volumes are drawn. -/
def VolumesDrawn (platform : Platform) (controller : StorageController) :
    Prop :=
  ∀ volumeId volume,
    controller.volumes.get? volumeId = some volume →
      Drawn platform controller.uuidsDrawn volumeId

theorem Placed.drawn
    {after : StorageController} {volumeId : String}
    (placed : Placed platform before after volumeId)
    (held : VolumesDrawn platform before)
    (more : before.uuidsDrawn ≤ after.uuidsDrawn) :
    Drawn platform after.uuidsDrawn volumeId := by
  rcases placed with ⟨old, found⟩ | ⟨rfl, fewer⟩
  · exact (held volumeId old found).mono more
  · exact (drawn_next platform before.uuidsDrawn).mono fewer

theorem VolumesDrawn.step
    (held : VolumesDrawn platform before) (call : Call) :
    VolumesDrawn platform (before.step platform call) := by
  intro volumeId volume found
  have more := uuidsDrawn_step platform before call
  rcases volume_step_cases found with kept | ⟨_, placed⟩
  · exact (held volumeId volume kept).mono more
  · exact placed.drawn held more

/-- The volume that a creation leaves. -/
theorem created_live
    (name description : String) (sizeGb : ℚ) (tags : Dict String String) :
    ∃ volume : Volume,
      volume.Blank ∧
        volume.sizeBytes = truncate (sizeGb * 1024 * 1024 * 1024) ∧
        (before.step platform
            (.createVolume name sizeGb description tags)).volumes.get?
              (before.nextUuid platform) = some volume := by
  refine ⟨_, ?_, ?_, Dict.get?_set_self _ _ _⟩
  · exact ⟨rfl, rfl, rfl, rfl⟩
  · rfl

/-- The volume that a recorded write leaves. -/
theorem write_live
    {volumeId : String} {volume : Volume} {offset : ℤ} {data : Bytes}
    (records : Records platform before volumeId volume offset data) :
    ∃ blockId fingerprint,
      (before.step platform
          (.write volumeId offset data)).volumes.get? volumeId =
        some (VolumeManager.mapBlock volume offset blockId fingerprint
          data.length (storedSize platform before.purity data)) := by
  rcases write_volumes records with ⟨blockId, fingerprint, mapped⟩
  refine ⟨blockId, fingerprint, ?_⟩
  rw [StorageController.step, mapped]
  exact Dict.get?_set_self _ _ _

/-- The volume that a restore into a live one leaves. -/
theorem restored_live
    {snapshotId : String} {target : Option String} {snapshot : Snapshot}
    {volume : Volume}
    (taken : before.snapshots.get? snapshotId = some snapshot)
    (named : target.getD "" ≠ "")
    (found : before.volumes.get? (target.getD "") = some volume) :
    (before.step platform
        (.restoreSnapshot snapshotId target)).volumes.get?
          (target.getD "") =
      some (volume.restoredFrom snapshot) := by
  rw [StorageController.step, volumes,
    restoreSnapshot_into taken named found]
  exact Dict.get?_set_self _ _ _

/-- The volume that any other restore creates. -/
theorem recovered_live
    {snapshotId : String} {target : Option String} {snapshot : Snapshot}
    (taken : before.snapshots.get? snapshotId = some snapshot)
    (unnamed : target.getD "" = "") :
    ∃ volume : Volume,
      volume.Blank ∧
        volume.sizeBytes = restoredSize snapshot ∧
        (before.step platform
            (.restoreSnapshot snapshotId target)).volumes.get?
              (before.nextUuid platform) =
          some (volume.restoredFrom snapshot) := by
  rcases @restoreSnapshot_new platform before _ _ _ taken unnamed with
    ⟨name, description, volume, blank, size, recovered⟩
  refine ⟨volume, blank, size, ?_⟩
  rw [StorageController.step, volumes, recovered]
  exact Dict.get?_set_self _ _ _

/-- What a snapshot copies of a volume. -/
structure Copies (snapshot : Snapshot) (volume : Volume) : Prop where
  blocks : snapshot.blocks = volume.blocks
  sizeBytes : snapshot.sizeBytes = volume.sizeBytes
  usedBytes : snapshot.usedBytes = volume.usedBytes

/-- A live snapshot after a call is an old one or a copy of a live volume. -/
theorem snapshot_step_cases
    {call : Call} {snapshotId : String} {snapshot : Snapshot}
    (found :
      (before.step platform call).snapshots.get? snapshotId =
        some snapshot) :
    (∃ old,
        before.snapshots.get? snapshotId = some old ∧
          snapshot = { old with state := snapshot.state }) ∨
      ∃ volumeId volume,
        before.volumes.get? volumeId = some volume ∧
          Copies snapshot volume := by
  rw [snapshots, snapshotManager_step] at found
  split at found
  · rename_i target name description timestamp
    split at found
    · exact Or.inl ⟨snapshot, found, rfl⟩
    · rename_i volume live
      simp only [SnapshotManager.createSnapshot, Dict.get?_set] at found
      split at found
      · cases found
        exact Or.inr ⟨target, volume, live, rfl, rfl, rfl⟩
      · exact Or.inl ⟨snapshot, found, rfl⟩
  · exact Or.inl (deleteSnapshot_snapshots found)
  · exact Or.inl ⟨snapshot, found, rfl⟩

/--
A property of volumes and one of snapshots hold of everything live after a call
if the volumes the call makes have the first and copies of such volumes have the
second.
-/
theorem step_keeps
    {volumeHas : Volume → Prop} {snapshotHas : Snapshot → Prop}
    {call : Call}
    (heldVolumes :
      ∀ volumeId volume,
        before.volumes.get? volumeId = some volume → volumeHas volume)
    (heldSnapshots :
      ∀ snapshotId snapshot,
        before.snapshots.get? snapshotId = some snapshot →
          snapshotHas snapshot)
    (made : ∀ volume, Made platform before call volume → volumeHas volume)
    (restated :
      ∀ (snapshot : Snapshot) (state : SnapshotState),
        snapshotHas snapshot → snapshotHas { snapshot with state := state })
    (copied :
      ∀ snapshot volume,
        volumeHas volume → Copies snapshot volume → snapshotHas snapshot) :
    (∀ volumeId volume,
        (before.step platform call).volumes.get? volumeId = some volume →
          volumeHas volume) ∧
      ∀ snapshotId snapshot,
        (before.step platform call).snapshots.get? snapshotId =
            some snapshot →
          snapshotHas snapshot := by
  constructor
  · intro volumeId volume found
    rcases volume_step_cases found with kept | ⟨makes, _⟩
    · exact heldVolumes volumeId volume kept
    · exact made volume makes
  · intro snapshotId snapshot found
    rcases snapshot_step_cases found with
      ⟨old, kept, same⟩ | ⟨volumeId, volume, live, copies⟩
    · rw [same]
      exact restated old snapshot.state (heldSnapshots snapshotId old kept)
    · exact copied snapshot volume (heldVolumes volumeId volume live)
        copies

end Steps

end StorageAppliance.Core
