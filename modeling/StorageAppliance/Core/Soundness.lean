import StorageAppliance.Core.ControllerSteps

/-!
# The invariant of every reachable controller

Every identifier in use has been drawn from the platform's random source, so
the next one is fresh: a new block never overwrites a stored file and a deleted
block never comes back.  The settings keep their defaults and every block has
both of its files or none.

`Sound` holds initially and is kept by every call, whatever its outcome.
-/

namespace StorageAppliance.Core

open StorageAppliance.Python
open StorageAppliance.Library
open StorageAppliance.Storage
open StorageAppliance.Purity
open StorageController

/-- The identifier is one of the first `count` drawn. -/
def Drawn (platform : Platform) (count : Nat) (identifier : String) :
    Prop :=
  ∃ index < count, identifier = platform.uuid4 index

theorem Drawn.mono
    {platform : Platform} {count more : Nat} {identifier : String}
    (drawn : Drawn platform count identifier) (le : count ≤ more) :
    Drawn platform more identifier := by
  rcases drawn with ⟨index, below, equal⟩
  exact ⟨index, Nat.lt_of_lt_of_le below le, equal⟩

theorem drawn_next (platform : Platform) (count : Nat) :
    Drawn platform (count + 1) (platform.uuid4 count) :=
  ⟨count, Nat.lt_succ_self count, rfl⟩

/-- The next identifier has not been drawn before. -/
theorem Drawn.ne_fresh
    {platform : Platform}
    (injective : Function.Injective platform.uuid4)
    {count : Nat} {identifier : String}
    (drawn : Drawn platform count identifier) :
    identifier ≠ platform.uuid4 count := by
  rintro rfl
  rcases drawn with ⟨index, below, equal⟩
  have same := injective equal
  omega

theorem Drawn.ne_next
    {platform : Platform} (lawful : platform.Lawful)
    {count : Nat} {identifier : String}
    (drawn : Drawn platform count identifier) :
    identifier ≠ platform.uuid4 count :=
  drawn.ne_fresh lawful.uuid4_injective

/-- Every block of a map has a drawn identifier. -/
def BlocksDrawn (platform : Platform) (count : Nat)
    (blocks : Dict ℤ VolumeBlock) : Prop :=
  ∀ offset block,
    blocks.get? offset = some block → Drawn platform count block.blockId

theorem BlocksDrawn.mono
    {platform : Platform} {count more : Nat} {blocks : Dict ℤ VolumeBlock}
    (drawn : BlocksDrawn platform count blocks) (le : count ≤ more) :
    BlocksDrawn platform more blocks :=
  fun offset block found => (drawn offset block found).mono le

theorem blocksDrawn_empty (platform : Platform) (count : Nat) :
    BlocksDrawn platform count Dict.empty := by
  intro offset block found
  simp at found

/-- A volume is stored under its own drawn identifier. -/
structure Registered (platform : Platform) (count : Nat)
    (volumeId : String) (volume : Volume) : Prop where
  named : volume.id = volumeId
  drawn : Drawn platform count volumeId
  blocks : BlocksDrawn platform count volume.blocks

theorem Registered.mono
    {platform : Platform} {count more : Nat} {volumeId : String}
    {volume : Volume}
    (registered : Registered platform count volumeId volume)
    (le : count ≤ more) :
    Registered platform more volumeId volume where
  named := registered.named
  drawn := registered.drawn.mono le
  blocks := registered.blocks.mono le

/-- The invariant of every reachable controller. -/
structure Sound (platform : Platform) (controller : StorageController) :
    Prop where
  settings : controller.settings = {}
  standard : controller.purity.Standard
  wellFormed : controller.backend.WellFormed
  filesDrawn :
    ∀ blockId data,
      controller.files.get? blockId = some data →
        Drawn platform controller.uuidsDrawn blockId
  tableDrawn :
    ∀ fingerprint entry,
      controller.table.get? fingerprint = some entry →
        Drawn platform controller.uuidsDrawn entry.blockId
  registered :
    ∀ volumeId volume,
      controller.volumes.get? volumeId = some volume →
        Registered platform controller.uuidsDrawn volumeId volume
  snapshotsDrawn :
    ∀ snapshotId snapshot,
      controller.snapshots.get? snapshotId = some snapshot →
        Drawn platform controller.uuidsDrawn snapshotId ∧
          BlocksDrawn platform controller.uuidsDrawn snapshot.blocks

theorem sound_new (platform : Platform) :
    Sound platform (StorageController.new {}) where
  settings := rfl
  standard := standard_new
  wellFormed := wellFormed_empty
  filesDrawn := by
    intro blockId data found
    cases found
  tableDrawn := by
    intro fingerprint entry found
    cases found
  registered := by
    intro volumeId volume found
    cases found
  snapshotsDrawn := by
    intro snapshotId snapshot found
    cases found

section Preservation

variable
    {platform : Platform}
    {controller : StorageController}

/-- The next identifier names no file. -/
theorem Sound.next_fresh
    (lawful : platform.Lawful) (sound : Sound platform controller) :
    controller.files.get? (controller.nextUuid platform) = none := by
  cases found : controller.files.get? (controller.nextUuid platform) with
  | none => rfl
  | some data =>
      have drawn := sound.filesDrawn _ data found
      exact (drawn.ne_next lawful rfl).elim

theorem Sound.next_fresh_metadata
    (lawful : platform.Lawful) (sound : Sound platform controller) :
    controller.backend.metadata.get? (controller.nextUuid platform) =
      none :=
  (sound.wellFormed.paired _).mp (sound.next_fresh lawful)

/-- The next identifier names no volume. -/
theorem Sound.next_fresh_volume
    (lawful : platform.Lawful) (sound : Sound platform controller) :
    controller.volumes.get? (controller.nextUuid platform) = none := by
  cases found :
      controller.volumes.get? (controller.nextUuid platform) with
  | none => rfl
  | some volume =>
      have drawn := (sound.registered _ volume found).drawn
      exact (drawn.ne_next lawful rfl).elim

/-- Drawing more identifiers and changing the volumes keeps the invariant. -/
theorem Sound.withVolumes
    (sound : Sound platform controller)
    {manager : VolumeManager} {count : Nat}
    (more : controller.uuidsDrawn ≤ count)
    (registered :
      ∀ volumeId volume,
        manager.volumes.get? volumeId = some volume →
          controller.volumes.get? volumeId = some volume ∨
            Registered platform count volumeId volume) :
    Sound platform
      { controller with
        volumeManager := manager
        uuidsDrawn := count } where
  settings := sound.settings
  standard := sound.standard
  wellFormed := sound.wellFormed
  filesDrawn := fun blockId data found =>
    (sound.filesDrawn blockId data found).mono more
  tableDrawn := fun fingerprint entry found =>
    (sound.tableDrawn fingerprint entry found).mono more
  registered := by
    intro volumeId volume found
    rcases registered volumeId volume found with old | new
    · exact (sound.registered volumeId volume old).mono more
    · exact new
  snapshotsDrawn := fun snapshotId snapshot found =>
    ⟨(sound.snapshotsDrawn snapshotId snapshot found).1.mono more,
      (sound.snapshotsDrawn snapshotId snapshot found).2.mono more⟩

/-- Rewriting one live volume keeps the invariant if its blocks are drawn. -/
theorem Sound.setVolume
    (sound : Sound platform controller)
    {volumeId : String} {old new : Volume}
    (found : controller.volumes.get? volumeId = some old)
    {manager : VolumeManager}
    (changed :
      manager.volumes = controller.volumes.set volumeId new)
    (sameName : new.id = old.id)
    (drawn : BlocksDrawn platform controller.uuidsDrawn new.blocks) :
    Sound platform { controller with volumeManager := manager } := by
  apply sound.withVolumes (Nat.le_refl _)
  intro other volume otherFound
  rw [changed, Dict.get?_set] at otherFound
  split at otherFound
  · rename_i same
    simp only [Option.some.injEq] at otherFound
    subst otherFound
    rw [same]
    have oldRegistered := sound.registered volumeId old found
    exact Or.inr
      ⟨sameName.trans oldRegistered.named, oldRegistered.drawn, drawn⟩
  · exact Or.inl otherFound

/-! ## Writes -/

/-- Registering draws no identifier but the one it is given. -/
theorem registerBlock_drawn
    {engine : DeduplicationEngine} {count : Nat}
    (drawn :
      ∀ fingerprint entry,
        engine.dedupeTable.get? fingerprint = some entry →
          Drawn platform count entry.blockId)
    (data : Bytes) {blockId : String}
    (newDrawn : Drawn platform count blockId) :
    ∀ fingerprint entry,
      (engine.registerBlock platform data
          blockId).2.dedupeTable.get? fingerprint = some entry →
        Drawn platform count entry.blockId := by
  intro fingerprint entry found
  rcases registerBlock_cases found with
    ⟨old, oldFound, sameBlock⟩ | ⟨_, _, newBlock⟩
  · rw [sameBlock]
    exact drawn fingerprint old oldFound
  · rw [newBlock]
    exact newDrawn

theorem Sound.referenced
    (lawful : platform.Lawful) (sound : Sound platform controller)
    {data : Bytes} {result : ReductionResult} {after : StorageController}
    (referenced : Referenced platform controller data result after) :
    Sound platform after ∧
      Drawn platform after.uuidsDrawn result.blockId := by
  cases referenced with
  | @duplicate encoded entry result engine _ found sameBlock _ counted
      standard =>
      have entryDrawn := sound.tableDrawn _ entry found
      refine ⟨?_, sameBlock ▸ entryDrawn⟩
      exact
        { settings := sound.settings
          standard := standard
          wellFormed := sound.wellFormed
          filesDrawn := sound.filesDrawn
          tableDrawn := by
            intro fingerprint other otherFound
            simp only [StorageController.table, counted] at otherFound
            exact registerBlock_drawn sound.tableDrawn encoded entryDrawn
              fingerprint other otherFound
          registered := sound.registered
          snapshotsDrawn := sound.snapshotsDrawn }
  | @stored encoded stored result engine _ _ sameBlock _ _ counted
      standard =>
      have fresh := sound.next_fresh_metadata lawful
      have nextDrawn :
          Drawn platform (controller.uuidsDrawn + 1)
            (controller.nextUuid platform) :=
        drawn_next platform controller.uuidsDrawn
      have more : controller.uuidsDrawn ≤ controller.uuidsDrawn + 1 :=
        Nat.le_succ _
      refine ⟨?_, sameBlock ▸ nextDrawn⟩
      exact
        { settings := sound.settings
          standard := standard
          wellFormed := sound.wellFormed.write platform stored fresh
          filesDrawn := by
            intro blockId data found
            simp only [StorageController.files] at found
            rw [writeBlock_files platform stored fresh] at found
            split at found
            · rename_i same
              rw [same]
              exact nextDrawn
            · exact (sound.filesDrawn blockId data found).mono more
          tableDrawn := by
            intro fingerprint other otherFound
            simp only [StorageController.table, counted] at otherFound
            exact registerBlock_drawn
              (fun key entry found =>
                (sound.tableDrawn key entry found).mono more)
              data nextDrawn fingerprint other otherFound
          registered := fun volumeId volume found =>
            (sound.registered volumeId volume found).mono more
          snapshotsDrawn := fun snapshotId snapshot found =>
            ⟨(sound.snapshotsDrawn snapshotId snapshot found).1.mono more,
              (sound.snapshotsDrawn snapshotId snapshot
                found).2.mono more⟩ }

theorem mapBlock_drawn
    {count : Nat} {volume : Volume}
    (drawn : BlocksDrawn platform count volume.blocks)
    {blockId : String} (newDrawn : Drawn platform count blockId)
    (offset : ℤ) (fingerprint : String) (size physicalSize : ℤ) :
    BlocksDrawn platform count
      (VolumeManager.mapBlock volume offset blockId fingerprint size
        physicalSize).blocks := by
  intro other block found
  simp only [VolumeManager.mapBlock, Dict.get?_set] at found
  split at found
  · simp only [Option.some.injEq] at found
    subst found
    exact newDrawn
  · exact drawn other block found

theorem Sound.recordWrite
    (sound : Sound platform controller)
    (volumeId : String) (offset : ℤ) (data : Bytes)
    {reduction : ReductionResult}
    (drawn : Drawn platform controller.uuidsDrawn reduction.blockId) :
    Sound platform
      (controller.recordWrite volumeId offset data reduction).2 := by
  rw [recordWrite_frame]
  apply sound.withVolumes (Nat.le_refl _)
  intro other volume found
  rw [VolumeManager.writeBlock] at found
  split at found
  · exact Or.inl found
  · rename_i old live
    split at found
    · exact Or.inl found
    · simp only [Dict.get?_set] at found
      split at found
      · rename_i same
        simp only [Option.some.injEq] at found
        subst found
        rw [same]
        have oldRegistered := sound.registered volumeId old live
        exact Or.inr
          ⟨oldRegistered.named, oldRegistered.drawn,
            mapBlock_drawn oldRegistered.blocks drawn _ _ _ _⟩
      · exact Or.inl found

theorem Sound.write
    (lawful : platform.Lawful) (sound : Sound platform controller)
    (volumeId : String) (offset : ℤ) (data : Bytes) :
    Sound platform (controller.write platform volumeId offset data).2 := by
  have written :=
    write_cases lawful sound.settings sound.standard volumeId offset data
  generalize
    (controller.write platform volumeId offset data).1 = answer,
    (controller.write platform volumeId offset data).2 = after
    at written
  cases written with
  | unknown => exact sound
  | misaligned => exact sound
  | refused _ _ _ uncounted standard =>
      exact
        { settings := sound.settings
          standard := standard
          wellFormed := sound.wellFormed
          filesDrawn := sound.filesDrawn
          tableDrawn := by
            intro fingerprint entry found
            simp only [StorageController.table, uncounted] at found
            exact sound.tableDrawn fingerprint entry found
          registered := sound.registered
          snapshotsDrawn := sound.snapshotsDrawn }
  | accepted _ _ _ referenced =>
      have middle := sound.referenced lawful referenced
      exact middle.1.recordWrite volumeId offset data middle.2

/-! ## Deletions -/

theorem dereferenceBlock_drawn
    {engine : DeduplicationEngine} {count : Nat}
    (drawn :
      ∀ fingerprint entry,
        engine.dedupeTable.get? fingerprint = some entry →
          Drawn platform count entry.blockId)
    (dropped : String) :
    ∀ fingerprint entry,
      (engine.dereferenceBlock dropped).2.dedupeTable.get? fingerprint =
          some entry →
        Drawn platform count entry.blockId := by
  intro fingerprint entry found
  by_cases same : fingerprint = dropped
  · subst same
    rw [dereferenceBlock_get?_self] at found
    rcases Option.bind_eq_some_iff.mp found with ⟨old, oldFound, kept⟩
    split at kept
    · simp at kept
    · simp only [Option.some.injEq] at kept
      subst kept
      exact drawn fingerprint old oldFound
  · rw [dereferenceBlock_get?_ne engine same] at found
    exact drawn fingerprint entry found

theorem Sound.releaseBlock
    (sound : Sound platform controller) (block : VolumeBlock) :
    Sound platform (controller.releaseBlock block) where
  settings := sound.settings
  standard := releaseBlock_standard sound.standard block
  wellFormed := (releaseBlock_spec sound.wellFormed block).2.1
  filesDrawn := by
    intro blockId data found
    rw [(releaseBlock_spec sound.wellFormed block).2.2] at found
    split at found
    · simp at found
    · exact sound.filesDrawn blockId data found
  tableDrawn := by
    have frame :
        (controller.releaseBlock block).purity.deduplication =
          (controller.purity.deduplication.dereferenceBlock
            block.fingerprint).2 := by
      simp only [StorageController.releaseBlock, PurityEngine.delete]
      split <;> rfl
    intro fingerprint entry found
    simp only [StorageController.table, frame] at found
    exact dereferenceBlock_drawn sound.tableDrawn block.fingerprint
      fingerprint entry found
  registered := sound.registered
  snapshotsDrawn := sound.snapshotsDrawn

theorem Sound.releaseBlocks
    (sound : Sound platform controller) (blocks : List VolumeBlock) :
    Sound platform (controller.releaseBlocks blocks) := by
  induction blocks generalizing controller with
  | nil => exact sound
  | cons block rest induction => exact induction (sound.releaseBlock block)

theorem Sound.removeVolume
    (sound : Sound platform controller) (volumeId : String) :
    Sound platform (controller.removeVolume volumeId).2 := by
  apply sound.withVolumes (Nat.le_refl _)
  intro other volume found
  have kept :=
    (deleteVolume_volumes controller.volumeManager volumeId
      other).symm.trans found
  split at kept
  · simp at kept
  · exact Or.inl kept

theorem Sound.deleteVolume
    (sound : Sound platform controller) (volumeId : String) :
    Sound platform (controller.deleteVolume volumeId).2 := by
  rw [StorageController.deleteVolume]
  split
  · exact sound
  · rename_i volume _
    exact (sound.releaseBlocks volume.blocks.values).removeVolume volumeId

/-! ## The other calls -/

theorem Sound.createVolume
    (sound : Sound platform controller) (name : String) (sizeGb : ℚ)
    (description : String) (tags : Dict String String) :
    Sound platform
      (controller.createVolume platform name sizeGb description
        tags).2 := by
  apply sound.withVolumes (Nat.le_succ _)
  intro volumeId volume found
  dsimp only at found
  rw [Dict.get?_set] at found
  split at found
  · rename_i same
    simp only [Option.some.injEq] at found
    subst found
    rw [same]
    exact Or.inr
      ⟨rfl, drawn_next platform controller.uuidsDrawn,
        blocksDrawn_empty platform _⟩
  · exact Or.inl found

theorem Sound.cloneVolume
    (sound : Sound platform controller)
    (sourceId newName description : String) :
    Sound platform
      (controller.cloneVolume platform sourceId newName
        description).2 := by
  rw [StorageController.cloneVolume]
  split
  · exact sound
  · rename_i source live
    apply sound.withVolumes (Nat.le_succ _)
    intro volumeId volume found
    simp only [VolumeManager.cloneVolume, live, createVolume_volumes,
      Dict.get?_set] at found
    split at found
    · rename_i same
      simp only [Option.some.injEq] at found
      subst found
      rw [same]
      have sourceDrawn := (sound.registered sourceId source live).blocks
      exact Or.inr
        ⟨rfl, drawn_next platform controller.uuidsDrawn,
          sourceDrawn.mono (Nat.le_succ _)⟩
    · exact Or.inl found

theorem Sound.read
    (sound : Sound platform controller)
    (volumeId : String) (offset : ℤ) :
    Sound platform (controller.read platform volumeId offset).2 := by
  have sameFiles :
      ∀ blockId,
        (controller.purity.retrieve platform controller.backend
              blockId).2.files = controller.backend.files ∧
          (controller.purity.retrieve platform controller.backend
              blockId).2.metadata = controller.backend.metadata := by
    intro blockId
    simp only [PurityEngine.retrieve, FileBackend.readBlock]
    cases controller.backend.files.get? blockId with
    | none => exact ⟨rfl, rfl⟩
    | some stored =>
        cases unwrapped : PurityEngine.unwrap platform stored with
        | error exception => simp [unwrapped]
        | ok data => simp [unwrapped]
  have keep :
      ∀ backend : FileBackend,
        backend.files = controller.backend.files →
          backend.metadata = controller.backend.metadata →
            Sound platform { controller with backend := backend } := by
    intro backend files metadata
    exact
      { settings := sound.settings
        standard := sound.standard
        wellFormed :=
          { paired := by
              rw [files, metadata]
              exact sound.wellFormed.paired
            single := by
              rw [metadata]
              exact sound.wellFormed.single }
        filesDrawn := by
          simp only [StorageController.files, files]
          exact sound.filesDrawn
        tableDrawn := sound.tableDrawn
        registered := sound.registered
        snapshotsDrawn := sound.snapshotsDrawn }
  rw [StorageController.read]
  split
  · exact sound
  · rename_i block _
    have same := sameFiles block.blockId
    split <;> rename_i equal <;> rw [equal] at same <;>
      exact keep _ same.1 same.2

theorem Sound.withSnapshots
    (sound : Sound platform controller)
    {manager : SnapshotManager} {count : Nat}
    (more : controller.uuidsDrawn ≤ count)
    (drawn :
      ∀ snapshotId snapshot,
        manager.snapshots.get? snapshotId = some snapshot →
          Drawn platform count snapshotId ∧
            BlocksDrawn platform count snapshot.blocks) :
    Sound platform
      { controller with
        snapshotManager := manager
        uuidsDrawn := count } where
  settings := sound.settings
  standard := sound.standard
  wellFormed := sound.wellFormed
  filesDrawn := fun blockId data found =>
    (sound.filesDrawn blockId data found).mono more
  tableDrawn := fun fingerprint entry found =>
    (sound.tableDrawn fingerprint entry found).mono more
  registered := fun volumeId volume found =>
    (sound.registered volumeId volume found).mono more
  snapshotsDrawn := drawn

theorem Sound.createSnapshot
    (sound : Sound platform controller) (volumeId : String)
    (name : Option String) (description timestamp : String) :
    Sound platform
      (controller.createSnapshot platform volumeId name description
        timestamp).2 := by
  rw [StorageController.createSnapshot]
  split
  · exact sound
  · rename_i volume live
    apply sound.withSnapshots (Nat.le_succ _)
    intro snapshotId snapshot found
    simp only [SnapshotManager.createSnapshot, Dict.get?_set] at found
    split at found
    · rename_i same
      simp only [Option.some.injEq] at found
      subst found
      rw [same]
      have volumeDrawn := (sound.registered volumeId volume live).blocks
      exact
        ⟨drawn_next platform controller.uuidsDrawn,
          volumeDrawn.mono (Nat.le_succ _)⟩
    · have old := sound.snapshotsDrawn snapshotId snapshot found
      exact ⟨old.1.mono (Nat.le_succ _), old.2.mono (Nat.le_succ _)⟩

/-- What is left of the snapshots when one is deleted. -/
theorem deleteSnapshot_snapshots
    {manager : SnapshotManager} {snapshotId other : String}
    {snapshot : Snapshot}
    (found :
      (manager.deleteSnapshot snapshotId).2.snapshots.get? other =
        some snapshot) :
    ∃ old,
      manager.snapshots.get? other = some old ∧
        snapshot = { old with state := snapshot.state } := by
  rw [SnapshotManager.deleteSnapshot] at found
  split at found
  · exact ⟨snapshot, found, rfl⟩
  · rename_i deleted live
    split at found
    · rw [Dict.get?_erase] at found
      split at found
      · simp at found
      · exact ⟨snapshot, found, rfl⟩
    · split at found
      · rw [Dict.get?_erase] at found
        split at found
        · simp at found
        · exact ⟨snapshot, found, rfl⟩
      · rw [Dict.get?_set] at found
        split at found
        · rename_i same
          simp only [Option.some.injEq] at found
          subst found
          rw [same]
          exact ⟨deleted, live, rfl⟩
        · exact ⟨snapshot, found, rfl⟩

theorem Sound.deleteSnapshot
    (sound : Sound platform controller) (snapshotId : String) :
    Sound platform (controller.deleteSnapshot snapshotId).2 := by
  rw [StorageController.deleteSnapshot]
  split
  · exact sound
  · apply sound.withSnapshots (Nat.le_refl _)
    intro other snapshot found
    rcases deleteSnapshot_snapshots found with ⟨old, oldFound, same⟩
    have drawn := sound.snapshotsDrawn other old oldFound
    rw [same]
    exact drawn

theorem Sound.restoreInto
    (sound : Sound platform controller)
    {snapshot : Snapshot}
    (drawn :
      BlocksDrawn platform controller.uuidsDrawn snapshot.blocks)
    {volumeId : String} {volume : Volume}
    (found : controller.volumes.get? volumeId = some volume) :
    Sound platform
      (controller.restoreInto snapshot volumeId volume).2 := by
  exact sound.setVolume found rfl rfl drawn

theorem Sound.restoreSnapshot
    (sound : Sound platform controller) (snapshotId : String)
    (volumeId : Option String) :
    Sound platform
      (controller.restoreSnapshot platform snapshotId volumeId).2 := by
  rw [StorageController.restoreSnapshot]
  split
  · exact sound
  · rename_i snapshot live
    have drawn := (sound.snapshotsDrawn snapshotId snapshot live).2
    dsimp only
    split
    · split
      · exact sound
      · rename_i volume volumeLive
        exact sound.restoreInto drawn volumeLive
    · apply
        (sound.createVolume (snapshot.volumeName ++ "-restored")
          (nearestDouble snapshot.sizeBytes / 1024 ^ 3)
          ("Restored from snapshot " ++ snapshot.name)
          Dict.empty).restoreInto
      · exact drawn.mono (Nat.le_succ _)
      · exact Dict.get?_set_self _ _ _

theorem Sound.updateVolume
    (sound : Sound platform controller) (volumeId : String)
    (name description : Option String)
    (tags : Option (Dict String String)) :
    Sound platform
      { controller with
        volumeManager :=
          (controller.volumeManager.updateVolume volumeId name
            description tags).2 } := by
  rw [VolumeManager.updateVolume]
  split
  · exact sound
  · rename_i volume live
    have drawn := (sound.registered volumeId volume live).blocks
    exact sound.setVolume live rfl rfl drawn

theorem Sound.resizeVolume
    (sound : Sound platform controller) (volumeId : String)
    (newSizeBytes : ℤ) :
    Sound platform
      { controller with
        volumeManager :=
          (controller.volumeManager.resizeVolume volumeId
            newSizeBytes).2 } := by
  rw [VolumeManager.resizeVolume]
  split
  · exact sound
  · rename_i volume live
    split
    · exact sound
    · have drawn := (sound.registered volumeId volume live).blocks
      exact sound.setVolume live rfl rfl drawn

/-- Every call keeps the invariant. -/
theorem Sound.step
    (lawful : platform.Lawful) (sound : Sound platform controller)
    (call : Call) :
    Sound platform (controller.step platform call) := by
  cases call with
  | createVolume name sizeGb description tags =>
      exact sound.createVolume name sizeGb description tags
  | updateVolume volumeId name description tags =>
      exact sound.updateVolume volumeId name description tags
  | resizeVolume volumeId newSizeBytes =>
      exact sound.resizeVolume volumeId newSizeBytes
  | deleteVolume volumeId => exact sound.deleteVolume volumeId
  | cloneVolume sourceId newName description =>
      exact sound.cloneVolume sourceId newName description
  | write volumeId offset data =>
      exact sound.write lawful volumeId offset data
  | read volumeId offset => exact sound.read volumeId offset
  | createSnapshot volumeId name description timestamp =>
      exact sound.createSnapshot volumeId name description timestamp
  | deleteSnapshot snapshotId => exact sound.deleteSnapshot snapshotId
  | restoreSnapshot snapshotId volumeId =>
      exact sound.restoreSnapshot snapshotId volumeId

/-- Every run of calls keeps the invariant. -/
theorem Sound.run
    (lawful : platform.Lawful) (sound : Sound platform controller)
    (calls : List Call) :
    Sound platform (run (StorageController.step platform) controller
      calls) :=
  run_invariant_of_step
    (fun _ call sound => sound.step lawful call) calls sound

end Preservation

/-- The controller after a run of calls from the initial state. -/
def reached (platform : Platform) (calls : List Call) : StorageController :=
  run (StorageController.step platform) (StorageController.new {}) calls

/-- A call that creates a volume of one gibibyte. -/
def createGibibyte (name : String) : Call :=
  .createVolume name 1 "" Dict.empty

theorem reached_sound
    {platform : Platform} (lawful : platform.Lawful) (calls : List Call) :
    Sound platform (reached platform calls) :=
  (sound_new platform).run lawful calls

end StorageAppliance.Core
