import StorageAppliance.Core.Frames

/-!
# Clones and snapshots

A clone and a snapshot copy a block map and take no references.  What they can
still read later depends on the calls in between: the bytes behind a block map
survive a run exactly when no deletion of the run discards one of its stored
blocks.

`files_kept_iff` is this statement for an arbitrary block map.  The results
about clones and about snapshots follow from it, because nothing but the files
behind the map can change what the clone or the restored volume reads.
-/

namespace StorageAppliance.Core

open StorageAppliance.Python
open StorageAppliance.Library
open StorageAppliance.Storage
open StorageAppliance.Purity
open StorageController

/-- The call discards no stored block of the map. -/
def Spares (blocks : Dict ℤ VolumeBlock) (controller : StorageController)
    (call : Call) : Prop :=
  ∀ offset block,
    blocks.get? offset = some block →
      controller.files.get? block.blockId ≠ none →
        ¬ DiscardedBy controller call block.blockId

/-- The files behind the map are the same in both controllers. -/
def SameFiles (blocks : Dict ℤ VolumeBlock)
    (before after : StorageController) : Prop :=
  ∀ offset block,
    blocks.get? offset = some block →
      after.files.get? block.blockId = before.files.get? block.blockId

section Sharing

variable
    {platform : Platform}
    {controller : StorageController}

/-! ## The files behind a block map -/

/-- A file in use is kept by a call, or removed for good. -/
theorem files_step_cases
    (lawful : platform.Lawful) (sound : Sound platform controller)
    (call : Call) {blockId : String}
    (drawn : Drawn platform controller.uuidsDrawn blockId) :
    (controller.step platform call).files.get? blockId =
        controller.files.get? blockId ∨
      (controller.step platform call).files.get? blockId = none := by
  by_cases discarded : DiscardedBy controller call blockId
  · exact Or.inr (files_step_discarded sound discarded)
  · exact Or.inl (files_step_kept lawful sound drawn discarded)

/-- The files behind a map are the original ones or gone. -/
def FadesFrom (platform : Platform) (blocks : Dict ℤ VolumeBlock)
    (before after : StorageController) : Prop :=
  Sound platform after ∧
    BlocksDrawn platform after.uuidsDrawn blocks ∧
    ∀ offset block,
      blocks.get? offset = some block →
        after.files.get? block.blockId =
            before.files.get? block.blockId ∨
          after.files.get? block.blockId = none

theorem FadesFrom.step
    (lawful : platform.Lawful) {blocks : Dict ℤ VolumeBlock}
    {before after : StorageController}
    (fades : FadesFrom platform blocks before after) (call : Call) :
    FadesFrom platform blocks before (after.step platform call) := by
  rcases fades with ⟨sound, drawn, files⟩
  refine ⟨sound.step lawful call, ?_, ?_⟩
  · exact drawn.mono (uuidsDrawn_step platform _ call)
  · intro offset block found
    have stepped :=
      files_step_cases lawful sound call (drawn offset block found)
    rcases stepped with kept | removed
    · rw [kept]
      exact files offset block found
    · exact Or.inr removed

/-- A call keeps the files behind a map exactly when it spares them. -/
theorem FadesFrom.same_iff
    (lawful : platform.Lawful) {blocks : Dict ℤ VolumeBlock}
    {before after : StorageController}
    (fades : FadesFrom platform blocks before after)
    (same : SameFiles blocks before after) (call : Call) :
    SameFiles blocks before (after.step platform call) ↔
      Spares blocks after call := by
  rcases fades with ⟨sound, drawn, _⟩
  constructor
  · intro kept offset block found present discarded
    have gone := files_step_discarded sound discarded
    rw [kept offset block found, ← same offset block found] at gone
    exact present gone
  · intro spares offset block found
    rw [← same offset block found]
    cases file : after.files.get? block.blockId with
    | none =>
        rcases
          files_step_cases lawful sound call (drawn offset block found)
          with kept | removed
        · exact kept.trans file
        · exact removed
    | some stored =>
        have present : after.files.get? block.blockId ≠ none := by
          simp [file]
        rw [← file]
        exact files_step_kept lawful sound (drawn offset block found)
          (spares offset block found present)

/-- A file that is gone stays gone. -/
theorem FadesFrom.same_of_step
    (lawful : platform.Lawful) {blocks : Dict ℤ VolumeBlock}
    {before after : StorageController}
    (fades : FadesFrom platform blocks before after) {call : Call}
    (kept : SameFiles blocks before (after.step platform call)) :
    SameFiles blocks before after := by
  rcases fades with ⟨sound, drawn, files⟩
  intro offset block found
  rcases files offset block found with same | gone
  · exact same
  · have stillGone :
        (after.step platform call).files.get? block.blockId = none := by
      rcases
        files_step_cases lawful sound call (drawn offset block found)
        with unchanged | removed
      · exact unchanged.trans gone
      · exact removed
    rw [gone, ← kept offset block found, stillGone]

/-- The files behind a map survive exactly the runs that spare them. -/
theorem files_kept_iff
    (lawful : platform.Lawful) (sound : Sound platform controller)
    {blocks : Dict ℤ VolumeBlock}
    (drawn : BlocksDrawn platform controller.uuidsDrawn blocks)
    (calls : List Call) :
    SameFiles blocks controller
        (run (StorageController.step platform) controller calls) ↔
      AllSteps (StorageController.step platform) (Spares blocks)
        controller calls := by
  have start : FadesFrom platform blocks controller controller :=
    ⟨sound, drawn, fun _ _ _ => Or.inl rfl⟩
  have holds : SameFiles blocks controller controller :=
    fun _ _ _ => rfl
  exact
    run_keeps_iff_allSteps
      (fun _ call fades => fades.step lawful call)
      (fun _ call fades same => fades.same_iff lawful same call)
      (fun _ _ fades lost kept => lost (fades.same_of_step lawful kept))
      calls start holds

theorem fadesFrom_run
    (lawful : platform.Lawful) (sound : Sound platform controller)
    {blocks : Dict ℤ VolumeBlock}
    (drawn : BlocksDrawn platform controller.uuidsDrawn blocks)
    (calls : List Call) :
    FadesFrom platform blocks controller
      (run (StorageController.step platform) controller calls) := by
  have start : FadesFrom platform blocks controller controller :=
    ⟨sound, drawn, fun _ _ _ => Or.inl rfl⟩
  exact
    run_invariant_of_step (fun _ call fades => fades.step lawful call)
      calls start

/-! ## Reads through a block map -/

theorem codecResult_ne_missing (result : Option Bytes) (message : String) :
    CompressionEngine.codecResult result ≠ .error (.keyError message) := by
  cases result <;> simp [CompressionEngine.codecResult]

theorem unwrap_ne_missing
    (platform : Platform) (stored : Bytes) (message : String) :
    PurityEngine.unwrap platform stored ≠ .error (.keyError message) := by
  simp only [PurityEngine.unwrap, CompressionEngine.decompress]
  repeat' split
  all_goals
    first
    | exact codecResult_ne_missing _ message
    | simp

theorem expand_ne_missing
    (engine : PurityEngine) (data : Bytes) (message : String) :
    engine.expand data ≠ .error (.keyError message) := by
  simp only [PurityEngine.expand, PatternRemoval.decode]
  repeat' split
  all_goals simp

/-- A stored block is never reported missing. -/
theorem retrieve_stored_ne_missing
    (platform : Platform) (engine : PurityEngine) {backend : FileBackend}
    {blockId : String} {stored : Bytes}
    (file : backend.files.get? blockId = some stored)
    (message : String) :
    (engine.retrieve platform backend blockId).1 ≠
      .error (.keyError message) := by
  cases outcome : PurityEngine.unwrap platform stored with
  | error exception =>
      have unwrapped := unwrap_ne_missing platform stored message
      rw [outcome] at unwrapped
      simpa [PurityEngine.retrieve, FileBackend.readBlock, file, outcome]
        using unwrapped
  | ok data =>
      rw [retrieve_of_file file outcome]
      exact expand_ne_missing engine data message

/-- A controller reads the map at an offset. -/
def StorageController.readMap (controller : StorageController)
    (platform : Platform) (blocks : Dict ℤ VolumeBlock) (offset : ℤ) :
    Except PyException (Option Bytes) :=
  match blocks.get? offset with
  | none => .ok none
  | some block =>
      (controller.purity.retrieve platform controller.backend
        block.blockId).1.map some

/-- A volume reads through its block map. -/
theorem readData_eq_readMap
    {volumeId : String} {blocks : Dict ℤ VolumeBlock} {offset : ℤ}
    (mapped :
      controller.mapped volumeId offset = blocks.get? offset) :
    controller.readData platform volumeId offset =
      controller.readMap platform blocks offset := by
  rw [readMap]
  cases found : blocks.get? offset with
  | none =>
      rw [found] at mapped
      exact readData_unmapped platform mapped
  | some block =>
      rw [found] at mapped
      exact readData_mapped platform mapped

/--
If the files behind a map are the original ones or gone, the map reads as it
did exactly when none of them is gone.
-/
theorem readMap_eq_iff
    {before after : StorageController} {blocks : Dict ℤ VolumeBlock}
    (sound : Sound platform before)
    (fades : FadesFrom platform blocks before after) :
    (∀ offset block,
        blocks.get? offset = some block →
          after.readMap platform blocks offset =
            before.readMap platform blocks offset) ↔
      SameFiles blocks before after := by
  have sameSize :
      after.purity.patternRemoval.minBlockSize =
        before.purity.patternRemoval.minBlockSize := by
    rw [fades.1.standard.minBlockSize, sound.standard.minBlockSize]
  constructor
  · intro sameReads offset block found
    rcases fades.2.2 offset block found with same | gone
    · exact same
    · rw [gone]
      cases file : before.files.get? block.blockId with
      | none => rfl
      | some stored =>
          have reads := sameReads offset block found
          simp only [readMap, found] at reads
          have missing := retrieve_missing platform after.purity gone
          have stored :=
            retrieve_stored_ne_missing platform before.purity file
              ("Block not found: " ++ block.blockId)
          rw [missing] at reads
          cases outcome :
              (before.purity.retrieve platform before.backend
                block.blockId).1 with
          | error exception =>
              rw [outcome] at reads stored
              simp only [Except.map, Except.error.injEq] at reads
              exact (stored (congrArg Except.error reads.symm)).elim
          | ok data =>
              rw [outcome] at reads
              cases reads
  · intro same offset block found
    simp only [readMap, found]
    rw [retrieve_congr platform sameSize (same offset block found)]

/-! ## Clones -/

/-- Calls that do not target a volume leave its map alone. -/
theorem mapped_run
    (lawful : platform.Lawful) (sound : Sound platform controller)
    {volumeId : String}
    (drawn : Drawn platform controller.uuidsDrawn volumeId)
    {calls : List Call}
    (apart : ∀ call ∈ calls, ∀ offset, ¬ call.Remaps volumeId offset)
    (offset : ℤ) :
    (run (StorageController.step platform) controller calls).mapped
        volumeId offset = controller.mapped volumeId offset := by
  have keeps :
      ∀ (state : StorageController) (call : Call),
        Sound platform state ∧
            Drawn platform state.uuidsDrawn volumeId ∧
            state.mapped volumeId offset =
              controller.mapped volumeId offset →
          (∀ offset, ¬ call.Remaps volumeId offset) →
            Sound platform (state.step platform call) ∧
              Drawn platform (state.step platform call).uuidsDrawn
                volumeId ∧
              (state.step platform call).mapped volumeId offset =
                controller.mapped volumeId offset := by
    rintro state call ⟨stateSound, stateDrawn, same⟩ untouched
    refine ⟨stateSound.step lawful call, ?_, ?_⟩
    · exact stateDrawn.mono (uuidsDrawn_step platform _ call)
    · rw [mapped_step lawful stateSound stateDrawn (untouched offset)]
      exact same
  exact
    (run_invariant_of_allowed keeps ⟨sound, drawn, rfl⟩ apart).2.2

/-- A volume that is not targeted reads as before if its map is spared. -/
theorem volume_reads_kept_iff
    (lawful : platform.Lawful) (sound : Sound platform controller)
    {volumeId : String} {volume : Volume}
    (found : controller.volumes.get? volumeId = some volume)
    {later : List Call}
    (apart : ∀ call ∈ later, ∀ offset, ¬ call.Remaps volumeId offset) :
    (∀ offset,
        (run (StorageController.step platform) controller later).readData
            platform volumeId offset =
          controller.readData platform volumeId offset) ↔
      AllSteps (StorageController.step platform) (Spares volume.blocks)
        controller later := by
  have registered := sound.registered volumeId volume found
  have fades := fadesFrom_run lawful sound registered.blocks later
  have mappedAfter := mapped_run lawful sound registered.drawn apart
  have before :
      ∀ offset,
        controller.readData platform volumeId offset =
          controller.readMap platform volume.blocks offset :=
    fun offset => readData_eq_readMap (mapped_of_volume found offset)
  have after :
      ∀ offset,
        (run (StorageController.step platform) controller later).readData
            platform volumeId offset =
          (run (StorageController.step platform) controller later).readMap
            platform volume.blocks offset :=
    fun offset =>
      readData_eq_readMap
        ((mappedAfter offset).trans (mapped_of_volume found offset))
  rw [← files_kept_iff lawful sound registered.blocks,
    ← readMap_eq_iff sound fades]
  constructor
  · intro same offset block _
    rw [← after, ← before]
    exact same offset
  · intro same offset
    rw [after, before]
    cases held : volume.blocks.get? offset with
    | none => simp only [readMap, held]
    | some block => exact same offset block held

/-- What a successful clone leaves behind. -/
theorem cloneVolume_cases
    {sourceId newName description : String} {clone : Volume}
    {cloned : StorageController}
    (cloning :
      controller.cloneVolume platform sourceId newName description =
        (some clone, cloned)) :
    ∃ source,
      controller.volumes.get? sourceId = some source ∧
        clone.id = controller.nextUuid platform ∧
        clone.blocks = source.blocks ∧
        cloned.volumes.get? clone.id = some clone ∧
        (∀ other,
          other ≠ clone.id →
            cloned.volumes.get? other = controller.volumes.get? other) ∧
        cloned.purity = controller.purity ∧
        cloned.backend = controller.backend := by
  rw [StorageController.cloneVolume] at cloning
  split at cloning
  · cases cloning
  · rename_i source found
    simp only [VolumeManager.cloneVolume, found] at cloning
    cases cloning
    refine ⟨source, found, rfl, rfl, ?_, ?_, rfl, rfl⟩
    · exact Dict.get?_set_self _ _ _
    · intro other apart
      exact (Dict.get?_set_ne _ _ apart).trans
        (Dict.get?_set_ne _ _ apart)

/--
After a clone, the clone keeps reading what the source read, and the source
keeps reading it, exactly through the runs that spare the shared blocks.
-/
theorem clone_reads_kept_iff
    (lawful : platform.Lawful) (calls : List Call)
    {sourceId newName description : String} {clone : Volume}
    {cloned : StorageController}
    (cloning :
      (reached platform calls).cloneVolume platform sourceId newName
        description = (some clone, cloned))
    (later : List Call) :
    ((∀ call ∈ later, ∀ offset, ¬ call.Remaps clone.id offset) →
      ((∀ offset,
          (run (StorageController.step platform) cloned later).readData
              platform clone.id offset =
            (reached platform calls).readData platform sourceId offset) ↔
        AllSteps (StorageController.step platform) (Spares clone.blocks)
          cloned later)) ∧
    ((∀ call ∈ later, ∀ offset, ¬ call.Remaps sourceId offset) →
      ((∀ offset,
          (run (StorageController.step platform) cloned later).readData
              platform sourceId offset =
            (reached platform calls).readData platform sourceId offset) ↔
        AllSteps (StorageController.step platform) (Spares clone.blocks)
          cloned later)) := by
  have sound := reached_sound lawful calls
  have clonedSound : Sound platform cloned := by
    have step := sound.cloneVolume sourceId newName description
    rwa [cloning] at step
  rcases cloneVolume_cases cloning with
    ⟨source, found, fresh, sameBlocks, cloneFound, others, samePurity,
      sameBackend⟩
  have sourceFound : cloned.volumes.get? sourceId = some source := by
    have drawn := (sound.registered sourceId source found).drawn
    have apart : sourceId ≠ clone.id := by
      rw [fresh]
      exact drawn.ne_next lawful
    exact (others sourceId apart).trans found
  have sameMap :
      ∀ offset,
        (reached platform calls).readMap platform source.blocks offset =
          cloned.readMap platform source.blocks offset := by
    intro offset
    rw [readMap, readMap, samePurity, sameBackend]
  have sourceReads :
      ∀ offset,
        (reached platform calls).readData platform sourceId offset =
          cloned.readMap platform source.blocks offset := by
    intro offset
    rw [← sameMap]
    exact readData_eq_readMap (mapped_of_volume found offset)
  constructor
  · intro apart
    rw [← volume_reads_kept_iff lawful clonedSound cloneFound apart]
    have cloneReads :
        ∀ offset,
          cloned.readData platform clone.id offset =
            cloned.readMap platform source.blocks offset := by
      intro offset
      apply readData_eq_readMap
      rw [mapped_of_volume cloneFound, sameBlocks]
    simp only [sourceReads, cloneReads]
  · intro apart
    rw [sameBlocks,
      ← volume_reads_kept_iff lawful clonedSound sourceFound apart]
    have clonedReads :
        ∀ offset,
          cloned.readData platform sourceId offset =
            cloned.readMap platform source.blocks offset :=
      fun offset =>
        readData_eq_readMap (mapped_of_volume sourceFound offset)
    simp only [sourceReads, clonedReads]

/-- A deletion spares a map none of whose blocks it drains. -/
theorem spares_deleteVolume
    {blocks : Dict ℤ VolumeBlock} {volumeId : String}
    (apart :
      ∀ volume ∈ controller.volumes.get? volumeId,
        ∀ block ∈ blocks.values,
          block.blockId ∉
            (drain controller.references volume.references).2) :
    Spares blocks controller (.deleteVolume volumeId) := by
  rintro offset block found _ ⟨volume, live, discarded⟩
  apply apart volume live block
  · exact Dict.mem_values_iff.mpr ⟨offset, found⟩
  · exact (mem_drain_iff _ _ _).mpr discarded

/-- Two volumes with a block each. -/
def twoVolumes : List Call :=
  [createGibibyte "first", .write "0" 0 [1, 2], createGibibyte "second",
    .write "2" 0 [3, 4]]

/-- The source is overwritten, and the volume beside it is deleted. -/
def sparingCalls : List Call :=
  [.write "0" 0 [5, 6], .deleteVolume "2"]

theorem clone_reads_kept_overwritten :
    ∃ clone ∈
        ((reached storingPlatform twoVolumes).cloneVolume storingPlatform
          "0" "clone" "").1,
      ∀ offset,
        (run (StorageController.step storingPlatform)
            ((reached storingPlatform twoVolumes).cloneVolume
              storingPlatform "0" "clone" "").2 sparingCalls).readData
            storingPlatform clone.id offset =
          (reached storingPlatform twoVolumes).readData storingPlatform
            "0" offset := by
  have cloned :
      ∃ clone ∈
          ((reached storingPlatform twoVolumes).cloneVolume
            storingPlatform "0" "clone" "").1,
        clone.id = "4" := by
    decide +kernel
  rcases cloned with ⟨clone, member, named⟩
  refine ⟨clone, member, ?_⟩
  have both :=
    clone_reads_kept_iff storingPlatform_lawful twoVolumes
      (Prod.ext member rfl) sparingCalls
  apply (both.1 ?_).mpr
  · refine ⟨?_, ?_, trivial⟩
    · intro _ _ _ _ discarded
      exact discarded
    · apply spares_deleteVolume
      clear both named
      revert clone
      decide +kernel
  · simp [sparingCalls, Call.Remaps, named]

/-- Deleting the source takes the block of the clone away. -/
theorem clone_reads_lost :
    storingPlatform.Lawful ∧
      (∃ clone ∈
          ((reached storingPlatform twoVolumes).cloneVolume
            storingPlatform "0" "clone" "").1,
        clone.id = "4") ∧
      (reached storingPlatform twoVolumes).readData storingPlatform "0" 0 =
        .ok (some [1, 2]) ∧
      (run (StorageController.step storingPlatform)
          ((reached storingPlatform twoVolumes).cloneVolume storingPlatform
            "0" "clone" "").2 [.deleteVolume "0"]).readData
          storingPlatform "4" 0 =
        .error (.keyError "Block not found: 1") := by
  refine ⟨storingPlatform_lawful, ?_, ?_, ?_⟩
  · decide +kernel
  · decide +kernel
  · decide +kernel

/-! ## Snapshots -/

/-- What a successful snapshot leaves behind. -/
theorem createSnapshot_cases
    {volumeId : String} {name : Option String}
    {description timestamp : String} {snapshot : Snapshot}
    {taken : StorageController}
    (taking :
      controller.createSnapshot platform volumeId name description
        timestamp = (some snapshot, taken)) :
    ∃ volume,
      controller.volumes.get? volumeId = some volume ∧
        snapshot.blocks = volume.blocks ∧
        taken.snapshots.get? snapshot.id = some snapshot ∧
        taken.purity = controller.purity ∧
        taken.backend = controller.backend := by
  rw [StorageController.createSnapshot] at taking
  split at taking
  · cases taking
  · rename_i volume found
    cases taking
    exact ⟨volume, found, rfl, Dict.get?_set_self _ _ _, rfl, rfl⟩

/-- Only its own deletion changes a snapshot. -/
theorem snapshots_step
    (lawful : platform.Lawful) (sound : Sound platform controller)
    {call : Call} {snapshotId : String} {snapshot : Snapshot}
    (found : controller.snapshots.get? snapshotId = some snapshot)
    (kept : call ≠ .deleteSnapshot snapshotId) :
    (controller.step platform call).snapshots.get? snapshotId =
      some snapshot := by
  rw [snapshots, snapshotManager_step]
  split
  · split
    · exact found
    · have drawn := (sound.snapshotsDrawn snapshotId snapshot found).1
      exact (Dict.get?_set_ne _ _ (drawn.ne_next lawful)).trans found
  · rename_i other
    have apart : snapshotId ≠ other := by
      rintro rfl
      exact kept rfl
    simp only [SnapshotManager.deleteSnapshot]
    split
    · exact found
    · split
      · exact (Dict.get?_erase_ne _ apart).trans found
      · split
        · exact (Dict.get?_erase_ne _ apart).trans found
        · exact (Dict.get?_set_ne _ _ apart).trans found
  · exact found

theorem snapshots_run
    (lawful : platform.Lawful) (sound : Sound platform controller)
    {snapshotId : String} {snapshot : Snapshot}
    (found : controller.snapshots.get? snapshotId = some snapshot)
    {calls : List Call}
    (kept : ∀ call ∈ calls, call ≠ .deleteSnapshot snapshotId) :
    (run (StorageController.step platform) controller
        calls).snapshots.get? snapshotId = some snapshot := by
  have keeps :
      ∀ (state : StorageController) (call : Call),
        Sound platform state ∧
            state.snapshots.get? snapshotId = some snapshot →
          call ≠ .deleteSnapshot snapshotId →
            Sound platform (state.step platform call) ∧
              (state.step platform call).snapshots.get? snapshotId =
                some snapshot := by
    rintro state call ⟨stateSound, stateFound⟩ allowed
    exact ⟨stateSound.step lawful call,
      snapshots_step lawful stateSound stateFound allowed⟩
  exact (run_invariant_of_allowed keeps ⟨sound, found⟩ kept).2

theorem restoreInto_mapped
    (controller : StorageController) (snapshot : Snapshot)
    (volumeId : String) (volume : Volume) (offset : ℤ) :
    (controller.restoreInto snapshot volumeId volume).2.mapped volumeId
        offset = snapshot.blocks.get? offset := by
  have found :
      (controller.restoreInto snapshot volumeId volume).2.volumes.get?
          volumeId =
        some (controller.restoreInto snapshot volumeId volume).1 :=
    Dict.get?_set_self _ _ _
  exact mapped_of_volume found offset

/-- Restoring gives a volume with the block map of the snapshot. -/
theorem restoreSnapshot_cases
    (sound : Sound platform controller)
    {snapshotId : String} {snapshot : Snapshot}
    (found : controller.snapshots.get? snapshotId = some snapshot)
    {target : Option String}
    (usable :
      target.getD "" = "" ∨
        controller.volumes.get? (target.getD "") ≠ none) :
    ∃ restored after,
      controller.restoreSnapshot platform snapshotId target =
          (some restored, after) ∧
        (∀ offset,
          after.mapped restored.id offset = snapshot.blocks.get? offset) ∧
        after.purity = controller.purity ∧
        after.backend = controller.backend := by
  have live :
      controller.snapshotManager.getSnapshot snapshotId = some snapshot :=
    found
  simp only [StorageController.restoreSnapshot, live]
  by_cases named : target.getD "" = ""
  · rw [if_neg (not_not.mpr named)]
    refine ⟨_, _, rfl, ?_, rfl, rfl⟩
    intro offset
    exact restoreInto_mapped _ snapshot _ _ offset
  · have present : controller.volumes.get? (target.getD "") ≠ none :=
      usable.resolve_left named
    rcases Option.ne_none_iff_exists'.mp present with ⟨volume, volumeFound⟩
    have volumeLive :
        controller.volumeManager.getVolume (target.getD "") =
          some volume := volumeFound
    rw [if_pos named]
    simp only [volumeLive]
    refine ⟨_, _, rfl, ?_, rfl, rfl⟩
    intro offset
    have sameName := (sound.registered _ volume volumeFound).named
    have sameId :
        (controller.restoreInto snapshot (target.getD "") volume).1.id =
          target.getD "" := sameName
    rw [sameId]
    exact restoreInto_mapped _ snapshot _ _ offset

/--
A snapshot that is not deleted restores, into a new volume or into a live one,
to a volume that reads what the source read, exactly after the runs that spare
its blocks.
-/
theorem restore_reads_iff
    (lawful : platform.Lawful) (calls : List Call)
    {volumeId : String} {name : Option String}
    {description timestamp : String} {snapshot : Snapshot}
    {taken : StorageController}
    (taking :
      (reached platform calls).createSnapshot platform volumeId name
        description timestamp = (some snapshot, taken))
    {later : List Call}
    (kept : ∀ call ∈ later, call ≠ .deleteSnapshot snapshot.id)
    {target : Option String}
    (usable :
      target.getD "" = "" ∨
        (run (StorageController.step platform) taken later).volumes.get?
          (target.getD "") ≠ none) :
    ∃ restored after,
      (run (StorageController.step platform) taken
          later).restoreSnapshot platform snapshot.id target =
          (some restored, after) ∧
        ((∀ offset block,
            (reached platform calls).mapped volumeId offset =
                some block →
              after.readData platform restored.id offset =
                (reached platform calls).readData platform volumeId
                  offset) ↔
          AllSteps (StorageController.step platform)
            (Spares snapshot.blocks) taken later) := by
  have sound := reached_sound lawful calls
  have takenSound : Sound platform taken := by
    have step := sound.createSnapshot volumeId name description timestamp
    rwa [taking] at step
  rcases createSnapshot_cases taking with
    ⟨volume, found, sameBlocks, snapshotFound, samePurity, sameBackend⟩
  have drawn := (takenSound.snapshotsDrawn _ snapshot snapshotFound).2
  have fades := fadesFrom_run lawful takenSound drawn later
  have snapshotKept :=
    snapshots_run lawful takenSound snapshotFound kept
  rcases restoreSnapshot_cases fades.1 snapshotKept usable with
    ⟨restored, after, restoring, mapped, afterPurity, afterBackend⟩
  refine ⟨restored, after, restoring, ?_⟩
  rw [← files_kept_iff lawful takenSound drawn,
    ← readMap_eq_iff takenSound fades]
  have before :
      ∀ offset,
        (reached platform calls).readData platform volumeId offset =
          taken.readMap platform snapshot.blocks offset := by
    intro offset
    rw [readData_eq_readMap (mapped_of_volume found offset), ← sameBlocks,
      readMap, readMap, samePurity, sameBackend]
  have afterReads :
      ∀ offset,
        after.readData platform restored.id offset =
          (run (StorageController.step platform) taken later).readMap
            platform snapshot.blocks offset := by
    intro offset
    rw [readData_eq_readMap (mapped offset), readMap, readMap,
      afterPurity, afterBackend]
  simp only [mapped_of_volume found, ← sameBlocks, before, afterReads]

theorem restore_reads_overwritten :
    ∃ snapshot ∈
        ((reached storingPlatform twoVolumes).createSnapshot
          storingPlatform "0" none "" "now").1,
      ∃ restored after,
        (run (StorageController.step storingPlatform)
            ((reached storingPlatform twoVolumes).createSnapshot
              storingPlatform "0" none "" "now").2
            sparingCalls).restoreSnapshot storingPlatform snapshot.id
              none = (some restored, after) ∧
          ∀ offset block,
            (reached storingPlatform twoVolumes).mapped "0" offset =
                some block →
              after.readData storingPlatform restored.id offset =
                (reached storingPlatform twoVolumes).readData
                  storingPlatform "0" offset := by
  have taken :
      ∃ snapshot ∈
          ((reached storingPlatform twoVolumes).createSnapshot
            storingPlatform "0" none "" "now").1,
        snapshot.id = "4" := by
    decide +kernel
  rcases taken with ⟨snapshot, member, _⟩
  refine ⟨snapshot, member, ?_⟩
  have kept :
      ∀ call ∈ sparingCalls, call ≠ .deleteSnapshot snapshot.id := by
    simp [sparingCalls]
  have usable : (none : Option String).getD "" = "" := rfl
  rcases
    restore_reads_iff storingPlatform_lawful twoVolumes
      (Prod.ext member rfl) kept (Or.inl usable) with
    ⟨restored, after, restoring, reads⟩
  refine ⟨restored, after, restoring, reads.mpr ⟨?_, ?_, trivial⟩⟩
  · intro _ _ _ _ discarded
    exact discarded
  · apply spares_deleteVolume
    clear kept restoring reads
    revert snapshot
    decide +kernel

/-- Deleting the source takes the block of the snapshot away. -/
theorem restore_reads_lost :
    storingPlatform.Lawful ∧
      (∃ snapshot ∈
          ((reached storingPlatform twoVolumes).createSnapshot
            storingPlatform "0" none "" "now").1,
        snapshot.id = "4") ∧
      (reached storingPlatform twoVolumes).readData storingPlatform "0" 0 =
        .ok (some [1, 2]) ∧
      ((run (StorageController.step storingPlatform)
          ((reached storingPlatform twoVolumes).createSnapshot
            storingPlatform "0" none "" "now").2
          [.deleteVolume "0"]).restoreSnapshot storingPlatform "4"
            none).2.readData storingPlatform "5" 0 =
        .error (.keyError "Block not found: 1") := by
  refine ⟨storingPlatform_lawful, ?_, ?_, ?_⟩
  · decide +kernel
  · decide +kernel
  · decide +kernel

end Sharing

end StorageAppliance.Core
