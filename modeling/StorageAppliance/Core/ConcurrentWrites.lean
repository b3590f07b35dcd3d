import StorageAppliance.Core.LiveReferences
import StorageAppliance.Core.Tasks

/-!
# Acknowledged writes under concurrency

A write checks that its volume is live, then waits for the backend, and then
records the block.  Recording reports a missing volume only through a return
value that the write ignores, and a write past the end of the volume raises
after the reference is taken.  So a write keeps its promise exactly when the
volume is live and large enough at the moment the write records its block,
whatever ran in between.

`acknowledges_iff_recordable` says this for one step of the event loop, and
`run_acknowledges_iff` for every interleaving of writes and deletions.
-/

namespace StorageAppliance.Core

open StorageAppliance.Python
open StorageAppliance.Library
open StorageAppliance.Storage
open StorageAppliance.Purity
open StorageController
open EventLoop

/-- The block that a write has asked the backend to store. -/
def WritePoint.blockId? : WritePoint → Option String
  | .notStarted => none
  | .waiting blockId _ => some blockId
  | .makingDirectories blockId _ => some blockId
  | .readingMetadata blockId _ => some blockId
  | .countingReference blockId _ _ => some blockId
  | .writingData blockId _ => some blockId
  | .writingMetadata blockId _ => some blockId
  | .returned _ => none

/-- What an answer promises about the controller at the moment it is given. -/
def Honoured (before after : StorageController) (volumeId : String)
    (offset : ℤ) (point : WritePoint) :
    Except PyException (Option WriteResult) → Prop
  | .ok (some result) =>
      ∃ volume block,
        after.volumes.get? volumeId = some volume ∧
          volume.blocks.get? offset = some block ∧
          block.blockId = result.reduction.blockId
  | _ =>
      (∀ fingerprint,
          after.references fingerprint = before.references fingerprint) ∧
        ∀ blockId,
          point.blockId? = some blockId →
            after.files.get? blockId = none

/-- If the step of the task returns from a write, the answer is honoured. -/
def Acknowledges (platform : Platform) (loop : EventLoop) (taskId : Nat) :
    Prop :=
  ∀ volumeId offset data point answer,
    loop.tasks.get? taskId = some (.write volumeId offset data point) →
      (∀ earlier, point ≠ .returned earlier) →
        (loop.step platform taskId).tasks.get? taskId =
            some (.write volumeId offset data (.returned answer)) →
          Honoured loop.controller (loop.step platform taskId).controller
            volumeId offset point answer

/-- In its next step the write takes its reference and records its block. -/
def TakesReference (platform : Platform) (controller : StorageController)
    (volumeId : String) (offset : ℤ) (data : Bytes) : WritePoint → Prop
  | .notStarted =>
      Accepts platform controller volumeId offset data ∧
        ∃ encoded,
          Encodes data encoded ∧
            controller.table.get? (platform.sha256Hex encoded) ≠ none
  | .countingReference _ _ _ => True
  | .writingMetadata _ _ => True
  | _ => False

/-- A write that records its block finds room for it in a live volume. -/
def Recordable (platform : Platform) (loop : EventLoop) (taskId : Nat) :
    Prop :=
  ∀ volumeId offset data point,
    loop.tasks.get? taskId = some (.write volumeId offset data point) →
      TakesReference platform loop.controller volumeId offset data point →
        Fits loop.controller volumeId offset data

/-- The settings of a controller are the default ones, in all its parts. -/
structure Configured (controller : StorageController) : Prop where
  settings : controller.settings = {}
  standard : controller.purity.Standard

section Recording

variable
    {platform : Platform}
    {controller : StorageController}

/-- Recording is honoured exactly if there is room in a live volume. -/
theorem recordWrite_honoured_iff
    {before : StorageController} {volumeId : String} {offset : ℤ}
    {data : Bytes} {point : WritePoint} {reduction : ReductionResult}
    (sameVolumes : controller.volumes = before.volumes)
    (counted :
      ∃ fingerprint,
        controller.references fingerprint ≠
          before.references fingerprint) :
    Honoured before
        (controller.recordWrite volumeId offset data reduction).2 volumeId
        offset point
        (controller.recordWrite volumeId offset data reduction).1 ↔
      Fits before volumeId offset data := by
  rcases counted with ⟨fingerprint, differs⟩
  have references :
      (controller.recordWrite volumeId offset data
          reduction).2.references = controller.references := by
    rw [recordWrite_frame]
  cases found : before.volumes.get? volumeId with
  | none =>
      have absent : controller.volumeManager.getVolume volumeId = none := by
        rw [← found, ← sameVolumes]
        rfl
      have gone :
          (controller.recordWrite volumeId offset data
            reduction).2.volumes.get? volumeId = none := by
        rw [recordWrite_frame]
        simp only [VolumeManager.writeBlock, absent]
        exact absent
      have answer :
          (controller.recordWrite volumeId offset data reduction).1 =
            .ok (some ⟨volumeId, offset, data.length, reduction⟩) := by
        simp [recordWrite, VolumeManager.writeBlock, absent]
      rw [answer]
      simp [Honoured, gone, Fits, found]
  | some volume =>
      have live : controller.volumes.get? volumeId = some volume := by
        rw [sameVolumes]
        exact found
      rw [recordWrite_answer live, fits_iff found]
      by_cases exceeds : volume.sizeBytes < offset + data.length
      · simp only [exceeds, if_true, not_true_eq_false, iff_false]
        intro honoured
        have same := honoured.1 fingerprint
        rw [references] at same
        exact differs same
      · simp only [exceeds, if_false, not_false_eq_true, iff_true]
        have volumes := recordWrite_volumes live offset data reduction
        rw [if_neg exceeds] at volumes
        have block :
            (VolumeManager.mapBlock volume offset reduction.blockId
                reduction.dedupeResult.fingerprint data.length
                reduction.storedSize).blocks.get? offset =
              some ⟨offset, reduction.blockId,
                reduction.dedupeResult.fingerprint, data.length⟩ :=
          Dict.get?_set_self _ _ _
        refine ⟨_, _, ?_, block, rfl⟩
        rw [volumes]
        exact Dict.get?_set_self _ _ _

theorem registerBlock_changes
    (engine : DeduplicationEngine) (data : Bytes) (blockId : String) :
    ∃ fingerprint,
      (engine.registerBlock platform data blockId).2.references
          fingerprint ≠ engine.references fingerprint := by
  refine ⟨platform.sha256Hex data, ?_⟩
  rw [registerBlock_references, if_pos rfl]
  exact Nat.succ_ne_self _

end Recording

section Step

variable
    {platform : Platform}
    {loop : EventLoop}

/-- A completed write has returned the answer of `finishWrite`. -/
theorem completeWrite_returned
    (loop : EventLoop) (taskId : Nat) {volumeId : String} {offset : ℤ}
    {data : Bytes} {blockId : String} {pending : PendingStore} :
    (loop.completeWrite platform taskId volumeId offset data blockId
        pending).tasks.get? taskId =
      some (.write volumeId offset data
        (.returned
          (loop.controller.finishWrite platform volumeId offset data
            blockId pending).1)) :=
  Dict.get?_set_self _ _ _

/-- A write that completes honours its answer exactly if it fits. -/
theorem completeWrite_honoured_iff
    {taskId : Nat} {volumeId : String} {offset : ℤ} {data : Bytes}
    {blockId : String} {pending : PendingStore} {point : WritePoint}
    (backend : FileBackend)
    {answer : Except PyException (Option WriteResult)}
    (returned :
      ((loop.withBackend backend).completeWrite platform taskId volumeId
          offset data blockId pending).tasks.get? taskId =
        some (.write volumeId offset data (.returned answer))) :
    Honoured loop.controller
        ((loop.withBackend backend).completeWrite platform taskId volumeId
          offset data blockId pending).controller
        volumeId offset point answer ↔
      Fits loop.controller volumeId offset data := by
  have answered :
      ((loop.withBackend backend).controller.finishWrite platform volumeId
        offset data blockId pending).1 = answer := by
    simpa only [completeWrite, setWrite, Dict.get?_set_self,
      Option.some.injEq, Task.write.injEq, WritePoint.returned.injEq,
      true_and] using returned
  subst answered
  apply recordWrite_honoured_iff
  · rfl
  · exact registerBlock_changes _ _ _

/-- The completion of a write is honoured exactly if the write fits. -/
theorem completeWrite_honoured_all_iff
    {taskId : Nat} {volumeId : String} {offset : ℤ} {data : Bytes}
    {blockId : String} {pending : PendingStore} {point : WritePoint}
    (backend : FileBackend) :
    (∀ answer,
        ((loop.withBackend backend).completeWrite platform taskId volumeId
              offset data blockId pending).tasks.get? taskId =
            some (.write volumeId offset data (.returned answer)) →
          Honoured loop.controller
            ((loop.withBackend backend).completeWrite platform taskId
              volumeId offset data blockId pending).controller
            volumeId offset point answer) ↔
      Fits loop.controller volumeId offset data := by
  constructor
  · intro honoured
    exact
      (completeWrite_honoured_iff backend (completeWrite_returned _ _)).mp
        (honoured _ (completeWrite_returned _ _))
  · intro fits answer returned
    exact (completeWrite_honoured_iff backend returned).mpr fits

/-- A write that starts honours an immediate answer exactly if it may. -/
theorem beginWrite_honoured_iff
    (lawful : platform.Lawful) (configured : Configured loop.controller)
    {volumeId : String} {offset : ℤ} {data : Bytes}
    {answer : Except PyException (Option WriteResult)}
    {after : StorageController}
    (answered :
      loop.controller.beginWrite platform volumeId offset data =
        (.answered answer, after)) :
    Honoured loop.controller after volumeId offset .notStarted answer ↔
      (TakesReference platform loop.controller volumeId offset data
          .notStarted →
        Fits loop.controller volumeId offset data) := by
  have quiet :
      ∀ {other : StorageController},
        other.purity.deduplication =
            loop.controller.purity.deduplication →
          (∀ fingerprint,
              other.references fingerprint =
                loop.controller.references fingerprint) ∧
            ∀ blockId,
              WritePoint.blockId? .notStarted = some blockId →
                other.files.get? blockId = none := by
    intro other same
    constructor
    · intro fingerprint
      rw [StorageController.references, same]
    · intro blockId stored
      cases stored
  cases found : loop.controller.volumes.get? volumeId with
  | none =>
      rw [beginWrite_of_unknown found] at answered
      cases answered
      have notTaken :
          ¬ TakesReference platform loop.controller volumeId offset data
            .notStarted := fun takes => takes.1.1 found
      exact iff_of_true (quiet rfl) fun takes => (notTaken takes).elim
  | some volume =>
      by_cases aligned : offset % 4096 = 0
      · rw [beginWrite_of_aligned configured.settings found aligned]
          at answered
        have reduced := reduce_cases lawful configured.standard data
        have refusedOnly := reduced.failed_iff
        cases outcome : loop.controller.purity.reduce platform data with
        | mk reduction engine =>
            rw [outcome] at answered reduced refusedOnly
            cases reduced with
            | failed exception refused uncounted =>
                cases answered
                apply iff_of_true
                · exact quiet uncounted
                · intro takes
                  exact (takes.1.2.2 refused).elim
            | @duplicate encoded entry result _ encodes entryFound _ _ _
                counted =>
                cases answered
                have takes :
                    TakesReference platform loop.controller volumeId
                      offset data .notStarted := by
                  refine ⟨⟨?_, aligned, ?_⟩, encoded, encodes, ?_⟩
                  · rw [found]
                    simp
                  · intro refused
                    rcases refusedOnly.mpr refused with ⟨_, equal⟩
                    cases equal
                  · rw [show _ = some entry from entryFound]
                    simp
                simp only [takes, true_implies]
                apply recordWrite_honoured_iff
                · rfl
                · rw [StorageController.references, counted]
                  exact registerBlock_changes _ _ _
            | store => cases answered
      · rw [beginWrite_of_misaligned configured.settings found aligned]
          at answered
        cases answered
        apply iff_of_true (quiet rfl)
        intro takes
        exact (aligned takes.1.2.1).elim

/-- A write that goes on to the backend has not found its block. -/
theorem not_takesReference_of_storing
    (lawful : platform.Lawful) (configured : Configured loop.controller)
    {volumeId : String} {offset : ℤ} {data : Bytes} {blockId : String}
    {pending : PendingStore} {after : StorageController}
    (storing :
      loop.controller.beginWrite platform volumeId offset data =
        (.storing blockId pending, after)) :
    ¬ TakesReference platform loop.controller volumeId offset data
      .notStarted := by
  rintro ⟨⟨live, aligned, _⟩, encoded, encodes, present⟩
  rcases Option.ne_none_iff_exists'.mp live with ⟨volume, found⟩
  rw [beginWrite_of_aligned configured.settings found aligned] at storing
  have reduced := reduce_cases lawful configured.standard data
  cases outcome : loop.controller.purity.reduce platform data with
  | mk reduction engine =>
      rw [outcome] at storing reduced
      cases reduced with
      | failed => cases storing
      | duplicate => cases storing
      | store storedEncodes absent =>
          rw [encodes.unique storedEncodes] at present
          exact present absent

/-- From every point, a returned answer is honoured exactly if it may. -/
theorem resumeWrite_honoured_iff
    (lawful : platform.Lawful) (configured : Configured loop.controller)
    {taskId : Nat} {volumeId : String} {offset : ℤ} {data : Bytes}
    {point : WritePoint}
    (scheduled :
      loop.tasks.get? taskId = some (.write volumeId offset data point))
    (running : ∀ earlier, point ≠ .returned earlier) :
    (∀ answer,
        (loop.resumeWrite platform taskId volumeId offset data
            point).tasks.get? taskId =
              some (.write volumeId offset data (.returned answer)) →
          Honoured loop.controller
            (loop.resumeWrite platform taskId volumeId offset data
              point).controller
            volumeId offset point answer) ↔
      (TakesReference platform loop.controller volumeId offset data
          point →
        Fits loop.controller volumeId offset data) := by
  cases point with
  | notStarted =>
      cases begun :
          loop.controller.beginWrite platform volumeId offset data with
      | mk start after =>
          cases start with
          | answered answer =>
              simp only [resumeWrite, begun, setWrite,
                Dict.get?_set_self, Option.some.injEq, Task.write.injEq,
                WritePoint.returned.injEq, true_and, forall_eq']
              exact beginWrite_honoured_iff lawful configured begun
          | storing blockId pending =>
              have notTaken :=
                not_takesReference_of_storing lawful configured begun
              simp only [notTaken, false_implies, iff_true]
              intro answer returned
              simp only [resumeWrite, begun, enterWrite, setWrite,
                Dict.get?_set_self, Option.some.injEq, Task.write.injEq,
                true_and] at returned
              split at returned <;> cases returned
  | waiting blockId pending =>
      simp only [TakesReference, false_implies, iff_true]
      intro answer returned
      simp only [resumeWrite] at returned
      split at returned
      · simp [setWrite] at returned
      · simp [scheduled] at returned
  | makingDirectories blockId pending =>
      simp only [TakesReference, false_implies, iff_true]
      intro answer returned
      simp only [resumeWrite] at returned
      split at returned <;> simp [setWrite] at returned
  | readingMetadata blockId pending =>
      simp only [TakesReference, false_implies, iff_true]
      intro answer returned
      simp only [resumeWrite] at returned
      split at returned <;> simp [setWrite] at returned
  | writingData blockId pending =>
      simp only [TakesReference, false_implies, iff_true]
      intro answer returned
      simp [resumeWrite, setWrite] at returned
  | countingReference blockId pending info =>
      simp only [TakesReference, true_implies, resumeWrite]
      exact completeWrite_honoured_all_iff _
  | writingMetadata blockId pending =>
      simp only [TakesReference, true_implies, resumeWrite]
      exact completeWrite_honoured_all_iff _
  | returned answer => exact (running answer rfl).elim

/-- A step honours its answer exactly if the write may record its block. -/
theorem acknowledges_iff_recordable
    (lawful : platform.Lawful) (configured : Configured loop.controller)
    (taskId : Nat) :
    Acknowledges platform loop taskId ↔ Recordable platform loop taskId := by
  cases scheduled : loop.tasks.get? taskId with
  | none => simp [Acknowledges, Recordable, scheduled]
  | some task =>
      cases task with
      | delete => simp [Acknowledges, Recordable, scheduled]
      | write volumeId offset data point =>
          have stepped :
              loop.step platform taskId =
                loop.resumeWrite platform taskId volumeId offset data
                  point := by
            rw [EventLoop.step, scheduled]
          constructor
          · intro acknowledges _ _ _ _ found takes
            rw [scheduled] at found
            cases found
            have running : ∀ earlier, point ≠ .returned earlier := by
              rintro earlier rfl
              exact takes
            apply
              (resumeWrite_honoured_iff lawful configured scheduled
                running).mp _ takes
            intro answer returned
            rw [← stepped] at returned ⊢
            exact acknowledges _ _ _ _ answer scheduled running returned
          · intro recordable _ _ _ _ answer found running returned
            rw [scheduled] at found
            cases found
            rw [stepped] at returned ⊢
            exact
              (resumeWrite_honoured_iff lawful configured scheduled
                running).mpr (recordable _ _ _ _ scheduled) answer returned

/-! ## Whole runs -/

theorem Configured.beginWrite
    {controller : StorageController}
    (configured : Configured controller)
    (volumeId : String) (offset : ℤ) (data : Bytes) :
    Configured
      (controller.beginWrite platform volumeId offset data).2 := by
  have reduced :
      (controller.purity.reduce platform data).2.Standard :=
    reduce_standard configured.standard data
  rw [StorageController.beginWrite]
  split
  · exact configured
  · split
    · exact configured
    · split
      · exact configured
      · split <;> rename_i equal <;> rw [equal] at reduced
        · exact ⟨configured.settings, reduced⟩
        · rw [recordWrite_frame]
          exact ⟨configured.settings, reduced⟩
        · exact ⟨configured.settings, reduced⟩

theorem Configured.finishWrite
    {controller : StorageController}
    (configured : Configured controller)
    (volumeId : String) (offset : ℤ) (data : Bytes) (blockId : String)
    (pending : PendingStore) :
    Configured
      (controller.finishWrite platform volumeId offset data blockId
        pending).2 := by
  rw [StorageController.finishWrite]
  simp only [recordWrite_frame]
  exact ⟨configured.settings,
    finishStore_standard configured.standard pending blockId⟩

theorem configured_resumeWrite
    (configured : Configured loop.controller)
    (taskId : Nat) (volumeId : String) (offset : ℤ) (data : Bytes)
    (point : WritePoint) :
    Configured
      (loop.resumeWrite platform taskId volumeId offset data
        point).controller := by
  have sameParts :
      ∀ backend,
        Configured { loop.controller with backend := backend } :=
    fun _ => ⟨configured.settings, configured.standard⟩
  cases point with
  | notStarted =>
      have begun :
          Configured
            (loop.controller.beginWrite platform volumeId offset
              data).2 :=
        configured.beginWrite volumeId offset data
      simp only [resumeWrite]
      split <;> rename_i equal <;> rw [equal] at begun <;> exact begun
  | waiting blockId pending =>
      simp only [resumeWrite]
      split <;> exact configured
  | makingDirectories blockId pending =>
      simp only [resumeWrite]
      split <;> exact configured
  | readingMetadata blockId pending =>
      simp only [resumeWrite]
      split <;> exact configured
  | countingReference blockId pending info =>
      exact (sameParts _).finishWrite volumeId offset data blockId pending
  | writingData blockId pending => exact sameParts _
  | writingMetadata blockId pending =>
      exact (sameParts _).finishWrite volumeId offset data blockId pending
  | returned answer => exact configured

theorem configured_deleteBlocks
    (configured : Configured loop.controller)
    (taskId : Nat) (volumeId : String) (iterator : BlockIterator)
    (blocks : List VolumeBlock) :
    Configured
      (loop.deleteBlocks taskId volumeId iterator blocks).controller := by
  induction blocks generalizing loop iterator with
  | nil => exact ⟨configured.settings, configured.standard⟩
  | cons block rest induction =>
      have released :
          Configured (loop.dereference block.fingerprint).2.controller :=
        ⟨configured.settings, configured.standard.settings,
          configured.standard.minBlockSize, configured.standard.algorithm⟩
      simp only [deleteBlocks]
      split
      · split
        · split
          · exact released
          · apply induction
            exact released
        · exact released
      · exact induction released _

theorem configured_continueDelete
    (configured : Configured loop.controller)
    (taskId : Nat) (volumeId : String) (iterator : BlockIterator) :
    Configured
      (loop.continueDelete taskId volumeId iterator).controller := by
  rw [continueDelete]
  split
  · exact configured
  · split
    · exact configured
    · exact configured_deleteBlocks configured _ _ _ _

theorem configured_resumeDelete
    (configured : Configured loop.controller)
    (taskId : Nat) (volumeId : String) (point : DeletePoint) :
    Configured (loop.resumeDelete taskId volumeId point).controller := by
  have sameParts :
      ∀ backend,
        Configured (loop.withBackend backend).unlock.controller :=
    fun _ => ⟨configured.settings, configured.standard⟩
  have unlocked : Configured loop.unlock.controller := configured
  cases point with
  | notStarted =>
      simp only [resumeDelete]
      split
      · exact configured
      · exact configured_deleteBlocks configured _ _ _ _
  | waiting iterator blockId =>
      simp only [resumeDelete]
      split
      · split
        · exact configured
        · exact configured_continueDelete unlocked _ _ _
      · exact configured
  | readingMetadata iterator blockId =>
      simp only [resumeDelete]
      split
      · exact configured_continueDelete unlocked _ _ _
      · split <;> exact configured
  | removingData iterator blockId =>
      simp only [resumeDelete]
      split
      · exact configured_continueDelete unlocked _ _ _
      · exact ⟨configured.settings, configured.standard⟩
  | removingMetadata iterator blockId =>
      simp only [resumeDelete]
      split
      · exact configured_continueDelete unlocked _ _ _
      · exact configured_continueDelete (sameParts _) _ _ _
  | updatingMetadata iterator blockId info =>
      exact configured_continueDelete (sameParts _) _ _ _
  | returned answer => exact configured

theorem configured_step
    (configured : Configured loop.controller) (taskId : Nat) :
    Configured (loop.step platform taskId).controller := by
  rw [EventLoop.step]
  split
  · exact configured
  · exact configured_resumeWrite configured _ _ _ _ _
  · exact configured_resumeDelete configured _ _ _

/--
In every interleaving of writes and deletions, every answer of a write is
honoured exactly if every write finds room in a live volume when it records its
block.
-/
theorem run_acknowledges_iff
    (lawful : platform.Lawful) (calls : List Call)
    (tasks : Dict Nat Task) (schedule : List Nat) :
    AllSteps (EventLoop.step platform) (Acknowledges platform)
        ⟨reached platform calls, {}, Dict.empty, tasks⟩ schedule ↔
      AllSteps (EventLoop.step platform) (Recordable platform)
        ⟨reached platform calls, {}, Dict.empty, tasks⟩ schedule := by
  have sound := reached_sound lawful calls
  apply
    allSteps_iff_of_invariant
      (fun _ taskId configured => configured_step configured taskId)
      (fun _ taskId configured =>
        acknowledges_iff_recordable lawful configured taskId)
  exact ⟨sound.settings, sound.standard⟩

end Step

/-- The room a task needs when it records its block. -/
def Task.HasRoom (controller : StorageController) : Task → Prop
  | .write volumeId offset data _ => Fits controller volumeId offset data
  | .delete _ _ => True

instance (controller : StorageController) :
    DecidablePred (Task.HasRoom controller)
  | .write volumeId offset data _ =>
      inferInstanceAs (Decidable (Fits controller volumeId offset data))
  | .delete _ _ => isTrue trivial

theorem recordable_of_hasRoom
    {platform : Platform} {loop : EventLoop} {taskId : Nat}
    (room :
      ∀ task ∈ loop.tasks.get? taskId, task.HasRoom loop.controller) :
    Recordable platform loop taskId := by
  intro volumeId offset data point found _
  exact room _ found

/-- A write and a deletion of its volume. -/
def writeAndDelete : EventLoop where
  controller := reached storingPlatform [createGibibyte "first"]
  tasks :=
    (Dict.empty.set 0 (.write "0" 0 [1, 2] .notStarted)).set 1
      (.delete "0" .notStarted)

theorem run_acknowledges_in_order :
    AllSteps (EventLoop.step storingPlatform)
      (Acknowledges storingPlatform) writeAndDelete [0, 0, 0, 0, 1] := by
  apply
    (run_acknowledges_iff storingPlatform_lawful [createGibibyte "first"]
      writeAndDelete.tasks [0, 0, 0, 0, 1]).mpr
  refine ⟨?_, ?_, ?_, ?_, ?_, trivial⟩
  · exact recordable_of_hasRoom (by decide +kernel)
  · exact recordable_of_hasRoom (by decide +kernel)
  · exact recordable_of_hasRoom (by decide +kernel)
  · exact recordable_of_hasRoom (by decide +kernel)
  · exact recordable_of_hasRoom (by decide +kernel)

/-- The task is a write that returned a result. -/
def Task.acknowledged : Task → Bool
  | .write _ _ _ (.returned (.ok (some _))) => true
  | _ => false

/--
The volume is deleted while the write waits for the backend.  The write still
returns a result, and its block stays behind.
-/
theorem acknowledged_write_lost :
    storingPlatform.Lawful ∧
      ((run (EventLoop.step storingPlatform) writeAndDelete
          [0, 1, 0, 0]).tasks.get? 0).map Task.acknowledged =
        some false ∧
      ((run (EventLoop.step storingPlatform) writeAndDelete
          [0, 1, 0, 0, 0]).tasks.get? 0).map Task.acknowledged =
        some true ∧
      (run (EventLoop.step storingPlatform) writeAndDelete
          [0, 1, 0, 0, 0]).controller.volumes.get? "0" = none ∧
      (run (EventLoop.step storingPlatform) writeAndDelete
          [0, 1, 0, 0, 0]).controller.files.get? "1" ≠ none := by
  refine ⟨storingPlatform_lawful, ?_, ?_, ?_, ?_⟩
  · decide +kernel
  · decide +kernel
  · decide +kernel
  · decide +kernel

end StorageAppliance.Core
