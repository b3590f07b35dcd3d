import StorageAppliance.Purity.Pipeline
import StorageAppliance.Core.ControllerSteps

/-!
# Writes under any settings

`write` stores the block and takes a reference to it before it asks the volume
manager whether the block fits.  `Taken` describes the controller in between,
and `WriteOutcome` is the inversion of `write` under any settings.
-/

namespace StorageAppliance.Core

open StorageAppliance.Python
open StorageAppliance.Library
open StorageAppliance.Storage
open StorageAppliance.Purity
open StorageController

/-- The size that a write reports as stored: nothing for a shared block. -/
def storedSize (platform : Platform) (engine : PurityEngine)
    (data : Bytes) : Nat :=
  match sharedEntry platform engine data with
  | some _ => 0
  | none => (storedForm platform engine data).length

/-- The controller has stored the data, or shares it, and counts it. -/
structure Taken (platform : Platform) (before : StorageController)
    (data : Bytes) (result : ReductionResult)
    (middle : StorageController) : Prop where
  settings : middle.settings = before.settings
  volumeManager : middle.volumeManager = before.volumeManager
  snapshotManager : middle.snapshotManager = before.snapshotManager
  drawn : before.uuidsDrawn ≤ middle.uuidsDrawn
  configuration : SameConfiguration before.purity middle.purity
  size : result.storedSize = storedSize platform before.purity data
  registered :
    ∃ content,
      middle.purity.deduplication =
        (before.purity.deduplication.registerBlock platform content
          result.blockId).2

/-- Everything `write` can do. -/
inductive WriteOutcome (platform : Platform) (before : StorageController)
    (volumeId : String) (offset : ℤ) (data : Bytes) :
    Except PyException (Option WriteResult) → StorageController →
      Prop where
  | unknown
      (absent : before.volumes.get? volumeId = none) :
      WriteOutcome platform before volumeId offset data (.ok none) before
  | zeroBlockSize {volume : Volume}
      (found : before.volumes.get? volumeId = some volume)
      (zero : before.settings.defaultBlockSize = 0) :
      WriteOutcome platform before volumeId offset data
        (.error (.zeroDivisionError "integer modulo by zero")) before
  | misaligned {volume : Volume}
      (found : before.volumes.get? volumeId = some volume)
      (misaligned : ¬ before.Aligned offset) :
      WriteOutcome platform before volumeId offset data
        (.error (.valueError
          (misalignedMessage before.settings.defaultBlockSize))) before
  | refused {volume : Volume} {engine : PurityEngine}
      (found : before.volumes.get? volumeId = some volume)
      (aligned : before.Aligned offset)
      (refuses : Refuses platform before.purity data)
      (configuration : SameConfiguration before.purity engine) :
      WriteOutcome platform before volumeId offset data
        (.error lengthOverflow) { before with purity := engine }
  | accepted {volume : Volume} {reduction : ReductionResult}
      {middle : StorageController}
      (found : before.volumes.get? volumeId = some volume)
      (aligned : before.Aligned offset)
      (accepted : ¬ Refuses platform before.purity data)
      (taken : Taken platform before data reduction middle) :
      WriteOutcome platform before volumeId offset data
        (middle.recordWrite volumeId offset data reduction).1
        (middle.recordWrite volumeId offset data reduction).2

section Write

variable
    {platform : Platform}
    {before : StorageController}

/-- Inversion of `write` under any settings. -/
theorem write_outcome
    (platform : Platform) (before : StorageController)
    (volumeId : String) (offset : ℤ) (data : Bytes) :
    WriteOutcome platform before volumeId offset data
      (before.write platform volumeId offset data).1
      (before.write platform volumeId offset data).2 := by
  have processed := reduce_processed platform before.purity data
  cases found : before.volumes.get? volumeId with
  | none =>
      rw [write, beginWrite_of_unknown found]
      exact .unknown found
  | some volume =>
      by_cases zero : before.settings.defaultBlockSize = 0
      · rw [write, beginWrite_of_zero found zero]
        exact .zeroBlockSize found zero
      · by_cases aligned : before.Aligned offset
        · rw [write, beginWrite_aligned found aligned]
          cases outcome : before.purity.reduce platform data with
          | mk reduction engine =>
              rw [outcome] at processed
              cases processed with
              | refused refuses configuration =>
                  exact .refused found aligned refuses configuration
              | shared accepted entryFound block _ size _ configuration
                  counted =>
                  refine .accepted found aligned accepted
                    ⟨rfl, rfl, rfl, Nat.le_refl _, configuration, ?_,
                      ⟨_, counted.trans (by rw [block])⟩⟩
                  rw [size, storedSize, entryFound]
              | new accepted unshared sameData form _ configuration
                  uncounted =>
                  dsimp only at configuration uncounted
                  refine .accepted found aligned accepted
                    ⟨rfl, rfl, rfl, Nat.le_succ _,
                      configuration.trans ⟨rfl, rfl, rfl, rfl, rfl⟩, ?_,
                      ⟨data, ?_⟩⟩
                  · rw [storedSize, unshared]
                    exact congrArg List.length form
                  · simp only [sameData, uncounted]
        · rw [write, beginWrite_misaligned found zero aligned]
          exact .misaligned found aligned

end Write

end StorageAppliance.Core
