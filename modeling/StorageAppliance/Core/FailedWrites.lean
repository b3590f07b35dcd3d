import StorageAppliance.Core.Soundness
import StorageAppliance.Core.Writes

/-!
# What failed writes leave behind

An unknown volume and a misaligned offset are found before the pipeline runs.
The bound of the volume is checked after the block has been stored and counted,
so a write that is refused for it leaves a reference in the table that no volume
holds.
-/

namespace StorageAppliance.Core

open StorageAppliance.Python
open StorageAppliance.Library
open StorageAppliance.Storage
open StorageAppliance.Purity
open StorageController

/-- The write returns `None` or raises `ValueError`. -/
def WriteFailed (answer : Except PyException (Option WriteResult)) : Prop :=
  answer = .ok none ∨ ∃ message, answer = .error (.valueError message)

/-- The stored blocks, the references to them and the statistics are kept. -/
structure LeavesNoTrace (before after : StorageController) : Prop where
  files : after.files = before.files
  metadata : after.backend.metadata = before.backend.metadata
  table : after.table = before.table
  stats : after.purity.stats = before.purity.stats

theorem LeavesNoTrace.refl (controller : StorageController) :
    LeavesNoTrace controller controller :=
  ⟨rfl, rfl, rfl, rfl⟩

/-- The write passes every check that is made before the block is stored. -/
def StoresData (platform : Platform) (before : StorageController)
    (volumeId : String) (offset : ℤ) (data : Bytes) : Prop :=
  (before.volumes.get? volumeId).isSome ∧
    before.Aligned offset ∧
    ¬ Refuses platform before.purity data

/-- The block ends behind the end of the volume. -/
def Exceeds (before : StorageController) (volumeId : String)
    (offset : ℤ) (data : Bytes) : Prop :=
  ∃ volume,
    before.volumes.get? volumeId = some volume ∧
      volume.sizeBytes < offset + data.length

section Traces

variable
    {platform : Platform}
    {before middle : StorageController}

/-- A reference that has been taken shows in the table. -/
theorem Taken.table_ne
    {data : Bytes} {reduction : ReductionResult}
    (taken : Taken platform before data reduction middle) :
    middle.table ≠ before.table := by
  rcases taken.registered with ⟨content, registered⟩
  intro same
  have counted :=
    registerBlock_references platform before.purity.deduplication content
      reduction.blockId (platform.sha256Hex content)
  have kept :
      middle.references (platform.sha256Hex content) =
        before.references (platform.sha256Hex content) := by
    simp only [references, DeduplicationEngine.references, same]
  rw [references, registered, counted, if_pos rfl] at kept
  exact absurd kept (Nat.succ_ne_self _)

/-- Recording fails exactly beyond the bound. -/
theorem recordWrite_failed_iff
    {volumeId : String} {volume : Volume} {offset : ℤ} {data : Bytes}
    {reduction : ReductionResult}
    (found : middle.volumes.get? volumeId = some volume) :
    WriteFailed
        (middle.recordWrite volumeId offset data reduction).1 ↔
      volume.sizeBytes < offset + data.length := by
  rw [recordWrite_answer found]
  by_cases exceeds : volume.sizeBytes < offset + data.length
  · rw [if_pos exceeds]
    exact iff_of_true (Or.inr ⟨_, rfl⟩) exceeds
  · rw [if_neg exceeds]
    apply iff_of_false _ exceeds
    simp [WriteFailed]

theorem recordWrite_table
    (volumeId : String) (offset : ℤ) (data : Bytes)
    (reduction : ReductionResult) :
    (middle.recordWrite volumeId offset data reduction).2.table =
      middle.table := by
  rw [recordWrite_frame]

end Traces

/--
In every state, a write that fails leaves no trace exactly if it is not one that
passes every check except the bound of the volume.
-/
theorem write_leavesNoTrace_iff
    (platform : Platform) (before : StorageController)
    (volumeId : String) (offset : ℤ) (data : Bytes) :
    (WriteFailed (before.write platform volumeId offset data).1 →
        LeavesNoTrace before
          (before.write platform volumeId offset data).2) ↔
      ¬ (StoresData platform before volumeId offset data ∧
        Exceeds before volumeId offset data) := by
  have outcome := write_outcome platform before volumeId offset data
  generalize (before.write platform volumeId offset data).1 = answer
    at outcome ⊢
  generalize (before.write platform volumeId offset data).2 = after
    at outcome ⊢
  cases outcome with
  | unknown absent =>
      apply iff_of_true
      · exact fun _ => LeavesNoTrace.refl before
      · rintro ⟨⟨live, _⟩, _⟩
        simp [absent] at live
  | zeroBlockSize found zero =>
      apply iff_of_true
      · exact fun _ => LeavesNoTrace.refl before
      · rintro ⟨⟨_, aligned, _⟩, _⟩
        exact aligned.1 zero
  | misaligned found misaligned =>
      apply iff_of_true
      · exact fun _ => LeavesNoTrace.refl before
      · rintro ⟨⟨_, aligned, _⟩, _⟩
        exact misaligned aligned
  | refused found aligned refuses configuration =>
      apply iff_of_true
      · rintro (none | ⟨message, raised⟩)
        · cases none
        · cases raised
      · rintro ⟨⟨_, _, accepted⟩, _⟩
        exact accepted refuses
  | @accepted volume reduction middle found aligned accepted taken =>
      have middleFound : middle.volumes.get? volumeId = some volume := by
        rw [volumes, taken.volumeManager]
        exact found
      rw [recordWrite_failed_iff middleFound]
      have stores : StoresData platform before volumeId offset data :=
        ⟨by simp [found], aligned, accepted⟩
      have exceedsIff :
          Exceeds before volumeId offset data ↔
            volume.sizeBytes < offset + data.length := by
        simp [Exceeds, found]
      rw [exceedsIff]
      constructor
      · rintro unchanged ⟨_, exceeds⟩
        have kept := (unchanged exceeds).table
        rw [recordWrite_table] at kept
        exact taken.table_ne kept
      · intro within exceeds
        exact (within ⟨stores, exceeds⟩).elim

/-- A write behind the end of a volume raises and leaves its block counted. -/
theorem failed_write_leaves_trace :
    let before := reached storingPlatform [createGibibyte "volume"]
    let outcome := before.write storingPlatform "0" (1024 ^ 3) [1, 2]
    WriteFailed outcome.1 ∧ ¬ LeavesNoTrace before outcome.2 := by
  constructor
  · exact Or.inr ⟨"Write exceeds volume size", by decide +kernel⟩
  · intro kept
    exact absurd kept.table (by decide +kernel)

end StorageAppliance.Core
