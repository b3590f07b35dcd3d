import StorageAppliance.DirectFlash.Counters

/-!
# Failed flash writes

A write that finds no free block, or whose data is too large, should leave the
block manager as it was.  The length is tested before anything is changed, but
a mapped address gives up its old block before the pool is looked at.  With an
empty pool the old data is then out of reach, and the next garbage collection
erases it.
-/

namespace StorageAppliance.DirectFlash

open StorageAppliance.Python
open StorageAppliance.Library
open BlockManager

section FailedWrites

variable {total : Nat}

/-- The answer of a write that raises or returns `(-1, False)`. -/
def WriteFailed :
    Except PyException (Option (Fin total)) → Prop
  | .ok (some _) => False
  | .ok none => True
  | .error _ => True

/-- Every read, every block and every counter is as before. -/
structure BlockManager.Unchanged (before after : BlockManager total) :
    Prop where
  reads :
    ∀ logicalAddress,
      (after.readBlock logicalAddress).1 =
        (before.readBlock logicalAddress).1
  blocks : after.blocks = before.blocks
  counters : after.stats = before.stats

theorem unchanged_refl (self : BlockManager total) :
    Unchanged self self :=
  ⟨fun _ => rfl, rfl, rfl⟩

/-- The writes of which a failure leaves no trace. -/
def FailsCleanly (self : BlockManager total) (logicalAddress : ℤ)
    (data : Bytes) : Prop :=
  data.length > self.blockSize ∨
    self.l2pTable.get? logicalAddress = none ∨
    self.freeBlocks.Nonempty

variable {self : BlockManager total}

/-- An overwrite of full flash has already given up the old block. -/
theorem writeBlock_of_full
    (rank : Fin total → Nat) {logicalAddress : ℤ} {data : Bytes}
    {oldPhysical : Fin total}
    (fits : ¬ data.length > self.blockSize)
    (mapped :
      self.l2pTable.get? logicalAddress = some oldPhysical)
    (full : self.freeBlocks = ∅) :
    self.writeBlock rank logicalAddress data =
      (.ok none, self.invalidate oldPhysical) := by
  rcases writeBlock_of_fits rank logicalAddress fits with
    ⟨_, written⟩ | ⟨physicalId, taken, _⟩
  · rw [written, BlockManager.remap, mapped]
  · rw [full] at taken
    cases taken

/-- The overwritten data can no longer be read. -/
theorem readBlock_of_failed_overwrite
    (rank : Fin total → Nat) {logicalAddress : ℤ} {data : Bytes}
    {oldPhysical : Fin total}
    (fits : ¬ data.length > self.blockSize)
    (mapped :
      self.l2pTable.get? logicalAddress = some oldPhysical)
    (full : self.freeBlocks = ∅) :
    ((self.writeBlock rank logicalAddress data).2.readBlock
      logicalAddress).1 = none := by
  rw [writeBlock_of_full rank fits mapped full]
  have stillMapped :
      (self.invalidate oldPhysical).l2pTable.get? logicalAddress =
        some oldPhysical :=
    mapped
  have stale :
      ((self.invalidate oldPhysical).blocks oldPhysical).state ≠
        .valid := by
    simp [invalidate, modifyBlock]
  rw [readBlock, stillMapped]
  simp only [if_pos stale]

/--
A write that fails leaves every read, block and counter alone exactly if its
data is too large, its address is not mapped, or there is a free block, so that
it does not fail.
-/
theorem writeBlock_failure_unchanged_iff
    (self : BlockManager total) (rank : Fin total → Nat)
    (logicalAddress : ℤ) (data : Bytes) :
    (WriteFailed (self.writeBlock rank logicalAddress data).1 →
        Unchanged self
          (self.writeBlock rank logicalAddress data).2) ↔
      FailsCleanly self logicalAddress data := by
  constructor
  · intro clean
    by_contra lossy
    rcases not_or.mp lossy with ⟨fits, others⟩
    rcases not_or.mp others with ⟨present, full⟩
    rcases Option.ne_none_iff_exists'.mp present with
      ⟨oldPhysical, mapped⟩
    have written :=
      writeBlock_of_full rank fits mapped
        (Finset.not_nonempty_iff_eq_empty.mp full)
    rw [written] at clean
    have counters := (clean trivial).counters
    have valid := congrArg BlockManagerStats.validBlocks counters
    simp only [invalidate] at valid
    exact absurd valid (by omega)
  · intro clean failed
    by_cases fits : data.length > self.blockSize
    · rw [writeBlock, if_pos fits]
      exact unchanged_refl self
    · rcases writeBlock_of_fits rank logicalAddress fits with
        ⟨empty, written⟩ | ⟨physicalId, _, written⟩
      · have unmapped : self.l2pTable.get? logicalAddress = none := by
          rcases clean.resolve_left fits with absent | filled
          · exact absent
          · rw [empty] at filled
            exact absurd filled Finset.not_nonempty_empty
        rw [written, BlockManager.remap, unmapped]
        exact unchanged_refl self
      · rw [written] at failed
        exact failed.elim

/-- One block, written twice under one address. -/
def overwrittenFlash : BlockManager 1 :=
  run BlockManager.step (BlockManager.new 1 8 100)
    [.writeBlock (fun _ => 0) 0 [1]]

theorem failed_overwrite_loses_data :
    WriteFailed (overwrittenFlash.writeBlock (fun _ => 0) 0 [2]).1 ∧
      (overwrittenFlash.readBlock 0).1 = some [1] ∧
      ¬ Unchanged overwrittenFlash
        (overwrittenFlash.writeBlock (fun _ => 0) 0 [2]).2 := by
  have failed :
      (overwrittenFlash.writeBlock (fun _ => 0) 0 [2]).1 = .ok none := by
    decide +kernel
  refine ⟨?_, by decide +kernel, ?_⟩
  · rw [failed]
    trivial
  · intro unchanged
    have reads := unchanged.reads 0
    revert reads
    decide +kernel

end FailedWrites

end StorageAppliance.DirectFlash
