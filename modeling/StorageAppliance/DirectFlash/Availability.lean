import Mathlib.Algebra.Order.Field.Rat
import StorageAppliance.DirectFlash.Moves

/-!
# Write availability

A write succeeds if the pool has a block, or if one cycle of garbage collection
brings one there.  `Reclaimable` is the condition on the blocks: one is free, or
one is stale and survives another erasure.

A cycle may stop early in two ways.  It stops when the utilization has reached
the target, which is below one, so a block is free by then.  And it is abandoned
with an exception when every block is bad, and then none was left to reclaim.
The leveling after a write that has found its block cannot fail, because that
block is usable.
-/

namespace StorageAppliance.DirectFlash

open StorageAppliance.Python
open StorageAppliance.Library
open BlockManager
open GarbageCollector
open DirectFlashSimulator

section Collection

variable
    {total : Nat}
    {manager : BlockManager total}

/-- A stale block that survives another erasure. -/
def BlockManager.Survives (self : BlockManager total)
    (physicalId : Fin total) : Prop :=
  (self.blocks physicalId).state = .invalid ∧
    (self.blocks physicalId).eraseCount + 1 < self.maxEraseCount

/-- A free block, or one that garbage collection can free. -/
def BlockManager.Reclaimable (self : BlockManager total) : Prop :=
  (∃ physicalId, (self.blocks physicalId).state = .free) ∨
    ∃ physicalId, self.Survives physicalId

/-- The pool has a block exactly when one is free. -/
theorem BlockManager.Sound.nonempty_iff
    (sound : manager.Sound) :
    manager.freeBlocks.Nonempty ↔
      ∃ physicalId, (manager.blocks physicalId).state = .free := by
  constructor
  · rintro ⟨physicalId, taken⟩
    exact ⟨physicalId, sound.coherent.pool physicalId taken⟩
  · rintro ⟨physicalId, free⟩
    exact ⟨physicalId, sound.pooled physicalId free⟩

/-! ## Utilization -/

/-- With a usable block there is a utilization. -/
theorem getUtilization_of_usable
    {physicalId : Fin total}
    (usable : (manager.blocks physicalId).state ≠ .bad) :
    ∃ utilization,
      getUtilization manager = .ok utilization := by
  rcases getStats_of_usable usable with ⟨stats, computed⟩
  rw [getUtilization, computed]
  exact ⟨_, rfl⟩

theorem getStats_counters
    {stats : BlockStats} (computed : manager.getStats = .ok stats) :
    stats.counters = manager.stats := by
  rw [BlockManager.getStats] at computed
  split at computed
  · cases computed
  · split at computed
    · cases computed
    · cases computed
      rfl

/-- Without a free block all flash is in use. -/
theorem getUtilization_of_full
    (sound : manager.Sound) {physicalId : Fin total}
    (usable : (manager.blocks physicalId).state ≠ .bad)
    (full : manager.freeBlocks = ∅) :
    getUtilization manager = .ok 1 := by
  rcases getStats_of_usable usable with ⟨stats, computed⟩
  have none : manager.stats.freeBlocks = 0 := by
    have counted := drift_eq_zero_iff.mp (sound.counted .free (by simp))
    have empty : census manager.states .free = 0 := by
      apply census_eq_zero
      intro other free
      have taken := sound.pooled other free
      rw [full] at taken
      cases taken
    exact counted.trans empty
  have positive : (0 : ℤ) < total :=
    Int.natCast_pos.mpr (Nat.lt_of_le_of_lt (Nat.zero_le _) physicalId.isLt)
  rw [getUtilization, computed]
  simp only [getStats_counters computed, none, sound.all, sub_zero,
    if_pos positive]
  rw [div_self]
  exact_mod_cast ne_of_gt positive

/-! ## One block -/

/-- Reclaiming only adds to the pool. -/
theorem freeBlocks_reclaim
    (collector : GarbageCollector) (blockId : Fin total) :
    manager.freeBlocks ⊆
      (collector.reclaim manager blockId).2.2.freeBlocks := by
  have erased :
      manager.freeBlocks ⊆ (manager.eraseBlock blockId).2.freeBlocks := by
    simp only [eraseBlock]
    split
    · exact Finset.Subset.refl _
    · split
      · exact Finset.Subset.refl _
      · exact Finset.subset_insert _ _
  rw [reclaim]
  split
  · split <;> rename_i outcome <;> rw [outcome] at erased
    · exact erased
    · exact erased
  · exact Finset.Subset.refl _

/-- A block that survives is reclaimed. -/
theorem mem_freeBlocks_reclaim
    (collector : GarbageCollector) {blockId : Fin total}
    (survives : manager.Survives blockId) :
    blockId ∈ (collector.reclaim manager blockId).2.2.freeBlocks := by
  have erased :
      manager.eraseBlock blockId = (true, manager.reset blockId) := by
    simp only [eraseBlock, survives.1, reduceCtorEq, if_false,
      if_neg (not_le.mpr survives.2)]
  rw [reclaim, if_pos survives.1, erased]
  exact Finset.mem_insert_self _ _

/-- The other blocks are not touched. -/
theorem blocks_reclaim_of_ne
    (collector : GarbageCollector) {blockId other : Fin total}
    (apart : other ≠ blockId) :
    (collector.reclaim manager blockId).2.2.blocks other =
      manager.blocks other := by
  have erased :
      (manager.eraseBlock blockId).2.blocks other =
        manager.blocks other := by
    simp only [eraseBlock]
    split
    · rfl
    · split <;> simp [retire, reset, modifyBlock, apart]
  rw [reclaim]
  split
  · split <;> rename_i outcome <;> rw [outcome] at erased
    · exact erased
    · exact erased
  · rfl

theorem reclaim_collector
    (collector : GarbageCollector) (blockId : Fin total) :
    (collector.reclaim manager blockId).2.1.state = collector.state ∧
      (collector.reclaim manager blockId).2.1.gcTarget =
        collector.gcTarget := by
  rw [reclaim]
  split
  · split <;> exact ⟨rfl, rfl⟩
  · exact ⟨rfl, rfl⟩

/-! ## A cycle that frees a block -/

/-- While the pool is empty, the block to reclaim is still to come. -/
theorem survives_later
    {collector : GarbageCollector} {blockId : Fin total}
    {rest : List (Fin total)}
    (reclaimable :
      manager.freeBlocks.Nonempty ∨
        ∃ physicalId ∈ blockId :: rest, manager.Survives physicalId)
    (unfilled :
      ¬ (collector.reclaim manager blockId).2.2.freeBlocks.Nonempty) :
    ∃ physicalId ∈ rest,
      (collector.reclaim manager blockId).2.2.Survives physicalId := by
  rcases reclaimable with already | ⟨physicalId, listed, survives⟩
  · exact
      absurd (already.mono (freeBlocks_reclaim collector blockId)) unfilled
  · have apart : physicalId ≠ blockId := by
      rintro rfl
      exact unfilled
        ⟨physicalId, mem_freeBlocks_reclaim collector survives⟩
    refine
      ⟨physicalId, (List.mem_cons.mp listed).resolve_left apart, ?_⟩
    rw [Survives, blocks_reclaim_of_ne collector apart,
      (reclaim_moves collector blockId).limits.2]
    exact survives

/-- A cycle with something to reclaim ends with a block in the pool. -/
theorem collect_of_reclaimable
    {collector : GarbageCollector} (sound : manager.Sound)
    (running : collector.state ≠ .stopped)
    (target : collector.gcTarget < 1)
    (reclaimed : Nat) {blockIds : List (Fin total)}
    (reclaimable :
      manager.freeBlocks.Nonempty ∨
        ∃ physicalId ∈ blockIds, manager.Survives physicalId) :
    ∃ count after,
      collector.collect manager reclaimed blockIds =
          (.ok count, after) ∧
        after.2.freeBlocks.Nonempty := by
  induction blockIds generalizing collector manager reclaimed with
  | nil =>
      rcases reclaimable with filled | ⟨physicalId, listed, _⟩
      · exact ⟨reclaimed, _, rfl, filled⟩
      · cases listed
  | cons blockId rest induction =>
      have kept := @reclaim_collector _ manager collector blockId
      have nextSound := (reclaim_moves collector blockId).sound sound
      simp only [collect, if_neg running]
      by_cases filled :
        (collector.reclaim manager blockId).2.2.freeBlocks.Nonempty
      · rcases nextSound.nonempty_iff.mp filled with ⟨physicalId, free⟩
        rcases
          @getUtilization_of_usable _
            (collector.reclaim manager blockId).2.2 physicalId
            (by rw [free]; simp) with
          ⟨utilization, computed⟩
        simp only [computed]
        split
        · exact ⟨_, _, rfl, filled⟩
        · apply induction nextSound
          · rw [kept.1]
            exact running
          · rw [kept.2]
            exact target
          · exact Or.inl filled
      · have full := Finset.not_nonempty_iff_eq_empty.mp filled
        rcases survives_later reclaimable filled with
          ⟨physicalId, listed, survives⟩
        have computed :=
          @getUtilization_of_full _ _ nextSound physicalId
            (by rw [survives.1]; simp) full
        simp only [computed, if_neg (not_le.mpr target)]
        apply induction nextSound
        · rw [kept.1]
          exact running
        · rw [kept.2]
          exact target
        · exact Or.inr ⟨physicalId, listed, survives⟩

/-! ## A cycle that frees none -/

/-- Nothing in the pool, and no stale block survives. -/
structure BlockManager.Exhausted (manager : BlockManager total) :
    Prop where
  full : manager.freeBlocks = ∅
  spent : ∀ physicalId, ¬ manager.Survives physicalId

theorem BlockManager.Exhausted.reclaim
    (exhausted : manager.Exhausted)
    (collector : GarbageCollector) (blockId : Fin total) :
    (collector.reclaim manager blockId).2.2.Exhausted := by
  by_cases stale : (manager.blocks blockId).state = .invalid
  · have spent :
        manager.maxEraseCount ≤ (manager.blocks blockId).eraseCount + 1 :=
      not_lt.mp fun lasts => exhausted.spent blockId ⟨stale, lasts⟩
    have worn :
        (collector.reclaim manager blockId).2.2 =
          manager.retire blockId := by
      rw [GarbageCollector.reclaim, if_pos stale]
      simp only [eraseBlock, stale, reduceCtorEq, if_false,
        ge_iff_le, if_pos spent]
    rw [worn]
    constructor
    · exact exhausted.full
    · rintro other ⟨invalid, lasts⟩
      by_cases same : other = blockId
      · subst same
        simp [retire, modifyBlock] at invalid
      · apply exhausted.spent other
        simpa [Survives, retire, modifyBlock, same] using
          And.intro invalid lasts
  · rw [GarbageCollector.reclaim, if_neg stale]
    exact exhausted

theorem collect_of_exhausted
    (exhausted : manager.Exhausted) (collector : GarbageCollector)
    (reclaimed : Nat) (blockIds : List (Fin total)) :
    (collector.collect manager reclaimed blockIds).2.2.Exhausted := by
  induction blockIds generalizing collector manager reclaimed with
  | nil => exact exhausted
  | cons blockId rest induction =>
      have next := exhausted.reclaim collector blockId
      simp only [collect]
      split
      · exact exhausted
      · split
        · exact next
        · split
          · exact next
          · exact induction next _ _

/-- A cycle brings a block into the pool if there is one to reclaim. -/
theorem runGcCycle_of_reclaimable
    {collector : GarbageCollector} (sound : manager.Sound)
    (running : collector.state ≠ .stopped)
    (target : collector.gcTarget < 1)
    (reclaimable : manager.Reclaimable) :
    ∃ count after,
      collector.runGcCycle manager = (.ok count, after) ∧
        after.2.freeBlocks.Nonempty := by
  have listed :
      manager.freeBlocks.Nonempty ∨
        ∃ physicalId ∈ manager.getInvalidBlocks,
          manager.Survives physicalId := by
    rcases reclaimable with free | ⟨physicalId, survives⟩
    · exact Or.inl (sound.nonempty_iff.mpr free)
    · refine Or.inr ⟨physicalId, ?_, survives⟩
      simp [getInvalidBlocks, survives.1]
  have collecting :
      ({ collector with state := .running } : GarbageCollector).state ≠
        .stopped := by
    simp
  rcases collect_of_reclaimable sound collecting target 0 listed with
    ⟨count, after, collected, filled⟩
  rw [runGcCycle, if_neg running, collected]
  exact ⟨_, _, rfl, filled⟩

/-- And it leaves the pool empty if there is none. -/
theorem runGcCycle_of_exhausted
    (exhausted : manager.Exhausted) (collector : GarbageCollector) :
    (collector.runGcCycle manager).2.2.Exhausted := by
  have collected :=
    collect_of_exhausted exhausted { collector with state := .running } 0
      manager.getInvalidBlocks
  rw [runGcCycle]
  split
  · exact exhausted
  · split <;> rename_i outcome <;> rw [outcome] at collected
    · exact collected
    · exact collected

end Collection

section Writes

variable
    {total : Nat}
    {simulator : DirectFlashSimulator total}

/-- A write to a new address takes a block of the pool, if there is one. -/
theorem writeBlock_fresh
    {manager : BlockManager total}
    (rank : Fin total → Nat) {logicalAddress : ℤ} {data : Bytes}
    (fits : data.length ≤ manager.blockSize)
    (fresh : manager.l2pTable.get? logicalAddress = none) :
    (manager.freeBlocks = ∅ ∧
        manager.writeBlock rank logicalAddress data =
          (.ok none, manager)) ∨
      ∃ physicalId ∈ manager.freeBlocks,
        manager.writeBlock rank logicalAddress data =
          (.ok (some physicalId),
            manager.program physicalId logicalAddress data) := by
  have same : manager.remap logicalAddress = manager := by
    rw [remap, fresh]
  have cases := writeBlock_of_fits rank logicalAddress (not_lt.mpr fits)
  rw [same] at cases
  exact cases

/-- A write that has programmed a block answers with its address. -/
theorem finishWrite_programmed
    (coherent : simulator.blockManager.Coherent)
    {physicalId : Fin total} {logicalAddress : ℤ} (data : Bytes)
    (taken : physicalId ∈ simulator.blockManager.freeBlocks)
    (fresh :
      simulator.blockManager.l2pTable.get? logicalAddress = none) :
    ({ simulator with
        blockManager :=
          simulator.blockManager.program physicalId logicalAddress
            data }.finishWrite logicalAddress).1 =
      .ok logicalAddress := by
  have usable :
      ((simulator.blockManager.program physicalId logicalAddress
        data).blocks physicalId).state ≠ .bad := by
    simp [BlockManager.program, modifyBlock]
  exact
    (@finishWrite_spec _
      { simulator with
        blockManager :=
          simulator.blockManager.program physicalId logicalAddress data }
      (coherent.program taken data fresh) _ usable logicalAddress).1

theorem retryWrite_ok_iff
    (coherent : simulator.blockManager.Coherent)
    (rank : Fin total → Nat) {logicalAddress : ℤ} {data : Bytes}
    (fits : data.length ≤ simulator.blockManager.blockSize)
    (fresh :
      simulator.blockManager.l2pTable.get? logicalAddress = none) :
    (∃ address,
        (simulator.retryWrite rank logicalAddress data).1 =
          .ok address) ↔
      simulator.blockManager.freeBlocks.Nonempty := by
  rw [retryWrite]
  rcases writeBlock_fresh rank fits fresh with
    ⟨full, written⟩ | ⟨physicalId, taken, written⟩
  · rw [written, full]
    simp
  · rw [written]
    constructor
    · exact fun _ => ⟨physicalId, taken⟩
    · exact fun _ =>
        ⟨_, finishWrite_programmed coherent data taken fresh⟩

/-- A write succeeds exactly when a block is free or can be freed. -/
theorem write_ok_iff
    (sound : simulator.Sound)
    (running : simulator.garbageCollector.state ≠ .stopped)
    (target : simulator.garbageCollector.gcTarget < 1)
    (rank : Fin total → Nat) {data : Bytes}
    (fits : data.length ≤ simulator.blockManager.blockSize) :
    (∃ address, (simulator.write rank data).1 = .ok address) ↔
      simulator.blockManager.Reclaimable := by
  rcases sound.tracked with ⟨logical, tracks⟩
  have fresh := tracks.unmapped tracks.next_absent
  have coherent := sound.flash.coherent
  simp only [DirectFlashSimulator.write]
  rcases writeBlock_fresh rank fits fresh with
    ⟨full, written⟩ | ⟨physicalId, taken, written⟩
  · rw [written]
    have moves :
        Moves simulator.blockManager
          ({ simulator with
              nextLogicalAddress :=
                simulator.nextLogicalAddress + 1 }
            |>.forceGc).2.blockManager :=
      runGcCycle_moves simulator.garbageCollector
    have collectedSound := moves.sound sound.flash
    have unmapped :=
      @forceGc_unmapped _
        { simulator with
          nextLogicalAddress := simulator.nextLogicalAddress + 1 }
        coherent _ fresh
    have stillFits := fits
    rw [← moves.limits.1] at stillFits
    by_cases reclaimable : simulator.blockManager.Reclaimable
    · rcases
        runGcCycle_of_reclaimable sound.flash running target
          reclaimable with
        ⟨count, ⟨collector, after⟩, collected, filled⟩
      simp only [DirectFlashSimulator.forceGc, collected] at *
      simp only [reclaimable, iff_true]
      exact
        (retryWrite_ok_iff collectedSound.coherent rank stillFits
          unmapped).mpr filled
    · have exhausted : simulator.blockManager.Exhausted :=
        ⟨full, fun physicalId survives =>
          reclaimable (Or.inr ⟨physicalId, survives⟩)⟩
      have empty :
          ({ simulator with
              nextLogicalAddress :=
                simulator.nextLogicalAddress + 1 }
            |>.forceGc).2.blockManager.freeBlocks = ∅ :=
        (runGcCycle_of_exhausted exhausted
          simulator.garbageCollector).full
      simp only [reclaimable, iff_false]
      rintro ⟨address, answered⟩
      split at answered
      · cases answered
      · rename_i outcome
        rw [outcome] at collectedSound unmapped stillFits empty
        have filled :=
          (retryWrite_ok_iff collectedSound.coherent rank stillFits
            unmapped).mp ⟨address, answered⟩
        rw [empty] at filled
        exact absurd filled Finset.not_nonempty_empty
  · rw [written]
    have reclaimable : simulator.blockManager.Reclaimable :=
      Or.inl
        ⟨physicalId, coherent.pool physicalId taken⟩
    simp only [reclaimable, iff_true]
    exact
      ⟨_, @finishWrite_programmed _
        { simulator with
          nextLogicalAddress := simulator.nextLogicalAddress + 1 }
        coherent _ _ data taken fresh⟩

/--
In every state that the simulator reaches with its collector not stopped and a
target below one, data that fits is written exactly if a block is free, or stale
and good for another erasure.
-/
theorem write_ok_iff_after_any_calls
    (settings : FlashSettings) (maxEraseCount : Nat)
    (calls : List (Call total)) (rank : Fin total → Nat) (data : Bytes) :
    let simulator :=
      run DirectFlashSimulator.step
        (DirectFlashSimulator.new total settings maxEraseCount) calls
    simulator.garbageCollector.state ≠ .stopped →
      simulator.garbageCollector.gcTarget < 1 →
        data.length ≤ simulator.blockManager.blockSize →
          ((∃ address, (simulator.write rank data).1 = .ok address) ↔
            simulator.blockManager.Reclaimable) := by
  intro simulator running target fits
  exact
    write_ok_iff (sound_run settings maxEraseCount calls) running target
      rank fits

/-- One block, written and deleted, with one erasure left. -/
theorem write_ok_iff_after_deletion :
    let simulator :=
      run DirectFlashSimulator.step
        (DirectFlashSimulator.new 1 { flashBlockSize := 8 } 2)
        [.write (fun _ => 0) [1], .delete 0]
    ((∃ address,
        (simulator.write (fun _ => 0) [2]).1 = .ok address) ↔
      simulator.blockManager.Reclaimable) :=
  write_ok_iff_after_any_calls { flashBlockSize := 8 } 2
    [.write (fun _ => 0) [1], .delete 0] (fun _ => 0) [2]
    (by decide +kernel) (by decide +kernel) (by decide +kernel)

end Writes

end StorageAppliance.DirectFlash
