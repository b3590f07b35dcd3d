import StorageAppliance.DirectFlash.Availability

/-!
# Flash at the end of its life

The statistics take the least erase count of the blocks that are not bad, which
fails once every block is bad.  Utilization, the tests of garbage collection and
wear leveling, and every step of a cycle go through the statistics.

`Outlives` is a block that is usable after a cycle whatever the cycle erases.
With such a block nothing fails.  Without one, a cycle that runs is abandoned
when it retires the last block, and its collector is then left running, unless
the cycle has two blocks to erase and stops after the first, its target reached.
-/

namespace StorageAppliance.DirectFlash

open StorageAppliance.Python
open StorageAppliance.Library
open BlockManager
open GarbageCollector
open DirectFlashSimulator

section EndOfLife

variable
    {total : Nat}
    {manager : BlockManager total}

/-! ## Statistics -/

/-- There are statistics exactly while a block is usable. -/
theorem getStats_ok_iff :
    (∃ stats, manager.getStats = .ok stats) ↔
      ∃ physicalId, (manager.blocks physicalId).state ≠ .bad := by
  constructor
  · rintro ⟨stats, computed⟩
    by_contra worn
    simp only [not_exists, not_not] at worn
    have none : manager.usableEraseCounts = [] := by
      simp [usableEraseCounts, worn]
    rw [getStats, none] at computed
    split at computed
    · cases computed
    · cases computed
  · rintro ⟨physicalId, usable⟩
    exact getStats_of_usable usable

/-- The utilization that the counters give. -/
def BlockManager.usage (self : BlockManager total) : ℚ :=
  if self.stats.totalBlocks > 0 then
    ((self.stats.totalBlocks - self.stats.freeBlocks : ℤ) : ℚ) /
      self.stats.totalBlocks
  else
    0

theorem getUtilization_eq_usage
    {physicalId : Fin total}
    (usable : (manager.blocks physicalId).state ≠ .bad) :
    getUtilization manager = .ok manager.usage := by
  rcases getStats_of_usable usable with ⟨stats, computed⟩
  rw [getUtilization, computed]
  simp only [getStats_counters computed]
  rfl

theorem getUtilization_ok_iff :
    (∃ utilization, getUtilization manager = .ok utilization) ↔
      ∃ physicalId, (manager.blocks physicalId).state ≠ .bad := by
  rw [← getStats_ok_iff, getUtilization]
  cases manager.getStats with
  | error exception => simp
  | ok stats => simp

theorem shouldRun_ok_iff {collector : GarbageCollector} :
    (∃ needed, collector.shouldRun manager = .ok needed) ↔
      ∃ physicalId, (manager.blocks physicalId).state ≠ .bad := by
  rw [← getUtilization_ok_iff, shouldRun]
  cases getUtilization manager with
  | error exception => simp
  | ok utilization => simp

theorem shouldLevel_ok_iff {leveling : WearLeveling} :
    (∃ needed, leveling.shouldLevel manager = .ok needed) ↔
      ∃ physicalId, (manager.blocks physicalId).state ≠ .bad := by
  rw [← getStats_ok_iff, WearLeveling.shouldLevel]
  cases manager.getStats with
  | error exception => simp
  | ok stats => simp

/-! ## A block that outlives the cycle -/

/-- Usable now, and if it is stale also after an erasure. -/
def BlockManager.Outlives (self : BlockManager total)
    (physicalId : Fin total) : Prop :=
  (self.blocks physicalId).state ≠ .bad ∧
    ((self.blocks physicalId).state = .invalid →
      (self.blocks physicalId).eraseCount + 1 < self.maxEraseCount)

theorem BlockManager.Outlives.reclaim
    {physicalId : Fin total} (outlives : manager.Outlives physicalId)
    (collector : GarbageCollector) (blockId : Fin total) :
    (collector.reclaim manager blockId).2.2.Outlives physicalId := by
  by_cases stale : (manager.blocks blockId).state = .invalid
  · by_cases same : physicalId = blockId
    · subst same
      have erased :
          manager.eraseBlock physicalId =
            (true, manager.reset physicalId) := by
        simp only [eraseBlock, stale, reduceCtorEq, if_false,
          if_neg (not_le.mpr (outlives.2 stale))]
      rw [GarbageCollector.reclaim, if_pos stale, erased]
      simp [Outlives, reset, modifyBlock]
    · have limits :=
        (@reclaim_moves _ manager collector blockId).limits.2
      rw [Outlives, blocks_reclaim_of_ne collector same, limits]
      exact outlives
  · rw [GarbageCollector.reclaim, if_neg stale]
    exact outlives

/-- With such a block no cycle fails. -/
theorem collect_of_outlives
    {physicalId : Fin total} (outlives : manager.Outlives physicalId)
    (collector : GarbageCollector) (reclaimed : Nat)
    (blockIds : List (Fin total)) :
    ∃ count,
      (collector.collect manager reclaimed blockIds).1 = .ok count := by
  induction blockIds generalizing collector manager reclaimed with
  | nil => exact ⟨reclaimed, rfl⟩
  | cons blockId rest induction =>
      have next := outlives.reclaim collector blockId
      simp only [collect, getUtilization_eq_usage next.1]
      split
      · exact ⟨_, rfl⟩
      · split
        · exact ⟨_, rfl⟩
        · exact induction next _ _

/-! ## A cycle that wears out every block -/

/-- The listed blocks are stale and at their end, and all others bad. -/
structure Doomed (manager : BlockManager total)
    (blockIds : List (Fin total)) : Prop where
  distinct : blockIds.Nodup
  stale :
    ∀ physicalId ∈ blockIds,
      (manager.blocks physicalId).state = .invalid ∧
        manager.maxEraseCount ≤
          (manager.blocks physicalId).eraseCount + 1
  worn :
    ∀ physicalId ∉ blockIds, (manager.blocks physicalId).state = .bad

theorem Doomed.reclaim
    {blockId : Fin total} {rest : List (Fin total)}
    (doomed : Doomed manager (blockId :: rest))
    (collector : GarbageCollector) :
    Doomed (collector.reclaim manager blockId).2.2 rest ∧
      (collector.reclaim manager blockId).2.2.usage = manager.usage := by
  rcases doomed.stale blockId (by simp) with ⟨invalid, spent⟩
  have retired :
      (collector.reclaim manager blockId).2.2 =
        manager.retire blockId := by
    rw [GarbageCollector.reclaim, if_pos invalid]
    simp only [eraseBlock, invalid, reduceCtorEq, if_false, ge_iff_le,
      if_pos spent]
  rcases List.nodup_cons.mp doomed.distinct with ⟨fresh, distinct⟩
  rw [retired]
  refine ⟨⟨distinct, ?_, ?_⟩, rfl⟩
  · intro physicalId listed
    have apart : physicalId ≠ blockId := by
      rintro rfl
      exact fresh listed
    simpa [retire, modifyBlock, apart] using
      doomed.stale physicalId (by simp [listed])
  · intro physicalId unlisted
    by_cases same : physicalId = blockId
    · simp [retire, modifyBlock, same]
    · simpa [retire, modifyBlock, same] using
        doomed.worn physicalId (by simp [same, unlisted])

/-- It returns only if it may stop before the last block. -/
theorem collect_of_doomed
    {collector : GarbageCollector}
    (running : collector.state ≠ .stopped) (reclaimed : Nat)
    {blockIds : List (Fin total)} (some : blockIds ≠ [])
    (doomed : Doomed manager blockIds) :
    (∃ count,
        (collector.collect manager reclaimed blockIds).1 =
          .ok count) ↔
      2 ≤ blockIds.length ∧ manager.usage ≤ collector.gcTarget := by
  induction blockIds generalizing collector manager reclaimed with
  | nil => exact absurd rfl some
  | cons blockId rest induction =>
      rcases doomed.reclaim collector with ⟨next, usage⟩
      have kept := @reclaim_collector _ manager collector blockId
      simp only [collect, if_neg running]
      cases rest with
      | nil =>
          have worn :
              ¬ ∃ utilization,
                getUtilization (collector.reclaim manager blockId).2.2 =
                  .ok utilization := by
            rw [getUtilization_ok_iff]
            rintro ⟨physicalId, usable⟩
            exact usable (next.worn physicalId (by simp))
          cases computed :
            getUtilization (collector.reclaim manager blockId).2.2 with
          | error exception => simp
          | ok utilization => exact absurd ⟨utilization, computed⟩ worn
      | cons second others =>
          have usable :
              ((collector.reclaim manager blockId).2.2.blocks
                second).state ≠ .bad := by
            rw [(next.stale second (by simp)).1]
            simp
          simp only [getUtilization_eq_usage usable, usage]
          split
          · rename_i reached
            simp [reached]
          · rename_i missed
            rw [induction (by rw [kept.1]; exact running) _ (by simp)
              next, usage, kept.2]
            simp [missed]

theorem collect_state
    (collector : GarbageCollector) (reclaimed : Nat)
    (blockIds : List (Fin total)) :
    (collector.collect manager reclaimed blockIds).2.1.state =
      collector.state := by
  induction blockIds generalizing collector manager reclaimed with
  | nil => rfl
  | cons blockId rest induction =>
      have kept := (@reclaim_collector _ manager collector blockId).1
      simp only [collect]
      split
      · rfl
      · split
        · exact kept
        · split
          · exact kept
          · rw [induction, kept]

/-! ## Whole cycles -/

/-- The stale blocks of a manager in which no block outlives a cycle. -/
theorem doomed_getInvalidBlocks
    (none : ∀ physicalId, ¬ manager.Outlives physicalId) :
    Doomed manager manager.getInvalidBlocks where
  distinct := (List.nodup_finRange total).filter _
  stale := by
    intro physicalId listed
    have invalid : (manager.blocks physicalId).state = .invalid :=
      of_decide_eq_true (List.mem_filter.mp listed).2
    refine ⟨invalid, not_lt.mp fun lasts => ?_⟩
    exact none physicalId ⟨by rw [invalid]; simp, fun _ => lasts⟩
  worn := by
    intro physicalId unlisted
    by_contra usable
    apply none physicalId
    refine ⟨usable, fun invalid => absurd ?_ unlisted⟩
    simp [getInvalidBlocks, invalid]

/-- The flash survives a cycle of the collector. -/
def SurvivesCycle (collector : GarbageCollector)
    (manager : BlockManager total) : Prop :=
  (∃ physicalId, manager.Outlives physicalId) ∨
    (∃ physicalId, (manager.blocks physicalId).state ≠ .bad) ∧
      (collector.state = .stopped ∨
        2 ≤ manager.getInvalidBlocks.length ∧
          manager.usage ≤ collector.gcTarget)

/-- While a block is usable, that is exactly when a cycle returns. -/
theorem runGcCycle_ok_iff
    {collector : GarbageCollector} {physicalId : Fin total}
    (usable : (manager.blocks physicalId).state ≠ .bad) :
    (∃ count, (collector.runGcCycle manager).1 = .ok count) ↔
      SurvivesCycle collector manager := by
  by_cases stopped : collector.state = .stopped
  · rw [runGcCycle, if_pos stopped]
    constructor
    · exact fun _ => Or.inr ⟨⟨physicalId, usable⟩, Or.inl stopped⟩
    · exact fun _ => ⟨0, rfl⟩
  · have cycle :
        (∃ count, (collector.runGcCycle manager).1 = .ok count) ↔
          ∃ count,
            ({ collector with state := .running }.collect manager 0
              manager.getInvalidBlocks).1 = .ok count := by
      rw [runGcCycle, if_neg stopped]
      split <;> rename_i outcome <;> rw [outcome]
    rw [cycle]
    by_cases outlived : ∃ other, manager.Outlives other
    · constructor
      · exact fun _ => Or.inl outlived
      · intro _
        rcases outlived with ⟨other, outlives⟩
        exact collect_of_outlives outlives _ _ _
    · have doomed :=
        doomed_getInvalidBlocks (not_exists.mp outlived)
      have garbage : manager.getInvalidBlocks ≠ [] := by
        intro nothing
        rw [nothing] at doomed
        exact usable (doomed.worn physicalId (by simp))
      rw [@collect_of_doomed _ _ { collector with state := .running }
        (by simp) 0 _ garbage doomed]
      constructor
      · exact fun early =>
          Or.inr ⟨⟨physicalId, usable⟩, Or.inr early⟩
      · rintro (outlives | ⟨_, halted | early⟩)
        · exact absurd outlives outlived
        · exact absurd halted stopped
        · exact early

/-- A cycle leaves its collector running exactly when it is abandoned. -/
theorem runGcCycle_state
    (collector : GarbageCollector) :
    (collector.runGcCycle manager).2.1.state ≠ .running ↔
      ∃ count, (collector.runGcCycle manager).1 = .ok count := by
  have collected :=
    @collect_state _ manager { collector with state := .running } 0
      manager.getInvalidBlocks
  rw [runGcCycle]
  split
  · rename_i stopped
    rw [stopped]
    simp
  · split <;> rename_i after _ outcome <;> rw [outcome] at collected
    · have running : after.state = .running := collected
      simp [running]
    · have running : after.state = .running := collected
      simp [finishCycle, running]

/-- None of the calls raises, and no cycle is left running. -/
structure NeverFails (collector : GarbageCollector)
    (leveling : WearLeveling) (manager : BlockManager total) :
    Prop where
  stats : ∃ stats, manager.getStats = .ok stats
  utilization :
    ∃ utilization, getUtilization manager = .ok utilization
  shouldRun : ∃ needed, collector.shouldRun manager = .ok needed
  cycle : ∃ count, (collector.runGcCycle manager).1 = .ok count
  shouldLevel : ∃ needed, leveling.shouldLevel manager = .ok needed
  settled : (collector.runGcCycle manager).2.1.state ≠ .running

/--
In every state, nothing fails and no cycle is left running exactly if a block
outlives a cycle, or a block is usable and the cycle does not come to it.
-/
theorem neverFails_iff
    (collector : GarbageCollector) (leveling : WearLeveling)
    (manager : BlockManager total) :
    NeverFails collector leveling manager ↔
      SurvivesCycle collector manager := by
  constructor
  · intro succeeds
    rcases getStats_ok_iff.mp succeeds.stats with ⟨physicalId, usable⟩
    exact (runGcCycle_ok_iff usable).mp succeeds.cycle
  · intro survives
    have someUsable :
        ∃ physicalId, (manager.blocks physicalId).state ≠ .bad := by
      rcases survives with ⟨physicalId, outlives⟩ | ⟨usable, _⟩
      · exact ⟨physicalId, outlives.1⟩
      · exact usable
    rcases someUsable with ⟨physicalId, usable⟩
    have cycle := (runGcCycle_ok_iff usable).mpr survives
    exact
      { stats := getStats_ok_iff.mpr ⟨physicalId, usable⟩
        utilization := getUtilization_ok_iff.mpr ⟨physicalId, usable⟩
        shouldRun := shouldRun_ok_iff.mpr ⟨physicalId, usable⟩
        cycle := cycle
        shouldLevel := shouldLevel_ok_iff.mpr ⟨physicalId, usable⟩
        settled := (runGcCycle_state collector).mpr cycle }

/-- One block, written and deleted, with no erasure left. -/
def spentFlash : DirectFlashSimulator 1 :=
  run DirectFlashSimulator.step
    (DirectFlashSimulator.new 1 { flashBlockSize := 8 } 1)
    [.write (fun _ => 0) [1], .delete 0]

theorem cycle_fails_at_the_end :
    ¬ NeverFails spentFlash.garbageCollector spentFlash.wearLeveling
        spentFlash.blockManager ∧
      (spentFlash.step .forceGc).garbageCollector.state = .running := by
  constructor
  · intro succeeds
    have settled := succeeds.settled
    revert settled
    decide +kernel
  · decide +kernel

end EndOfLife

end StorageAppliance.DirectFlash
