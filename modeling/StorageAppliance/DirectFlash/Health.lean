import Mathlib.Algebra.Group.Action.Defs
import Mathlib.Algebra.Order.BigOperators.Group.List
import Mathlib.Tactic.Positivity
import StorageAppliance.DirectFlash.Availability

/-!
# Wear and health of the flash

`WithinLimit` is the wear limit of a block: its erase count never exceeds the
endurance, and reaches it exactly when the block is retired.  A bad block never
changes again.

The health and the statistics of the simulator (`directflash/simulator.py`) are
computed from the erase counts, in rational numbers.  The distribution of the
erase counts and the name of the leveling strategy are left out, because no
modelled function reads them.
-/

namespace StorageAppliance.DirectFlash

open StorageAppliance.Python
open StorageAppliance.Library
open BlockManager
open GarbageCollector
open DirectFlashSimulator

/-! ## Statistics -/

/-- What `get_stats` of wear leveling reports. -/
structure WearReport where
  blocksMoved : Nat
  threshold : Nat
  wearVariance : ℚ
deriving DecidableEq

/-- What `get_stats` of garbage collection reports. -/
structure CollectorReport where
  state : GCState
  stats : GCStats
  currentUtilization : ℚ
  gcThreshold : ℚ
  gcTarget : ℚ
deriving DecidableEq

/-- The summary of the flash. -/
structure FlashReport where
  totalCapacityBytes : ℤ
  usedBytes : ℤ
  freeBytes : ℤ
  utilization : ℚ
  healthPercentage : ℚ
deriving DecidableEq

/-- What `get_stats` of the simulator reports. -/
structure SimulatorReport where
  flash : FlashReport
  blocks : BlockStats
  wearLeveling : WearReport
  garbageCollection : CollectorReport
deriving DecidableEq

section Reports

variable {total : Nat}

/-- The erase counts of all blocks. -/
def BlockManager.eraseCounts (self : BlockManager total) : List Nat :=
  (List.finRange total).map fun physicalId =>
    (self.blocks physicalId).eraseCount

/-- The variance of the erase counts. -/
def BlockManager.wearVariance (self : BlockManager total) : ℚ :=
  let counts := self.eraseCounts
  if counts = [] then
    0
  else
    let mean : ℚ := (counts.sum : ℚ) / counts.length
    (counts.map fun count => ((count : ℚ) - mean) ^ 2).sum /
      counts.length

/-- Wear leveling statistics. -/
def WearLeveling.getStats (self : WearLeveling)
    (manager : BlockManager total) : WearReport where
  blocksMoved := self.blocksMoved
  threshold := self.threshold
  wearVariance := manager.wearVariance

/-- Garbage collection statistics. -/
def GarbageCollector.getStats (self : GarbageCollector)
    (manager : BlockManager total) :
    Except PyException CollectorReport :=
  match getUtilization manager with
  | .error exception => .error exception
  | .ok utilization =>
      .ok
        { state := self.state
          stats := self.stats
          currentUtilization := utilization
          gcThreshold := self.gcThreshold
          gcTarget := self.gcTarget }

/-- Capacity and free space in bytes. -/
def DirectFlashSimulator.getCapacity
    (self : DirectFlashSimulator total) :
    Except PyException (ℤ × ℤ) :=
  match self.blockManager.getStats with
  | .error exception => .error exception
  | .ok blockStats =>
      .ok
        (blockStats.counters.totalBlocks * self.blockManager.blockSize,
          blockStats.counters.freeBlocks * self.blockManager.blockSize)

/-- Flash health percentage based on wear. -/
def DirectFlashSimulator.getHealth
    (self : DirectFlashSimulator total) : Except PyException ℚ :=
  match self.blockManager.getStats with
  | .error exception => .error exception
  | .ok blockStats =>
      let maxEndurance : ℚ := self.blockManager.maxEraseCount
      let remaining := max 0 (maxEndurance - blockStats.avgEraseCount)
      if maxEndurance = 0 then
        .error (.zeroDivisionError "division by zero")
      else
        .ok (remaining / maxEndurance * 100)

/-- Comprehensive flash statistics. -/
def DirectFlashSimulator.getStats
    (self : DirectFlashSimulator total) :
    Except PyException SimulatorReport := do
  let blockStats ← self.blockManager.getStats
  let wearStats := self.wearLeveling.getStats self.blockManager
  let gcStats ← self.garbageCollector.getStats self.blockManager
  let (totalBytes, freeBytes) ← self.getCapacity
  let health ← self.getHealth
  pure
    { flash :=
        { totalCapacityBytes := totalBytes
          usedBytes := totalBytes - freeBytes
          freeBytes := freeBytes
          utilization := blockStats.utilization
          healthPercentage := health }
      blocks := blockStats
      wearLeveling := wearStats
      garbageCollection := gcStats }

end Reports

/-! ## The wear limit -/

/-- At most worn to the limit, and bad exactly at the limit. -/
structure PhysicalBlock.WithinLimit (block : PhysicalBlock)
    (maxEraseCount : Nat) : Prop where
  count : block.eraseCount ≤ maxEraseCount
  bad : block.state = .bad ↔ block.eraseCount = maxEraseCount

section WearLimit

variable
    {total maxEraseCount : Nat}
    {before after : PhysicalBlock}

/-- A block that is not bad has erasures left. -/
theorem PhysicalBlock.WithinLimit.lasts
    (within : before.WithinLimit maxEraseCount)
    (usable : before.state ≠ .bad) :
    before.eraseCount < maxEraseCount :=
  Nat.lt_of_le_of_ne within.count fun spent =>
    usable (within.bad.mpr spent)

/-- No step of a block's life breaks the limit. -/
theorem BlockStep.withinLimit
    (step : BlockStep maxEraseCount before after)
    (within : before.WithinLimit maxEraseCount) :
    after.WithinLimit maxEraseCount := by
  cases step with
  | same => exact within
  | written from_free to_valid count =>
      have left := within.lasts (by rw [from_free]; simp)
      rw [← count] at left
      exact ⟨Nat.le_of_lt left, by simp [to_valid, Nat.ne_of_lt left]⟩
  | staled from_valid to_invalid count =>
      have left := within.lasts (by rw [from_valid]; simp)
      rw [← count] at left
      exact ⟨Nat.le_of_lt left, by simp [to_invalid, Nat.ne_of_lt left]⟩
  | erased from_invalid to_free count lasts =>
      exact ⟨Nat.le_of_lt lasts, by simp [to_free, Nat.ne_of_lt lasts]⟩
  | wornOut from_invalid to_bad count spent =>
      have left := within.lasts (by rw [from_invalid]; simp)
      have reached : after.eraseCount = maxEraseCount := by
        apply Nat.le_antisymm _ spent
        rw [count]
        exact left
      exact ⟨Nat.le_of_eq reached, by simp [to_bad, reached]⟩

/-- A bad block has no next step. -/
theorem BlockStep.bad
    (step : BlockStep maxEraseCount before after)
    (worn : before.state = .bad) :
    after = before := by
  cases step with
  | same => rfl
  | written from_free =>
      rw [worn] at from_free
      cases from_free
  | staled from_valid =>
      rw [worn] at from_valid
      cases from_valid
  | erased from_invalid =>
      rw [worn] at from_invalid
      cases from_invalid
  | wornOut from_invalid =>
      rw [worn] at from_invalid
      cases from_invalid

/-- What every step of a block keeps survives all changes of the flash. -/
theorem Moves.block_invariant
    {first last : BlockManager total} (moves : Moves first last)
    (sound : first.Sound) {invariant : PhysicalBlock → Prop}
    (keeps :
      ∀ before after,
        BlockStep first.maxEraseCount before after →
          invariant before → invariant after)
    (physicalId : Fin total)
    (start : invariant (first.blocks physicalId)) :
    invariant (last.blocks physicalId) := by
  induction moves with
  | refl => exact start
  | tail moved move induction =>
      have step :=
        move.blockStep (Moves.sound moved sound).coherent physicalId
      rw [(Moves.limits moved).2] at step
      exact keeps _ _ step induction

/-- A run of the simulator changes the flash in elementary steps. -/
theorem run_moves
    {simulator : DirectFlashSimulator total} (sound : simulator.Sound)
    (calls : List (Call total)) :
    Moves simulator.blockManager
      (run DirectFlashSimulator.step simulator calls).blockManager := by
  induction calls generalizing simulator with
  | nil => exact Relation.ReflTransGen.refl
  | cons call rest induction =>
      rcases sound.tracked with ⟨logical, tracks⟩
      exact (execute_moves tracks call).trans (induction (sound.step call))

theorem sound_simulator_new
    (settings : FlashSettings) :
    (DirectFlashSimulator.new total settings maxEraseCount).Sound :=
  sound_run settings maxEraseCount []

/-- Along every run, each block stays within the limit. -/
theorem withinLimit_run
    (settings : FlashSettings) (positive : 0 < maxEraseCount)
    (calls : List (Call total)) (physicalId : Fin total) :
    ((run DirectFlashSimulator.step
        (DirectFlashSimulator.new total settings maxEraseCount)
        calls).blockManager.blocks physicalId).WithinLimit
      maxEraseCount := by
  have start := @sound_simulator_new total maxEraseCount settings
  apply
    @Moves.block_invariant _ _ _ (run_moves start calls) start.flash
      fun block => block.WithinLimit maxEraseCount
  · exact fun before after step within => step.withinLimit within
  · exact
      ⟨Nat.zero_le _,
        by simp [DirectFlashSimulator.new, BlockManager.new,
          Nat.ne_of_lt positive]⟩

/-- A bad block stays as it is, whatever is called later. -/
theorem bad_run
    {simulator : DirectFlashSimulator total} (sound : simulator.Sound)
    {physicalId : Fin total}
    (worn : (simulator.blockManager.blocks physicalId).state = .bad)
    (calls : List (Call total)) :
    (run DirectFlashSimulator.step simulator
        calls).blockManager.blocks physicalId =
      simulator.blockManager.blocks physicalId := by
  apply
    @Moves.block_invariant _ _ _ (run_moves sound calls) sound.flash
      fun block => block = simulator.blockManager.blocks physicalId
  · intro before after step same
    rw [← same] at worn
    exact (step.bad worn).trans same
  · rfl

end WearLimit

/-! ## Bounds of the reports -/

section Bounds

variable
    {total : Nat}
    {manager : BlockManager total}
    {simulator : DirectFlashSimulator total}

theorem length_eraseCounts (manager : BlockManager total) :
    manager.eraseCounts.length = total := by
  simp [eraseCounts]

/-- The average is over all blocks. -/
theorem getStats_average
    {stats : BlockStats} (computed : manager.getStats = .ok stats) :
    total ≠ 0 ∧
      stats.avgEraseCount = (manager.eraseCounts.sum : ℚ) / total := by
  rw [BlockManager.getStats] at computed
  split at computed
  · cases computed
  · rename_i someBlocks
    split at computed
    · cases computed
    · cases computed
      exact ⟨someBlocks, rfl⟩

theorem average_nonneg
    {stats : BlockStats} (computed : manager.getStats = .ok stats) :
    0 ≤ stats.avgEraseCount := by
  rw [(getStats_average computed).2]
  positivity

/-- Blocks within the limit are within it on average. -/
theorem average_le
    {stats : BlockStats} (computed : manager.getStats = .ok stats)
    {maxEraseCount : Nat}
    (within :
      ∀ physicalId,
        (manager.blocks physicalId).WithinLimit maxEraseCount) :
    stats.avgEraseCount ≤ maxEraseCount := by
  rcases getStats_average computed with ⟨someBlocks, average⟩
  have counts : ∀ count ∈ manager.eraseCounts, count ≤ maxEraseCount := by
    intro count listed
    rcases List.mem_map.mp listed with ⟨physicalId, _, rfl⟩
    exact (within physicalId).count
  have summed := List.sum_le_card_nsmul _ _ counts
  rw [length_eraseCounts, smul_eq_mul, Nat.mul_comm] at summed
  have positive : (0 : ℚ) < total :=
    Nat.cast_pos.mpr (Nat.pos_of_ne_zero someBlocks)
  rw [average, div_le_iff₀ positive]
  exact_mod_cast summed

theorem wearVariance_nonneg (manager : BlockManager total) :
    0 ≤ manager.wearVariance := by
  rw [wearVariance]
  simp only
  split
  · exact le_rfl
  · apply div_nonneg
    · apply List.sum_nonneg
      intro square listed
      rcases List.mem_map.mp listed with ⟨count, _, rfl⟩
      positivity
    · exact Nat.cast_nonneg _

/-- The health is a percentage. -/
theorem getHealth_bounds
    {physicalId : Fin total}
    (usable : (simulator.blockManager.blocks physicalId).state ≠ .bad)
    (positive : 0 < simulator.blockManager.maxEraseCount) :
    ∃ health,
      simulator.getHealth = .ok health ∧ 0 ≤ health ∧ health ≤ 100 := by
  rcases getStats_of_usable usable with ⟨stats, computed⟩
  have endurance : (0 : ℚ) < simulator.blockManager.maxEraseCount :=
    Nat.cast_pos.mpr positive
  have average := average_nonneg computed
  rw [getHealth, computed]
  simp only [if_neg (ne_of_gt endurance)]
  refine ⟨_, rfl, ?_, ?_⟩
  · positivity
  · have remaining :
        max 0
            ((simulator.blockManager.maxEraseCount : ℚ) -
              stats.avgEraseCount) ≤
          simulator.blockManager.maxEraseCount := by
      apply max_le (le_of_lt endurance)
      exact sub_le_self _ average
    have fraction := (div_le_one endurance).mpr remaining
    linarith

/-- With a usable block the statistics of the simulator are complete. -/
theorem simulator_getStats
    {physicalId : Fin total}
    (usable : (simulator.blockManager.blocks physicalId).state ≠ .bad)
    (positive : 0 < simulator.blockManager.maxEraseCount) :
    ∃ report blockStats,
      simulator.getStats = .ok report ∧
        simulator.blockManager.getStats = .ok blockStats ∧
        report.blocks = blockStats ∧
        report.wearLeveling.wearVariance =
          simulator.blockManager.wearVariance := by
  rcases getStats_of_usable usable with ⟨blockStats, computed⟩
  rcases getUtilization_of_usable usable with ⟨utilization, utilized⟩
  rcases getHealth_bounds usable positive with ⟨health, healthy, _⟩
  simp only [DirectFlashSimulator.getStats, computed,
    GarbageCollector.getStats, utilized,
    DirectFlashSimulator.getCapacity, healthy, bind, Except.bind, pure,
    Except.pure]
  exact ⟨_, _, rfl, rfl, rfl, rfl⟩

/-- A sound flash never counts less than no bad block. -/
theorem badBlocks_nonneg (sound : manager.Sound) :
    0 ≤ manager.stats.badBlocks := by
  have counted := drift_eq_zero_iff.mp (sound.counted .bad (by simp))
  have exact : manager.stats.badBlocks = census manager.states .bad :=
    counted
  rw [exact]
  exact Int.natCast_nonneg _

end Bounds

end StorageAppliance.DirectFlash
