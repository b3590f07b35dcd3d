import StorageAppliance.DirectFlash.Health

/-!
# Drive health

The predictor scores the flash from the statistics of the simulator
(`analytics/predictor.py`).  It assumes an endurance of 100,000 cycles, the
default of the block manager, so the score of a simulator with this endurance
stays between 0 and 100.
-/

namespace StorageAppliance.Analytics

open StorageAppliance.Python
open StorageAppliance.Library
open StorageAppliance.DirectFlash

/-- Drive health assessment. -/
structure DriveHealthScore where
  overallScore : ℚ
  wearLevel : ℚ
  eraseCountAvg : ℚ
  eraseCountMax : Nat
  badBlockCount : ℤ
  predictedEndOfLifeDays : Option ℤ
  status : String
  recommendations : List String
deriving DecidableEq

/-- The endurance that the predictor assumes. -/
def maxEndurance : Nat :=
  100000

/-- The days left at the rate of the past cycles. -/
def endOfLifeDays (avgErase : ℚ) (maxErase : Nat) (gcStats : GCStats) :
    Option ℤ :=
  if avgErase > 0 ∧ maxErase < maxEndurance then
    let remainingCycles : ℚ := (maxEndurance : ℚ) - maxErase
    if gcStats.gcRuns > 0 then
      let cyclesPerDay : ℚ :=
        (gcStats.blocksReclaimed : ℚ) / max 1 gcStats.gcRuns
      if cyclesPerDay > 0 then
        some (truncate (remainingCycles / cyclesPerDay))
      else
        none
    else
      none
  else
    none

/-- The status of a score and what it recommends. -/
def assess (overallScore wearVariance : ℚ) : String × List String :=
  if overallScore ≥ 80 then
    ("healthy", [])
  else if overallScore ≥ 50 then
    ("warning",
      "Consider planning for drive replacement within 6 months" ::
        if wearVariance > 1000 then
          ["High wear variance detected - review wear leveling"]
        else
          [])
  else
    ("critical",
      ["URGENT: Plan immediate drive replacement",
        "Consider migrating data to healthy drives"])

/-- The score that the reported statistics give. -/
def scoreOf (report : SimulatorReport) : DriveHealthScore :=
  let avgErase := report.blocks.avgEraseCount
  let maxErase := report.blocks.maxEraseCount
  let badBlocks := report.blocks.counters.badBlocks
  let totalBlocks := report.blocks.counters.totalBlocks
  let wearLevel := avgErase / maxEndurance * 100
  let baseScore := 100 - wearLevel
  let badBlockRatio : ℚ :=
    if totalBlocks > 0 then (badBlocks : ℚ) / totalBlocks else 0
  let badBlockPenalty := badBlockRatio * 20
  let wearVariance := report.wearLeveling.wearVariance
  let variancePenalty := min 10 (wearVariance / 1000)
  let overallScore :=
    max 0 (baseScore - badBlockPenalty - variancePenalty)
  let (status, advice) := assess overallScore wearVariance
  { overallScore := overallScore
    wearLevel := wearLevel
    eraseCountAvg := avgErase
    eraseCountMax := maxErase
    badBlockCount := badBlocks
    predictedEndOfLifeDays :=
      endOfLifeDays avgErase maxErase report.garbageCollection.stats
    status := status
    recommendations :=
      advice ++
        (if badBlocks > 0 then
          [toString badBlocks ++
            " bad blocks detected - monitor closely"]
        else
          []) ++
        (if report.flash.utilization > 9 / 10 then
          ["Storage utilization above 90% - consider expansion"]
        else
          []) }

/-- Assess drive health based on wear metrics. -/
def getDriveHealth {total : Nat}
    (directflash : DirectFlashSimulator total) :
    Except PyException DriveHealthScore :=
  match directflash.getStats with
  | .error exception => .error exception
  | .ok report => .ok (scoreOf report)

section Scores

/-- The score of non-negative penalties is a percentage. -/
theorem overallScore_bounds
    {report : SimulatorReport}
    (average : 0 ≤ report.blocks.avgEraseCount)
    (badBlocks : 0 ≤ report.blocks.counters.badBlocks)
    (variance : 0 ≤ report.wearLeveling.wearVariance) :
    0 ≤ (scoreOf report).overallScore ∧
      (scoreOf report).overallScore ≤ 100 := by
  simp only [scoreOf]
  constructor
  · exact le_max_left _ _
  · apply max_le (by norm_num)
    have wear :
        0 ≤ report.blocks.avgEraseCount / (maxEndurance : ℚ) * 100 := by
      positivity
    have ratio :
        (0 : ℚ) ≤
          if report.blocks.counters.totalBlocks > 0 then
            (report.blocks.counters.badBlocks : ℚ) /
              report.blocks.counters.totalBlocks
          else
            0 := by
      split
      · rename_i positive
        apply div_nonneg
        · exact_mod_cast badBlocks
        · exact_mod_cast le_of_lt positive
      · exact le_rfl
    have uneven :
        (0 : ℚ) ≤ min 10 (report.wearLeveling.wearVariance / 1000) :=
      le_min (by norm_num) (by positivity)
    linarith

theorem wearLevel_bounds
    {report : SimulatorReport}
    (average : 0 ≤ report.blocks.avgEraseCount)
    (limit : report.blocks.avgEraseCount ≤ maxEndurance) :
    0 ≤ (scoreOf report).wearLevel ∧
      (scoreOf report).wearLevel ≤ 100 := by
  have endurance : (0 : ℚ) < maxEndurance := by
    norm_num [maxEndurance]
  simp only [scoreOf]
  constructor
  · positivity
  · have fraction := (div_le_one endurance).mpr limit
    linarith

/-! ## Every run -/

variable {total : Nat}

/-- Every reported percentage is one. -/
structure Healthy (simulator : DirectFlashSimulator total) : Prop where
  health :
    ∃ health,
      simulator.getHealth = .ok health ∧ 0 ≤ health ∧ health ≤ 100
  score :
    ∃ score,
      getDriveHealth simulator = .ok score ∧
        (0 ≤ score.overallScore ∧ score.overallScore ≤ 100) ∧
        0 ≤ score.wearLevel ∧ score.wearLevel ≤ 100

/-- With a usable block, flash within the limit is reported in percent. -/
theorem healthy_of_usable
    {simulator : DirectFlashSimulator total}
    (sound : simulator.Sound)
    (endurance : simulator.blockManager.maxEraseCount = maxEndurance)
    (within :
      ∀ physicalId,
        (simulator.blockManager.blocks physicalId).WithinLimit
          maxEndurance)
    {physicalId : Fin total}
    (usable :
      (simulator.blockManager.blocks physicalId).state ≠ .bad) :
    Healthy simulator := by
  have positive : 0 < simulator.blockManager.maxEraseCount := by
    rw [endurance]
    decide
  rcases simulator_getStats usable positive with
    ⟨report, blockStats, reported, computed, blocks, variance⟩
  have average := average_nonneg computed
  have limit := average_le computed within
  have badBlocks : 0 ≤ blockStats.counters.badBlocks := by
    rw [getStats_counters computed]
    exact badBlocks_nonneg sound.flash
  have uneven := wearVariance_nonneg simulator.blockManager
  rw [← variance] at uneven
  rw [← blocks] at average limit badBlocks
  constructor
  · exact getHealth_bounds usable positive
  · rw [getDriveHealth, reported]
    exact
      ⟨_, rfl, overallScore_bounds average badBlocks uneven,
        wearLevel_bounds average limit⟩

/--
Along every run of a simulator with the default endurance, no block is worn
beyond the limit, the bad blocks are those at the limit, a bad block stays bad,
and the reports of health and wear are percentages while a block is usable.
-/
theorem wear_and_health_after_any_calls
    (settings : FlashSettings)
    (calls : List (DirectFlashSimulator.Call total)) :
    let simulator :=
      run DirectFlashSimulator.step
        (DirectFlashSimulator.new total settings) calls
    (∀ physicalId,
        (simulator.blockManager.blocks physicalId).WithinLimit
          simulator.blockManager.maxEraseCount) ∧
      (∀ physicalId (later : List (DirectFlashSimulator.Call total)),
        (simulator.blockManager.blocks physicalId).state = .bad →
          ((run DirectFlashSimulator.step simulator
            later).blockManager.blocks physicalId).state = .bad) ∧
      ((∃ physicalId,
          (simulator.blockManager.blocks physicalId).state ≠ .bad) →
        Healthy simulator) := by
  intro simulator
  have sound : simulator.Sound := sound_run settings 100000 calls
  have within :
      ∀ physicalId,
        (simulator.blockManager.blocks physicalId).WithinLimit
          maxEndurance :=
    fun physicalId =>
      withinLimit_run settings (by decide) calls physicalId
  have endurance :
      simulator.blockManager.maxEraseCount = maxEndurance :=
    (run_moves (sound_simulator_new settings) calls).limits.2
  refine ⟨?_, ?_, ?_⟩
  · rw [endurance]
    exact within
  · intro physicalId later worn
    rw [bad_run sound worn later]
    exact worn
  · rintro ⟨physicalId, usable⟩
    exact healthy_of_usable sound endurance within usable

/-- Flash that is collected as soon as a block is stale. -/
def eagerCollection : FlashSettings where
  flashBlockSize := 8
  gcTarget := 0

/-- Writes and deletions, with two collections that erase a block each. -/
def erasingCalls : List (DirectFlashSimulator.Call 2) :=
  [.write (fun _ => 0) [1], .write (fun _ => 0) [2], .delete 0, .forceGc,
    .write (fun _ => 0) [3], .delete 1, .forceGc]

theorem wear_and_health_erased :
    (run DirectFlashSimulator.step
        (DirectFlashSimulator.new 2 eagerCollection)
        erasingCalls).blockManager.stats.totalErases =
        2 ∧
      Healthy
        (run DirectFlashSimulator.step
          (DirectFlashSimulator.new 2 eagerCollection) erasingCalls) :=
  ⟨by decide +kernel,
    (wear_and_health_after_any_calls eagerCollection erasingCalls).2.2
      ⟨0, by decide +kernel⟩⟩

end Scores

end StorageAppliance.Analytics
