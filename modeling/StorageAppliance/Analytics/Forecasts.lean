import Mathlib.Data.List.DropRight
import StorageAppliance.Analytics.CapacityForecast
import StorageAppliance.DirectFlash.EndOfLife

/-!
# Forecasts along a run

The predictor samples the flash whose use it forecasts, while the flash is
written, trimmed and collected (`analytics/predictor.py`).

`samplesTaken` are the samples of a whole run, each of them the bytes of the
blocks that were not free, and the predictor has kept the last 2016 of them.  A
forecast can then be made exactly while the flash has statistics, and its
predictions lie between the bytes in use and the capacity.

`ForecastSound` also says what the prediction is when the samples lie on a
line, and what a deadline means: it counts the whole days until the target at
the fitted rate, with a rate below one byte a day taken as one byte.

All arithmetic is exact, as in the forecasts themselves.  The source computes
with floating point numbers, and nothing is said of their rounding.
-/

namespace StorageAppliance.Analytics

open StorageAppliance.Python
open StorageAppliance.Library
open StorageAppliance.DirectFlash

/-! ## The monitored flash -/

section Monitoring

variable {total : Nat}

/-- The flash and its predictor. -/
structure Monitored (total : Nat) where
  directflash : DirectFlashSimulator total
  predictor : StoragePredictor

/-- A call of the simulator, or a sample at some time. -/
inductive MonitorCall (total : Nat) where
  | flash (call : DirectFlashSimulator.Call total)
  | sample (timestamp : ℚ)

/-- A sample of flash without statistics is not recorded. -/
def Monitored.step (self : Monitored total) :
    MonitorCall total → Monitored total
  | .flash call =>
      { self with directflash := self.directflash.step call }
  | .sample timestamp =>
      match self.predictor.recordCapacitySample self.directflash
          timestamp with
      | .error _ => self
      | .ok predictor => { self with predictor := predictor }

/-- New flash, with a predictor that has no samples. -/
def Monitored.new (total : Nat) (settings : FlashSettings)
    (maxEraseCount : Nat) : Monitored total where
  directflash := DirectFlashSimulator.new total settings maxEraseCount
  predictor := {}

/-! ## What the samples are -/

/-- The bytes of the blocks that are not free. -/
def usedBytes (manager : BlockManager total) : ℤ :=
  (total - manager.blocksIn .free) * manager.blockSize

/-- The bytes of all blocks. -/
def capacityBytes (manager : BlockManager total) : ℤ :=
  total * manager.blockSize

/-- A block is usable, and blocks have an endurance. -/
def Reports (directflash : DirectFlashSimulator total) : Prop :=
  (∃ physicalId,
      (directflash.blockManager.blocks physicalId).state ≠ .bad) ∧
    directflash.blockManager.maxEraseCount ≠ 0

instance (directflash : DirectFlashSimulator total) :
    Decidable (Reports directflash) :=
  inferInstanceAs (Decidable (_ ∧ _))

/-- The samples that the calls take, however many they are. -/
def samplesTaken (directflash : DirectFlashSimulator total) :
    List (MonitorCall total) → List CapacitySample
  | [] => []
  | .flash call :: rest => samplesTaken (directflash.step call) rest
  | .sample timestamp :: rest =>
      if Reports directflash then
        (timestamp, usedBytes directflash.blockManager) ::
          samplesTaken directflash rest
      else
        samplesTaken directflash rest

/-! ## Statistics -/

variable
    {directflash : DirectFlashSimulator total}

/-- The free blocks of sound flash are those its counter counts. -/
theorem freeBlocks_eq {manager : BlockManager total}
    (sound : manager.Sound) :
    manager.stats.freeBlocks = manager.blocksIn .free :=
  drift_eq_zero_iff.mp (sound.counted .free (by simp))

/-- What the statistics of sound flash say about its capacity. -/
theorem flashReport
    (sound : directflash.blockManager.Sound) {report : SimulatorReport}
    (reported : directflash.getStats = .ok report) :
    report.flash.usedBytes = usedBytes directflash.blockManager ∧
      report.flash.totalCapacityBytes =
        capacityBytes directflash.blockManager := by
  rw [DirectFlashSimulator.getStats] at reported
  rcases computed : directflash.blockManager.getStats with _ | stats
  · rw [computed] at reported
    cases reported
  rcases collected :
      directflash.garbageCollector.getStats directflash.blockManager with
    _ | collector
  · rw [computed, collected] at reported
    cases reported
  rcases healthy : directflash.getHealth with _ | health
  · simp only [computed, collected, DirectFlashSimulator.getCapacity,
      healthy, bind, Except.bind] at reported
    cases reported
  simp only [computed, collected, DirectFlashSimulator.getCapacity, healthy,
    bind, Except.bind, pure, Except.pure, Except.ok.injEq] at reported
  have free := freeBlocks_eq sound
  rw [← reported]
  constructor
  · simp only [getStats_counters computed, free, sound.all, usedBytes,
      sub_mul]
  · simp only [getStats_counters computed, sound.all, capacityBytes]

/-- There are statistics exactly with a usable block and an endurance. -/
theorem getStats_ok_iff_reports :
    (∃ report, directflash.getStats = .ok report) ↔
      Reports directflash := by
  constructor
  · rintro ⟨report, reported⟩
    rw [DirectFlashSimulator.getStats] at reported
    rcases computed : directflash.blockManager.getStats with _ | stats
    · rw [computed] at reported
      cases reported
    refine ⟨getStats_ok_iff.mp ⟨stats, computed⟩, ?_⟩
    intro worthless
    have unhealthy :
        directflash.getHealth =
          .error (.zeroDivisionError "division by zero") := by
      simp only [DirectFlashSimulator.getHealth, computed, worthless,
        Nat.cast_zero, if_true]
    rcases collected :
        directflash.garbageCollector.getStats directflash.blockManager with
      _ | collector
    · rw [computed, collected] at reported
      cases reported
    · simp only [computed, collected, DirectFlashSimulator.getCapacity,
        unhealthy, bind, Except.bind] at reported
      cases reported
  · rintro ⟨⟨physicalId, usable⟩, endurance⟩
    rcases simulator_getStats usable (Nat.pos_of_ne_zero endurance) with
      ⟨report, _, reported, _⟩
    exact ⟨report, reported⟩

/-! ## The kept samples -/

/-- The kept samples of the kept samples and one more. -/
theorem rtake_rtake_concat {Sample : Type} (kept : Nat)
    (samples : List Sample) (sample : Sample) :
    (samples.rtake kept ++ [sample]).rtake kept =
      (samples ++ [sample]).rtake kept := by
  cases kept with
  | zero => rw [List.rtake_zero, List.rtake_zero]
  | succ kept =>
      rw [List.rtake_concat_succ, List.rtake_concat_succ,
        List.rtake_eq_reverse_take_reverse _ kept,
        List.rtake_eq_reverse_take_reverse _ (kept + 1),
        List.rtake_eq_reverse_take_reverse samples kept,
        List.reverse_reverse, List.take_take, Nat.min_eq_left (by omega)]

/-- A sample is added to the kept ones, and the oldest are dropped. -/
theorem recordCapacitySample_of_reports
    (sound : directflash.blockManager.Sound)
    (reports : Reports directflash) (predictor : StoragePredictor)
    (timestamp : ℚ) :
    predictor.recordCapacitySample directflash timestamp =
      .ok
        { predictor with
          capacityHistory :=
            (predictor.capacityHistory ++
                [(timestamp, usedBytes directflash.blockManager)]).rtake
              predictor.maxHistoryPoints } := by
  rcases getStats_ok_iff_reports.mpr reports with ⟨report, reported⟩
  rw [StoragePredictor.recordCapacitySample, reported]
  simp only [(flashReport sound reported).1, List.rtake]
  split
  · rfl
  · rename_i fits
    rw [Nat.sub_eq_zero_of_le (Nat.le_of_not_lt fits), List.drop_zero]

theorem recordCapacitySample_of_not_reports
    (silent : ¬ Reports directflash) (predictor : StoragePredictor)
    (timestamp : ℚ) :
    ∃ exception,
      predictor.recordCapacitySample directflash timestamp =
        .error exception := by
  rw [StoragePredictor.recordCapacitySample]
  cases reported : directflash.getStats with
  | error exception => exact ⟨exception, rfl⟩
  | ok report =>
      exact absurd (getStats_ok_iff_reports.mp ⟨report, reported⟩) silent

/-- The flash is sound, and its predictor keeps 2016 samples at most. -/
structure Monitored.Sound (system : Monitored total) : Prop where
  directflash : system.directflash.Sound
  kept : system.predictor.maxHistoryPoints = 2016

theorem Monitored.Sound.step {system : Monitored total}
    (sound : system.Sound) (call : MonitorCall total) :
    (system.step call).Sound := by
  cases call with
  | flash call => exact ⟨sound.directflash.step call, sound.kept⟩
  | sample timestamp =>
      rw [Monitored.step]
      split
      · exact sound
      · rename_i predictor recorded
        refine ⟨sound.directflash, ?_⟩
        by_cases reports : Reports system.directflash
        · rw [recordCapacitySample_of_reports sound.directflash.flash
            reports] at recorded
          cases recorded
          exact sound.kept
        · rcases recordCapacitySample_of_not_reports reports
            system.predictor timestamp with ⟨exception, failed⟩
          rw [failed] at recorded
          cases recorded

theorem monitored_run (settings : FlashSettings) (maxEraseCount : Nat)
    (calls : List (MonitorCall total)) :
    (run Monitored.step (Monitored.new total settings maxEraseCount)
      calls).Sound :=
  run_invariant_of_step (fun _ call sound => sound.step call) calls
    ⟨sound_run settings maxEraseCount [], rfl⟩

/-- The history is the end of the samples taken before and along the run. -/
theorem capacityHistory_run
    (calls : List (MonitorCall total)) {system : Monitored total}
    (sound : system.Sound) {earlier : List CapacitySample}
    (history : system.predictor.capacityHistory = earlier.rtake 2016) :
    (run Monitored.step system calls).predictor.capacityHistory =
      (earlier ++ samplesTaken system.directflash calls).rtake 2016 := by
  induction calls generalizing system earlier with
  | nil => rw [run_nil, samplesTaken, List.append_nil, history]
  | cons call rest induction =>
      have next := sound.step call
      rw [run_cons]
      cases call with
      | flash call =>
          exact @induction (system.step (.flash call)) next earlier history
      | sample timestamp =>
          by_cases reports : Reports system.directflash
          · rw [samplesTaken, if_pos reports, List.append_cons]
            simp only [Monitored.step,
              recordCapacitySample_of_reports sound.directflash.flash
                reports] at next ⊢
            apply induction next
            rw [sound.kept, history, rtake_rtake_concat]
          · rcases recordCapacitySample_of_not_reports reports
              system.predictor timestamp with ⟨exception, failed⟩
            rw [samplesTaken, if_neg reports]
            simp only [Monitored.step, failed]
            exact induction sound history

end Monitoring

/-! ## What a forecast says -/

section Forecasts

/-- The whole days until a target, none of them if the target is reached. -/
def Deadline (used target : ℤ) (growthRate : ℚ) (days : ℤ) : Prop :=
  if target ≤ used then
    days = 0
  else
    (days : ℚ) * max growthRate 1 ≤ (target - used : ℤ) ∧
      ((target - used : ℤ) : ℚ) < (days + 1) * max growthRate 1

/-- A prediction of a line, not below the used bytes or above the capacity. -/
def extrapolate (used capacity : ℤ) (rate start time : ℚ) : ℤ :=
  max used (min (truncate (start + rate * time)) capacity)

/-- What a forecast says about the use of the flash. -/
structure ForecastSound (used capacity : ℤ)
    (history : List CapacitySample) (now : ℚ)
    (forecast : CapacityForecast) : Prop where
  current :
    forecast.currentUsedBytes = used ∧
      forecast.currentTotalBytes = capacity
  bounded : 0 ≤ used ∧ used ≤ capacity
  within :
    ∀ predicted ∈
        [forecast.predictedUsedBytes7d, forecast.predictedUsedBytes30d,
          forecast.predictedUsedBytes90d],
      used ≤ predicted ∧ predicted ≤ capacity
  growing :
    0 ≤ forecast.growthRateBytesPerDay →
      forecast.predictedUsedBytes7d ≤ forecast.predictedUsedBytes30d ∧
        forecast.predictedUsedBytes30d ≤ forecast.predictedUsedBytes90d
  shrinking :
    forecast.growthRateBytesPerDay ≤ 0 →
      (forecast.predictedUsedBytes90d ≤ forecast.predictedUsedBytes30d ∧
        forecast.predictedUsedBytes30d ≤ forecast.predictedUsedBytes7d) ∧
      forecast.daysUntil80Percent = none ∧
      forecast.daysUntil90Percent = none ∧
      forecast.daysUntilFull = none
  deadlines :
    0 < forecast.growthRateBytesPerDay →
      ∃ days80 days90 daysFull,
        (forecast.daysUntil80Percent = some days80 ∧
          forecast.daysUntil90Percent = some days90 ∧
          forecast.daysUntilFull = some daysFull) ∧
        (Deadline used (truncate (capacity * (80 / 100)))
            forecast.growthRateBytesPerDay days80 ∧
          Deadline used (truncate (capacity * (90 / 100)))
            forecast.growthRateBytesPerDay days90 ∧
          Deadline used (truncate (capacity * (99 / 100)))
            forecast.growthRateBytesPerDay daysFull) ∧
        0 ≤ days80 ∧ days80 ≤ days90 ∧ days90 ≤ daysFull
  confidence : 0 ≤ forecast.confidence ∧ forecast.confidence ≤ 1
  onLine :
    ∀ rate start : ℚ,
      (∀ sample ∈ history,
          (sample.2 : ℚ) = start + rate * sample.1) →
        (∃ first ∈ history, ∃ second ∈ history, first.1 ≠ second.1) →
          forecast.growthRateBytesPerDay = rate * 86400 ∧
            forecast.predictedUsedBytes7d =
              extrapolate used capacity rate start (now + 7 * 86400) ∧
            forecast.predictedUsedBytes30d =
              extrapolate used capacity rate start (now + 30 * 86400) ∧
            forecast.predictedUsedBytes90d =
              extrapolate used capacity rate start (now + 90 * 86400) ∧
            (rate ≠ 0 → forecast.confidence = 1)

/-! ## Predictions and deadlines -/

variable
    {used capacity : ℤ}

theorem truncate_mono {first second : ℚ} (le : first ≤ second) :
    truncate first ≤ truncate second := by
  rw [truncate, truncate]
  split_ifs with firstNonneg secondNonneg secondNonneg
  · exact Int.floor_le_floor le
  · exact absurd (firstNonneg.trans le) secondNonneg
  · have below : ⌈first⌉ ≤ 0 :=
      Int.ceil_le.mpr (by exact_mod_cast (lt_of_not_ge firstNonneg).le)
    exact below.trans (Int.floor_nonneg.mpr secondNonneg)
  · exact Int.ceil_le_ceil le

theorem extrapolate_bounds (le : used ≤ capacity) (rate start time : ℚ) :
    used ≤ extrapolate used capacity rate start time ∧
      extrapolate used capacity rate start time ≤ capacity :=
  ⟨le_max_left _ _, max_le le (min_le_right _ _)⟩

/-- Predictions follow the values of the line. -/
theorem extrapolate_mono {rate start first second : ℚ}
    (le : rate * first ≤ rate * second) :
    extrapolate used capacity rate start first ≤
      extrapolate used capacity rate start second :=
  max_le_max_left _ (min_le_min_right _ (truncate_mono (by linarith)))

/-- The deadline of a later target is not earlier. -/
theorem Deadline.mono {first second : ℤ} {growthRate : ℚ}
    {firstDays secondDays : ℤ}
    (firstDeadline : Deadline used first growthRate firstDays)
    (secondDeadline : Deadline used second growthRate secondDays)
    (nonneg : 0 ≤ secondDays) (le : first ≤ second) :
    firstDays ≤ secondDays := by
  rw [Deadline] at firstDeadline secondDeadline
  split at firstDeadline
  · rw [firstDeadline]
    exact nonneg
  · rename_i ahead
    rw [if_neg (by omega)] at secondDeadline
    have positive : (0 : ℚ) < max growthRate 1 :=
      lt_max_of_lt_right one_pos
    have remaining : ((first - used : ℤ) : ℚ) ≤ (second - used : ℤ) :=
      Int.cast_le.mpr (Int.sub_le_sub_right le used)
    have days :
        (firstDays : ℚ) * max growthRate 1 <
          (secondDays + 1) * max growthRate 1 :=
      firstDeadline.1.trans_lt (remaining.trans_lt secondDeadline.2)
    have later : (firstDays : ℚ) < (secondDays + 1 : ℤ) := by
      push_cast
      exact lt_of_mul_lt_mul_right days positive.le
    exact Int.lt_add_one_iff.mp (Int.cast_lt.mp later)

section Thresholds

variable
    {fit : LinearRegression} {report : FlashReport}

theorem daysUntilThreshold_of_shrinking (shrinking : fit.slope ≤ 0)
    (thresholdRatio : ℚ) :
    daysUntilThreshold fit report thresholdRatio = none :=
  if_pos shrinking

/-- If the use grows, every threshold has a deadline. -/
theorem daysUntilThreshold_of_growing (growing : 0 < fit.slope)
    (thresholdRatio : ℚ) :
    ∃ days,
      daysUntilThreshold fit report thresholdRatio = some days ∧
        0 ≤ days ∧
        Deadline report.usedBytes
          (truncate (report.totalCapacityBytes * thresholdRatio))
          (fit.slope * 86400) days := by
  rw [daysUntilThreshold, if_neg (not_le.mpr growing)]
  simp only [Deadline, ge_iff_le]
  split
  · exact ⟨0, rfl, le_rfl, rfl⟩
  · rename_i ahead
    have positive : (0 : ℚ) < max (fit.slope * 86400) 1 :=
      lt_max_of_lt_right one_pos
    have quotient :
        (0 : ℚ) ≤
          ((truncate (report.totalCapacityBytes * thresholdRatio) -
                report.usedBytes : ℤ) : ℚ) /
            max (fit.slope * 86400) 1 :=
      div_nonneg (Int.cast_nonneg (by omega)) positive.le
    rw [truncate, if_pos quotient, max_eq_right (Int.floor_nonneg.mpr quotient)]
    refine ⟨_, rfl, Int.floor_nonneg.mpr quotient, ?_, ?_⟩
    · exact (le_div_iff₀ positive).mp (Int.floor_le _)
    · exact (div_lt_iff₀ positive).mp (Int.lt_floor_add_one _)

end Thresholds

/-! ## Samples on a line -/

section OnLine

variable
    {history : List CapacitySample} {rate start : ℚ}

/-- The fitted line of samples of two times on a line is that line. -/
theorem linearRegression_onLine
    (onLine :
      ∀ sample ∈ history, (sample.2 : ℚ) = start + rate * sample.1)
    {first second : CapacitySample}
    (firstMember : first ∈ history) (secondMember : second ∈ history)
    (distinct : first.1 ≠ second.1) :
    (linearRegression history).slope = rate ∧
      (linearRegression history).intercept = start ∧
      (rate ≠ 0 → (linearRegression history).rSquared = 1) := by
  have count : ((samplePoints history).length : ℚ) ≠ 0 := by
    rw [samplePoints, List.length_map, Nat.cast_ne_zero]
    exact Nat.ne_of_gt (List.length_pos_of_mem firstMember)
  have firstPoint :
      (first.1, (first.2 : ℚ)) ∈ samplePoints history :=
    List.mem_map.mpr ⟨first, firstMember, rfl⟩
  have secondPoint :
      (second.1, (second.2 : ℚ)) ∈ samplePoints history :=
    List.mem_map.mpr ⟨second, secondMember, rfl⟩
  have regular : (linearRegression history).denominator ≠ 0 := by
    rw [denominator_eq, Ne, determinant_eq_zero_iff count]
    exact fun same =>
      distinct (same _ firstPoint _ secondPoint)
  have normal := linearRegression_normal count regular
  have pointsOnLine :
      ∀ point ∈ samplePoints history,
        point.2 = start + rate * point.1 :=
    List.forall_mem_map.mpr onLine
  rcases normal.eq_of_onLine pointsOnLine firstPoint secondPoint distinct with
    ⟨slope, intercept⟩
  refine ⟨slope, intercept, ?_⟩
  intro sloped
  have residual :
      sumSquares history (linearRegression history).slope
        (linearRegression history).intercept = 0 := by
    rw [slope, intercept, sumSquares_eq]
    exact squaredResiduals_eq_zero_iff.mpr pointsOnLine
  -- Samples that all had the mean would lie on a level line.
  have varied :
      0 <
        sumSquares history 0
          (sumY (samplePoints history) / history.length) := by
    rw [sumSquares_eq]
    apply lt_of_le_of_ne (squaredResiduals_nonneg _ _ _)
    intro level
    have levelPoints := squaredResiduals_eq_zero_iff.mp level.symm
    have flat :=
      (normal.eq_of_onLine levelPoints firstPoint secondPoint distinct).1
    exact sloped (slope.symm.trans flat)
  rw [rSquared_eq]
  simp only [if_pos varied, residual, zero_div, sub_zero]

end OnLine

/-! ## The forecast -/

variable
    {total : Nat} {manager : BlockManager total}

/-- Not more bytes are used than the flash has. -/
theorem usedBytes_bounds (manager : BlockManager total) :
    0 ≤ usedBytes manager ∧ usedBytes manager ≤ capacityBytes manager := by
  have states := sum_blocksIn manager
  have free : 0 ≤ manager.blocksIn .free := Int.natCast_nonneg _
  have valid : 0 ≤ manager.blocksIn .valid := Int.natCast_nonneg _
  have invalid : 0 ≤ manager.blocksIn .invalid := Int.natCast_nonneg _
  have bad : 0 ≤ manager.blocksIn .bad := Int.natCast_nonneg _
  have size : (0 : ℤ) ≤ manager.blockSize := Int.natCast_nonneg _
  constructor
  · exact mul_nonneg (by omega) size
  · exact mul_le_mul_of_nonneg_right (by omega) size

/-- Without two samples the use is predicted to stay. -/
theorem forecastSound_of_few {report : FlashReport}
    {history : List CapacitySample}
    (bounded :
      0 ≤ report.usedBytes ∧
        report.usedBytes ≤ report.totalCapacityBytes)
    (few : history.length < 2) (now : ℚ) :
    ForecastSound report.usedBytes report.totalCapacityBytes history now
      { currentUsedBytes := report.usedBytes
        currentTotalBytes := report.totalCapacityBytes
        currentUtilization := report.utilization
        predictedUsedBytes7d := report.usedBytes
        predictedUsedBytes30d := report.usedBytes
        predictedUsedBytes90d := report.usedBytes
        daysUntil80Percent := none
        daysUntil90Percent := none
        daysUntilFull := none
        growthRateBytesPerDay := 0
        confidence := 0 } where
  current := ⟨rfl, rfl⟩
  bounded := bounded
  within := by
    intro predicted member
    simp only [List.mem_cons, List.not_mem_nil, or_false, or_self] at member
    rw [member]
    exact ⟨le_rfl, bounded.2⟩
  growing := fun _ => ⟨le_rfl, le_rfl⟩
  shrinking := fun _ => ⟨⟨le_rfl, le_rfl⟩, rfl, rfl, rfl⟩
  deadlines := fun growing => absurd growing (lt_irrefl 0)
  confidence := ⟨le_rfl, zero_le_one⟩
  onLine := by
    rintro rate start _ ⟨first, firstMember, second, secondMember, distinct⟩
    have same : first = second := by
      match history, few with
      | [sample], _ =>
          exact
            (List.mem_singleton.mp firstMember).trans
              (List.mem_singleton.mp secondMember).symm
    exact absurd (congrArg Prod.fst same) distinct

/-- With two samples it follows the fitted line. -/
theorem forecastSound_of_fit {report : FlashReport}
    {history : List CapacitySample}
    (bounded :
      0 ≤ report.usedBytes ∧
        report.usedBytes ≤ report.totalCapacityBytes)
    (now : ℚ) :
    ForecastSound report.usedBytes report.totalCapacityBytes history now
      (let fit := linearRegression history
       { currentUsedBytes := report.usedBytes
         currentTotalBytes := report.totalCapacityBytes
         currentUtilization := report.utilization
         predictedUsedBytes7d := predictUsedBytes fit report now 7
         predictedUsedBytes30d := predictUsedBytes fit report now 30
         predictedUsedBytes90d := predictUsedBytes fit report now 90
         daysUntil80Percent := daysUntilThreshold fit report (80 / 100)
         daysUntil90Percent := daysUntilThreshold fit report (90 / 100)
         daysUntilFull := daysUntilThreshold fit report (99 / 100)
         growthRateBytesPerDay := fit.slope * 86400
         confidence := max 0 (min 1 fit.rSquared) }) := by
  have day : (0 : ℚ) < 86400 := by norm_num
  have predicts :
      ∀ daysAhead : ℤ,
        predictUsedBytes (linearRegression history) report now daysAhead =
          extrapolate report.usedBytes report.totalCapacityBytes
            (linearRegression history).slope
            (linearRegression history).intercept
            (now + daysAhead * 86400) :=
    fun _ => rfl
  constructor
  case current => exact ⟨rfl, rfl⟩
  case bounded => exact bounded
  case within =>
    intro predicted member
    simp only [List.mem_cons, List.not_mem_nil, or_false, predicts] at member
    rcases member with rfl | rfl | rfl <;>
      exact extrapolate_bounds bounded.2 _ _ _
  case growing =>
    intro growing
    have slope := nonneg_of_mul_nonneg_left growing day
    simp only [predicts]
    constructor <;>
      exact
        extrapolate_mono
          (mul_le_mul_of_nonneg_left (by push_cast; linarith) slope)
  case shrinking =>
    intro shrinking
    have slope := nonpos_of_mul_nonpos_left shrinking day
    simp only [predicts, daysUntilThreshold_of_shrinking slope, and_true]
    constructor <;>
      exact
        extrapolate_mono
          (mul_le_mul_of_nonpos_left (by push_cast; linarith) slope)
  case deadlines =>
    intro growing
    have slope := pos_of_mul_pos_left growing day.le
    have capacity : (0 : ℚ) ≤ report.totalCapacityBytes :=
      Int.cast_nonneg (bounded.1.trans bounded.2)
    rcases @daysUntilThreshold_of_growing _ report slope (80 / 100) with
      ⟨days80, some80, nonneg80, deadline80⟩
    rcases @daysUntilThreshold_of_growing _ report slope (90 / 100) with
      ⟨days90, some90, nonneg90, deadline90⟩
    rcases @daysUntilThreshold_of_growing _ report slope (99 / 100) with
      ⟨daysFull, someFull, nonnegFull, deadlineFull⟩
    refine
      ⟨days80, days90, daysFull, ⟨some80, some90, someFull⟩,
        ⟨deadline80, deadline90, deadlineFull⟩, nonneg80, ?_, ?_⟩
    · exact deadline80.mono deadline90 nonneg90
        (truncate_mono (by linarith))
    · exact deadline90.mono deadlineFull nonnegFull
        (truncate_mono (by linarith))
  case confidence =>
    exact ⟨le_max_left _ _, max_le zero_le_one (min_le_left _ _)⟩
  case onLine =>
    rintro rate start onLine
      ⟨first, firstMember, second, secondMember, distinct⟩
    rcases linearRegression_onLine onLine firstMember secondMember
        distinct with
      ⟨slope, intercept, explained⟩
    simp only [predicts, slope, intercept, Int.cast_ofNat, true_and]
    intro sloped
    rw [explained sloped, min_self, max_eq_right zero_le_one]

/-- Forecasts are made exactly of flash with statistics. -/
theorem getCapacityForecast_ok_iff
    {directflash : DirectFlashSimulator total}
    {predictor : StoragePredictor} {now : ℚ} :
    (∃ forecast,
        predictor.getCapacityForecast directflash now = .ok forecast) ↔
      Reports directflash := by
  rw [← getStats_ok_iff_reports, StoragePredictor.getCapacityForecast]
  cases directflash.getStats with
  | error exception => simp
  | ok report =>
      simp only [Except.ok.injEq, exists_eq', iff_true]
      split
      · exact ⟨_, rfl⟩
      · exact ⟨_, rfl⟩

theorem getCapacityForecast_sound
    {directflash : DirectFlashSimulator total}
    (sound : directflash.blockManager.Sound)
    {predictor : StoragePredictor} {now : ℚ}
    {forecast : CapacityForecast}
    (made :
      predictor.getCapacityForecast directflash now = .ok forecast) :
    ForecastSound (usedBytes directflash.blockManager)
      (capacityBytes directflash.blockManager) predictor.capacityHistory
      now forecast := by
  rw [StoragePredictor.getCapacityForecast] at made
  cases reported : directflash.getStats with
  | error exception =>
      rw [reported] at made
      cases made
  | ok report =>
      rcases flashReport sound reported with ⟨used, capacity⟩
      have bounded := usedBytes_bounds directflash.blockManager
      rw [← used, ← capacity] at bounded ⊢
      rw [reported] at made
      simp only at made
      split at made
      · rename_i few
        cases made
        exact forecastSound_of_few bounded few now
      · cases made
        exact forecastSound_of_fit bounded now

end Forecasts

end StorageAppliance.Analytics
