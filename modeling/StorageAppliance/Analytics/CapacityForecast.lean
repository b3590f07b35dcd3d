import Mathlib.Algebra.BigOperators.Ring.List
import StorageAppliance.DirectFlash.Health
import StorageAppliance.Library.LeastSquares

/-!
# Capacity forecasts

The predictor keeps samples of the used capacity and fits a line to them
(`analytics/predictor.py`).  The floating point numbers of the source, the
times among them, are rationals here.

The fitted line is one of least squares.  If all samples have the same time
there is no slope to find, and the line is level at the mean.
-/

namespace StorageAppliance.Analytics

open StorageAppliance.Python
open StorageAppliance.Library
open StorageAppliance.DirectFlash

/-- A time, and the bytes that were used then. -/
abbrev CapacitySample :=
  ℚ × ℤ

/-- Capacity forecast result. -/
structure CapacityForecast where
  currentUsedBytes : ℤ
  currentTotalBytes : ℤ
  currentUtilization : ℚ
  predictedUsedBytes7d : ℤ
  predictedUsedBytes30d : ℤ
  predictedUsedBytes90d : ℤ
  daysUntil80Percent : Option ℤ
  daysUntil90Percent : Option ℤ
  daysUntilFull : Option ℤ
  growthRateBytesPerDay : ℚ
  confidence : ℚ
deriving DecidableEq

structure StoragePredictor where
  capacityHistory : List CapacitySample := []
  maxHistoryPoints : Nat := 2016
deriving DecidableEq

/-- Record current capacity for forecasting; the oldest samples are dropped. -/
def StoragePredictor.recordCapacitySample {total : Nat}
    (self : StoragePredictor) (directflash : DirectFlashSimulator total)
    (timestamp : ℚ) : Except PyException StoragePredictor :=
  match directflash.getStats with
  | .error exception => .error exception
  | .ok report =>
      let history :=
        self.capacityHistory ++ [(timestamp, report.flash.usedBytes)]
      .ok
        { self with
          capacityHistory :=
            if history.length > self.maxHistoryPoints then
              history.drop (history.length - self.maxHistoryPoints)
            else
              history }

/-! ## Regression -/

section Regression

variable
    (history : List CapacitySample)

/-- The squared distances of the samples from a line, summed. -/
def sumSquares (slope intercept : ℚ) : ℚ :=
  (history.map fun sample =>
    ((sample.2 : ℚ) - (intercept + slope * sample.1)) ^ 2).sum

/-- The line that is fitted, and how much of the variation it explains. -/
structure LinearRegression where
  denominator : ℚ
  slope : ℚ
  intercept : ℚ
  rSquared : ℚ
deriving DecidableEq

/-- Linear regression, with times as abscissas. -/
def linearRegression : LinearRegression :=
  let n : ℚ := history.length
  let sumX := (history.map fun sample => sample.1).sum
  let sumY : ℤ := (history.map fun sample => sample.2).sum
  let sumXY := (history.map fun sample => sample.1 * (sample.2 : ℚ)).sum
  let sumX2 := (history.map fun sample => sample.1 * sample.1).sum
  let denominator := n * sumX2 - sumX * sumX
  let slope :=
    if denominator = 0 then
      0
    else
      (n * sumXY - sumX * sumY) / denominator
  let intercept := (sumY - slope * sumX) / n
  let meanY := sumY / n
  let ssTot :=
    (history.map fun sample => ((sample.2 : ℚ) - meanY) ^ 2).sum
  let ssRes := sumSquares history slope intercept
  { denominator := denominator
    slope := slope
    intercept := intercept
    rSquared := if ssTot > 0 then 1 - ssRes / ssTot else 0 }

end Regression

/-! ## Forecasts -/

/-- The used bytes that a line predicts, within the current and the total. -/
def predictUsedBytes (fit : LinearRegression) (report : FlashReport)
    (now : ℚ) (daysAhead : ℤ) : ℤ :=
  let futureTime := now + daysAhead * 86400
  let predicted := fit.intercept + fit.slope * futureTime
  max report.usedBytes (min (truncate predicted) report.totalCapacityBytes)

/-- The days until a part of the capacity is used, if the use grows. -/
def daysUntilThreshold (fit : LinearRegression) (report : FlashReport)
    (thresholdRatio : ℚ) : Option ℤ :=
  if fit.slope ≤ 0 then
    none
  else
    let targetBytes := truncate (report.totalCapacityBytes * thresholdRatio)
    if report.usedBytes ≥ targetBytes then
      some 0
    else
      let bytesRemaining := targetBytes - report.usedBytes
      let days := bytesRemaining / max (fit.slope * 86400) 1
      some (max 0 (truncate days))

/-- Generate capacity forecast using linear regression. -/
def StoragePredictor.getCapacityForecast {total : Nat}
    (self : StoragePredictor) (directflash : DirectFlashSimulator total)
    (now : ℚ) : Except PyException CapacityForecast :=
  match directflash.getStats with
  | .error exception => .error exception
  | .ok report =>
      let flash := report.flash
      let history := self.capacityHistory
      if history.length < 2 then
        .ok
          { currentUsedBytes := flash.usedBytes
            currentTotalBytes := flash.totalCapacityBytes
            currentUtilization := flash.utilization
            predictedUsedBytes7d := flash.usedBytes
            predictedUsedBytes30d := flash.usedBytes
            predictedUsedBytes90d := flash.usedBytes
            daysUntil80Percent := none
            daysUntil90Percent := none
            daysUntilFull := none
            growthRateBytesPerDay := 0
            confidence := 0 }
      else
        let fit := linearRegression history
        .ok
          { currentUsedBytes := flash.usedBytes
            currentTotalBytes := flash.totalCapacityBytes
            currentUtilization := flash.utilization
            predictedUsedBytes7d := predictUsedBytes fit flash now 7
            predictedUsedBytes30d := predictUsedBytes fit flash now 30
            predictedUsedBytes90d := predictUsedBytes fit flash now 90
            daysUntil80Percent := daysUntilThreshold fit flash (80 / 100)
            daysUntil90Percent := daysUntilThreshold fit flash (90 / 100)
            daysUntilFull := daysUntilThreshold fit flash (99 / 100)
            growthRateBytesPerDay := fit.slope * 86400
            confidence := max 0 (min 1 fit.rSquared) }

/-! ## The fitted line -/

section Fit

variable
    {history : List CapacitySample}

/-- The samples as points of the plane. -/
def samplePoints (history : List CapacitySample) : List (ℚ × ℚ) :=
  history.map fun sample => (sample.1, sample.2)

theorem sumX_samplePoints :
    sumX (samplePoints history) =
      (history.map fun sample => sample.1).sum := by
  rw [sumX, samplePoints, List.map_map]
  rfl

theorem sumY_samplePoints :
    sumY (samplePoints history) =
      ((history.map fun sample => sample.2).sum : ℤ) := by
  rw [sumY, samplePoints, List.map_map, Int.cast_list_sum, List.map_map]
  rfl

theorem sumXY_samplePoints :
    sumXY (samplePoints history) =
      (history.map fun sample => sample.1 * (sample.2 : ℚ)).sum := by
  rw [sumXY, samplePoints, List.map_map]
  rfl

theorem sumXX_samplePoints :
    sumXX (samplePoints history) =
      (history.map fun sample => sample.1 * sample.1).sum := by
  rw [sumXX, samplePoints, List.map_map]
  rfl

theorem sumSquares_eq (slope intercept : ℚ) :
    sumSquares history slope intercept =
      squaredResiduals (samplePoints history) slope intercept := by
  rw [squaredResiduals, samplePoints, List.map_map]
  rfl

theorem denominator_eq :
    (linearRegression history).denominator =
      determinant (samplePoints history) := by
  rw [determinant, sumX_samplePoints, sumXX_samplePoints, samplePoints,
    List.length_map]
  rfl

/-- The line that is fitted when the times are not all the same. -/
theorem linearRegression_normal
    (count : ((samplePoints history).length : ℚ) ≠ 0)
    (regular : (linearRegression history).denominator ≠ 0) :
    Normal (samplePoints history) (linearRegression history).slope
      (linearRegression history).intercept := by
  have length : (samplePoints history).length = history.length :=
    List.length_map _
  rw [denominator_eq] at regular
  apply normal_of_determinant count regular
  · rw [sumXY_samplePoints, sumX_samplePoints, sumY_samplePoints, length,
      ← denominator_eq]
    rw [← denominator_eq] at regular
    exact if_neg regular
  · rw [sumX_samplePoints, sumY_samplePoints, length]
    rfl

/-- Otherwise it is level. -/
theorem linearRegression_level
    (singular : (linearRegression history).denominator = 0) :
    (linearRegression history).slope = 0 ∧
      (linearRegression history).intercept =
        sumY (samplePoints history) / history.length := by
  have level : (linearRegression history).slope = 0 := if_pos singular
  refine ⟨level, ?_⟩
  show
    ((((history.map fun sample => sample.2).sum : ℤ) : ℚ) -
          (linearRegression history).slope * _) /
        (history.length : ℚ) =
      _
  rw [level, zero_mul, sub_zero, sumY_samplePoints]

/-- The variation of the samples is that around the level line at their mean. -/
theorem rSquared_eq :
    (linearRegression history).rSquared =
      let whole :=
        sumSquares history 0
          (sumY (samplePoints history) / history.length)
      if whole > 0 then
        1 -
          sumSquares history (linearRegression history).slope
            (linearRegression history).intercept / whole
      else
        0 := by
  have variation :
      sumSquares history 0 (sumY (samplePoints history) / history.length) =
        (history.map fun sample =>
          ((sample.2 : ℚ) -
            ((history.map fun sample => sample.2).sum : ℤ) /
              history.length) ^ 2).sum := by
    simp only [sumSquares, sumY_samplePoints, zero_mul, add_zero]
  rw [variation]
  rfl

/--
For every history of two or more samples the denominator is zero exactly if all
times are the same; if it is not, the fitted line has the least sum of squares;
and the part of the variation that the line explains is between zero and one.
-/
theorem linearRegression_leastSquares
    {history : List CapacitySample} (enough : 2 ≤ history.length) :
    let fit := linearRegression history
    (fit.denominator = 0 ↔
        ∀ first ∈ history, ∀ second ∈ history, first.1 = second.1) ∧
      (fit.denominator ≠ 0 →
        ∀ slope intercept,
          sumSquares history fit.slope fit.intercept ≤
            sumSquares history slope intercept) ∧
      0 ≤ fit.rSquared ∧ fit.rSquared ≤ 1 := by
  intro fit
  have length : (samplePoints history).length = history.length :=
    List.length_map _
  have count : ((samplePoints history).length : ℚ) ≠ 0 := by
    rw [length, Nat.cast_ne_zero]
    omega
  have least :
      fit.denominator ≠ 0 →
        ∀ slope intercept,
          sumSquares history fit.slope fit.intercept ≤
            sumSquares history slope intercept := by
    intro regular slope intercept
    rw [sumSquares_eq, sumSquares_eq]
    exact (linearRegression_normal count regular).least slope intercept
  refine ⟨?_, least, ?_⟩
  · rw [denominator_eq, determinant_eq_zero_iff count]
    simp only [samplePoints, List.forall_mem_map]
  · have bounded :
        sumSquares history fit.slope fit.intercept ≤
          sumSquares history 0
            (sumY (samplePoints history) / history.length) := by
      by_cases singular : fit.denominator = 0
      · rcases linearRegression_level singular with ⟨slope, intercept⟩
        exact le_of_eq (congrArg₂ (sumSquares history) slope intercept)
      · exact least singular _ _
    have nonneg : 0 ≤ sumSquares history fit.slope fit.intercept := by
      rw [sumSquares_eq]
      exact squaredResiduals_nonneg _ _ _
    rw [rSquared_eq]
    simp only
    split
    · rename_i positive
      exact one_sub_div_bounds nonneg bounded positive
    · exact ⟨le_refl 0, zero_le_one⟩

/-- Three samples that are not on a line. -/
theorem linearRegression_threeSamples :
    let fit := linearRegression [(0, 1), (1, 3), (2, 4)]
    (fit.denominator = 0 ↔
        ∀ first ∈ ([(0, 1), (1, 3), (2, 4)] : List CapacitySample),
          ∀ second ∈ ([(0, 1), (1, 3), (2, 4)] : List CapacitySample),
            first.1 = second.1) ∧
      (fit.denominator ≠ 0 →
        ∀ slope intercept,
          sumSquares [(0, 1), (1, 3), (2, 4)] fit.slope fit.intercept ≤
            sumSquares [(0, 1), (1, 3), (2, 4)] slope intercept) ∧
      0 ≤ fit.rSquared ∧ fit.rSquared ≤ 1 :=
  linearRegression_leastSquares (by decide)

end Fit

end StorageAppliance.Analytics
