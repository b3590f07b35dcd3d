import Mathlib.Algebra.BigOperators.Ring.List
import Mathlib.Algebra.Order.BigOperators.Group.List
import Mathlib.Algebra.Order.Field.Basic
import Mathlib.Tactic.FieldSimp
import Mathlib.Tactic.LinearCombination
import Mathlib.Tactic.Linarith
import Mathlib.Tactic.Positivity
import Mathlib.Tactic.Ring

/-!
# Lines of least squares

Points of a plane over an ordered field, and the sum of the squares of their
vertical distances from a line.

The line that satisfies the two normal equations has the smallest such sum, since
that of another line is larger by a sum of squares
(`squaredResiduals_of_normal`).  The equations have one solution if the
determinant is not zero, and it is zero exactly if all points have the same
abscissa, by the identity that makes it a sum of squares too.
-/

namespace StorageAppliance.Library

universe u

variable
    {K : Type u}
    [Field K]

/-! ## Sums over points -/

section Sums

variable
    (points : List (K × K))

def sumX : K :=
  (points.map fun point => point.1).sum

def sumY : K :=
  (points.map fun point => point.2).sum

def sumXY : K :=
  (points.map fun point => point.1 * point.2).sum

def sumXX : K :=
  (points.map fun point => point.1 * point.1).sum

/-- The determinant of the normal equations. -/
def determinant : K :=
  points.length * sumXX points - sumX points * sumX points

/-- The squared vertical distances from a line, summed. -/
def squaredResiduals (slope intercept : K) : K :=
  (points.map fun point =>
    (point.2 - (intercept + slope * point.1)) ^ 2).sum

/-- The squares of a linear function of the abscissas, summed. -/
def squaredLine (slope intercept : K) : K :=
  (points.map fun point => (intercept + slope * point.1) ^ 2).sum

/-- The squares of a linear function by the sums of the abscissas. -/
theorem squaredLine_eq (slope intercept : K) :
    squaredLine points slope intercept =
      points.length * intercept ^ 2 +
        2 * intercept * slope * sumX points +
        slope ^ 2 * sumXX points := by
  rw [squaredLine, sumX, sumXX]
  induction points with
  | nil => simp
  | cons point rest induction =>
      simp only [List.map_cons, List.sum_cons, List.length_cons,
        Nat.cast_add, Nat.cast_one, induction]
      ring

end Sums

variable
    {points : List (K × K)}
    {slope intercept : K}

/-! ## The normal equations -/

/-- The residuals of a line sum to zero, also with the abscissas as weights. -/
structure Normal (points : List (K × K)) (slope intercept : K) : Prop where
  level : points.length * intercept + slope * sumX points = sumY points
  moment :
    intercept * sumX points + slope * sumXX points = sumXY points

/-- The residuals of two lines differ by a linear function. -/
theorem squaredResiduals_sub (other otherIntercept : K) :
    squaredResiduals points other otherIntercept =
      squaredResiduals points slope intercept +
        squaredLine points (other - slope) (otherIntercept - intercept) -
        2 * (otherIntercept - intercept) *
          (sumY points - points.length * intercept - slope * sumX points) -
        2 * (other - slope) *
          (sumXY points - intercept * sumX points -
            slope * sumXX points) := by
  rw [squaredResiduals, squaredResiduals, squaredLine, sumX, sumY, sumXY,
    sumXX]
  induction points with
  | nil => simp
  | cons point rest induction =>
      simp only [List.map_cons, List.sum_cons, List.length_cons,
        Nat.cast_add, Nat.cast_one, induction]
      ring

/-- Another line than the normal one is worse by a sum of squares. -/
theorem squaredResiduals_of_normal
    (normal : Normal points slope intercept) (other otherIntercept : K) :
    squaredResiduals points other otherIntercept =
      squaredResiduals points slope intercept +
        squaredLine points (other - slope) (otherIntercept - intercept) := by
  have difference :=
    @squaredResiduals_sub K _ points slope intercept other otherIntercept
  rw [← normal.level, ← normal.moment] at difference
  linear_combination difference

/-- The solution of the normal equations, where they have one. -/
theorem normal_of_determinant
    (count : (points.length : K) ≠ 0)
    (regular : determinant points ≠ 0)
    (slopeEq :
      slope =
        (points.length * sumXY points - sumX points * sumY points) /
          determinant points)
    (interceptEq :
      intercept = (sumY points - slope * sumX points) / points.length) :
    Normal points slope intercept := by
  have cleared :
      slope * determinant points =
        points.length * sumXY points - sumX points * sumY points := by
    rw [slopeEq, div_mul_cancel₀ _ regular]
  have level :
      points.length * intercept + slope * sumX points = sumY points := by
    rw [interceptEq, mul_div_cancel₀ _ count, sub_add_cancel]
  refine ⟨level, ?_⟩
  apply mul_left_cancel₀ count
  rw [determinant] at cleared
  linear_combination sumX points * level + cleared

/-! ## The determinant -/

/-- The determinant is the variation of the abscissas around their mean. -/
theorem determinant_eq (count : (points.length : K) ≠ 0) :
    determinant points =
      points.length *
        squaredLine points 1 (-(sumX points / points.length)) := by
  rw [squaredLine_eq, determinant]
  field_simp
  ring

/-! ## Order -/

section Order

variable
    [LinearOrder K]
    [IsStrictOrderedRing K]

theorem squaredResiduals_nonneg
    (points : List (K × K)) (slope intercept : K) :
    0 ≤ squaredResiduals points slope intercept := by
  apply List.sum_nonneg
  intro square member
  rcases List.mem_map.mp member with ⟨point, _, rfl⟩
  positivity

theorem squaredLine_nonneg
    (points : List (K × K)) (slope intercept : K) :
    0 ≤ squaredLine points slope intercept := by
  apply List.sum_nonneg
  intro square member
  rcases List.mem_map.mp member with ⟨point, _, rfl⟩
  positivity

/-- The normal line is one of least squares. -/
theorem Normal.least
    (normal : Normal points slope intercept) (other otherIntercept : K) :
    squaredResiduals points slope intercept ≤
      squaredResiduals points other otherIntercept := by
  rw [squaredResiduals_of_normal normal other otherIntercept]
  exact le_add_of_nonneg_right (squaredLine_nonneg points _ _)

/-- A linear function whose squares sum to zero is zero at all points. -/
theorem squaredLine_eq_zero_iff :
    squaredLine points slope intercept = 0 ↔
      ∀ point ∈ points, intercept + slope * point.1 = 0 := by
  induction points with
  | nil => simp [squaredLine]
  | cons point rest induction =>
      have split :
          squaredLine (point :: rest) slope intercept =
            (intercept + slope * point.1) ^ 2 +
              squaredLine rest slope intercept := by
        rw [squaredLine, List.map_cons, List.sum_cons]
        rfl
      rw [split, List.forall_mem_cons, ← induction,
        add_eq_zero_iff_of_nonneg (sq_nonneg _)
          (squaredLine_nonneg rest slope intercept),
        sq_eq_zero_iff]

/-- A line without residuals passes through all points. -/
theorem squaredResiduals_eq_zero_iff :
    squaredResiduals points slope intercept = 0 ↔
      ∀ point ∈ points, point.2 = intercept + slope * point.1 := by
  induction points with
  | nil => simp [squaredResiduals]
  | cons point rest induction =>
      have split :
          squaredResiduals (point :: rest) slope intercept =
            (point.2 - (intercept + slope * point.1)) ^ 2 +
              squaredResiduals rest slope intercept := by
        simp [squaredResiduals]
      rw [split,
        add_eq_zero_iff_of_nonneg (sq_nonneg _)
          (squaredResiduals_nonneg rest _ _),
        induction, sq_eq_zero_iff, sub_eq_zero, List.forall_mem_cons]

/-- Points of two abscissas that lie on a line have it as their normal line. -/
theorem Normal.eq_of_onLine
    {other otherIntercept : K}
    (normal : Normal points slope intercept)
    (onLine :
      ∀ point ∈ points, point.2 = otherIntercept + other * point.1)
    {first second : K × K}
    (firstMember : first ∈ points) (secondMember : second ∈ points)
    (distinct : first.1 ≠ second.1) :
    slope = other ∧ intercept = otherIntercept := by
  have fits := squaredResiduals_eq_zero_iff.mpr onLine
  have split := squaredResiduals_of_normal normal other otherIntercept
  have residual := squaredResiduals_nonneg points slope intercept
  have difference :=
    squaredLine_nonneg points (other - slope) (otherIntercept - intercept)
  have same :
      squaredLine points (other - slope) (otherIntercept - intercept) =
        0 := by
    linarith
  rw [squaredLine_eq_zero_iff] at same
  have one := same first firstMember
  have two := same second secondMember
  have parallel : (other - slope) * (first.1 - second.1) = 0 := by
    linear_combination one - two
  have slopes : other - slope = 0 :=
    (mul_eq_zero.mp parallel).resolve_right (sub_ne_zero.mpr distinct)
  rw [slopes, zero_mul, add_zero] at one
  exact ⟨(sub_eq_zero.mp slopes).symm, (sub_eq_zero.mp one).symm⟩

/-- The determinant is zero exactly if all abscissas are the same. -/
theorem determinant_eq_zero_iff (count : (points.length : K) ≠ 0) :
    determinant points = 0 ↔
      ∀ first ∈ points, ∀ second ∈ points, first.1 = second.1 := by
  rw [determinant_eq count, mul_eq_zero, or_iff_right count,
    squaredLine_eq_zero_iff]
  constructor
  · intro same first firstMember second secondMember
    have one := same first firstMember
    have two := same second secondMember
    linear_combination one - two
  · intro same point member
    have total : sumX points = points.length * point.1 := by
      rw [sumX]
      have constant :
          points.map (fun other => other.1) =
            List.replicate points.length point.1 := by
        apply List.eq_replicate_iff.mpr
        refine ⟨List.length_map _, ?_⟩
        intro abscissa listed
        rcases List.mem_map.mp listed with ⟨other, otherMember, rfl⟩
        exact same other otherMember point member
      rw [constant, List.sum_replicate, nsmul_eq_mul]
    rw [total, mul_div_cancel_left₀ _ count]
    ring

/-- The part of a variation that is not left is a fraction. -/
theorem one_sub_div_bounds {left whole : K}
    (nonneg : 0 ≤ left) (bound : left ≤ whole) (positive : 0 < whole) :
    0 ≤ 1 - left / whole ∧ 1 - left / whole ≤ 1 := by
  have fraction := (div_le_one positive).mpr bound
  have quotient := div_nonneg nonneg positive.le
  constructor
  · linarith
  · linarith

end Order

end StorageAppliance.Library
