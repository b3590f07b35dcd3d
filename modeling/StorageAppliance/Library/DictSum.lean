import Mathlib.Algebra.BigOperators.Group.List.Basic
import Mathlib.Algebra.BigOperators.Pi
import Mathlib.Algebra.Order.BigOperators.Group.List
import Mathlib.Tactic.Abel
import StorageAppliance.Library.Dict

/-!
# Sums over the values of a dictionary

A running total that is to equal the sum of a weight over the values of a
dictionary changes with each write by the weight of the new value less that of
the old one.  The equations below say so for every operation on a dictionary.

`Tallies` is such a total that is not negative.  After an operation there is one
total that can tally, so a program that keeps a total tallies exactly if it
computes that one.
-/

namespace StorageAppliance.Library

universe u v w

namespace Dict

variable
    {Key : Type u}
    {Value : Type v}
    {Weight : Type w}

/-- The sum of a weight over the values. -/
def sumBy [AddCommGroup Weight] (dict : Dict Key Value)
    (weight : Value → Weight) : Weight :=
  (dict.values.map weight).sum

/-- The number of values is the sum of ones. -/
theorem sumBy_one (dict : Dict Key Value) :
    dict.sumBy (fun _ => (1 : ℤ)) = dict.values.length := by
  simp [sumBy]

/-- Sums of several weights are taken one by one. -/
theorem sumBy_apply
    {Index : Type*} [AddCommGroup Weight]
    (dict : Dict Key Value) (weight : Value → Index → Weight)
    (index : Index) :
    dict.sumBy weight index = dict.sumBy fun value => weight value index := by
  rw [sumBy, Pi.list_sum_apply, List.map_map]
  rfl

/-- The total is the sum of the weight over the values, and not negative. -/
structure Tallies [AddCommGroup Weight] [LE Weight]
    (dict : Dict Key Value) (weight : Value → Weight) (total : Weight) :
    Prop where
  sum : total = dict.sumBy weight
  nonneg : 0 ≤ total

theorem tallies_iff
    [AddCommGroup Weight] [LE Weight]
    {dict : Dict Key Value} {weight : Value → Weight} {total : Weight} :
    Tallies dict weight total ↔
      total = dict.sumBy weight ∧ 0 ≤ total := by
  constructor
  · intro tallies
    exact ⟨tallies.sum, tallies.nonneg⟩
  · rintro ⟨sum, nonneg⟩
    exact ⟨sum, nonneg⟩

variable [DecidableEq Key]

section Equations

variable [AddCommGroup Weight]

theorem sumBy_of_get?
    {dict : Dict Key Value} {key : Key} {value : Value}
    (found : dict.get? key = some value) (weight : Value → Weight) :
    dict.sumBy weight = weight value + (dict.erase key).sumBy weight := by
  rw [sumBy, ((values_perm_erase found).map weight).sum_eq,
    List.map_cons, List.sum_cons, sumBy]

theorem sumBy_erase
    {dict : Dict Key Value} {key : Key} {value : Value}
    (found : dict.get? key = some value) (weight : Value → Weight) :
    (dict.erase key).sumBy weight = dict.sumBy weight - weight value := by
  rw [sumBy_of_get? found]
  abel

theorem sumBy_set
    {dict : Dict Key Value} {key : Key} {old : Value}
    (found : dict.get? key = some old) (value : Value)
    (weight : Value → Weight) :
    (dict.set key value).sumBy weight =
      dict.sumBy weight - weight old + weight value := by
  rw [sumBy_of_get? found, sumBy,
    ((values_set_perm dict key value).map weight).sum_eq,
    List.map_cons, List.sum_cons, sumBy]
  abel

theorem sumBy_set_of_absent
    {dict : Dict Key Value} {key : Key} (value : Value)
    (absent : dict.get? key = none) (weight : Value → Weight) :
    (dict.set key value).sumBy weight =
      dict.sumBy weight + weight value := by
  rw [sumBy, ((values_set_perm_of_absent value absent).map weight).sum_eq,
    List.map_cons, List.sum_cons, sumBy]
  abel

/-- A value of the same weight leaves the sum as it is. -/
theorem sumBy_set_of_eq
    {dict : Dict Key Value} {key : Key} {old value : Value}
    (found : dict.get? key = some old) (weight : Value → Weight)
    (same : weight value = weight old) :
    (dict.set key value).sumBy weight = dict.sumBy weight := by
  rw [sumBy_set found, same]
  abel

end Equations

/-- A sum of weights that are not negative is not negative. -/
theorem sumBy_nonneg
    [AddCommGroup Weight] [PartialOrder Weight] [IsOrderedAddMonoid Weight]
    {dict : Dict Key Value} {weight : Value → Weight}
    (nonneg : ∀ key value, dict.get? key = some value → 0 ≤ weight value) :
    0 ≤ dict.sumBy weight := by
  apply List.sum_nonneg
  intro number member
  rcases List.mem_map.mp member with ⟨value, valueMember, rfl⟩
  rcases mem_values_iff.mp valueMember with ⟨key, found⟩
  exact nonneg key value found

/-! ## Running totals after an operation -/

section Tallies

variable
    [AddCommGroup Weight]
    [LE Weight]
    {dict : Dict Key Value}
    {weight : Value → Weight}
    {total : Weight}
    {key : Key}

/-- Which total tallies when a value takes the place of another. -/
theorem Tallies.set_iff
    (tallies : Tallies dict weight total) {old : Value}
    (found : dict.get? key = some old) (value : Value) (next : Weight) :
    Tallies (dict.set key value) weight next ↔
      next = total - weight old + weight value ∧ 0 ≤ next := by
  rw [tallies.sum, ← sumBy_set found]
  exact tallies_iff

/-- Which total tallies when a value is added. -/
theorem Tallies.set_absent_iff
    (tallies : Tallies dict weight total)
    (absent : dict.get? key = none) (value : Value) (next : Weight) :
    Tallies (dict.set key value) weight next ↔
      next = total + weight value ∧ 0 ≤ next := by
  rw [tallies.sum, ← sumBy_set_of_absent value absent]
  exact tallies_iff

/-- Which total tallies when a value is removed. -/
theorem Tallies.erase_iff
    (tallies : Tallies dict weight total) {old : Value}
    (found : dict.get? key = some old) (next : Weight) :
    Tallies (dict.erase key) weight next ↔
      next = total - weight old ∧ 0 ≤ next := by
  rw [tallies.sum, ← sumBy_erase found]
  exact tallies_iff

end Tallies

end Dict

end StorageAppliance.Library
