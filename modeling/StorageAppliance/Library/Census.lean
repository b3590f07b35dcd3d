import Mathlib.Algebra.BigOperators.Ring.Finset
import Mathlib.Algebra.Order.Group.Int
import Mathlib.Data.Fintype.BigOperators
import Mathlib.Tactic.Abel

/-!
# Counters of the members of each class

Every member of a finite family belongs to a class.  A census counts the members
of each class, and counters that a program keeps by hand should equal it.

`drift` is by how much the counters exceed the census.  A program that moves a
member to another class adds one to the counter of the new class and takes one
from the counter of the class that it expects the member to come from.  The
drift then changes by the difference of the actual and the expected class, so
the counters stay exact when the two agree.
-/

namespace StorageAppliance.Library

universe u v

variable
    {Member : Type u}
    {Class : Type v}
    [Fintype Member]

/-- A sum over a family in which one member changes. -/
theorem sum_update
    {Amount : Type*} [AddCommMonoid Amount] [DecidableEq Member]
    (weight : Class → Amount) (family : Member → Class)
    (member : Member) (value : Class) :
    ∑ other, weight (Function.update family member value other) +
        weight (family member) =
      ∑ other, weight (family other) + weight value := by
  have present : member ∈ Finset.univ := Finset.mem_univ member
  have others :
      ∑ other ∈ Finset.univ.erase member,
          weight (Function.update family member value other) =
        ∑ other ∈ Finset.univ.erase member, weight (family other) := by
    apply Finset.sum_congr rfl
    intro other remaining
    rw [Function.update_of_ne (Finset.ne_of_mem_erase remaining)]
  rw [← Finset.add_sum_erase _ _ present, others, Function.update_self,
    ← Finset.add_sum_erase Finset.univ (fun other => weight (family other))
      present]
  abel

variable [DecidableEq Class]

/-- The members of a class, counted. -/
def census (classify : Member → Class) (kind : Class) : ℤ :=
  ((Finset.univ.filter fun member => classify member = kind).card : ℤ)

theorem census_eq_sum (classify : Member → Class) (kind : Class) :
    census classify kind =
      ∑ member, if classify member = kind then 1 else 0 := by
  rw [census, Finset.card_filter]
  exact Nat.cast_sum _ _ |>.trans
    (Finset.sum_congr rfl fun _ _ => by split <;> rfl)

theorem census_eq_zero
    {classify : Member → Class} {kind : Class}
    (absent : ∀ member, classify member ≠ kind) :
    census classify kind = 0 := by
  rw [census, Finset.filter_eq_empty_iff.mpr fun member _ => absent member]
  rfl

/-- The classes together count every member. -/
theorem sum_census [Fintype Class] (classify : Member → Class) :
    ∑ kind, census classify kind = Fintype.card Member := by
  have fibers :=
    Finset.card_eq_sum_card_fiberwise
      (fun (member : Member) (_ : member ∈ Finset.univ) =>
        Finset.mem_coe.mpr (Finset.mem_univ (classify member)))
  rw [Finset.card_univ] at fibers
  rw [fibers]
  exact (Nat.cast_sum _ _).symm

variable [DecidableEq Member]

/-- One member changes its class. -/
theorem census_update
    (classify : Member → Class) (member : Member) (target : Class) :
    census (Function.update classify member target) =
      census classify + Pi.single target 1 -
        Pi.single (classify member) 1 := by
  ext kind
  have changed :=
    sum_update (fun current => if current = kind then (1 : ℤ) else 0)
      classify member target
  simp only [Pi.add_apply, Pi.sub_apply, census_eq_sum, Pi.single_apply]
  simp only [eq_comm (a := kind)]
  exact eq_sub_of_add_eq changed

/-! ## Counters -/

/-- By how much the counters exceed the census. -/
def drift (counters : Class → ℤ) (classify : Member → Class) :
    Class → ℤ :=
  counters - census classify

omit [DecidableEq Member] in
theorem drift_eq_zero_iff
    {counters : Class → ℤ} {classify : Member → Class} {kind : Class} :
    drift counters classify kind = 0 ↔
      counters kind = census classify kind :=
  sub_eq_zero

/-- A move that is expected from one class and comes from another. -/
theorem drift_transition
    (counters : Class → ℤ) (classify : Member → Class)
    (member : Member) (expected target : Class) :
    drift (counters + Pi.single target 1 - Pi.single expected 1)
        (Function.update classify member target) =
      drift counters classify + Pi.single (classify member) 1 -
        Pi.single expected 1 := by
  rw [drift, drift, census_update]
  abel

/-- A move out of a class whose counter is left alone. -/
theorem drift_arrival
    (counters : Class → ℤ) (classify : Member → Class)
    (member : Member) (target : Class) :
    drift (counters + Pi.single target 1)
        (Function.update classify member target) =
      drift counters classify + Pi.single (classify member) 1 := by
  rw [drift, drift, census_update]
  abel

end StorageAppliance.Library
