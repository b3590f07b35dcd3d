import Mathlib

/-!
# Disjoint sets inside a whole

Finite sets that are pairwise disjoint and lie inside one set have no more
elements together than that set.  For integer intervals this bounds the sum of
their lengths.
-/

namespace StorageAppliance.Library

universe u

theorem sum_card_le_of_pairwise_disjoint
    {Element : Type u} [DecidableEq Element]
    {sets : List (Finset Element)} {whole : Finset Element}
    (disjoint : sets.Pairwise Disjoint)
    (inside : ∀ set ∈ sets, set ⊆ whole) :
    (sets.map Finset.card).sum ≤ whole.card := by
  induction sets generalizing whole with
  | nil => exact Nat.zero_le _
  | cons first rest induction =>
      rw [List.pairwise_cons] at disjoint
      have firstInside := inside first (by simp)
      have remaining :
          (rest.map Finset.card).sum ≤ (whole \ first).card := by
        apply induction disjoint.2
        intro set member
        rw [Finset.subset_sdiff]
        exact
          ⟨inside set (by simp [member]),
            (disjoint.1 set member).symm⟩
      have split := Finset.card_sdiff_add_card_eq_card firstInside
      rw [List.map_cons, List.sum_cons]
      omega

/-- The integers of an interval given by its start and its length. -/
noncomputable def extent (interval : ℤ × ℤ) : Finset ℤ :=
  Finset.Ico interval.1 (interval.1 + interval.2)

theorem mem_extent {interval : ℤ × ℤ} {point : ℤ} :
    point ∈ extent interval ↔
      interval.1 ≤ point ∧ point < interval.1 + interval.2 :=
  Finset.mem_Ico

theorem sum_card_extent
    {intervals : List (ℤ × ℤ)}
    (lengths : ∀ interval ∈ intervals, 0 ≤ interval.2) :
    (((intervals.map extent).map Finset.card).sum : ℤ) =
      (intervals.map Prod.snd).sum := by
  induction intervals with
  | nil => rfl
  | cons first rest induction =>
      have firstLength := lengths first (by simp)
      have restSum :=
        induction fun interval member => lengths interval (by simp [member])
      simp only [List.map_cons, List.sum_cons, extent, Int.card_Ico]
        at restSum ⊢
      rw [Nat.cast_add, restSum]
      omega

/-- Disjoint intervals between zero and a bound have at most that length. -/
theorem sum_lengths_le_of_pairwise_disjoint
    {intervals : List (ℤ × ℤ)} {bound : ℤ}
    (nonneg : 0 ≤ bound)
    (lengths : ∀ interval ∈ intervals, 0 ≤ interval.2)
    (disjoint :
      intervals.Pairwise fun left right =>
        Disjoint (extent left) (extent right))
    (inside :
      ∀ interval ∈ intervals,
        0 ≤ interval.1 ∧ interval.1 + interval.2 ≤ bound) :
    (intervals.map Prod.snd).sum ≤ bound := by
  have within :
      ∀ set ∈ intervals.map extent, set ⊆ Finset.Ico 0 bound := by
    intro set member
    rcases List.mem_map.mp member with ⟨interval, listed, rfl⟩
    have bounds := inside interval listed
    exact Finset.Ico_subset_Ico bounds.1 bounds.2
  have counted :=
    sum_card_le_of_pairwise_disjoint (List.pairwise_map.mpr disjoint) within
  rw [Int.card_Ico] at counted
  rw [← sum_card_extent lengths]
  omega

end StorageAppliance.Library
