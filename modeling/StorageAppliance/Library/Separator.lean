import Mathlib.Data.List.Basic

/-!
# Lists joined with a separator

Two lists that are joined with a separator can be told apart if neither of them
contains it, and otherwise there is another way to split the whole.
-/

namespace StorageAppliance.Library

universe u

variable
    {Item : Type u}
    {separator : Item}
    {first second firstRest secondRest : List Item}

/-- What precedes a separator is determined if it does not contain it. -/
theorem append_cons_inj
    (firstFree : separator ∉ first) (secondFree : separator ∉ second)
    (same :
      first ++ separator :: firstRest =
        second ++ separator :: secondRest) :
    first = second ∧ firstRest = secondRest := by
  induction first generalizing second with
  | nil =>
      cases second with
      | nil => exact ⟨rfl, (List.cons.inj same).2⟩
      | cons head tail =>
          exact absurd (List.cons.inj same).1 fun equal =>
            secondFree (by simp [equal])
  | cons head tail induction =>
      cases second with
      | nil =>
          exact absurd (List.cons.inj same).1 fun equal =>
            firstFree (by simp [equal])
      | cons other rest =>
          rcases List.cons.inj same with ⟨rfl, tails⟩
          rcases
            induction (fun member => firstFree (by simp [member]))
              (fun member => secondFree (by simp [member])) tails with
            ⟨rfl, rests⟩
          exact ⟨rfl, rests⟩

/-- A list with one separator is split in one way only. -/
theorem append_cons_inj_of_free
    [DecidableEq Item]
    (firstFree : separator ∉ first) (restFree : separator ∉ firstRest)
    (same :
      first ++ separator :: firstRest =
        second ++ separator :: secondRest) :
    first = second ∧ firstRest = secondRest := by
  apply append_cons_inj firstFree _ same
  have counts := congrArg (List.count separator) same
  rw [List.count_append, List.count_append, List.count_cons_self,
    List.count_cons_self, List.count_eq_zero.mpr firstFree,
    List.count_eq_zero.mpr restFree] at counts
  apply List.count_eq_zero.mp
  omega

/-- A list with more separators is split in another way too. -/
theorem exists_other_split
    (contains : separator ∈ first ∨ separator ∈ firstRest) :
    ∃ other otherRest,
      other ≠ first ∧
        other ++ separator :: otherRest =
          first ++ separator :: firstRest := by
  rcases contains with inside | inside
  · rcases List.append_of_mem inside with ⟨start, rest, split⟩
    refine ⟨start, rest ++ separator :: firstRest, ?_, ?_⟩
    · intro same
      have lengths := congrArg List.length split
      rw [same, List.length_append, List.length_cons] at lengths
      omega
    · rw [split, List.append_assoc, List.cons_append]
  · rcases List.append_of_mem inside with ⟨start, rest, split⟩
    refine ⟨first ++ separator :: start, rest, ?_, ?_⟩
    · intro same
      have lengths := congrArg List.length same
      rw [List.length_append, List.length_cons] at lengths
      omega
    · rw [split, List.append_assoc, List.cons_append]

end StorageAppliance.Library
