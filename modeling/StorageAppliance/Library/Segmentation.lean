import Mathlib.Data.List.Basic

/-!
# Cutting a list into segments

A cutter says how long the first segment of a list is, from the list alone.
Cutting again and again what is left gives segments that join to the list.

Since a segment depends on nothing that stands before it, the segments from a
boundary on are those of the list from there on.  A cutter is local if what
follows a segment does not matter, as long as something does: then appending to
a list leaves all its segments but the last.
-/

namespace StorageAppliance.Library

universe u

variable {Item : Type u}

/-- How long the first segment of a list is. -/
structure Cutter (Item : Type u) where
  cut : List Item → Nat
  positive : ∀ list, list ≠ [] → 0 < cut list
  within : ∀ list, cut list ≤ list.length

namespace Cutter

variable
    (cutter : Cutter Item)
    {list rest : List Item}

theorem length_drop_lt (present : list ≠ []) :
    (list.drop (cutter.cut list)).length < list.length := by
  have some := List.length_pos_iff.mpr present
  have progress := cutter.positive list present
  rw [List.length_drop]
  exact Nat.sub_lt some progress

/-- The segments of a list. -/
def segments (list : List Item) : List (List Item) :=
  if _ : list ≠ [] then
    list.take (cutter.cut list) ::
      segments (list.drop (cutter.cut list))
  else
    []
termination_by list.length
decreasing_by exact cutter.length_drop_lt ‹_›

@[simp]
theorem segments_nil : cutter.segments [] = [] := by
  rw [segments, dif_neg (not_not.mpr rfl)]

theorem segments_of_ne_nil (present : list ≠ []) :
    cutter.segments list =
      list.take (cutter.cut list) ::
        cutter.segments (list.drop (cutter.cut list)) := by
  rw [segments, dif_pos present]

theorem segments_ne_nil (present : list ≠ []) :
    cutter.segments list ≠ [] := by
  rw [cutter.segments_of_ne_nil present]
  exact List.cons_ne_nil _ _

/-- The segments of a list join to the list. -/
theorem flatten_segments (list : List Item) :
    (cutter.segments list).flatten = list := by
  fun_induction segments cutter list with
  | case1 list present induction =>
      rw [List.flatten_cons, induction, List.take_append_drop]
  | case2 list absent => rw [List.flatten_nil, not_not.mp absent]

/-- No segment is empty. -/
theorem ne_nil_of_mem_segments
    {segment : List Item} (member : segment ∈ cutter.segments list) :
    segment ≠ [] := by
  fun_induction segments cutter list with
  | case1 list present induction =>
      rcases List.mem_cons.mp member with rfl | later
      · have progress := cutter.positive list present
        have within := cutter.within list
        apply List.length_pos_iff.mp
        rw [List.length_take_of_le within]
        exact progress
      · exact induction later
  | case2 list absent => cases member

/-- What holds of the first segment of every list holds of all segments. -/
theorem forall_mem_segments
    {property : List Item → Prop}
    (first :
      ∀ list, list ≠ [] → property (list.take (cutter.cut list)))
    (list : List Item) :
    ∀ segment ∈ cutter.segments list, property segment := by
  fun_induction segments cutter list with
  | case1 list present induction =>
      intro segment member
      rcases List.mem_cons.mp member with rfl | later
      · exact first list present
      · exact induction segment later
  | case2 list absent =>
      intro segment member
      cases member

/-- The last segment is the one that reaches the end of the list. -/
theorem dropLast_segments
    (present : list ≠ []) :
    (cutter.segments list).dropLast =
      if cutter.cut list < list.length then
        list.take (cutter.cut list) ::
          (cutter.segments (list.drop (cutter.cut list))).dropLast
      else
        [] := by
  rw [cutter.segments_of_ne_nil present]
  split
  · rename_i further
    have left : list.drop (cutter.cut list) ≠ [] := by
      intro empty
      rw [List.drop_eq_nil_iff] at empty
      exact absurd further (Nat.not_lt.mpr empty)
    exact List.dropLast_cons_of_ne_nil (cutter.segments_ne_nil left)
  · rename_i whole
    rw [List.drop_of_length_le (Nat.not_lt.mp whole), segments_nil]
    rfl

/-- So with all but the last, and the first segments that are followed. -/
theorem forall_mem_dropLast_segments
    {property : List Item → Prop}
    (first :
      ∀ list,
        cutter.cut list < list.length →
          property (list.take (cutter.cut list)))
    (list : List Item) :
    ∀ segment ∈ (cutter.segments list).dropLast, property segment := by
  induction size : list.length using Nat.strongRecOn
    generalizing list with
  | ind length induction =>
      intro segment member
      by_cases present : list = []
      · rw [present, segments_nil] at member
        cases member
      · rw [cutter.dropLast_segments present] at member
        split at member
        · rename_i further
          rcases List.mem_cons.mp member with rfl | later
          · exact first list further
          · have shorter := cutter.length_drop_lt present
            rw [size] at shorter
            exact induction _ shorter _ rfl segment later
        · cases member

/-! ## From a boundary on -/

/-- The segments from a boundary on are those of the rest of the list. -/
theorem segments_drop (list : List Item) (count : Nat) :
    cutter.segments
        (list.drop ((cutter.segments list).take count).flatten.length) =
      (cutter.segments list).drop count := by
  induction count generalizing list with
  | zero => rw [List.take_zero, List.flatten_nil, List.length_nil,
      List.drop_zero, List.drop_zero]
  | succ count induction =>
      by_cases present : list = []
      · rw [present, segments_nil, List.take_nil, List.flatten_nil,
          List.drop_nil, segments_nil, List.drop_nil]
      · rw [cutter.segments_of_ne_nil present, List.take_succ_cons,
          List.flatten_cons, List.length_append,
          List.length_take_of_le (cutter.within list),
          ← List.drop_drop, induction, List.drop_succ_cons]

/-! ## Appending -/

/-- What follows a segment does not matter, as long as something does. -/
def Local : Prop :=
  ∀ list rest,
    cutter.cut list < list.length →
      cutter.cut (list ++ rest) = cutter.cut list

/-- Appending to a list leaves all its segments but the last. -/
theorem dropLast_segments_prefix
    (isLocal : cutter.Local) (list rest : List Item) :
    (cutter.segments list).dropLast <+: cutter.segments (list ++ rest) := by
  induction size : list.length using Nat.strongRecOn
    generalizing list with
  | ind length induction =>
      by_cases present : list = []
      · rw [present, segments_nil]
        exact List.nil_prefix
      · rw [cutter.dropLast_segments present]
        split
        · rename_i further
          have same := isLocal list rest further
          have within := Nat.le_of_lt further
          rw [cutter.segments_of_ne_nil
              (List.append_ne_nil_of_left_ne_nil present rest),
            same, List.take_append_of_le_length within,
            List.drop_append_of_le_length within]
          apply List.cons_prefix_cons.mpr
          refine ⟨rfl, ?_⟩
          have shorter := cutter.length_drop_lt present
          rw [size] at shorter
          exact induction _ shorter _ rfl
        · exact List.nil_prefix

end Cutter

end StorageAppliance.Library
