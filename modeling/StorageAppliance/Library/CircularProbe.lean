import Mathlib.Data.List.Basic
import Mathlib.Data.Nat.ModEq

/-!
# Circular probing

A probe looks for a free place among `size` places in a circle.  It starts at
a place and goes on to the next one while the place is taken, for a bounded
number of moves.

`firstFrom` says what the probe is for: the first free place, going round once.
With as many moves as there are places the probe finds it, and it comes back to
where it started if no place is free.
-/

namespace StorageAppliance.Library

/-- Move on while the place is taken and moves are left. -/
def probe (taken : Nat → Bool) (size : Nat) : Nat → Nat → Nat
  | 0, place => place
  | moves + 1, place =>
      if taken place then
        probe taken size moves ((place + 1) % size)
      else
        place

/-- The places from a start, going round once. -/
def around (size start : Nat) : List Nat :=
  (List.range size).map fun offset => (start + offset) % size

/-- The first place from a start that is free. -/
def firstFrom (taken : Nat → Bool) (size start : Nat) : Option Nat :=
  (around size start).find? fun place => !taken place

section Probe

variable
    {taken : Nat → Bool}
    {size start : Nat}

/-- A place is met on the way round exactly if it is one of the places. -/
theorem mem_around_iff (inside : start < size) {place : Nat} :
    place ∈ around size start ↔ place < size := by
  rw [around, List.mem_map]
  constructor
  · rintro ⟨offset, _, rfl⟩
    exact Nat.mod_lt _ (Nat.zero_lt_of_lt inside)
  · intro within
    refine ⟨(place + size - start) % size, ?_, ?_⟩
    · exact List.mem_range.mpr (Nat.mod_lt _ (Nat.zero_lt_of_lt inside))
    · rw [Nat.add_mod_mod, show start + (place + size - start) =
        place + size by omega, Nat.add_mod_right, Nat.mod_eq_of_lt within]

theorem firstFrom_eq_some
    (inside : start < size) {place : Nat}
    (found : firstFrom taken size start = some place) :
    place < size ∧ taken place = false := by
  constructor
  · exact (mem_around_iff inside).mp (List.mem_of_find?_eq_some found)
  · simpa using List.find?_some found

theorem firstFrom_eq_none_iff (inside : start < size) :
    firstFrom taken size start = none ↔
      ∀ place < size, taken place = true := by
  rw [firstFrom, List.find?_eq_none]
  constructor
  · intro full place within
    simpa using full place ((mem_around_iff inside).mpr within)
  · intro full place member
    simpa using full place ((mem_around_iff inside).mp member)

/-- A probe with few moves finds the first free place among those it meets. -/
theorem probe_eq_find?
    (inside : start < size) (moves : Nat) :
    probe taken size moves start =
      (((List.range moves).map fun offset =>
          (start + offset) % size).find? fun place =>
            !taken place).getD ((start + moves) % size) := by
  induction moves generalizing start with
  | zero =>
      change start = (start + 0) % size
      rw [Nat.add_zero, Nat.mod_eq_of_lt inside]
  | succ moves induction =>
      have next : (start + 1) % size < size :=
        Nat.mod_lt _ (Nat.zero_lt_of_lt inside)
      have shift :
          ∀ offset,
            ((start + 1) % size + offset) % size =
              (start + (offset + 1)) % size := by
        intro offset
        rw [Nat.mod_add_mod]
        congr 1
        omega
      have here : (start + 0) % size = start := Nat.mod_eq_of_lt inside
      rw [List.range_succ_eq_map, List.map_cons, List.map_map, probe, here]
      cases occupied : taken start with
      | false => simp [occupied]
      | true =>
          rw [if_pos rfl, induction next, shift, List.find?_cons_of_neg
            (by simp [occupied])]
          congr 2
          apply List.map_congr_left
          intro offset _
          exact shift offset

/-- With a move for each place the probe finds the first free one. -/
theorem probe_eq_firstFrom (inside : start < size) :
    probe taken size size start =
      (firstFrom taken size start).getD start := by
  rw [probe_eq_find? inside, Nat.add_mod_right, Nat.mod_eq_of_lt inside]
  rfl

end Probe

end StorageAppliance.Library
