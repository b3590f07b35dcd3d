import Mathlib.Data.Set.Basic

/-!
# Maximal runs of places

A set of places falls into maximal runs: places that follow each other without a
gap, with no place of the set before the first or after the last.

A scan that visits all places in order knows the runs that have ended, and at
most one that has not: the run that is pending at a place reaches up to it.  The
lemmas say which run is pending after one more place, and that a pending run is
maximal exactly where it ends.
-/

namespace StorageAppliance.Library

/-- A number of successive places of a set that cannot be extended. -/
structure MaximalRun (places : Set Nat) (start length : Nat) : Prop where
  positive : 0 < length
  held : ∀ place, start ≤ place → place < start + length → place ∈ places
  before : ∀ place, place + 1 = start → place ∉ places
  after : start + length ∉ places

/-- A run that reaches up to a place, which is not looked at. -/
structure PendingRun (places : Set Nat) (stop start : Nat) : Prop where
  started : start < stop
  held : ∀ place, start ≤ place → place < stop → place ∈ places
  before : ∀ place, place + 1 = start → place ∉ places

section Runs

variable
    {places : Set Nat}
    {start length stop other : Nat}

/-- Before a place that is not in the set, the pending run is maximal. -/
theorem maximalRun_iff_pendingRun (ends : stop ∉ places) :
    MaximalRun places start length ∧ start + length = stop ↔
      PendingRun places stop start ∧ length = stop - start := by
  constructor
  · rintro ⟨run, rfl⟩
    have positive := run.positive
    exact ⟨⟨by omega, run.held, run.before⟩, by omega⟩
  · rintro ⟨run, rfl⟩
    have started := run.started
    have whole : start + (stop - start) = stop := by
      omega
    refine ⟨⟨by omega, ?_, run.before, ?_⟩, whole⟩
    · rw [whole]
      exact run.held
    · rw [whole]
      exact ends

/-- No maximal run ends before a place of the set. -/
theorem MaximalRun.end_ne
    (run : MaximalRun places start length) (member : stop ∈ places) :
    start + length ≠ stop := by
  rintro rfl
  exact run.after member

/-- A place of the set is in a run. -/
theorem exists_pendingRun {place : Nat} (member : place ∈ places) :
    ∃ start, PendingRun places (place + 1) start := by
  induction place with
  | zero =>
      refine ⟨0, ⟨Nat.one_pos, ?_, fun place none => nomatch none⟩⟩
      intro place _ below
      rw [Nat.lt_one_iff.mp below]
      exact member
  | succ place induction =>
      by_cases previous : place ∈ places
      · rcases induction previous with ⟨start, run⟩
        refine ⟨start, ⟨by have := run.started; omega, ?_, run.before⟩⟩
        intro later above below
        by_cases last : later = place + 1
        · rw [last]
          exact member
        · exact run.held later above (by omega)
      · refine ⟨place + 1, ⟨Nat.lt_succ_self _, ?_, ?_⟩⟩
        · intro later above below
          rw [Nat.le_antisymm (Nat.le_of_lt_succ below) above]
          exact member
        · intro earlier same
          rw [Nat.succ.inj same]
          exact previous

/-- A run that is pending at a place is pending after it, if it is in the set. -/
theorem PendingRun.extend
    (run : PendingRun places stop start) (member : stop ∈ places) :
    PendingRun places (stop + 1) start := by
  refine ⟨run.started.trans (Nat.lt_succ_self stop), ?_, run.before⟩
  intro place above below
  by_cases last : place = stop
  · rw [last]
    exact member
  · exact run.held place above (by omega)

/-- If none was pending, the place starts a run. -/
theorem pendingRun_start
    (none : ∀ other, ¬ PendingRun places stop other)
    (member : stop ∈ places) : PendingRun places (stop + 1) stop := by
  refine ⟨Nat.lt_succ_self stop, ?_, ?_⟩
  · intro place above below
    rw [Nat.le_antisymm (Nat.le_of_lt_succ below) above]
    exact member
  · rintro place rfl previous
    rcases exists_pendingRun previous with ⟨start, run⟩
    exact none start run

/-- Only one run is pending at a place. -/
theorem PendingRun.unique
    (run : PendingRun places stop start)
    (second : PendingRun places stop other) : start = other := by
  have started := run.started
  have secondStarted := second.started
  rcases Nat.lt_trichotomy start other with less | same | more
  · exact
      absurd (run.held (other - 1) (by omega) (by omega))
        (second.before _ (by omega))
  · exact same
  · exact
      absurd (second.held (start - 1) (by omega) (by omega))
        (run.before _ (by omega))

theorem not_pendingRun_zero : ¬ PendingRun places 0 start :=
  fun run => absurd run.started (Nat.not_lt_zero _)

/-- No run is pending after a place that is not in the set. -/
theorem not_pendingRun_succ (ends : stop ∉ places) :
    ¬ PendingRun places (stop + 1) start := by
  intro run
  exact
    ends (run.held stop (Nat.le_of_lt_succ run.started) (Nat.lt_succ_self _))

/-- A run that has ended lies before the pending one. -/
theorem MaximalRun.before_pendingRun
    (run : MaximalRun places start length)
    (pending : PendingRun places stop other)
    (ended : start + length < stop) : start + length < other := by
  by_contra overlaps
  exact run.after (pending.held _ (Nat.le_of_not_lt overlaps) ended)

end Runs

end StorageAppliance.Library
