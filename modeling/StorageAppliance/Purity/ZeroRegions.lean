import StorageAppliance.Library.MaximalRuns
import StorageAppliance.Python

/-!
# Zero regions

`PatternRemoval.find_zero_regions` (`purity/pattern_removal.py`) scans data once
and yields the regions of zeros that are long enough.  It keeps the start of the
region that it is in, and looks at this region once more after the end of the
data.

The regions are the maximal runs of the places of zeros.  While it scans, the
function has yielded those that have ended, and keeps the start of the pending
one (`Scanned`).
-/

namespace StorageAppliance.Purity

open StorageAppliance.Python
open StorageAppliance.Library

/-! ## The scan -/

/-- The start of the region that the scan is in, and the yielded regions. -/
structure ZeroScan where
  start : Option Nat := none
  yielded : List (Nat × Nat) := []
deriving DecidableEq

namespace ZeroScan

/-- A region that ends is yielded if it is long enough. -/
def close (scan : ZeroScan) (minRegionSize : ℤ) (stop : Nat) : ZeroScan :=
  match scan.start with
  | none => scan
  | some start =>
      let length := stop - start
      { start := none
        yielded :=
          if minRegionSize ≤ length then
            scan.yielded ++ [(start, length)]
          else
            scan.yielded }

/-- One round of the loop. -/
def round (scan : ZeroScan) (minRegionSize : ℤ) (i : Nat) (byte : UInt8) :
    ZeroScan :=
  if byte = 0 then
    match scan.start with
    | none => { scan with start := some i }
    | some _ => scan
  else
    scan.close minRegionSize i

/-- The rounds for the bytes from a place on. -/
def rounds (minRegionSize : ℤ) : ZeroScan → Nat → Bytes → ZeroScan
  | scan, _, [] => scan
  | scan, i, byte :: rest =>
      rounds minRegionSize (scan.round minRegionSize i byte) (i + 1) rest

end ZeroScan

/-- Find contiguous zero regions in data. -/
def findZeroRegions (data : Bytes) (minRegionSize : ℤ) : List (Nat × Nat) :=
  ((ZeroScan.rounds minRegionSize {} 0 data).close minRegionSize
    data.length).yielded

/-! ## Regions -/

/-- The places of the zeros. -/
def zeroPlaces (data : Bytes) : Set Nat :=
  { place | data[place]? = some 0 }

/-- A maximal run of zeros that is long enough. -/
structure ZeroRegion
    (data : Bytes) (minRegionSize : ℤ) (region : Nat × Nat) : Prop where
  maximal : MaximalRun (zeroPlaces data) region.1 region.2
  long : minRegionSize ≤ region.2

/-- What a scan knows before a place. -/
structure Scanned
    (data : Bytes) (minRegionSize : ℤ) (stop : Nat) (scan : ZeroScan) :
    Prop where
  pending :
    ∀ start,
      scan.start = some start ↔ PendingRun (zeroPlaces data) stop start
  yielded :
    ∀ region,
      region ∈ scan.yielded ↔
        ZeroRegion data minRegionSize region ∧ region.1 + region.2 < stop
  increasing :
    scan.yielded.Pairwise fun first second => first.1 < second.1

section Scan

variable
    {data : Bytes}
    {minRegionSize : ℤ}
    {stop : Nat}
    {scan : ZeroScan}

theorem scanned_start (data : Bytes) (minRegionSize : ℤ) :
    Scanned data minRegionSize 0 {} where
  pending := by
    intro start
    exact iff_of_false (fun none => nomatch none) not_pendingRun_zero
  yielded := by
    intro region
    apply iff_of_false
    · exact List.not_mem_nil
    · exact fun found => absurd found.2 (Nat.not_lt_zero _)
  increasing := List.Pairwise.nil

/-- A scan that keeps no start has no region pending. -/
theorem Scanned.not_pending
    (scanned : Scanned data minRegionSize stop scan)
    (started : scan.start = none) (other : Nat) :
    ¬ PendingRun (zeroPlaces data) stop other := by
  intro run
  have known := (scanned.pending other).mpr run
  rw [started] at known
  cases known

/-- A zero starts a region or is in the pending one. -/
theorem Scanned.zero
    (scanned : Scanned data minRegionSize stop scan)
    (member : stop ∈ zeroPlaces data) :
    Scanned data minRegionSize (stop + 1)
      (scan.round minRegionSize stop 0) := by
  have same :
      (scan.round minRegionSize stop 0).yielded = scan.yielded := by
    rw [ZeroScan.round, if_pos rfl]
    split <;> rfl
  have later (region : Nat × Nat) :
      ZeroRegion data minRegionSize region ∧
          region.1 + region.2 < stop ↔
        ZeroRegion data minRegionSize region ∧
          region.1 + region.2 < stop + 1 := by
    apply and_congr_right
    intro found
    have apart := found.maximal.end_ne member
    omega
  refine ⟨?_, ?_, ?_⟩
  · intro start
    cases started : scan.start with
    | none =>
        have first := pendingRun_start (scanned.not_pending started) member
        simp only [ZeroScan.round, started, if_pos, Option.some.injEq]
        constructor
        · rintro rfl
          exact first
        · exact first.unique
    | some first =>
        have run := ((scanned.pending first).mp started).extend member
        simp only [ZeroScan.round, started, if_pos, Option.some.injEq]
        constructor
        · rintro rfl
          exact run
        · exact run.unique
  · intro region
    rw [same, scanned.yielded region, later region]
  · rw [same]
    exact scanned.increasing

/-- Where a region ends, those that have ended are the yielded and the pending. -/
theorem Scanned.ended_iff
    (scanned : Scanned data minRegionSize stop scan)
    (ends : stop ∉ zeroPlaces data) (region : Nat × Nat) :
    ZeroRegion data minRegionSize region ∧
        region.1 + region.2 < stop + 1 ↔
      region ∈ scan.yielded ∨
        PendingRun (zeroPlaces data) stop region.1 ∧
          region.2 = stop - region.1 ∧ minRegionSize ≤ region.2 := by
  rw [scanned.yielded region]
  constructor
  · rintro ⟨found, bound⟩
    by_cases before : region.1 + region.2 < stop
    · exact Or.inl ⟨found, before⟩
    · rcases (maximalRun_iff_pendingRun ends).mp
          ⟨found.maximal, by omega⟩ with ⟨run, length⟩
      exact Or.inr ⟨run, length, found.long⟩
  · rintro (⟨found, before⟩ | ⟨run, length, long⟩)
    · exact ⟨found, before.trans (Nat.lt_succ_self stop)⟩
    · rcases (maximalRun_iff_pendingRun ends).mpr ⟨run, length⟩ with
        ⟨maximal, whole⟩
      exact ⟨⟨maximal, long⟩, Nat.lt_succ_of_le whole.le⟩

/-- The pending region is the one from the kept start. -/
theorem Scanned.pending_region_iff
    (scanned : Scanned data minRegionSize stop scan) {first : Nat}
    (started : scan.start = some first) (region : Nat × Nat) :
    PendingRun (zeroPlaces data) stop region.1 ∧
        region.2 = stop - region.1 ∧ minRegionSize ≤ region.2 ↔
      minRegionSize ≤ (stop - first : Nat) ∧
        region = (first, stop - first) := by
  have pending := (scanned.pending first).mp started
  constructor
  · rintro ⟨run, length, long⟩
    have same := run.unique pending
    rw [same] at length
    exact ⟨length ▸ long, Prod.ext same length⟩
  · rintro ⟨long, rfl⟩
    exact ⟨pending, rfl, long⟩

/-- The pending region is after those that have been yielded. -/
theorem Scanned.pairwise_append
    (scanned : Scanned data minRegionSize stop scan) {first : Nat}
    (started : scan.start = some first) (length : Nat) :
    (scan.yielded ++ [(first, length)]).Pairwise
      fun first second => first.1 < second.1 := by
  apply List.pairwise_append.mpr
  refine ⟨scanned.increasing, List.pairwise_singleton _ _, ?_⟩
  intro region member other only
  rw [List.mem_singleton.mp only]
  rcases (scanned.yielded region).mp member with ⟨found, before⟩
  have pending := (scanned.pending first).mp started
  exact
    (Nat.le_add_right _ _).trans_lt
      (found.maximal.before_pendingRun pending before)

/-- A region that ends is added to those that have ended. -/
theorem Scanned.close
    (scanned : Scanned data minRegionSize stop scan)
    (ends : stop ∉ zeroPlaces data) :
    Scanned data minRegionSize (stop + 1)
      (scan.close minRegionSize stop) := by
  cases started : scan.start with
  | none =>
      rw [ZeroScan.close, started]
      refine ⟨?_, ?_, scanned.increasing⟩
      · intro start
        rw [started]
        exact iff_of_false (fun none => nomatch none) (not_pendingRun_succ ends)
      · intro region
        rw [scanned.ended_iff ends region]
        exact
          (or_iff_left fun run => scanned.not_pending started _ run.1).symm
  | some first =>
      rw [ZeroScan.close, started]
      refine ⟨?_, ?_, ?_⟩
      · intro start
        exact iff_of_false (fun none => nomatch none) (not_pendingRun_succ ends)
      · intro region
        rw [scanned.ended_iff ends region,
          scanned.pending_region_iff started region]
        show
          region ∈
              (if minRegionSize ≤ (stop - first : Nat) then
                scan.yielded ++ [(first, stop - first)]
              else
                scan.yielded) ↔
            _
        split
        · rename_i long
          rw [List.mem_append, List.mem_singleton, and_iff_right long]
        · rename_i short
          exact (or_iff_left fun found => short found.1).symm
      · show
          (if minRegionSize ≤ (stop - first : Nat) then
              scan.yielded ++ [(first, stop - first)]
            else
              scan.yielded).Pairwise
            _
        split
        · exact scanned.pairwise_append started _
        · exact scanned.increasing

theorem Scanned.round
    (scanned : Scanned data minRegionSize stop scan) {byte : UInt8}
    (found : data[stop]? = some byte) :
    Scanned data minRegionSize (stop + 1)
      (scan.round minRegionSize stop byte) := by
  by_cases zero : byte = 0
  · rw [zero] at found ⊢
    exact scanned.zero found
  · have ends : stop ∉ zeroPlaces data := by
      intro member
      exact zero (Option.some.inj (found.symm.trans member))
    rw [ZeroScan.round, if_neg zero]
    exact scanned.close ends

theorem Scanned.rounds
    {rest : Bytes} (scanned : Scanned data minRegionSize stop scan)
    (left : data.drop stop = rest) :
    Scanned data minRegionSize (stop + rest.length)
      (scan.rounds minRegionSize stop rest) := by
  induction rest generalizing stop scan with
  | nil => exact scanned
  | cons byte rest induction =>
      have found : data[stop]? = some byte := by
        rw [← List.head?_drop, left]
        rfl
      have next : data.drop (stop + 1) = rest := by
        rw [← List.tail_drop, left]
        rfl
      have final := induction (scanned.round found) next
      rw [List.length_cons, Nat.add_comm rest.length 1, ← Nat.add_assoc]
      exact final

end Scan

/--
The yielded regions are the maximal runs of zeros that are long enough, in
increasing order of their starts and each of them once.
-/
theorem findZeroRegions_exact (data : Bytes) (minRegionSize : ℤ) :
    (∀ region,
        region ∈ findZeroRegions data minRegionSize ↔
          ZeroRegion data minRegionSize region) ∧
      (findZeroRegions data minRegionSize).Pairwise
        fun first second => first.1 < second.1 := by
  have scanned :=
    (scanned_start data minRegionSize).rounds (List.drop_zero (l := data))
  rw [Nat.zero_add] at scanned
  have ends : data.length ∉ zeroPlaces data := by
    intro member
    have outside := List.getElem?_eq_none (Nat.le_refl data.length)
    cases outside.symm.trans member
  have final := scanned.close ends
  refine ⟨?_, final.increasing⟩
  intro region
  apply (final.yielded region).trans
  apply and_iff_left_of_imp
  intro found
  by_contra beyond
  have positive := found.maximal.positive
  have last :=
    found.maximal.held (region.1 + region.2 - 1) (by omega) (by omega)
  have outside : data.length ≤ region.1 + region.2 - 1 := by
    omega
  cases (List.getElem?_eq_none outside).symm.trans last

/-- Regions at both ends of the data are found. -/
example :
    findZeroRegions [0, 0, 1, 0, 2, 0, 0, 0] 2 = [(0, 2), (5, 3)] := by
  decide

end StorageAppliance.Purity
