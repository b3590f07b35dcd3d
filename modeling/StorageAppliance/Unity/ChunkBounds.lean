import StorageAppliance.Library.Segmentation
import StorageAppliance.Unity.Chunking

/-!
# Chunking is a partition

The loops of `chunkData` with their indices as they stand in the source, where a
slice outside of the data panics, never panic and come to an end, and they leave
the segments of `chunkData`.  These join to the data, none is empty, all but the
last have between 8192 and 16384 bytes, and the last has no more than that.

The end of a segment depends on nothing that stands before the segment, so
`chunkData` cuts off one segment after another (`chunker`), and the bounds are
those of the first segment of any data.
-/

namespace StorageAppliance.Unity

open StorageAppliance.Go
open StorageAppliance.Library

/-! ## The loops of the source -/

/-- Look for a boundary from a candidate on. -/
def lookForBoundary (data : Bytes) (first last : ℤ) : Except Fault ℤ :=
  if last < data.length ∧ last - first < maxChunkSize then
    if last - first ≥ avgChunkSize then
      match slice data (last - windowSize) last with
      | .error fault => .error fault
      | .ok window =>
          if rollingHash window % UInt32.ofNat avgChunkSize = 0 then
            .ok last
          else
            lookForBoundary data first (last + 1)
    else
      lookForBoundary data first (last + 1)
  else
    .ok last
termination_by (data.length - last).toNat

/-- Append segments from a start on, for as many rounds as there is fuel. -/
def chunkLoop (data : Bytes) :
    Nat → ℤ → List Bytes → Option (Except Fault (List Bytes))
  | 0, _, _ => none
  | fuel + 1, first, segments =>
      if first < data.length then
        let last := min (first + minChunkSize) data.length
        match lookForBoundary data first last with
        | .error fault => some (.error fault)
        | .ok last =>
            let last := min last data.length
            match slice data first last with
            | .error fault => some (.error fault)
            | .ok segment =>
                chunkLoop data fuel last (segments ++ [segment])
      else
        some (.ok segments)

section Slices

variable {data : Bytes}

theorem slice_of_bounds
    {first last : Nat} (ordered : first ≤ last)
    (within : last ≤ data.length) :
    slice data first last = .ok (between data first last) := by
  rw [slice, if_pos (by omega), between, Int.toNat_natCast,
    Int.toNat_natCast]

/-- No window is outside of the data. -/
theorem slice_window
    {last : Nat} (long : avgChunkSize ≤ last)
    (within : last ≤ data.length) :
    slice data ((last : ℤ) - windowSize) last =
      .ok (between data (last - windowSize) last) := by
  have short : windowSize ≤ avgChunkSize := by decide
  have start :
      (last : ℤ) - windowSize = (last - windowSize : Nat) := by
    omega
  rw [start]
  exact slice_of_bounds (Nat.sub_le _ _) within

theorem lookForBoundary_eq
    {first last : Nat} (ordered : first ≤ last) :
    lookForBoundary data first last =
      .ok (findBoundary data first last : ℤ) := by
  fun_induction findBoundary data first last with
  | case1 last more boundary =>
      rw [lookForBoundary, if_pos (by omega), if_pos (by omega),
        slice_window (by omega) (by omega)]
      simp only [if_pos boundary.2]
  | case2 last more inside induction =>
      have next := induction (by omega)
      rw [Int.natCast_add] at next
      rw [lookForBoundary, if_pos (by omega)]
      split
      · rename_i long
        have noBoundary :
            ¬ rollingHash (between data (last - windowSize) last) %
                UInt32.ofNat avgChunkSize = 0 :=
          fun boundary => inside ⟨by omega, boundary⟩
        rw [slice_window (by omega) (by omega)]
        simp only [if_neg noBoundary]
        exact next
      · exact next
  | case3 last done =>
      rw [lookForBoundary, if_neg (by omega)]

/-- With enough fuel the loop leaves the segments, and nothing panics. -/
theorem chunkLoop_eq
    {fuel first : Nat} (segments : List Bytes)
    (enough : data.length - first < fuel) :
    chunkLoop data fuel first segments =
      some (.ok (segments ++ chunkFrom data first)) := by
  induction fuel generalizing first segments with
  | zero => cases enough
  | succ fuel induction =>
      by_cases more : first < data.length
      · have further := lt_segmentEnd more
        have within := segmentEnd_le data first
        have candidate :
            min ((first : ℤ) + minChunkSize) data.length =
              (min (first + minChunkSize) data.length : Nat) := by
          omega
        have ended :
            min
                ((findBoundary data first
                  (min (first + minChunkSize) data.length) : Nat) : ℤ)
                data.length =
              (segmentEnd data first : Nat) := by
          rw [segmentEnd]
          omega
        simp only [chunkLoop, if_pos (Int.ofNat_lt.mpr more), candidate,
          lookForBoundary_eq
            (show first ≤ min (first + minChunkSize) data.length by omega),
          ended, slice_of_bounds (Nat.le_of_lt further) within]
        rw [induction _ (by omega), chunkFrom_of_lt more,
          List.append_assoc]
        rfl
      · rw [chunkLoop, if_neg (by omega), chunkFrom_of_ge more,
          List.append_nil]

end Slices

/-! ## The first segment -/

/-- How long the first segment of data is. -/
def chunker : Cutter UInt8 where
  cut := fun data => segmentEnd data 0
  positive := fun _ present => lt_segmentEnd (List.length_pos_iff.mpr present)
  within := fun data => segmentEnd_le data 0

section Segments

variable {data : Bytes}

theorem between_drop (data : Bytes) (shift first last : Nat) :
    between (data.drop shift) first last =
      between data (shift + first) (shift + last) := by
  rw [between, between, List.take_drop, List.drop_drop]

/-- Where a segment ends depends on nothing before it. -/
theorem findBoundary_drop (data : Bytes) (first last : Nat) :
    findBoundary data first (first + last) =
      first + findBoundary (data.drop first) 0 last := by
  have short : windowSize ≤ avgChunkSize := by decide
  have length : (data.drop first).length = data.length - first :=
    List.length_drop
  fun_induction findBoundary (data.drop first) 0 last with
  | case1 last more boundary =>
      have shifted := boundary.2
      rw [between_drop] at shifted
      rw [findBoundary, if_pos (by omega),
        show first + last - windowSize = first + (last - windowSize) by
          omega,
        if_pos ⟨by omega, shifted⟩]
  | case2 last more inside induction =>
      rw [findBoundary, if_pos (by omega), if_neg, Nat.add_assoc,
        induction]
      rintro ⟨long, boundary⟩
      apply inside
      refine ⟨by omega, ?_⟩
      rw [between_drop, ← boundary]
      congr 3
      omega
  | case3 last done =>
      rw [findBoundary, if_neg (by omega)]

theorem segmentEnd_drop
    {first : Nat} (within : first ≤ data.length) :
    segmentEnd data first = first + segmentEnd (data.drop first) 0 := by
  have length : (data.drop first).length = data.length - first :=
    List.length_drop
  have candidate :
      min (first + minChunkSize) data.length =
        first + min (0 + minChunkSize) (data.drop first).length := by
    omega
  rw [segmentEnd, segmentEnd, candidate, findBoundary_drop]
  omega

theorem between_eq_take
    {first last : Nat} :
    between data first (first + last) = (data.drop first).take last := by
  rw [between, List.take_drop]

/-- The segments are cut off one after another. -/
theorem chunkFrom_eq (data : Bytes) (first : Nat) :
    chunkFrom data first = chunker.segments (data.drop first) := by
  fun_induction chunkFrom data first with
  | case1 first more further induction =>
      have present : data.drop first ≠ [] := by
        intro empty
        rw [List.drop_eq_nil_iff] at empty
        exact absurd more (Nat.not_lt.mpr empty)
      rw [chunker.segments_of_ne_nil present, induction,
        segmentEnd_drop (Nat.le_of_lt more), between_eq_take,
        List.drop_drop]
      rfl
  | case2 first done =>
      rw [List.drop_of_length_le (Nat.not_lt.mp done),
        Cutter.segments_nil]

theorem chunkData_eq (data : Bytes) :
    chunkData data = chunker.segments data :=
  chunkFrom_eq data 0

/-! ## Bounds -/

theorem findBoundary_le (data : Bytes) (first last : Nat) :
    findBoundary data first last ≤ max last (first + maxChunkSize) := by
  fun_induction findBoundary data first last with
  | case1 last more boundary => exact Nat.le_max_left _ _
  | case2 last more inside induction => omega
  | case3 last done => exact Nat.le_max_left _ _

/-- A boundary inside of the data is not too close. -/
theorem le_findBoundary_of_lt
    {first last : Nat} (inside : findBoundary data first last < data.length) :
    first + avgChunkSize ≤ findBoundary data first last ∨
      findBoundary data first last < first := by
  have sizes : avgChunkSize ≤ maxChunkSize := by decide
  fun_induction findBoundary data first last with
  | case1 last more boundary => omega
  | case2 last more outside induction => exact induction inside
  | case3 last done => omega

/-- A segment that something follows is neither short nor long. -/
theorem cut_bounds_of_lt (further : chunker.cut data < data.length) :
    avgChunkSize ≤ chunker.cut data ∧
      chunker.cut data ≤ maxChunkSize := by
  have sizes : minChunkSize ≤ maxChunkSize := by decide
  have most :=
    findBoundary_le data 0 (min (0 + minChunkSize) data.length)
  change segmentEnd data 0 < _ at further
  change _ ≤ segmentEnd data 0 ∧ segmentEnd data 0 ≤ _
  rw [segmentEnd] at further ⊢
  have least :=
    @le_findBoundary_of_lt data 0 (min (0 + minChunkSize) data.length)
      (by omega)
  omega

theorem cut_le (data : Bytes) : chunker.cut data ≤ maxChunkSize := by
  have sizes : minChunkSize ≤ maxChunkSize := by decide
  have most :=
    findBoundary_le data 0 (min (0 + minChunkSize) data.length)
  change segmentEnd data 0 ≤ _
  rw [segmentEnd]
  omega

/-- Every segment has a byte, and no more than the most. -/
theorem length_of_mem_chunkData
    {segment : Bytes} (member : segment ∈ chunkData data) :
    1 ≤ segment.length ∧ segment.length ≤ maxChunkSize := by
  rw [chunkData_eq] at member
  refine ⟨List.length_pos_iff.mpr (chunker.ne_nil_of_mem_segments member),
    ?_⟩
  refine
    @Cutter.forall_mem_segments _ chunker
      (fun segment => segment.length ≤ maxChunkSize) ?_ data segment member
  intro rest _
  rw [List.length_take_of_le (chunker.within rest)]
  exact cut_le rest

/-- Every segment but the last is neither short nor long. -/
theorem length_of_mem_dropLast_chunkData
    {segment : Bytes} (member : segment ∈ (chunkData data).dropLast) :
    avgChunkSize ≤ segment.length ∧ segment.length ≤ maxChunkSize := by
  rw [chunkData_eq] at member
  refine
    @Cutter.forall_mem_dropLast_segments _ chunker
      (fun segment =>
        avgChunkSize ≤ segment.length ∧ segment.length ≤ maxChunkSize)
      ?_ data segment member
  intro rest further
  rw [List.length_take_of_le (chunker.within rest)]
  exact cut_bounds_of_lt further

end Segments

/--
The loops end without a slice outside of the data, and leave segments that join
to the data: none is empty, those before the last have between 8192 and 16384
bytes, and the last has between 1 and 16384.
-/
theorem chunkData_partition (data : Bytes) :
    (∀ fuel,
        data.length < fuel →
          chunkLoop data fuel 0 [] = some (.ok (chunkData data))) ∧
      (chunkData data).flatten = data ∧
      (∀ segment ∈ chunkData data, segment ≠ []) ∧
      (∀ segment ∈ (chunkData data).dropLast,
        8192 ≤ segment.length ∧ segment.length ≤ 16384) ∧
      ∀ segment ∈ (chunkData data).getLast?,
        1 ≤ segment.length ∧ segment.length ≤ 16384 := by
  refine ⟨?_, chunkData_flatten data, ?_, ?_, ?_⟩
  · intro fuel enough
    exact chunkLoop_eq [] enough
  · intro segment member
    exact List.length_pos_iff.mp (length_of_mem_chunkData member).1
  · intro segment member
    exact length_of_mem_dropLast_chunkData member
  · intro segment last
    exact length_of_mem_chunkData (List.mem_of_getLast? last)

end StorageAppliance.Unity
