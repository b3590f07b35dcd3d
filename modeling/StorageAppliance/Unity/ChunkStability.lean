import StorageAppliance.Unity.DedupSteps

/-!
# Segments are stable

The window in which a boundary shows lies in the segment that it ends, and a
segment that something follows ends at such a boundary or at its most size.  So
the cut of the first segment is local, and appending to data leaves all its
segments but the last.

Data with a common beginning therefore has the segments of the beginning in
common, all but the last, and once they are in the index they are found there.
-/

namespace StorageAppliance.Unity

open StorageAppliance.Go
open StorageAppliance.Library

section Appending

variable {data : Bytes}

theorem between_append
    {first last : Nat} (within : last ≤ data.length) (rest : Bytes) :
    between (data ++ rest) first last = between data first last := by
  rw [between, between, List.take_append_of_le_length within]

/-- A boundary inside of the data stays where it is. -/
theorem findBoundary_append
    {first last : Nat} (inside : findBoundary data first last < data.length)
    (rest : Bytes) :
    findBoundary (data ++ rest) first last =
      findBoundary data first last := by
  have length : (data ++ rest).length = data.length + rest.length :=
    List.length_append
  fun_induction findBoundary data first last with
  | case1 last more boundary =>
      have window := boundary.2
      rw [← between_append (Nat.le_of_lt more.1) rest] at window
      rw [findBoundary, if_pos (by omega), if_pos ⟨boundary.1, window⟩]
  | case2 last more noBoundary induction =>
      rw [findBoundary, if_pos (by omega), if_neg]
      · exact induction inside
      · rw [between_append (Nat.le_of_lt more.1)]
        exact noBoundary
  | case3 last done =>
      rw [findBoundary, if_neg (by omega)]

/-- What follows a segment does not matter, as long as something does. -/
theorem chunker_local : chunker.Local := by
  intro data rest further
  have length : (data ++ rest).length = data.length + rest.length :=
    List.length_append
  have reaches :=
    le_findBoundary data 0 (min (0 + minChunkSize) data.length)
  change segmentEnd data 0 < _ at further
  change segmentEnd (data ++ rest) 0 = segmentEnd data 0
  rw [segmentEnd] at further
  have inside :
      findBoundary data 0 (min (0 + minChunkSize) data.length) <
        data.length := by
    omega
  have candidate :
      min (0 + minChunkSize) (data ++ rest).length =
        min (0 + minChunkSize) data.length := by
    omega
  rw [segmentEnd, segmentEnd, candidate, findBoundary_append inside]
  omega

end Appending

/--
Appending leaves all segments but the last, the segments from a boundary on are
those of the data from there on, and all but the last segment of a common
beginning are in the index once other data with this beginning is stored.
-/
theorem chunkData_stable (data rest : Bytes) :
    (chunkData data).dropLast <+: chunkData (data ++ rest) ∧
      (∀ count,
        chunkData
            (data.drop
              ((chunkData data).take count).flatten.length) =
          (chunkData data).drop count) ∧
      ∀ (sha256 : Bytes → Bytes) (engine : DataDomainEngine)
        (objectId : String),
        ∀ segment ∈ (chunkData data).dropLast,
          (engine.deduplicateAndStore sha256 objectId
              (data ++ rest)).2.fingerprints.get?
            (calculateFingerprint sha256 segment) ≠ none := by
  have stable :
      (chunkData data).dropLast <+: chunkData (data ++ rest) := by
    rw [chunkData_eq, chunkData_eq]
    exact chunker.dropLast_segments_prefix chunker_local data rest
  refine ⟨stable, ?_, ?_⟩
  · intro count
    simp only [chunkData_eq]
    exact chunker.segments_drop data count
  · intro sha256 engine objectId segment member
    exact indexed_deduplicateAndStore objectId (stable.subset member)

end StorageAppliance.Unity
