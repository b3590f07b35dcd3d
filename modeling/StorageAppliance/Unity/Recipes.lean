import StorageAppliance.Unity.DedupSteps

/-!
# The layout of recipes

A recipe is contiguous if each reference starts where the one before it ends and
the lengths add up to the size of the data.  `DeduplicateAndStore` writes the
number of the segment into the offset, because it ranges over the segments and
takes the index for an offset.  The first segment has the same number and
offset, and no other has, so a recipe is contiguous exactly if the data is one
segment (`recipe_contiguous_iff`).
-/

namespace StorageAppliance.Unity

open StorageAppliance.Go
open StorageAppliance.Library

/-- Each reference covers its part of the data, one after the other. -/
structure Contiguous (data : Bytes) (recipe : RecipeMetadata) : Prop where
  offsets :
    ∀ (index : Nat) (ref : SegmentReference),
      recipe.segmentRefs[index]? = some ref →
        ref.offset =
          ((recipe.segmentRefs.take index).map
            SegmentReference.length).sum
  total :
    (recipe.segmentRefs.map SegmentReference.length).sum =
      recipe.totalSize
  covers :
    ∀ (index : Nat) (ref : SegmentReference),
      recipe.segmentRefs[index]? = some ref →
        (chunkData data)[index]? =
          some
            (between data ref.offset.toNat
              (ref.offset + ref.length).toNat)

/-- No boundary shows in the data, and it fits into a segment. -/
def OneSegment (data : Bytes) : Prop :=
  data.length ≤ maxChunkSize ∧
    ∀ cut,
      avgChunkSize ≤ cut →
        cut < data.length →
          rollingHash (between data (cut - windowSize) cut) %
              UInt32.ofNat avgChunkSize ≠
            0

instance : DecidablePred OneSegment := fun data =>
  decidable_of_iff
    (data.length ≤ maxChunkSize ∧
      ∀ cut < data.length,
        avgChunkSize ≤ cut →
          rollingHash (between data (cut - windowSize) cut) %
              UInt32.ofNat avgChunkSize ≠
            0)
    (and_congr_right fun _ =>
      forall_congr' fun _ => ⟨fun all long less => all less long,
        fun all less long => all long less⟩)

section Layout

variable
    {sha256 : Bytes → Bytes}
    {engine : DataDomainEngine}
    {data : Bytes}

/-- Where a reference starts, and how long it is. -/
def SegmentReference.extent (ref : SegmentReference) : ℤ × ℤ :=
  (ref.offset, ref.length)

theorem extents_deduplicate
    (progress : Progress) (offset : Nat) (piece : Bytes) :
    (engine.deduplicate sha256 progress offset
        piece).1.segmentRefs.map SegmentReference.extent =
      progress.segmentRefs.map SegmentReference.extent ++
        [(int64 offset, int64 piece.length)] := by
  rw [DataDomainEngine.deduplicate]
  split
  · simp only [Progress.duplicate, List.map_append, List.map_singleton,
      SegmentReference.extent, DataDomainEngine.reference]
  · simp only [Progress.unique, List.map_append, List.map_singleton,
      SegmentReference.extent, DataDomainEngine.reference]

/-- The references are numbered, whatever the engine holds. -/
theorem extents_deduplicateAll
    (progress : Progress) (offset : Nat) (pieces : List Bytes) :
    (engine.deduplicateAll sha256 progress offset
        pieces).1.segmentRefs.map SegmentReference.extent =
      progress.segmentRefs.map SegmentReference.extent ++
        (pieces.zipIdx offset).map fun item =>
          (int64 item.2, int64 item.1.length) := by
  induction pieces generalizing engine progress offset with
  | nil =>
      rw [List.zipIdx_nil, List.map_nil, List.append_nil]
      rfl
  | cons piece rest induction =>
      rw [DataDomainEngine.deduplicateAll, induction,
        extents_deduplicate, List.zipIdx_cons, List.map_cons,
        List.append_assoc]
      rfl

theorem extents_recipe (objectId : String) :
    (engine.deduplicateAndStore sha256 objectId
        data).1.segmentRefs.map SegmentReference.extent =
      (chunkData data).zipIdx.map fun item =>
        (int64 item.2, int64 item.1.length) :=
  extents_deduplicateAll {} 0 (chunkData data)

/-! ## Data of one segment -/

theorem length_le_findBoundary_iff (data : Bytes) (last : Nat) :
    data.length ≤ findBoundary data 0 last ↔
      ∀ cut,
        last ≤ cut →
          cut < data.length →
            cut < maxChunkSize ∧
              ¬ (avgChunkSize ≤ cut ∧
                rollingHash (between data (cut - windowSize) cut) %
                    UInt32.ofNat avgChunkSize = 0) := by
  fun_induction findBoundary data 0 last with
  | case1 last more boundary =>
      constructor
      · intro reaches
        exact absurd more.1 (Nat.not_lt.mpr reaches)
      · intro all
        exact absurd boundary (all last (Nat.le_refl _) more.1).2
  | case2 last more inside induction =>
      rw [induction]
      constructor
      · intro all cut least less
        by_cases here : cut = last
        · rw [here]
          exact ⟨more.2, inside⟩
        · exact all cut (by omega) less
      · intro all cut least less
        exact all cut (by omega) less
  | case3 last done =>
      constructor
      · intro reaches cut least less
        omega
      · intro all
        by_contra short
        have cut := all last (Nat.le_refl _) (by omega)
        exact done ⟨by omega, cut.1⟩

theorem oneSegment_iff :
    OneSegment data ↔ chunker.cut data = data.length := by
  have sizes : minChunkSize ≤ avgChunkSize ∧ avgChunkSize < maxChunkSize := by
    decide
  have reaches :
      chunker.cut data = data.length ↔
        data.length ≤
          findBoundary data 0 (min (0 + minChunkSize) data.length) := by
    change segmentEnd data 0 = _ ↔ _
    rw [segmentEnd]
    omega
  rw [reaches, length_le_findBoundary_iff]
  constructor
  · rintro ⟨fits, plain⟩ cut least less
    refine ⟨by omega, ?_⟩
    rintro ⟨long, boundary⟩
    exact plain cut long less boundary
  · intro all
    constructor
    · by_contra long
      have cut := all maxChunkSize (by omega) (by omega)
      exact absurd cut.1 (Nat.lt_irrefl _)
    · intro cut long less boundary
      exact (all cut (by omega) less).2 ⟨long, boundary⟩

/-- Data of one segment is cut into itself. -/
theorem chunkData_of_oneSegment
    (one : OneSegment data) (present : data ≠ []) :
    chunkData data = [data] := by
  rw [chunkData_eq, chunker.segments_of_ne_nil present,
    oneSegment_iff.mp one, List.take_length, List.drop_length,
    Cutter.segments_nil]

/-- Data of several segments starts with one that is not short. -/
theorem chunkData_of_not_oneSegment (several : ¬ OneSegment data) :
    ∃ first second rest,
      chunkData data = first :: second :: rest ∧
        avgChunkSize ≤ first.length ∧ first.length ≤ maxChunkSize := by
  have further : chunker.cut data < data.length := by
    have within := chunker.within data
    rw [oneSegment_iff] at several
    omega
  have present : data ≠ [] := by
    rintro rfl
    cases further
  have left : data.drop (chunker.cut data) ≠ [] := by
    intro empty
    rw [List.drop_eq_nil_iff] at empty
    exact absurd further (Nat.not_lt.mpr empty)
  refine
    ⟨_, _, _,
      by rw [chunkData_eq, chunker.segments_of_ne_nil present,
        chunker.segments_of_ne_nil left], ?_⟩
  rw [List.length_take_of_le (chunker.within data)]
  exact cut_bounds_of_lt further

/-! ## Recipes -/

/-- The only reference of data that is one segment. -/
theorem segmentRefs_of_oneSegment
    (one : OneSegment data) (present : data ≠ []) (objectId : String) :
    ∃ ref,
      (engine.deduplicateAndStore sha256 objectId data).1.segmentRefs =
          [ref] ∧
        ref.offset = 0 ∧ ref.length = data.length := by
  have extents := @extents_recipe sha256 engine data objectId
  rw [chunkData_of_oneSegment one present, List.zipIdx_singleton,
    List.map_singleton, List.map_eq_singleton_iff] at extents
  rcases extents with ⟨ref, refs, extent⟩
  have fits : data.length ≤ 16384 := one.1
  have zero : int64 (0 : Nat) = 0 :=
    int64_of_range (by omega) (by omega)
  have length : int64 data.length = data.length :=
    int64_of_range (by omega) (by omega)
  simp only [SegmentReference.extent, Prod.mk.injEq, zero, length]
    at extent
  exact ⟨ref, refs, extent⟩

theorem contiguous_of_oneSegment
    (one : OneSegment data) (objectId : String) :
    Contiguous data
      (engine.deduplicateAndStore sha256 objectId data).1 := by
  by_cases present : data = []
  · subst present
    have none :
        (engine.deduplicateAndStore sha256 objectId []).1.segmentRefs =
          [] := by
      have extents := @extents_recipe sha256 engine [] objectId
      rw [chunkData_eq, Cutter.segments_nil] at extents
      exact List.map_eq_nil_iff.mp extents
    constructor
    · intro index ref found
      rw [none] at found
      cases found
    · rw [none]
      rfl
    · intro index ref found
      rw [none] at found
      cases found
  · rcases @segmentRefs_of_oneSegment sha256 engine data one present
        objectId with
      ⟨only, refs, offset, length⟩
    have fits : data.length ≤ 16384 := one.1
    have total :
        (engine.deduplicateAndStore sha256 objectId data).1.totalSize =
          data.length := by
      simp only [DataDomainEngine.deduplicateAndStore, recipeOf]
      exact int64_of_range (by omega) (by omega)
    constructor
    · intro index ref found
      rw [refs, List.getElem?_singleton] at found
      split at found
      · rename_i first
        cases found
        rw [first, offset]
        rfl
      · cases found
    · rw [refs, total, List.map_singleton, List.sum_singleton, length]
    · intro index ref found
      rw [refs, List.getElem?_singleton] at found
      split at found
      · rename_i first
        cases found
        rw [first, chunkData_of_oneSegment one present, offset, length,
          between]
        simp
      · cases found

theorem not_contiguous_of_several
    (several : ¬ OneSegment data) (objectId : String) :
    ¬ Contiguous data
      (engine.deduplicateAndStore sha256 objectId data).1 := by
  intro contiguous
  rcases chunkData_of_not_oneSegment several with
    ⟨first, second, rest, pieces, long, fits⟩
  have extents := @extents_recipe sha256 engine data objectId
  rw [pieces, List.zipIdx_cons, List.zipIdx_cons, List.map_cons,
    List.map_cons] at extents
  cases refs :
      (engine.deduplicateAndStore sha256 objectId data).1.segmentRefs with
  | nil =>
      rw [refs, List.map_nil] at extents
      exact absurd extents.symm (List.cons_ne_nil _ _)
  | cons one others =>
      cases others with
      | nil =>
          rw [refs, List.map_singleton, List.cons.injEq] at extents
          exact absurd extents.2.symm (List.cons_ne_nil _ _)
      | cons next others =>
          have offset := contiguous.offsets 1 next (by rw [refs]; rfl)
          rw [refs] at extents offset
          simp only [List.map_cons, List.cons.injEq,
            SegmentReference.extent, Prod.mk.injEq] at extents
          have number : next.offset = 1 := by
            rw [extents.2.1.1]
            exact int64_of_range (by omega) (by omega)
          have length : one.length = first.length := by
            rw [extents.1.2]
            have most : first.length ≤ 16384 := fits
            exact int64_of_range (by omega) (by omega)
          have least : 8192 ≤ first.length := long
          rw [number, List.take_succ_cons, List.take_zero,
            List.map_singleton, List.sum_singleton, length] at offset
          omega

end Layout

/--
Whatever the engine holds, a recipe is contiguous exactly if the data has at
most 16384 bytes and shows no boundary from 8192 bytes on.
-/
theorem recipe_contiguous_iff
    (sha256 : Bytes → Bytes) (engine : DataDomainEngine)
    (objectId : String) (data : Bytes) :
    Contiguous data
        (engine.deduplicateAndStore sha256 objectId data).1 ↔
      OneSegment data := by
  constructor
  · intro contiguous
    by_contra several
    exact not_contiguous_of_several several objectId contiguous
  · intro one
    exact contiguous_of_oneSegment one objectId

/-- The zeros of three segments, of which the second has offset one. -/
theorem recipe_counts_segments :
    ¬ Contiguous (zeros 20000)
      ((newDataDomainEngine .inline).deduplicateAndStore (fun data => data)
        "object" (zeros 20000)).1 := by
  apply not_contiguous_of_several
  rintro ⟨fits, _⟩
  rw [zeros, List.length_replicate] at fits
  exact absurd fits (by decide)

end StorageAppliance.Unity
