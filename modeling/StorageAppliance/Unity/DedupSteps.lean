import StorageAppliance.Unity.ChunkBounds
import StorageAppliance.Unity.DedupInvariant

/-!
# Deduplicating one segment

A segment whose fingerprint is in the index is counted once more; any other is
made at the end of the heap, stored, written to the backend and indexed.  The
two equations say all that a segment changes, and what a call has come to is
indexed from then on (`indexed_deduplicateAndStore`).
-/

namespace StorageAppliance.Unity

open StorageAppliance.Go
open StorageAppliance.Library

/-- A reference to a segment of a name. -/
def refTo (segmentId fingerprint : String) (offset : Nat) (data : Bytes) :
    SegmentReference where
  segmentId := segmentId
  fingerprint := fingerprint
  offset := int64 offset
  length := int64 data.length

/-- The engine after a new segment has been stored. -/
def DataDomainEngine.addSegment
    (engine : DataDomainEngine) (fingerprint : String) (data : Bytes) :
    DataDomainEngine :=
  { engine with
    heap := engine.heap ++ [newSegment engine fingerprint data]
    segments :=
      engine.segments.set (segmentName engine.nextSegmentId)
        engine.heap.length
    nextSegmentId := engine.nextSegmentId + 1
    backend := engine.backend.set (segmentName engine.nextSegmentId) data
    fingerprints := engine.fingerprints.set fingerprint engine.heap.length }

section Steps

variable
    {sha256 : Bytes → Bytes}
    {engine : DataDomainEngine}
    {progress : Progress}
    {offset : Nat}
    {data : Bytes}

theorem deduplicate_of_found
    {address : Nat} {segment : Segment}
    (found :
      engine.fingerprints.get? (calculateFingerprint sha256 data) =
        some address)
    (held : engine.heap[address]? = some segment) :
    engine.deduplicate sha256 progress offset data =
      (progress.duplicate
          (refTo segment.segmentId (calculateFingerprint sha256 data)
            offset data)
          data,
        engine.addReference address) := by
  have named :
      ((engine.addReference address).heap[address]?.map
        Segment.segmentId).getD "" = segment.segmentId := by
    rw [heap_addReference, held]
    simp
  simp only [DataDomainEngine.deduplicate, found,
    DataDomainEngine.reference, named, refTo]

theorem deduplicate_of_absent
    (absent :
      engine.fingerprints.get? (calculateFingerprint sha256 data) =
        none) :
    engine.deduplicate sha256 progress offset data =
      (progress.unique
          (refTo (segmentName engine.nextSegmentId)
            (calculateFingerprint sha256 data) offset data)
          data,
        engine.addSegment (calculateFingerprint sha256 data) data) := by
  simp only [DataDomainEngine.deduplicate, absent, createSegment_eq]
  simp [DataDomainEngine.storeSegment, DataDomainEngine.writeBackend,
    DataDomainEngine.indexFingerprint, DataDomainEngine.reference,
    DataDomainEngine.addSegment, newSegment, refTo]

/-- What is indexed stays so, and the segment is indexed afterwards. -/
theorem indexed_deduplicate
    (progress : Progress) (offset : Nat) {fingerprint : String}
    (indexed :
      engine.fingerprints.get? fingerprint ≠ none ∨
        fingerprint = calculateFingerprint sha256 data) :
    (engine.deduplicate sha256 progress offset
        data).2.fingerprints.get? fingerprint ≠ none := by
  cases found :
      engine.fingerprints.get? (calculateFingerprint sha256 data) with
  | some address =>
      have same :
          (engine.deduplicate sha256 progress offset
            data).2.fingerprints = engine.fingerprints := by
        simp only [DataDomainEngine.deduplicate, found]
        rfl
      rw [same]
      rcases indexed with before | rfl
      · exact before
      · rw [found]
        exact Option.some_ne_none address
  | none =>
      rw [deduplicate_of_absent found]
      change (engine.fingerprints.set _ _).get? _ ≠ none
      rw [Dict.get?_set]
      split
      · exact Option.some_ne_none _
      · rename_i other
        exact indexed.resolve_right other

/-- All segments of a call are indexed afterwards. -/
theorem indexed_deduplicateAll
    {pieces : List Bytes} {fingerprint : String}
    (indexed :
      engine.fingerprints.get? fingerprint ≠ none ∨
        ∃ piece ∈ pieces,
          fingerprint = calculateFingerprint sha256 piece) :
    (engine.deduplicateAll sha256 progress offset
        pieces).2.fingerprints.get? fingerprint ≠ none := by
  induction pieces generalizing engine progress offset with
  | nil =>
      rcases indexed with before | ⟨piece, member, _⟩
      · exact before
      · cases member
  | cons piece rest induction =>
      rw [DataDomainEngine.deduplicateAll]
      apply induction
      rcases indexed with before | ⟨other, member, same⟩
      · exact Or.inl (indexed_deduplicate progress offset (Or.inl before))
      · rcases List.mem_cons.mp member with rfl | later
        · exact
            Or.inl (indexed_deduplicate progress offset (Or.inr same))
        · exact Or.inr ⟨other, later, same⟩

theorem indexed_deduplicateAndStore
    (objectId : String) {piece : Bytes} (member : piece ∈ chunkData data) :
    (engine.deduplicateAndStore sha256 objectId
        data).2.fingerprints.get? (calculateFingerprint sha256 piece) ≠
      none := by
  change
    (engine.deduplicateAll sha256 {} 0
      (chunkData data)).2.fingerprints.get? _ ≠ none
  exact indexed_deduplicateAll (Or.inr ⟨piece, member, rfl⟩)

end Steps

end StorageAppliance.Unity
