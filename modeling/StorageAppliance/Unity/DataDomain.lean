import StorageAppliance.Library.BigEndian
import StorageAppliance.Library.Dict
import StorageAppliance.Unity.Chunking

/-!
# The deduplication engine

Data is cut into segments, and a segment whose fingerprint is in the index is
stored once (`DataDomainEngine`).  A recipe lists the segments of some data.

Segments are shared by pointers, and their reference counts change in place, so
the engine keeps a heap: all segments that were ever made, by their addresses.
The two maps hold addresses.  The parts of a step that hold no common lock are
functions of their own, from which `deduplicateAndStore` is put together and
which concurrent calls execute one by one.

The cryptographic hash is an argument.  Times, recipe numbers, the ratio of the
statistics and those counters that nothing updates are left out.
-/

namespace StorageAppliance.Unity

open StorageAppliance.Go
open StorageAppliance.Library

/-! ## Structures -/

inductive DedupMode where
  | inline
  | postProcess
  | hybrid
deriving DecidableEq

/-- A unique piece of data. -/
structure Segment where
  segmentId : String
  fingerprint : String
  data : Bytes
  compressedData : Bytes := []
  size : ℤ
  compressedSize : ℤ := 0
  refCount : ℤ
  compressed : Bool := false
  compressionType : String := ""
deriving DecidableEq

structure SegmentReference where
  segmentId : String
  fingerprint : String
  offset : ℤ
  length : ℤ
deriving DecidableEq

/-- How to put data together from segments. -/
structure RecipeMetadata where
  objectId : String
  totalSize : ℤ
  segmentRefs : List SegmentReference
deriving DecidableEq

structure DedupStats where
  totalDataIngested : ℤ := 0
  uniqueDataStored : ℤ := 0
  duplicateDataFound : ℤ := 0
  dedupOperations : ℤ := 0
deriving DecidableEq

structure DataDomainEngine where
  mode : DedupMode
  heap : List Segment := []
  segments : Dict String Nat := Dict.empty
  nextSegmentId : UInt64 := 0
  backend : Dict String Bytes := Dict.empty
  fingerprints : Dict String Nat := Dict.empty
  stats : DedupStats := {}
deriving DecidableEq

def newDataDomainEngine (mode : DedupMode) : DataDomainEngine where
  mode := mode

/-! ## Segments -/

/-- The name of a segment, `seg-%016x`. -/
def segmentName (id : UInt64) : String :=
  "seg-" ++ hexEncode (toBigEndian 8 id.toNat)

def calculateFingerprint (sha256 : Bytes → Bytes) (data : Bytes) : String :=
  hexEncode (sha256 data)

/-- Compression returns its data. -/
def compress (data : Bytes) : Except Fault Bytes :=
  .ok data

def decompress (data : Bytes) : Except Fault Bytes :=
  .ok data

/-- Keep the compressed data of a segment if it is shorter. -/
def Segment.tryCompress (segment : Segment) (mode : DedupMode) : Segment :=
  if mode = .inline ∨ mode = .hybrid then
    match compress segment.data with
    | .error _ => segment
    | .ok compressedData =>
        if compressedData.length < segment.data.length then
          { segment with
            compressedData := compressedData
            compressedSize := compressedData.length
            compressed := true
            compressionType := "gzip" }
        else
          segment
  else
    segment

namespace DataDomainEngine

variable (engine : DataDomainEngine)

def getNextId : String × DataDomainEngine :=
  (segmentName engine.nextSegmentId,
    { engine with nextSegmentId := engine.nextSegmentId + 1 })

/-- A new segment with one reference, at its address. -/
def createSegment (fingerprint : String) (data : Bytes) :
    Nat × DataDomainEngine :=
  let (segmentId, engine) := engine.getNextId
  let segment : Segment :=
    { segmentId := segmentId
      fingerprint := fingerprint
      data := data
      size := data.length
      refCount := 1 }
  (engine.heap.length,
    { engine with
      heap := engine.heap ++ [segment.tryCompress engine.mode] })

/-- Count another reference to a segment. -/
def addReference (address : Nat) : DataDomainEngine :=
  { engine with
    heap :=
      engine.heap.modify address fun segment =>
        { segment with refCount := int64 (segment.refCount + 1) } }

/-- Store a segment under its name. -/
def storeSegment (address : Nat) : DataDomainEngine :=
  match engine.heap[address]? with
  | none => engine
  | some segment =>
      { engine with
        segments := engine.segments.set segment.segmentId address }

/-- Write the data of a segment to the backend, which never fails. -/
def writeBackend (address : Nat) : DataDomainEngine :=
  match engine.heap[address]? with
  | none => engine
  | some segment =>
      { engine with
        backend :=
          engine.backend.set segment.segmentId
            (if segment.compressed then
              segment.compressedData
            else
              segment.data) }

def indexFingerprint (fingerprint : String) (address : Nat) :
    DataDomainEngine :=
  { engine with
    fingerprints := engine.fingerprints.set fingerprint address }

/-- Add to the statistics. -/
def updateStats (totalBytes uniqueBytes duplicateBytes : ℤ) :
    DataDomainEngine :=
  { engine with
    stats :=
      { totalDataIngested :=
          int64 (engine.stats.totalDataIngested + totalBytes)
        uniqueDataStored :=
          int64 (engine.stats.uniqueDataStored + uniqueBytes)
        duplicateDataFound :=
          int64 (engine.stats.duplicateDataFound + duplicateBytes)
        dedupOperations := int64 (engine.stats.dedupOperations + 1) } }

/-- A reference to the segment at an address. -/
def reference
    (address : Nat) (fingerprint : String) (offset : Nat) (data : Bytes) :
    SegmentReference where
  segmentId := (engine.heap[address]?.map Segment.segmentId).getD ""
  fingerprint := fingerprint
  offset := int64 offset
  length := int64 data.length

/-! ## Reconstruction -/

def loadSegment (segmentId : String) : Except Fault Segment :=
  match
    (engine.segments.get? segmentId).bind fun address =>
      engine.heap[address]? with
  | none => .error (errorf ("segment not found: " ++ segmentId))
  | some segment => .ok segment

/-- The data of referenced segments, joined. -/
def loadSegments : List SegmentReference → Except Fault Bytes
  | [] => .ok []
  | ref :: rest =>
      match engine.loadSegment ref.segmentId with
      | .error fault => .error fault
      | .ok segment =>
          match
            if segment.compressed then
              decompress segment.compressedData
            else
              .ok segment.data with
          | .error fault => .error fault
          | .ok data =>
              match loadSegments rest with
              | .error fault => .error fault
              | .ok joined => .ok (data ++ joined)

/--
The data of a recipe.  The capacity that is made for it is the size of data that
was there, and making it does not fail.
-/
def reconstructData (recipe : RecipeMetadata) : Except Fault Bytes :=
  engine.loadSegments recipe.segmentRefs

/-! ## Garbage collection -/

/-- Remove a fingerprint from the index. -/
def unindex (fingerprint : String) : DataDomainEngine :=
  { engine with fingerprints := engine.fingerprints.erase fingerprint }

/-- Remove a segment from the store. -/
def removeSegment (address : Nat) : DataDomainEngine :=
  match engine.heap[address]? with
  | none => engine
  | some segment =>
      { engine with segments := engine.segments.erase segment.segmentId }

/-- Remove a segment without references, seen under a fingerprint. -/
def collect (fingerprint : String) (address : Nat) : DataDomainEngine :=
  match engine.heap[address]? with
  | none => engine
  | some segment =>
      if segment.refCount = 0 then
        (engine.unindex fingerprint).removeSegment address
      else
        engine

def collectGarbage : DataDomainEngine :=
  engine.fingerprints.items.foldl
    (fun engine item => engine.collect item.1 item.2) engine

end DataDomainEngine

/-! ## Deduplication -/

/-- What a call has recorded so far. -/
structure Progress where
  segmentRefs : List SegmentReference := []
  uniqueBytes : ℤ := 0
  duplicateBytes : ℤ := 0
deriving DecidableEq

/-- Record a segment that was found. -/
def Progress.duplicate
    (progress : Progress) (ref : SegmentReference) (data : Bytes) :
    Progress where
  segmentRefs := progress.segmentRefs ++ [ref]
  uniqueBytes := progress.uniqueBytes
  duplicateBytes := int64 (progress.duplicateBytes + data.length)

/-- Record a segment that was stored. -/
def Progress.unique
    (progress : Progress) (ref : SegmentReference) (data : Bytes) :
    Progress where
  segmentRefs := progress.segmentRefs ++ [ref]
  uniqueBytes := int64 (progress.uniqueBytes + data.length)
  duplicateBytes := progress.duplicateBytes

section Deduplication

variable (sha256 : Bytes → Bytes)

/-- Deduplicate one segment. -/
def DataDomainEngine.deduplicate
    (engine : DataDomainEngine) (progress : Progress) (offset : Nat)
    (data : Bytes) : Progress × DataDomainEngine :=
  let fingerprint := calculateFingerprint sha256 data
  match engine.fingerprints.get? fingerprint with
  | some address =>
      let counted := engine.addReference address
      (progress.duplicate
          (counted.reference address fingerprint offset data) data,
        counted)
  | none =>
      let (address, created) := engine.createSegment fingerprint data
      let stored :=
        ((created.storeSegment address).writeBackend
            address).indexFingerprint
          fingerprint address
      (progress.unique (stored.reference address fingerprint offset data)
          data,
        stored)

/-- Deduplicate segments from an offset on. -/
def DataDomainEngine.deduplicateAll
    (engine : DataDomainEngine) (progress : Progress) (offset : Nat) :
    List Bytes → Progress × DataDomainEngine
  | [] => (progress, engine)
  | data :: rest =>
      let (progress, engine) := engine.deduplicate sha256 progress offset data
      deduplicateAll engine progress (offset + 1) rest

/-- The recipe of data. -/
def recipeOf (objectId : String) (data : Bytes) (progress : Progress) :
    RecipeMetadata where
  objectId := objectId
  totalSize := int64 data.length
  segmentRefs := progress.segmentRefs

def DataDomainEngine.deduplicateAndStore
    (engine : DataDomainEngine) (objectId : String) (data : Bytes) :
    RecipeMetadata × DataDomainEngine :=
  let (progress, engine) :=
    engine.deduplicateAll sha256 {} 0 (chunkData data)
  (recipeOf objectId data progress,
    engine.updateStats (int64 data.length) progress.uniqueBytes
      progress.duplicateBytes)

end Deduplication

end StorageAppliance.Unity
