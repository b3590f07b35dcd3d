import StorageAppliance.Python
import StorageAppliance.Library.Dict

/-!
# File storage backend

Blocks are files (`storage/file_backend.py`).  The file system is a map from
paths to contents, and both paths of a block are determined by its identifier,
so the model keeps one dictionary of data files and one of metadata files, each
keyed by the identifier.  Metadata is written as JSON and read back unchanged.

`writeBlock` and `deleteBlock` are composed of the file operations below them.
Each of these is one wait of the source, which is where another task can run.
-/

namespace StorageAppliance.Storage

open StorageAppliance.Python
open StorageAppliance.Library

/-- Information about a stored block. -/
structure BlockInfo where
  blockId : String
  offset : Nat
  size : Nat
  checksum : String
  compressed : Bool
  deduplicated : Bool
  referenceCount : Nat
deriving DecidableEq, Repr

/-- Counters of the backend. -/
structure BackendStats where
  blocksWritten : Nat := 0
  blocksRead : Nat := 0
  blocksDeleted : Nat := 0
  bytesWritten : Nat := 0
  bytesRead : Nat := 0
deriving DecidableEq, Repr

/-- The data files, the metadata files and the counters. -/
structure FileBackend where
  files : Dict String Bytes := Dict.empty
  metadata : Dict String BlockInfo := Dict.empty
  stats : BackendStats := {}
deriving DecidableEq

namespace FileBackend

/-- Write the data file of a block. -/
def writeFile (self : FileBackend) (blockId : String) (data : Bytes) :
    FileBackend :=
  { self with files := self.files.set blockId data }

/-- Write the metadata file of a block. -/
def writeMetadata (self : FileBackend) (blockId : String)
    (info : BlockInfo) : FileBackend :=
  { self with metadata := self.metadata.set blockId info }

/-- Remove the data file of a block. -/
def removeFile (self : FileBackend) (blockId : String) : FileBackend :=
  { self with files := self.files.erase blockId }

/-- Remove the metadata file of a block. -/
def removeMetadata (self : FileBackend) (blockId : String) : FileBackend :=
  { self with metadata := self.metadata.erase blockId }

/-- Metadata of a block. -/
def getBlockInfo (self : FileBackend) (blockId : String) :
    Option BlockInfo :=
  self.metadata.get? blockId

/-- The metadata of a block written for the first time. -/
def newBlockInfo (platform : Platform) (blockId : String) (data : Bytes) :
    BlockInfo where
  blockId := blockId
  offset := 0
  size := data.length
  checksum := platform.sha256Hex data
  compressed := false
  deduplicated := false
  referenceCount := 1

/-- Count a written block. -/
def recordWritten (self : FileBackend) (data : Bytes) : FileBackend :=
  { self with
    stats :=
      { self.stats with
        blocksWritten := self.stats.blocksWritten + 1
        bytesWritten := self.stats.bytesWritten + data.length } }

/-- Count a removed block. -/
def recordDeleted (self : FileBackend) : FileBackend :=
  { self with
    stats :=
      { self.stats with blocksDeleted := self.stats.blocksDeleted + 1 } }

/-- The metadata `writeBlock` finds for the same identifier and data. -/
def existingInfo (platform : Platform) (self : FileBackend)
    (blockId : String) (data : Bytes) : Option BlockInfo :=
  match self.getBlockInfo blockId with
  | some info =>
      if info.checksum = platform.sha256Hex data then some info else none
  | none => none

/-- Write a block to file storage. -/
def writeBlock (platform : Platform) (self : FileBackend)
    (blockId : String) (data : Bytes) : BlockInfo × FileBackend :=
  match self.existingInfo platform blockId data with
  | some existing =>
      let info :=
        { existing with referenceCount := existing.referenceCount + 1 }
      (info, self.writeMetadata blockId info)
  | none =>
      let info := newBlockInfo platform blockId data
      (info,
        ((self.writeFile blockId data).writeMetadata blockId info).recordWritten
          data)

/-- Read a block from file storage. -/
def readBlock (self : FileBackend) (blockId : String) :
    Except PyException Bytes × FileBackend :=
  match self.files.get? blockId with
  | none => (.error (.keyError ("Block not found: " ++ blockId)), self)
  | some data =>
      (.ok data,
        { self with
          stats :=
            { self.stats with
              blocksRead := self.stats.blocksRead + 1
              bytesRead := self.stats.bytesRead + data.length } })

/-- Drop a reference to a block, removing its files with the last one. -/
def deleteBlock (self : FileBackend) (blockId : String) :
    Bool × FileBackend :=
  match self.getBlockInfo blockId with
  | none => (false, self)
  | some info =>
      if info.referenceCount ≤ 1 then
        match self.files.get? blockId with
        | none => (false, self)
        | some _ =>
            (true,
              ((self.removeFile blockId).removeMetadata blockId).recordDeleted)
      else
        (true,
          self.writeMetadata blockId
            { info with referenceCount := info.referenceCount - 1 })

end FileBackend

open FileBackend

/-! ## Well-formed backends -/

/--
Every block has both files or none, and its metadata counts one reference.
Identifiers are never reused, so no block is ever written twice.
-/
structure FileBackend.WellFormed (backend : FileBackend) : Prop where
  paired :
    ∀ blockId,
      backend.files.get? blockId = none ↔
        backend.metadata.get? blockId = none
  single :
    ∀ blockId info,
      backend.metadata.get? blockId = some info → info.referenceCount = 1

theorem wellFormed_empty : FileBackend.WellFormed {} where
  paired := by
    intro blockId
    simp
  single := by
    intro blockId info found
    simp at found

/-! ## Writing a new block -/

theorem writeBlock_fresh
    (platform : Platform) {self : FileBackend} {blockId : String}
    (data : Bytes)
    (fresh : self.metadata.get? blockId = none) :
    (self.writeBlock platform blockId data).2 =
      ((self.writeFile blockId data).writeMetadata blockId
        (newBlockInfo platform blockId data)).recordWritten data := by
  simp [writeBlock, existingInfo, getBlockInfo, fresh]

theorem FileBackend.WellFormed.write
    (platform : Platform) {self : FileBackend} {blockId : String}
    (data : Bytes)
    (wellFormed : self.WellFormed)
    (fresh : self.metadata.get? blockId = none) :
    (self.writeBlock platform blockId data).2.WellFormed := by
  rw [writeBlock_fresh platform data fresh]
  constructor
  · intro other
    by_cases same : other = blockId
    · subst same
      simp [recordWritten, writeMetadata, writeFile]
    · simpa [recordWritten, writeMetadata, writeFile,
        Dict.get?_set_ne _ _ same] using wellFormed.paired other
  · intro other info found
    by_cases same : other = blockId
    · subst same
      simp only [recordWritten, writeMetadata, writeFile,
        Dict.get?_set_self, Option.some.injEq] at found
      subst found
      rfl
    · simp only [recordWritten, writeMetadata, writeFile,
        Dict.get?_set_ne _ _ same] at found
      exact wellFormed.single other info found

theorem writeBlock_files
    (platform : Platform) {self : FileBackend} {blockId : String}
    (data : Bytes)
    (fresh : self.metadata.get? blockId = none) (other : String) :
    (self.writeBlock platform blockId data).2.files.get? other =
      if other = blockId then some data else self.files.get? other := by
  rw [writeBlock_fresh platform data fresh]
  simp [recordWritten, writeMetadata, writeFile, Dict.get?_set]

/-! ## Deleting a block -/

/-- On a well-formed backend, deleting removes both files of the block. -/
theorem deleteBlock_get?
    {self : FileBackend} (wellFormed : self.WellFormed)
    (blockId other : String) :
    (self.deleteBlock blockId).2.files.get? other =
        (if other = blockId then none else self.files.get? other) ∧
      (self.deleteBlock blockId).2.metadata.get? other =
        (if other = blockId then none else self.metadata.get? other) := by
  cases found : self.metadata.get? blockId with
  | none =>
      have noFile := (wellFormed.paired blockId).mpr found
      have unchanged : (self.deleteBlock blockId).2 = self := by
        simp [deleteBlock, getBlockInfo, found]
      rw [unchanged]
      constructor
      · split
        · rename_i same
          rw [same, noFile]
        · rfl
      · split
        · rename_i same
          rw [same, found]
        · rfl
  | some info =>
      have one := wellFormed.single blockId info found
      have file : ∃ data, self.files.get? blockId = some data := by
        rw [← Option.isSome_iff_exists, ← Option.ne_none_iff_isSome]
        intro noFile
        rw [(wellFormed.paired blockId).mp noFile] at found
        simp at found
      rcases file with ⟨data, fileFound⟩
      have removed :
          (self.deleteBlock blockId).2 =
            ((self.removeFile blockId).removeMetadata
              blockId).recordDeleted := by
        simp [deleteBlock, getBlockInfo, found, one, fileFound]
      rw [removed]
      simp [recordDeleted, removeMetadata, removeFile, Dict.get?_erase]

theorem FileBackend.WellFormed.delete
    {self : FileBackend} (wellFormed : self.WellFormed)
    (blockId : String) :
    (self.deleteBlock blockId).2.WellFormed := by
  constructor
  · intro other
    rw [(deleteBlock_get? wellFormed blockId other).1,
      (deleteBlock_get? wellFormed blockId other).2]
    split
    · simp
    · exact wellFormed.paired other
  · intro other info found
    rw [(deleteBlock_get? wellFormed blockId other).2] at found
    split at found
    · simp at found
    · exact wellFormed.single other info found

end StorageAppliance.Storage
