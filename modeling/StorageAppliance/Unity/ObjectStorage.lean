import StorageAppliance.Go
import StorageAppliance.Library.Dict
import StorageAppliance.Library.Md5

/-!
# Object storage

Objects live in three maps (`ObjectProtocolEngine`): their metadata, their
versions, and their data in a storage pool.  All three are keyed by the bucket
and the key joined with a slash, and the pool holds the parts of multipart
uploads too, under the upload and the part number.

The clock that version numbers are made of and the random bytes that upload
numbers are made of are arguments.  `sort.Slice` is not stable, so the sorting
of parts is an argument as well.  No bucket is given lifecycle rules, so
`applyLifecycleRules` does nothing and is left out, as are fields that no
function reads: dates, tiers, tags and access control.
-/

namespace StorageAppliance.Unity

open StorageAppliance.Go
open StorageAppliance.Library

/-! ## The pool -/

/-- The storage pool. -/
structure UnifiedStoragePool where
  storage : Dict String Bytes := Dict.empty
deriving DecidableEq

namespace UnifiedStoragePool

/-- Allocate space, which is empty. -/
def allocateSpace (self : UnifiedStoragePool) (id : String) :
    UnifiedStoragePool :=
  { self with storage := self.storage.set id [] }

/-- Write data. -/
def writeWithServices (self : UnifiedStoragePool) (id : String)
    (data : Bytes) : UnifiedStoragePool :=
  { self with storage := self.storage.set id data }

/-- Read data into a buffer. -/
def readWithServices (self : UnifiedStoragePool) (id : String)
    (buffer : Bytes) : Except Fault Bytes :=
  match self.storage.get? id with
  | none => .error (errorf ("storage ID not found: " ++ id))
  | some stored => .ok (copy buffer stored)

/-- Reclaim space. -/
def reclaimSpace (self : UnifiedStoragePool) (id : String) :
    UnifiedStoragePool :=
  { self with storage := self.storage.erase id }

end UnifiedStoragePool

/-! ## Objects -/

/-- A bucket. -/
structure Bucket where
  name : String
  versioningEnabled : Bool
deriving DecidableEq

/-- What is known about an object. -/
structure ObjectMetadata where
  key : String
  bucket : String
  versionId : String := ""
  size : ℤ
  etag : String
  contentType : String
  storageId : String
  storageOffset : Nat := 0
deriving DecidableEq

/-- A version of an object; a delete marker has no metadata. -/
structure ObjectVersion where
  versionId : String
  metadata : Option ObjectMetadata
  isLatest : Bool
  isDeleteMarker : Bool
deriving DecidableEq

/-- A part of a multipart upload. -/
structure PartInfo where
  partNumber : ℤ
  etag : String
  size : ℤ
deriving DecidableEq

/-- A multipart upload. -/
structure MultipartUpload where
  uploadId : String
  bucket : String
  key : String
  parts : Dict ℤ PartInfo := Dict.empty
deriving DecidableEq

/-- The storage engine. -/
structure ObjectProtocolEngine where
  pool : UnifiedStoragePool := {}
  buckets : Dict String Bucket := Dict.empty
  objects : Dict String ObjectMetadata := Dict.empty
  uploads : Dict String MultipartUpload := Dict.empty
  versions : Dict String (List ObjectVersion) := Dict.empty
deriving DecidableEq

/-- The name of an object in the maps. -/
def objectId (bucket key : String) : String :=
  bucket ++ "/" ++ key

/-- The name of a part in the pool. -/
def partId (uploadId : String) (partNumber : ℤ) : String :=
  uploadId ++ "/part-" ++ decimal partNumber

/-- The checksum of an object. -/
def md5Hex (data : Bytes) : String :=
  hexEncode (Md5.sum data)

def getContentType (metadata : Dict String String) : String :=
  (metadata.get? "Content-Type").getD "application/octet-stream"

def generateVersionId (now : ℤ) : String :=
  decimal now

def generateUploadId (random : Bytes) : String :=
  hexEncode random

namespace ObjectProtocolEngine

variable (self : ObjectProtocolEngine)

/-- Create a bucket. -/
def createBucket (name : String) (versioningEnabled : Bool) :
    Except Fault Unit × ObjectProtocolEngine :=
  match self.buckets.get? name with
  | some _ => (.error (errorf ("bucket already exists: " ++ name)), self)
  | none =>
      (.ok (),
        { self with
          buckets :=
            self.buckets.set name
              { name := name, versioningEnabled := versioningEnabled } })

/-- Delete a bucket, but not its objects. -/
def deleteBucket (name : String) :
    Except Fault Unit × ObjectProtocolEngine :=
  match self.buckets.get? name with
  | none => (.error (errorf "bucket not found"), self)
  | some _ => (.ok (), { self with buckets := self.buckets.erase name })

/-! ## Steps of putting and deleting -/

/-- Allocate space for an object. -/
def allocate (id : String) : ObjectProtocolEngine :=
  { self with pool := self.pool.allocateSpace id }

/-- Write the data of an object. -/
def write (id : String) (data : Bytes) : ObjectProtocolEngine :=
  { self with pool := self.pool.writeWithServices id data }

/-- Add a version that is the latest. -/
def addVersion (id : String) (version : ObjectVersion) :
    ObjectProtocolEngine :=
  let versions := (self.versions.get? id).getD []
  { self with
    versions :=
      self.versions.set id
        (versions.map (fun version => { version with isLatest := false }) ++
          [version]) }

/-- Store the metadata of an object. -/
def storeMetadata (id : String) (metadata : ObjectMetadata) :
    ObjectProtocolEngine :=
  { self with objects := self.objects.set id metadata }

/-- Delete the metadata of an object. -/
def deleteMetadata (id : String) : ObjectProtocolEngine :=
  { self with objects := self.objects.erase id }

/-- Reclaim the space of some data. -/
def reclaim (id : String) : ObjectProtocolEngine :=
  { self with pool := self.pool.reclaimSpace id }

/-! ## Operations -/

/-- The metadata of an object that is put. -/
def describe (bucket key : String) (data : Bytes) (size : ℤ)
    (metadata : Dict String String) : ObjectMetadata where
  key := key
  bucket := bucket
  size := size
  etag := md5Hex data
  contentType := getContentType metadata
  storageId := objectId bucket key

/-- Put an object. -/
def putObject (bucket key : String) (reader : Reader) (size : ℤ)
    (metadata : Dict String String) (now : ℤ) :
    Except Fault ObjectMetadata × ObjectProtocolEngine :=
  match self.buckets.get? bucket with
  | none => (.error (errorf ("bucket not found: " ++ bucket)), self)
  | some found =>
      match reader.readData size with
      | .error fault => (.error fault, self)
      | .ok data =>
          let id := objectId bucket key
          let written := (self.allocate id).write id data
          let objMeta := describe bucket key data size metadata
          if found.versioningEnabled then
            let versionId := generateVersionId now
            let objMeta := { objMeta with versionId := versionId }
            let versioned :=
              written.addVersion id
                { versionId := versionId
                  metadata := some objMeta
                  isLatest := true
                  isDeleteMarker := false }
            (.ok objMeta, versioned.storeMetadata id objMeta)
          else
            (.ok objMeta, written.storeMetadata id objMeta)

/-- The metadata of a version, or that of the object. -/
def findVersion (id versionId : String) (objMeta : ObjectMetadata) :
    Option ObjectMetadata :=
  if versionId ≠ "" ∧ objMeta.versionId ≠ versionId then
    match
      ((self.versions.get? id).getD []).find? fun version =>
        version.versionId = versionId with
    | some version => version.metadata
    | none => some objMeta
  else
    some objMeta

/-- Read the data of an object and verify its checksum. -/
def readVerified (objMeta : ObjectMetadata) : Except Fault Bytes :=
  match makeSlice objMeta.size with
  | .error fault => .error fault
  | .ok size =>
      match self.pool.readWithServices objMeta.storageId (zeros size) with
      | .error fault => .error fault
      | .ok data =>
          if md5Hex data = objMeta.etag then
            .ok data
          else
            .error (errorf "checksum mismatch")

/-- Get an object. -/
def getObject (bucket key versionId : String) :
    Except Fault (Bytes × ObjectMetadata) :=
  let id := objectId bucket key
  match self.objects.get? id with
  | none => .error (errorf "object not found")
  | some objMeta =>
      match self.findVersion id versionId objMeta with
      | none =>
          .error
            (.panic "invalid memory address or nil pointer dereference")
      | some objMeta =>
          match self.readVerified objMeta with
          | .error fault => .error fault
          | .ok data => .ok (data, objMeta)

/-- Delete an object, or add a delete marker; the version is not used. -/
def deleteObject (bucket key _versionId : String) (now : ℤ) :
    Except Fault Unit × ObjectProtocolEngine :=
  match self.buckets.get? bucket with
  | none => (.error (errorf "bucket not found"), self)
  | some found =>
      let id := objectId bucket key
      if found.versioningEnabled then
        (.ok (),
          self.addVersion id
            { versionId := generateVersionId now
              metadata := none
              isLatest := true
              isDeleteMarker := true })
      else
        match self.objects.get? id with
        | none => (.ok (), self.deleteMetadata id)
        | some objMeta =>
            (.ok (),
              (self.deleteMetadata id).reclaim objMeta.storageId)

/-- Initiate a multipart upload. -/
def initiateMultipartUpload (bucket key : String) (random : Bytes) :
    String × ObjectProtocolEngine :=
  let uploadId := generateUploadId random
  (uploadId,
    { self with
      uploads :=
        self.uploads.set uploadId
          { uploadId := uploadId, bucket := bucket, key := key } })

/-- Upload a part; bucket and key are not used. -/
def uploadPart (_bucket _key uploadId : String) (partNumber : ℤ)
    (reader : Reader) (size : ℤ) :
    Except Fault PartInfo × ObjectProtocolEngine :=
  match self.uploads.get? uploadId with
  | none => (.error (errorf "upload not found"), self)
  | some upload =>
      match reader.readData size with
      | .error fault => (.error fault, self)
      | .ok data =>
          let id := partId uploadId partNumber
          let written := (self.allocate id).write id data
          let partInfo : PartInfo :=
            { partNumber := partNumber
              etag := md5Hex data
              size := size }
          (.ok partInfo,
            { written with
              uploads :=
                written.uploads.set uploadId
                  { upload with
                    parts := upload.parts.set partNumber partInfo } })

/-- The data of parts, joined. -/
def readParts (uploadId : String) : List PartInfo → Except Fault Bytes
  | [] => .ok []
  | part :: rest =>
      match makeSlice part.size with
      | .error fault => .error fault
      | .ok size =>
          match
            self.pool.readWithServices (partId uploadId part.partNumber)
              (zeros size) with
          | .error fault => .error fault
          | .ok data =>
              match readParts uploadId rest with
              | .error fault => .error fault
              | .ok joined => .ok (data ++ joined)

/-- Complete a multipart upload. -/
def completeMultipartUpload
    (sortParts : List PartInfo → List PartInfo)
    (bucket key uploadId : String) (parts : List PartInfo) (now : ℤ) :
    Except Fault ObjectMetadata × ObjectProtocolEngine :=
  match self.uploads.get? uploadId with
  | none => (.error (errorf "upload not found"), self)
  | some _ =>
      let sorted := sortParts parts
      match self.readParts uploadId sorted with
      | .error fault => (.error fault, self)
      | .ok joined =>
          let totalSize :=
            sorted.foldl (fun total part => int64 (total + part.size)) 0
          match
            self.putObject bucket key { bytes := joined } totalSize
              Dict.empty now with
          | (.error fault, failed) => (.error fault, failed)
          | (.ok objMeta, put) =>
              let completed :=
                { put with uploads := put.uploads.erase uploadId }
              (.ok objMeta,
                sorted.foldl
                  (fun engine part =>
                    engine.reclaim (partId uploadId part.partNumber))
                  completed)

end ObjectProtocolEngine

/-- A request to the engine, with what the platform supplies for it. -/
inductive Request where
  | createBucket (name : String) (versioningEnabled : Bool)
  | deleteBucket (name : String)
  | putObject (bucket key : String) (reader : Reader) (size : ℤ)
      (metadata : Dict String String) (now : ℤ)
  | deleteObject (bucket key versionId : String) (now : ℤ)
  | initiateMultipartUpload (bucket key : String) (random : Bytes)
  | uploadPart (bucket key uploadId : String) (partNumber : ℤ)
      (reader : Reader) (size : ℤ)
  | completeMultipartUpload (bucket key uploadId : String)
      (parts : List PartInfo) (now : ℤ)

/-- Serve a request. -/
def ObjectProtocolEngine.serve
    (sortParts : List PartInfo → List PartInfo)
    (self : ObjectProtocolEngine) : Request → ObjectProtocolEngine
  | .createBucket name versioningEnabled =>
      (self.createBucket name versioningEnabled).2
  | .deleteBucket name => (self.deleteBucket name).2
  | .putObject bucket key reader size metadata now =>
      (self.putObject bucket key reader size metadata now).2
  | .deleteObject bucket key versionId now =>
      (self.deleteObject bucket key versionId now).2
  | .initiateMultipartUpload bucket key random =>
      (self.initiateMultipartUpload bucket key random).2
  | .uploadPart bucket key uploadId partNumber reader size =>
      (self.uploadPart bucket key uploadId partNumber reader size).2
  | .completeMultipartUpload bucket key uploadId parts now =>
      (self.completeMultipartUpload sortParts bucket key uploadId parts
        now).2

/-! ## What is read -/

/-- What a buffer of a given length holds after data is read into it. -/
def fitted (length : Nat) (stored : Bytes) : Bytes :=
  copy (zeros length) stored

theorem fitted_self (data : Bytes) : fitted data.length data = data := by
  apply copy_of_length
  rw [zeros, List.length_replicate]

theorem length_fitted (length : Nat) (stored : Bytes) :
    (fitted length stored).length = length := by
  rw [fitted, copy, List.length_append, List.length_take,
    List.length_drop, zeros, List.length_replicate]
  omega

section Reading

variable
    {engine : ObjectProtocolEngine}
    {bucket key : String}
    {data : Bytes}

theorem readVerified_ok_iff {objMeta : ObjectMetadata} :
    engine.readVerified objMeta = .ok data ↔
      ∃ size stored,
        makeSlice objMeta.size = .ok size ∧
          engine.pool.storage.get? objMeta.storageId = some stored ∧
          data = fitted size stored ∧ md5Hex data = objMeta.etag := by
  rw [ObjectProtocolEngine.readVerified]
  cases makeSlice objMeta.size with
  | error fault => simp
  | ok size =>
      simp only [UnifiedStoragePool.readWithServices]
      cases engine.pool.storage.get? objMeta.storageId with
      | none => simp
      | some stored =>
          simp only [Except.ok.injEq, Option.some.injEq]
          split
          · rename_i verified
            constructor
            · intro read
              cases read
              exact ⟨size, stored, rfl, rfl, rfl, verified⟩
            · rintro ⟨_, _, rfl, rfl, rfl, _⟩
              rfl
          · rename_i verified
            constructor
            · intro read
              cases read
            · rintro ⟨_, _, rfl, rfl, rfl, checked⟩
              exact absurd checked verified

/-- What is read of an object with the metadata of some data. -/
theorem readVerified_described_iff
    {objMeta : ObjectMetadata} {described stored : Bytes}
    (size : makeSlice objMeta.size = .ok described.length)
    (etag : objMeta.etag = md5Hex described)
    (pooled :
      engine.pool.storage.get? objMeta.storageId = some stored) :
    engine.readVerified objMeta = .ok data ↔
      data = fitted described.length stored ∧
        md5Hex data = md5Hex described := by
  rw [readVerified_ok_iff, size, pooled, etag]
  constructor
  · rintro ⟨length, found, sized, same, fits, checked⟩
    cases sized
    cases same
    exact ⟨fits, checked⟩
  · rintro ⟨fits, checked⟩
    exact ⟨_, _, rfl, rfl, fits, checked⟩

/-- The object of a pair is read as some data. -/
def Reads (engine : ObjectProtocolEngine) (bucket key : String)
    (data : Bytes) : Prop :=
  ∃ objMeta, engine.getObject bucket key "" = .ok (data, objMeta)

theorem reads_iff :
    Reads engine bucket key data ↔
      ∃ objMeta,
        engine.objects.get? (objectId bucket key) = some objMeta ∧
          engine.readVerified objMeta = .ok data := by
  rw [Reads]
  simp only [ObjectProtocolEngine.getObject]
  cases engine.objects.get? (objectId bucket key) with
  | none => simp
  | some objMeta =>
      simp only [ObjectProtocolEngine.findVersion, ne_eq,
        not_true_eq_false, false_and, if_false, Option.some.injEq]
      cases verified : engine.readVerified objMeta with
      | error fault => simp [verified]
      | ok read =>
          constructor
          · rintro ⟨other, returned⟩
            cases returned
            exact ⟨objMeta, rfl, verified⟩
          · rintro ⟨_, rfl, returned⟩
            rw [verified] at returned
            cases returned
            exact ⟨objMeta, rfl⟩

/-- A get of the current object fails if nothing is read. -/
theorem getObject_error_iff :
    (∃ fault, engine.getObject bucket key "" = .error fault) ↔
      ∀ data, ¬ Reads engine bucket key data := by
  cases read : engine.getObject bucket key "" with
  | error fault => simp [Reads, read]
  | ok result =>
      constructor
      · rintro ⟨fault, failed⟩
        cases failed
      · intro none
        exact absurd ⟨result.2, read⟩ (none result.1)

end Reading

/-! ## What the operations do -/

/-- The data that a put to a bucket would store. -/
def Supplies (engine : ObjectProtocolEngine) (bucket : String)
    (reader : Reader) (size : ℤ) (data : Bytes) : Prop :=
  engine.buckets.get? bucket ≠ none ∧ reader.readData size = .ok data

/-- What a put leaves behind. -/
structure Stored (before : ObjectProtocolEngine) (id : String)
    (data : Bytes) (objMeta : ObjectMetadata)
    (after : ObjectProtocolEngine) : Prop where
  buckets : after.buckets = before.buckets
  uploads : after.uploads = before.uploads
  objects : after.objects = before.objects.set id objMeta
  pool :
    ∀ other,
      after.pool.storage.get? other =
        if other = id then some data else before.pool.storage.get? other
  storageId : objMeta.storageId = id
  etag : objMeta.etag = md5Hex data
  size : makeSlice objMeta.size = .ok data.length

/-- A bucket with versions. -/
def Versioning (engine : ObjectProtocolEngine) (bucket : String) : Prop :=
  ∃ found,
    engine.buckets.get? bucket = some found ∧
      found.versioningEnabled = true

section Operations

variable
    {engine : ObjectProtocolEngine}
    {bucket key : String}
    {reader : Reader}
    {size : ℤ}
    {data : Bytes}

theorem get?_write (id other : String) :
    ((engine.allocate id).write id data).pool.storage.get? other =
      if other = id then
        some data
      else
        engine.pool.storage.get? other := by
  change ((engine.pool.storage.set id []).set id data).get? other = _
  rw [Dict.get?_set, Dict.get?_set]
  split
  · rfl
  · rfl

theorem putObject_stored
    (supplied : Supplies engine bucket reader size data)
    (metadata : Dict String String) (now : ℤ) :
    ∃ objMeta,
      (engine.putObject bucket key reader size metadata now).1 =
          .ok objMeta ∧
        Stored engine (objectId bucket key) data objMeta
          (engine.putObject bucket key reader size metadata now).2 := by
  rcases supplied with ⟨present, read⟩
  rcases Option.ne_none_iff_exists'.mp present with ⟨found, bucket_eq⟩
  have made := Reader.readData_ok read
  simp only [ObjectProtocolEngine.putObject, bucket_eq, read]
  split
  · exact ⟨_, rfl, rfl, rfl, rfl, get?_write _, rfl, rfl, made⟩
  · exact ⟨_, rfl, rfl, rfl, rfl, get?_write _, rfl, rfl, made⟩

/-- A put that has no data to store fails and changes nothing. -/
theorem putObject_failed
    (none : ∀ data, ¬ Supplies engine bucket reader size data)
    (metadata : Dict String String) (now : ℤ) :
    ∃ fault,
      engine.putObject bucket key reader size metadata now =
        (.error fault, engine) := by
  rw [ObjectProtocolEngine.putObject]
  cases found : engine.buckets.get? bucket with
  | none => exact ⟨_, rfl⟩
  | some bucket' =>
      cases read : reader.readData size with
      | error fault => exact ⟨_, rfl⟩
      | ok data =>
          have present : engine.buckets.get? bucket ≠ Option.none := by
            rw [found]
            simp
          exact absurd ⟨present, read⟩ (none data)

/-- After a put the object is read under every pair of the same name. -/
theorem Stored.reads
    {after : ObjectProtocolEngine} {id : String}
    {objMeta : ObjectMetadata}
    (stored : Stored engine id data objMeta after)
    (same : objectId bucket key = id) (other : Bytes) :
    Reads after bucket key other ↔ other = data := by
  have pooled :
      after.pool.storage.get? objMeta.storageId = some data := by
    rw [stored.storageId, stored.pool, if_pos rfl]
  rw [reads_iff, same, stored.objects, Dict.get?_set_self]
  simp only [Option.some.injEq, exists_eq_left',
    readVerified_described_iff stored.size stored.etag pooled,
    fitted_self]
  constructor
  · exact And.left
  · rintro rfl
    exact ⟨rfl, rfl⟩

/-- Creating a bucket leaves objects and data alone. -/
theorem createBucket_frame
    (engine : ObjectProtocolEngine) (name : String)
    (versioningEnabled : Bool) :
    (engine.createBucket name versioningEnabled).2.objects =
        engine.objects ∧
      (engine.createBucket name versioningEnabled).2.pool =
        engine.pool := by
  rw [ObjectProtocolEngine.createBucket]
  split
  · exact ⟨rfl, rfl⟩
  · exact ⟨rfl, rfl⟩

/-- A delete in a bucket that is not there changes nothing. -/
theorem deleteObject_missing
    (missing : engine.buckets.get? bucket = none)
    (key versionId : String) (now : ℤ) :
    engine.deleteObject bucket key versionId now =
      (.error (errorf "bucket not found"), engine) := by
  simp only [ObjectProtocolEngine.deleteObject, missing]

/-- What a delete in a bucket with versions does. -/
theorem deleteObject_versioned
    (versioning : Versioning engine bucket) (versionId : String)
    (now : ℤ) :
    engine.deleteObject bucket key versionId now =
      (.ok (),
        engine.addVersion (objectId bucket key)
          { versionId := generateVersionId now
            metadata := none
            isLatest := true
            isDeleteMarker := true }) := by
  rcases versioning with ⟨found, present, enabled⟩
  simp only [ObjectProtocolEngine.deleteObject, present, enabled, if_true]

/-- What a delete in a bucket without versions leaves behind. -/
theorem deleteObject_unversioned
    {found : Bucket}
    (present : engine.buckets.get? bucket = some found)
    (unversioned : found.versioningEnabled = false)
    (key versionId : String) (now : ℤ) :
    (engine.deleteObject bucket key versionId now).1 = .ok () ∧
      (engine.deleteObject bucket key versionId now).2.buckets =
        engine.buckets ∧
      (engine.deleteObject bucket key versionId now).2.objects =
        engine.objects.erase (objectId bucket key) ∧
      ∀ id,
        (∀ objMeta,
          engine.objects.get? (objectId bucket key) = some objMeta →
            objMeta.storageId ≠ id) →
          (engine.deleteObject bucket key versionId
              now).2.pool.storage.get? id =
            engine.pool.storage.get? id := by
  simp only [ObjectProtocolEngine.deleteObject, present, unversioned,
    Bool.false_eq_true, if_false]
  cases object : engine.objects.get? (objectId bucket key) with
  | none => exact ⟨rfl, rfl, rfl, fun _ _ => rfl⟩
  | some objMeta =>
      refine ⟨rfl, rfl, rfl, ?_⟩
      intro id apart
      exact Dict.get?_erase_ne _ (apart objMeta rfl).symm

/-- What an uploaded part leaves behind. -/
theorem uploadPart_written
    {uploadId : String}
    (initiated : engine.uploads.get? uploadId ≠ none)
    (read : reader.readData size = .ok data)
    (bucket key : String) (partNumber : ℤ) :
    (engine.uploadPart bucket key uploadId partNumber reader
          size).2.buckets = engine.buckets ∧
      (engine.uploadPart bucket key uploadId partNumber reader
          size).2.objects = engine.objects ∧
      ∀ id,
        (engine.uploadPart bucket key uploadId partNumber reader
            size).2.pool.storage.get? id =
          if id = partId uploadId partNumber then
            some data
          else
            engine.pool.storage.get? id := by
  rcases Option.ne_none_iff_exists'.mp initiated with ⟨upload, found⟩
  simp only [ObjectProtocolEngine.uploadPart, found, read]
  exact ⟨rfl, rfl, get?_write _⟩

theorem uploadPart_failed
    {uploadId : String}
    (none :
      ∀ data,
        engine.uploads.get? uploadId ≠ none →
          reader.readData size ≠ .ok data)
    (bucket key : String) (partNumber : ℤ) :
    (engine.uploadPart bucket key uploadId partNumber reader size).2 =
      engine := by
  rw [ObjectProtocolEngine.uploadPart]
  cases found : engine.uploads.get? uploadId with
  | none => rfl
  | some upload =>
      cases read : reader.readData size with
      | error fault => rfl
      | ok data =>
          refine absurd read (none data ?_)
          rw [found]
          simp

end Operations

end StorageAppliance.Unity
