import StorageAppliance.Library.Run
import StorageAppliance.Unity.ObjectStorage

/-!
# The catalog

The catalog of an engine is what it knows without looking into the pool: the
buckets, the current objects and the versions.  A request creates or deletes a
bucket, puts an object, deletes one or leaves the catalog alone (`CatalogStep`).
A completed upload is a put, and the uploads and parts before it leave the
catalog alone.
-/

namespace StorageAppliance.Unity

open StorageAppliance.Go
open StorageAppliance.Library

/-- Buckets, objects and versions. -/
structure Catalog where
  buckets : Dict String Bucket
  objects : Dict String ObjectMetadata
  versions : Dict String (List ObjectVersion)
deriving DecidableEq

def ObjectProtocolEngine.catalog (self : ObjectProtocolEngine) :
    Catalog where
  buckets := self.buckets
  objects := self.objects
  versions := self.versions

/-- A call that has put or deleted an object, and the version it is about. -/
structure CatalogCall where
  bucket : String
  key : String
  versionId : String
  metadata : Option ObjectMetadata
deriving DecidableEq

/-- What is put under a name. -/
def putCall (bucket key : String) :
    Except Fault ObjectMetadata → List CatalogCall
  | .error _ => []
  | .ok objMeta => [⟨bucket, key, objMeta.versionId, some objMeta⟩]

/-- What is deleted under a name. -/
def deleteCall (bucket key : String) (now : ℤ) :
    Except Fault Unit → List CatalogCall
  | .error _ => []
  | .ok () => [⟨bucket, key, generateVersionId now, none⟩]

/-- What a request puts or deletes, if it returns no error. -/
def Request.performed
    (sortParts : List PartInfo → List PartInfo)
    (engine : ObjectProtocolEngine) : Request → List CatalogCall
  | .createBucket _ _ => []
  | .deleteBucket _ => []
  | .putObject bucket key reader size metadata now =>
      putCall bucket key
        (engine.putObject bucket key reader size metadata now).1
  | .deleteObject bucket key versionId now =>
      deleteCall bucket key now
        (engine.deleteObject bucket key versionId now).1
  | .initiateMultipartUpload _ _ _ => []
  | .uploadPart _ _ _ _ _ _ => []
  | .completeMultipartUpload bucket key uploadId parts now =>
      putCall bucket key
        (engine.completeMultipartUpload sortParts bucket key uploadId parts
          now).1

/-- The metadata of an object that was put to a bucket. -/
structure Described (found : Bucket) (bucket key : String)
    (objMeta : ObjectMetadata) : Prop where
  storageId : objMeta.storageId = objectId bucket key
  size : ∃ length, makeSlice objMeta.size = .ok length
  numbered : found.versioningEnabled = true ↔ objMeta.versionId ≠ ""
  key : objMeta.key = key
  bucket : objMeta.bucket = bucket

/-- The version of an object that was put. -/
def putVersion (objMeta : ObjectMetadata) : ObjectVersion where
  versionId := objMeta.versionId
  metadata := some objMeta
  isLatest := true
  isDeleteMarker := false

def deleteMarker (versionId : String) : ObjectVersion where
  versionId := versionId
  metadata := none
  isLatest := true
  isDeleteMarker := true

/-- The catalog after a put to a bucket. -/
def ObjectProtocolEngine.putCatalog
    (self : ObjectProtocolEngine) (found : Bucket) (id : String)
    (objMeta : ObjectMetadata) : Catalog :=
  if found.versioningEnabled then
    ((self.addVersion id (putVersion objMeta)).storeMetadata id
      objMeta).catalog
  else
    (self.storeMetadata id objMeta).catalog

/-- The catalog after a delete in a bucket. -/
def ObjectProtocolEngine.deleteCatalog
    (self : ObjectProtocolEngine) (found : Bucket) (id versionId : String) :
    Catalog :=
  if found.versioningEnabled then
    (self.addVersion id (deleteMarker versionId)).catalog
  else
    (self.deleteMetadata id).catalog

/-- What a request can do to the catalog, and what it has performed then. -/
inductive CatalogStep (engine : ObjectProtocolEngine) (request : Request)
    (after : ObjectProtocolEngine) : List CatalogCall → Prop
  | same (unchanged : after.catalog = engine.catalog) :
      CatalogStep engine request after []
  | createBucket (name : String) (versioningEnabled : Bool)
      (requested : request = .createBucket name versioningEnabled)
      (absent : engine.buckets.get? name = none)
      (created :
        after.catalog =
          { engine.catalog with
            buckets :=
              engine.buckets.set name
                { name := name
                  versioningEnabled := versioningEnabled } }) :
      CatalogStep engine request after []
  | deleteBucket (name : String) (requested : request = .deleteBucket name)
      (deleted :
        after.catalog =
          { engine.catalog with buckets := engine.buckets.erase name }) :
      CatalogStep engine request after []
  | put (found : Bucket) (bucket key : String) (objMeta : ObjectMetadata)
      (present : engine.buckets.get? bucket = some found)
      (described : Described found bucket key objMeta)
      (stored :
        after.catalog =
          engine.putCatalog found (objectId bucket key) objMeta) :
      CatalogStep engine request after
        [⟨bucket, key, objMeta.versionId, some objMeta⟩]
  | delete (found : Bucket) (bucket key versionId : String)
      (present : engine.buckets.get? bucket = some found)
      (deleted :
        after.catalog =
          engine.deleteCatalog found (objectId bucket key) versionId) :
      CatalogStep engine request after [⟨bucket, key, versionId, none⟩]

section Steps

variable
    {sortParts : List PartInfo → List PartInfo}
    {engine : ObjectProtocolEngine}
    {bucket key : String}

theorem putCatalog_buckets
    (found : Bucket) (id : String) (objMeta : ObjectMetadata) :
    (engine.putCatalog found id objMeta).buckets = engine.buckets := by
  rw [ObjectProtocolEngine.putCatalog]
  split <;> rfl

theorem deleteCatalog_buckets
    (found : Bucket) (id versionId : String) :
    (engine.deleteCatalog found id versionId).buckets = engine.buckets := by
  rw [ObjectProtocolEngine.deleteCatalog]
  split <;> rfl

/-- A put fails, or it describes an object and stores it. -/
theorem putObject_catalog
    (reader : Reader) (size : ℤ) (metadata : Dict String String)
    (now : ℤ) :
    (∃ fault,
        engine.putObject bucket key reader size metadata now =
          (.error fault, engine)) ∨
      ∃ found objMeta,
        engine.buckets.get? bucket = some found ∧
          Described found bucket key objMeta ∧
          (engine.putObject bucket key reader size metadata now).1 =
            .ok objMeta ∧
          (engine.putObject bucket key reader size metadata
              now).2.catalog =
            engine.putCatalog found (objectId bucket key) objMeta := by
  cases found : engine.buckets.get? bucket with
  | none =>
      simp only [ObjectProtocolEngine.putObject, found]
      exact Or.inl ⟨_, rfl⟩
  | some present =>
      cases read : reader.readData size with
      | error fault =>
          simp only [ObjectProtocolEngine.putObject, found, read]
          exact Or.inl ⟨_, rfl⟩
      | ok data =>
          right
          have length := Reader.readData_ok read
          simp only [ObjectProtocolEngine.putObject, found, read]
          cases versioning : present.versioningEnabled with
          | true =>
              refine ⟨present, _, rfl, ?_, rfl, ?_⟩
              · exact
                  ⟨rfl, ⟨_, length⟩,
                    iff_of_true versioning (decimal_ne_empty now), rfl, rfl⟩
              · rw [ObjectProtocolEngine.putCatalog, if_pos versioning]
                rfl
          | false =>
              have without : ¬ present.versioningEnabled = true := by
                rw [versioning]
                exact Bool.false_ne_true
              refine ⟨present, _, rfl, ?_, rfl, ?_⟩
              · exact
                  ⟨rfl, ⟨_, length⟩,
                    iff_of_false without fun named => named rfl, rfl, rfl⟩
              · rw [ObjectProtocolEngine.putCatalog, if_neg without]
                rfl

theorem catalogStep_putObject
    {request : Request} (reader : Reader) (size : ℤ)
    (metadata : Dict String String) (now : ℤ) :
    CatalogStep engine request
      (engine.putObject bucket key reader size metadata now).2
      (putCall bucket key
        (engine.putObject bucket key reader size metadata now).1) := by
  rcases @putObject_catalog engine bucket key reader size metadata now with
    ⟨fault, failed⟩ | ⟨found, objMeta, present, described, answer, stored⟩
  · rw [failed]
    exact .same rfl
  · rw [answer]
    exact .put found bucket key objMeta present described stored

theorem catalogStep_deleteObject
    {request : Request} (versionId : String) (now : ℤ) :
    CatalogStep engine request
      (engine.deleteObject bucket key versionId now).2
      (deleteCall bucket key now
        (engine.deleteObject bucket key versionId now).1) := by
  cases present : engine.buckets.get? bucket with
  | none =>
      rw [deleteObject_missing present]
      exact .same rfl
  | some found =>
      cases versioning : found.versioningEnabled with
      | true =>
          rw [deleteObject_versioned ⟨found, present, versioning⟩]
          apply CatalogStep.delete found bucket key _ present
          rw [ObjectProtocolEngine.deleteCatalog, if_pos versioning]
          rfl
      | false =>
          have deleted :
              engine.deleteCatalog found (objectId bucket key)
                  (generateVersionId now) =
                (engine.deleteMetadata (objectId bucket key)).catalog := by
            rw [ObjectProtocolEngine.deleteCatalog, if_neg]
            rw [versioning]
            exact Bool.false_ne_true
          simp only [ObjectProtocolEngine.deleteObject, present, versioning,
            Bool.false_eq_true, if_false]
          cases engine.objects.get? (objectId bucket key) with
          | none => exact .delete found bucket key _ present deleted.symm
          | some objMeta =>
              exact .delete found bucket key _ present deleted.symm

/-- Reclaiming parts leaves the catalog alone. -/
theorem catalog_foldl_reclaim
    (ids : List String) (engine : ObjectProtocolEngine) :
    (ids.foldl ObjectProtocolEngine.reclaim engine).catalog =
      engine.catalog := by
  induction ids generalizing engine with
  | nil => rfl
  | cons id rest induction => exact induction (engine.reclaim id)

/-- A completed upload is a put; one that fails changes nothing. -/
theorem completeMultipartUpload_catalog
    (uploadId : String) (parts : List PartInfo) (now : ℤ) :
    (∃ fault,
        engine.completeMultipartUpload sortParts bucket key uploadId parts
            now =
          (.error fault, engine)) ∨
      ∃ reader size,
        (engine.completeMultipartUpload sortParts bucket key uploadId parts
              now).1 =
            (engine.putObject bucket key reader size Dict.empty now).1 ∧
          (engine.completeMultipartUpload sortParts bucket key uploadId
              parts now).2.catalog =
            (engine.putObject bucket key reader size Dict.empty
              now).2.catalog := by
  simp only [ObjectProtocolEngine.completeMultipartUpload]
  cases engine.uploads.get? uploadId with
  | none => exact Or.inl ⟨_, rfl⟩
  | some upload =>
      cases engine.readParts uploadId (sortParts parts) with
      | error fault => exact Or.inl ⟨_, rfl⟩
      | ok joined =>
          refine
            Or.inr
              ⟨{ bytes := joined },
                (sortParts parts).foldl
                  (fun total part => int64 (total + part.size)) 0,
                ?_⟩
          simp only
          generalize
            engine.putObject bucket key { bytes := joined }
              ((sortParts parts).foldl
                (fun total part => int64 (total + part.size)) 0)
              Dict.empty now = put
          rcases put with ⟨answer, stored⟩
          cases answer with
          | error fault => exact ⟨rfl, rfl⟩
          | ok objMeta =>
              refine ⟨rfl, ?_⟩
              have folded :=
                catalog_foldl_reclaim
                  ((sortParts parts).map fun part =>
                    partId uploadId part.partNumber)
                  { stored with uploads := stored.uploads.erase uploadId }
              rw [List.foldl_map] at folded
              exact folded

/-- Every request makes a step of the catalog. -/
theorem serve_catalogStep (request : Request) :
    CatalogStep engine request (engine.serve sortParts request)
      (request.performed sortParts engine) := by
  cases request with
  | createBucket name versioningEnabled =>
      simp only [ObjectProtocolEngine.serve,
        ObjectProtocolEngine.createBucket, Request.performed]
      cases found : engine.buckets.get? name with
      | some present => exact .same rfl
      | none => exact .createBucket name versioningEnabled rfl found rfl
  | deleteBucket name =>
      simp only [ObjectProtocolEngine.serve,
        ObjectProtocolEngine.deleteBucket, Request.performed]
      cases engine.buckets.get? name with
      | none => exact .same rfl
      | some present => exact .deleteBucket name rfl rfl
  | putObject bucket key reader size metadata now =>
      exact catalogStep_putObject reader size metadata now
  | deleteObject bucket key versionId now =>
      exact catalogStep_deleteObject versionId now
  | initiateMultipartUpload bucket key random => exact .same rfl
  | uploadPart bucket key uploadId partNumber reader size =>
      apply CatalogStep.same
      simp only [ObjectProtocolEngine.serve,
        ObjectProtocolEngine.uploadPart]
      cases engine.uploads.get? uploadId with
      | none => rfl
      | some upload =>
          cases reader.readData size with
          | error fault => rfl
          | ok data => rfl
  | completeMultipartUpload bucket key uploadId parts now =>
      simp only [ObjectProtocolEngine.serve, Request.performed]
      rcases
          @completeMultipartUpload_catalog sortParts engine bucket key
            uploadId parts now with
        ⟨fault, failed⟩ | ⟨reader, size, answer, stored⟩
      · rw [failed]
        exact .same rfl
      · rw [answer]
        rcases
            @putObject_catalog engine bucket key reader size Dict.empty
              now with
          ⟨fault, failed⟩ |
            ⟨found, objMeta, present, described, answered, put⟩
        · rw [failed] at stored ⊢
          exact .same stored
        · rw [answered]
          exact
            .put found bucket key objMeta present described
              (stored.trans put)

end Steps

end StorageAppliance.Unity
