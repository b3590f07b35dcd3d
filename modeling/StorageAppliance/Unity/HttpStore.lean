import StorageAppliance.Library.Answers
import StorageAppliance.Unity.HttpSessions
import StorageAppliance.Unity.ObjectMap

/-!
# Object storage over HTTP

What the HTTP interface is for: `HttpStore` is a set of buckets, a map from pairs
of bucket and key to objects, and the uploads that are begun.  `HttpStore.serve`
says how every request is answered by it.

The router is a library, and any router with its promises may stand for it.
Buckets are made without versions, no request reaches the handler of parts, and
the name of a bucket in a path has no slash.  So the maps of the engine hold what
the store says and nothing in the pool is shared, and `http_serves_store` follows
for every sequence of requests.

The store shows what clients get.  Objects outlive their bucket.  A version in a
query is ignored.  Completing an upload puts an object without data.
-/

namespace StorageAppliance.Unity

open StorageAppliance.Go
open StorageAppliance.Library

/-! ## The store -/

/-- An object as clients see it. -/
structure StoredObject where
  contentType : String
  data : Bytes

/-- Buckets, objects and begun uploads. -/
structure HttpStore where
  buckets : String → Bool := fun _ => false
  objects : String → String → Option StoredObject := fun _ _ => none
  uploads : String → Bool := fun _ => false

/-- The headers that describe an object. -/
def StoredObject.headers (self : StoredObject) : List (String × String) :=
  [("Content-Type", self.contentType), ("ETag", md5Hex self.data),
    ("Content-Length", decimal self.data.length)]

/-- A response in XML without a body. -/
def xmlResponse : HttpResponse where
  status := 200
  headers := [("Content-Type", "application/xml")]

/-- The response to an object that was put. -/
def putResponse (data : Bytes) : HttpResponse where
  status := 200
  headers := [("ETag", md5Hex data)]

namespace HttpStore

variable
    (self : HttpStore)
    (vars : Vars)
    (request : HttpRequest)

/-- Put an object in place of the one of the pair. -/
def put (object : StoredObject) : HttpStore :=
  { self with
    objects :=
      Function.update self.objects vars.bucket
        (Function.update (self.objects vars.bucket) vars.key
          (some object)) }

/-- Remove the object of the pair. -/
def remove : HttpStore :=
  { self with
    objects :=
      Function.update self.objects vars.bucket
        (Function.update (self.objects vars.bucket) vars.key none) }

/-- The answer to a request for an object. -/
def describeObject (withBody : Bool) : HttpResponse :=
  match self.objects vars.bucket vars.key with
  | none => httpError "object not found" 404
  | some object =>
      { status := 200
        headers := object.headers
        body := if withBody then object.data else [] }

/-- Put the body of a request, if there is a bucket for it. -/
def putBody : Except Fault HttpResponse × HttpStore :=
  if self.buckets vars.bucket then
    match request.body.readData request.contentLength with
    | .error fault =>
        (respond (.error fault : Except Fault Unit) 500 fun _ =>
          { status := 200 }, self)
    | .ok data =>
        (.ok (putResponse data),
          self.put vars
            { contentType := request.contentType, data := data })
  else
    (.ok (httpError ("bucket not found: " ++ vars.bucket) 500), self)

/-- Complete an upload, which puts an object without data. -/
def complete (uploadId : String) : Except Fault HttpResponse × HttpStore :=
  if self.uploads uploadId then
    if self.buckets vars.bucket then
      (.ok (putResponse []),
        { self.put vars
            { contentType := "application/octet-stream", data := [] } with
          uploads := Function.update self.uploads uploadId false })
    else
      (.ok (httpError ("bucket not found: " ++ vars.bucket) 500), self)
  else
    (.ok (httpError "upload not found" 500), self)

/-- How a request that is dispatched to a handler is answered. -/
def handle : Handler → Except Fault HttpResponse × HttpStore
  | .listBuckets => (.ok xmlResponse, self)
  | .createBucket =>
      if self.buckets vars.bucket then
        (.ok (httpError ("bucket already exists: " ++ vars.bucket) 409),
          self)
      else
        (.ok { status := 200 },
          { self with
            buckets := Function.update self.buckets vars.bucket true })
  | .deleteBucket =>
      if self.buckets vars.bucket then
        (.ok { status := 204 },
          { self with
            buckets := Function.update self.buckets vars.bucket false })
      else
        (.ok (httpError "bucket not found" 404), self)
  | .listObjects =>
      if self.buckets vars.bucket then
        (.ok xmlResponse, self)
      else
        (.ok (httpError "bucket not found" 404), self)
  -- A part is taken for an object that is put.
  | .putObject | .uploadPart => self.putBody vars request
  | .getObject => (.ok (self.describeObject vars true), self)
  | .deleteObject =>
      if self.buckets vars.bucket then
        (.ok { status := 204 }, self.remove vars)
      else
        (.ok (httpError "bucket not found" 500), self)
  | .headObject => (.ok (self.describeObject vars false), self)
  | .initiateMultipart =>
      let uploadId := generateUploadId request.random
      (.ok
          { xmlResponse with
            body :=
              stringBytes
                ("<InitiateMultipartUploadResult><UploadId>" ++ uploadId ++
                  "</UploadId></InitiateMultipartUploadResult>") },
        { self with
          uploads := Function.update self.uploads uploadId true })
  | .completeMultipart =>
      self.complete vars (request.queryGet "uploadId")

/-- How a request that goes through a router is answered. -/
def serve {Request : Type} (router : Router Request) (self : HttpStore)
    (request : Request) : Except Fault HttpResponse × HttpStore :=
  match router.redirect request with
  | some response => (.ok response, self)
  | none =>
      match router.dispatch request with
      | none => (.ok (router.unmatched request), self)
      | some (handler, vars) =>
          self.handle vars (router.read request) handler

end HttpStore

/-! ## What the engine holds of the store -/

/-- The engine holds an object of the store under a name, or none. -/
def HoldsObject (engine : ObjectProtocolEngine) (id : String) :
    Option StoredObject → Prop
  | none => engine.objects.get? id = none
  | some object =>
      ∃ objMeta,
        engine.objects.get? id = some objMeta ∧
          objMeta.contentType = object.contentType ∧
          objMeta.etag = md5Hex object.data ∧
          objMeta.size = object.data.length ∧
          objMeta.versionId = "" ∧ objMeta.storageId = id ∧
          makeSlice objMeta.size = .ok object.data.length ∧
          engine.pool.storage.get? id = some object.data

/-- The engine holds what the store says. -/
structure Represents (engine : ObjectProtocolEngine) (store : HttpStore) :
    Prop where
  buckets :
    ∀ name,
      store.buckets name = true ↔ engine.buckets.get? name ≠ none
  unversioned :
    ∀ name found,
      engine.buckets.get? name = some found →
        found.versioningEnabled = false
  versions : engine.versions = Dict.empty
  uploads :
    ∀ uploadId,
      store.uploads uploadId = true ↔ engine.uploads.get? uploadId ≠ none
  objects :
    ∀ bucket key,
      '/' ∉ bucket.toList →
        HoldsObject engine (objectId bucket key) (store.objects bucket key)

/-- The engine and the store answer alike and still agree. -/
structure Agrees (result : Except Fault HttpResponse × ObjectProtocolEngine)
    (answered : Except Fault HttpResponse × HttpStore) : Prop where
  answer : result.1 = answered.1
  represents : Represents result.2 answered.2

/-! ## Buckets -/

section Buckets

variable
    {engine : ObjectProtocolEngine}
    {store : HttpStore}
    {vars : Vars}
    {request : HttpRequest}

/-- There is a bucket in the store. -/
theorem Represents.present
    (represents : Represents engine store) {name : String}
    (bucket : store.buckets name = true) :
    ∃ found,
      engine.buckets.get? name = some found ∧
        found.versioningEnabled = false := by
  have listed := (represents.buckets name).mp bucket
  rcases Option.ne_none_iff_exists'.mp listed with ⟨found, present⟩
  exact ⟨found, present, represents.unversioned name found present⟩

theorem Represents.missing
    (represents : Represents engine store) {name : String}
    (bucket : ¬ store.buckets name = true) :
    engine.buckets.get? name = none := by
  rw [represents.buckets, not_not] at bucket
  exact bucket

/-- Objects are held as long as their metadata and their data stay. -/
theorem HoldsObject.congr
    {after : ObjectProtocolEngine} {id : String}
    {object : Option StoredObject}
    (holds : HoldsObject engine id object)
    (objects : after.objects.get? id = engine.objects.get? id)
    (pool :
      after.pool.storage.get? id = engine.pool.storage.get? id) :
    HoldsObject after id object := by
  cases object with
  | none => exact objects.trans holds
  | some object =>
      rw [HoldsObject, objects, pool]
      exact holds

theorem Represents.createBucket
    (represents : Represents engine store) :
    Agrees (createBucketHandler engine vars)
      (store.handle vars request .createBucket) := by
  by_cases bucket : store.buckets vars.bucket = true
  · rcases represents.present bucket with ⟨found, present, _⟩
    simp only [createBucketHandler, ObjectProtocolEngine.createBucket,
      present, HttpStore.handle, bucket, if_true]
    exact ⟨rfl, represents⟩
  · have missing := represents.missing bucket
    simp only [createBucketHandler, ObjectProtocolEngine.createBucket,
      missing, HttpStore.handle, bucket]
    refine ⟨rfl, ?_, ?_, represents.versions, represents.uploads, ?_⟩
    · intro name
      change
        Function.update store.buckets vars.bucket true name = true ↔ _
      rw [Dict.get?_set, Function.update_apply]
      split
      · simp
      · exact represents.buckets name
    · intro name found listed
      rw [Dict.get?_set] at listed
      split at listed
      · cases listed
        rfl
      · exact represents.unversioned name found listed
    · exact fun name key free =>
        (represents.objects name key free).congr rfl rfl

theorem Represents.deleteBucket
    (represents : Represents engine store) :
    Agrees (deleteBucketHandler engine vars)
      (store.handle vars request .deleteBucket) := by
  by_cases bucket : store.buckets vars.bucket = true
  · rcases represents.present bucket with ⟨found, present, _⟩
    simp only [deleteBucketHandler, ObjectProtocolEngine.deleteBucket,
      present, HttpStore.handle, bucket, if_true]
    refine ⟨rfl, ?_, ?_, represents.versions, represents.uploads, ?_⟩
    · intro name
      change
        Function.update store.buckets vars.bucket false name = true ↔ _
      rw [Dict.get?_erase, Function.update_apply]
      split
      · simp
      · exact represents.buckets name
    · intro name other listed
      exact represents.unversioned name other (Dict.get?_of_erase listed).2
    · exact fun name key free =>
        (represents.objects name key free).congr rfl rfl
  · have missing := represents.missing bucket
    simp only [deleteBucketHandler, ObjectProtocolEngine.deleteBucket,
      missing, HttpStore.handle, bucket]
    exact ⟨rfl, represents⟩

theorem Represents.listObjects
    (represents : Represents engine store) :
    Agrees (listObjectsHandler engine vars)
      (store.handle vars request .listObjects) := by
  by_cases bucket : store.buckets vars.bucket = true
  · rcases represents.present bucket with ⟨found, present, _⟩
    simp only [listObjectsHandler, present, HttpStore.handle, bucket,
      if_true]
    exact ⟨rfl, represents⟩
  · have missing := represents.missing bucket
    simp only [listObjectsHandler, missing, HttpStore.handle, bucket]
    exact ⟨rfl, represents⟩

end Buckets

/-! ## Objects -/

section Objects

variable
    {engine after : ObjectProtocolEngine}
    {store : HttpStore}
    {vars : Vars}
    {request : HttpRequest}

/-- A step that is about one object leaves what is held of the others. -/
theorem Represents.update
    (represents : Represents engine store)
    (free : '/' ∉ vars.bucket.toList) {object : Option StoredObject}
    (buckets : after.buckets = engine.buckets)
    (versions : after.versions = engine.versions)
    (uploads : after.uploads = engine.uploads)
    (holds : HoldsObject after (objectId vars.bucket vars.key) object)
    (others :
      ∀ id,
        id ≠ objectId vars.bucket vars.key →
          after.objects.get? id = engine.objects.get? id ∧
            after.pool.storage.get? id =
              engine.pool.storage.get? id) :
    Represents after
      { store with
        objects :=
          Function.update store.objects vars.bucket
            (Function.update (store.objects vars.bucket) vars.key
              object) } where
  buckets := by
    rw [buckets]
    exact represents.buckets
  unversioned := by
    rw [buckets]
    exact represents.unversioned
  versions := versions.trans represents.versions
  uploads := by
    rw [uploads]
    exact represents.uploads
  objects := by
    intro bucket key bucketFree
    by_cases same : bucket = vars.bucket ∧ key = vars.key
    · rcases same with ⟨rfl, rfl⟩
      simp only [Function.update_self]
      exact holds
    · have names : objectId bucket key ≠ objectId vars.bucket vars.key :=
        fun equal => same (objectId_inj_of_free bucketFree free equal)
      have kept :
          Function.update store.objects vars.bucket
              (Function.update (store.objects vars.bucket) vars.key object)
              bucket key =
            store.objects bucket key := by
        by_cases sameBucket : bucket = vars.bucket
        · subst sameBucket
          have keys : key ≠ vars.key := fun equal => same ⟨rfl, equal⟩
          rw [Function.update_self, Function.update_of_ne keys]
        · rw [Function.update_of_ne sameBucket]
      have frame := others _ names
      dsimp only
      rw [kept]
      exact (represents.objects bucket key bucketFree).congr frame.1 frame.2

/-- Putting data puts an object in the store. -/
theorem Represents.put
    (represents : Represents engine store)
    (free : '/' ∉ vars.bucket.toList)
    (bucket : store.buckets vars.bucket = true)
    {reader : Reader} {size : ℤ} {data : Bytes}
    (read : reader.readData size = .ok data)
    (metadata : Dict String String) (now : ℤ) :
    (engine.putObject vars.bucket vars.key reader size metadata now).1 =
        .ok
          (ObjectProtocolEngine.describe vars.bucket vars.key data size
            metadata) ∧
      Represents
        (engine.putObject vars.bucket vars.key reader size metadata now).2
        (store.put vars
          { contentType := getContentType metadata, data := data }) := by
  rcases represents.present bucket with ⟨found, present, unversioned⟩
  have made := Reader.readData_ok read
  simp only [ObjectProtocolEngine.putObject, present, read, unversioned,
    Bool.false_eq_true, if_false]
  refine ⟨trivial, represents.update free rfl rfl rfl ?_ ?_⟩
  · refine
      ⟨_, Dict.get?_set_self _ _ _, rfl, rfl, (makeSlice_ok_iff.mp made).1,
        rfl, rfl, made, ?_⟩
    exact (get?_write _ _).trans (if_pos rfl)
  · intro id apart
    exact
      ⟨Dict.get?_set_ne _ _ apart, (get?_write _ _).trans (if_neg apart)⟩

theorem Represents.putObject
    (represents : Represents engine store)
    (free : '/' ∉ vars.bucket.toList) :
    Agrees (putObjectHandler engine vars request)
      (store.handle vars request .putObject) := by
  rw [putObjectHandler, HttpStore.handle, HttpStore.putBody]
  by_cases bucket : store.buckets vars.bucket = true
  · rw [if_pos bucket]
    cases read : request.body.readData request.contentLength with
    | error fault =>
        rcases represents.present bucket with ⟨found, present, _⟩
        simp only [ObjectProtocolEngine.putObject, present, read]
        refine ⟨?_, represents⟩
        cases fault with
        | error error => rfl
        | panic message => rfl
    | ok data =>
        rcases
          represents.put free bucket read
            (Dict.empty.set "Content-Type" request.contentType)
            request.now with
          ⟨returned, after⟩
        dsimp only
        rw [returned]
        exact ⟨rfl, after⟩
  · rw [if_neg bucket]
    have missing := represents.missing bucket
    simp only [ObjectProtocolEngine.putObject, missing]
    exact ⟨rfl, represents⟩

theorem Represents.deleteObject
    (represents : Represents engine store)
    (free : '/' ∉ vars.bucket.toList) :
    Agrees (deleteObjectHandler engine vars request)
      (store.handle vars request .deleteObject) := by
  by_cases bucket : store.buckets vars.bucket = true
  · rcases represents.present bucket with ⟨found, present, unversioned⟩
    simp only [deleteObjectHandler, ObjectProtocolEngine.deleteObject,
      present, unversioned, Bool.false_eq_true, if_false,
      HttpStore.handle, bucket, if_true]
    have held := represents.objects vars.bucket vars.key free
    cases listed : engine.objects.get? (objectId vars.bucket vars.key) with
    | none =>
        refine ⟨rfl, represents.update free rfl rfl rfl ?_ ?_⟩
        · exact Dict.get?_erase_self _ _
        · exact fun id apart => ⟨Dict.get?_erase_ne _ apart, rfl⟩
    | some objMeta =>
        have storageId :
            objMeta.storageId = objectId vars.bucket vars.key := by
          cases object : store.objects vars.bucket vars.key with
          | none =>
              rw [object, HoldsObject, listed] at held
              cases held
          | some object' =>
              rw [object] at held
              rcases held with ⟨_, known, _, _, _, _, name, _⟩
              cases listed.symm.trans known
              exact name
        refine ⟨rfl, represents.update free rfl rfl rfl ?_ ?_⟩
        · exact Dict.get?_erase_self _ _
        · intro id apart
          have data : id ≠ objMeta.storageId := by
            rw [storageId]
            exact apart
          exact
            ⟨Dict.get?_erase_ne _ apart, Dict.get?_erase_ne _ data⟩
  · have missing := represents.missing bucket
    simp only [deleteObjectHandler, ObjectProtocolEngine.deleteObject,
      missing, HttpStore.handle, bucket]
    exact ⟨rfl, represents⟩

/-- An object that is held is read back, under every version. -/
theorem HoldsObject.getObject
    {object : StoredObject} {bucket key : String}
    (holds : HoldsObject engine (objectId bucket key) (some object))
    (versions : engine.versions = Dict.empty) (versionId : String) :
    ∃ objMeta,
      engine.objects.get? (objectId bucket key) = some objMeta ∧
        engine.getObject bucket key versionId = .ok (object.data, objMeta) ∧
        objectHeaders objMeta = object.headers := by
  rcases holds with
    ⟨objMeta, found, contentType, etag, size, _, storageId, made, pooled⟩
  rw [← storageId] at pooled
  have verified : engine.readVerified objMeta = .ok object.data :=
    (readVerified_described_iff made etag pooled).mpr
      ⟨(fitted_self object.data).symm, rfl⟩
  have current :
      engine.findVersion (objectId bucket key) versionId objMeta =
        some objMeta := by
    rw [ObjectProtocolEngine.findVersion, versions, Dict.get?_empty]
    exact ite_self _
  refine ⟨objMeta, found, ?_, ?_⟩
  · simp only [ObjectProtocolEngine.getObject, found, current, verified]
  · rw [objectHeaders, StoredObject.headers, contentType, etag, size]

theorem Represents.getObject
    (represents : Represents engine store)
    (free : '/' ∉ vars.bucket.toList) :
    Agrees (getObjectHandler engine vars request)
      (store.handle vars request .getObject) := by
  have held := represents.objects vars.bucket vars.key free
  rw [getObjectHandler, HttpStore.handle, HttpStore.describeObject]
  cases object : store.objects vars.bucket vars.key with
  | none =>
      rw [object, HoldsObject] at held
      simp only [ObjectProtocolEngine.getObject, held]
      exact ⟨rfl, represents⟩
  | some object' =>
      rw [object] at held
      rcases
        held.getObject represents.versions
          (request.queryGet "versionId") with
        ⟨objMeta, _, returned, headers⟩
      dsimp only
      rw [returned]
      refine ⟨?_, represents⟩
      rw [respond, headers]
      rfl

theorem Represents.headObject
    (represents : Represents engine store)
    (free : '/' ∉ vars.bucket.toList) :
    Agrees (headObjectHandler engine vars)
      (store.handle vars request .headObject) := by
  have held := represents.objects vars.bucket vars.key free
  rw [headObjectHandler, HttpStore.handle, HttpStore.describeObject]
  cases object : store.objects vars.bucket vars.key with
  | none =>
      rw [object, HoldsObject] at held
      rw [held]
      exact ⟨rfl, represents⟩
  | some object' =>
      rw [object] at held
      rcases held.getObject represents.versions "" with
        ⟨objMeta, found, _, headers⟩
      rw [found]
      refine ⟨?_, represents⟩
      dsimp only
      rw [headers]
      rfl

end Objects

/-! ## Uploads -/

section Uploads

variable
    {sortParts : List PartInfo → List PartInfo}
    {engine : ObjectProtocolEngine}
    {store : HttpStore}
    {vars : Vars}
    {request : HttpRequest}

theorem Represents.initiateMultipart
    (represents : Represents engine store) :
    Agrees (initiateMultipartHandler engine vars request)
      (store.handle vars request .initiateMultipart) := by
  refine
    ⟨rfl, represents.buckets, represents.unversioned, represents.versions,
      ?_, ?_⟩
  · intro uploadId
    change
      Function.update store.uploads (generateUploadId request.random) true
          uploadId = true ↔
        (engine.uploads.set (generateUploadId request.random) _).get?
          uploadId ≠ none
    rw [Dict.get?_set, Function.update_apply]
    split
    · simp
    · exact represents.uploads uploadId
  · exact fun name key free =>
      (represents.objects name key free).congr rfl rfl

/-- A completed upload is no longer there. -/
theorem Represents.finishUpload
    (represents : Represents engine store) (uploadId : String) :
    Represents { engine with uploads := engine.uploads.erase uploadId }
      { store with
        uploads := Function.update store.uploads uploadId false } where
  buckets := represents.buckets
  unversioned := represents.unversioned
  versions := represents.versions
  uploads := by
    intro other
    change
      Function.update store.uploads uploadId false other = true ↔
        (engine.uploads.erase uploadId).get? other ≠ none
    rw [Dict.get?_erase, Function.update_apply]
    split
    · simp
    · exact represents.uploads other
  objects := fun name key free =>
    (represents.objects name key free).congr rfl rfl

/-- A completion joins no parts. -/
theorem Represents.completeMultipart
    (represents : Represents engine store) (sorts : sortParts [] = [])
    (free : '/' ∉ vars.bucket.toList) :
    Agrees (completeMultipartHandler sortParts engine vars request)
      (store.handle vars request .completeMultipart) := by
  rw [completeMultipartHandler, HttpStore.handle, HttpStore.complete]
  generalize request.queryGet "uploadId" = uploadId
  have listed := represents.uploads uploadId
  by_cases upload : store.uploads uploadId = true
  · rcases Option.ne_none_iff_exists'.mp (listed.mp upload) with
      ⟨found, initiated⟩
    rw [if_pos upload]
    simp only [ObjectProtocolEngine.completeMultipartUpload, initiated,
      sorts, ObjectProtocolEngine.readParts, List.foldl_nil]
    by_cases bucket : store.buckets vars.bucket = true
    · have read : Reader.readData { bytes := [] } 0 = .ok [] := rfl
      rcases
        represents.put free bucket read Dict.empty request.now with
        ⟨returned, after⟩
      rw [if_pos bucket]
      generalize
        engine.putObject vars.bucket vars.key { bytes := [] } 0 Dict.empty
          request.now = result at returned after ⊢
      rcases result with ⟨outcome, next⟩
      have success :
          outcome =
            .ok
              (ObjectProtocolEngine.describe vars.bucket vars.key [] 0
                Dict.empty) :=
        returned
      rw [success]
      exact ⟨rfl, after.finishUpload uploadId⟩
    · have missing := represents.missing bucket
      rw [if_neg bucket]
      simp only [ObjectProtocolEngine.putObject, missing]
      exact ⟨rfl, represents⟩
  · rw [listed, not_not] at upload
    have absent : ¬ store.uploads uploadId = true := by
      rw [listed, not_not]
      exact upload
    rw [if_neg absent]
    simp only [ObjectProtocolEngine.completeMultipartUpload, upload]
    exact ⟨rfl, represents⟩

end Uploads

/-! ## Requests -/

section Requests

variable
    {sortParts : List PartInfo → List PartInfo}
    {engine : ObjectProtocolEngine}
    {store : HttpStore}
    {Request : Type}
    {router : Router Request}

/-- Every request is answered as the store answers it. -/
theorem Represents.serve
    (represents : Represents engine store) (lawful : router.Lawful)
    (sorts : sortParts [] = []) (request : Request) :
    Agrees (router.serveThrough sortParts engine request)
      (store.serve router request) := by
  rw [Router.serveThrough, HttpStore.serve]
  cases router.redirect request with
  | some response => exact ⟨rfl, represents⟩
  | none =>
      cases dispatched : router.dispatch request with
      | none => exact ⟨rfl, represents⟩
      | some routed =>
          rcases routed with ⟨handler, vars⟩
          have free := lawful.slash_notMem dispatched
          cases handler with
          | listBuckets => exact ⟨rfl, represents⟩
          | createBucket => exact represents.createBucket
          | deleteBucket => exact represents.deleteBucket
          | listObjects => exact represents.listObjects
          | putObject => exact represents.putObject free
          | getObject => exact represents.getObject free
          | deleteObject => exact represents.deleteObject free
          | headObject => exact represents.headObject free
          | initiateMultipart => exact represents.initiateMultipart
          | uploadPart =>
              exact
                absurd dispatched
                  (lawful.dispatch_ne_uploadPart request vars)
          | completeMultipart =>
              exact represents.completeMultipart sorts free

theorem lockstep_http
    (lawful : router.Lawful) (sorts : sortParts [] = []) :
    Lockstep (router.serveThrough sortParts) (HttpStore.serve router)
      Represents where
  answers := fun _ _ request represents =>
    (represents.serve lawful sorts request).answer
  related := fun _ _ request represents =>
    (represents.serve lawful sorts request).represents

theorem represents_empty : Represents {} {} where
  buckets := fun name => by simp [Dict.get?_empty]
  unversioned := by
    intro name found listed
    cases listed
  versions := rfl
  uploads := fun uploadId => by simp [Dict.get?_empty]
  objects := fun bucket key free => rfl

/--
From the start, every sequence of requests is answered as the store answers it,
through every router.
-/
theorem http_serves_store
    (lawful : router.Lawful)
    (sorts : ∀ parts, (sortParts parts).Perm parts)
    (requests : List Request) :
    answersOf (router.serveThrough sortParts) {} requests =
      answersOf (HttpStore.serve router) {} requests :=
  (lockstep_http lawful (sorts []).eq_nil).answersOf_eq represents_empty
    requests

end Requests

/-- An object that is put, whose bucket is deleted, and that is got. -/
def orphaned : List HttpRequest :=
  [{ method := .put, path := "/bucket" },
    { method := .put, path := "/bucket/key", body := { bytes := [7] }
      contentLength := 1 },
    { method := .delete, path := "/bucket" },
    { method := .get, path := "/bucket/key" }]

theorem http_serves_orphaned :
    answersOf (plainRouter.serveThrough byNumber) {} orphaned =
      answersOf (HttpStore.serve plainRouter) {} orphaned :=
  http_serves_store plainRouter_lawful
    (fun parts => List.mergeSort_perm parts _) orphaned

end StorageAppliance.Unity
