import StorageAppliance.Unity.HttpApi

/-!
# Multipart uploads over HTTP

A session starts an upload, sends its parts and completes it.  The route of a
plain put matches the requests that send a part, so that each stores its body as
the object, and the completion does not read which parts it is to join.  It
joins none, and what a get returns afterwards is the empty object
(`session_returns_iff`).
-/

namespace StorageAppliance.Unity

open StorageAppliance.Go
open StorageAppliance.Library

/-! ## Sessions -/

/-- A part of an upload; if it is chunked, its length is not announced. -/
structure Part where
  number : ℤ
  body : Bytes
  chunked : Bool := false
  contentType : String := ""
  now : ℤ := 0

/-- An upload of parts, in the order in which they are sent. -/
structure HttpSession where
  path : String
  parts : List Part
  random : Bytes
  now : ℤ := 0

namespace HttpSession

variable (session : HttpSession)

/-- The number of the upload, from the response to the first request. -/
def uploadId : String :=
  generateUploadId session.random

def initiate : HttpRequest where
  method := .post
  path := session.path
  query := [("uploads", "")]
  random := session.random

def upload (part : Part) : HttpRequest where
  method := .put
  path := session.path
  query :=
    [("uploadId", session.uploadId), ("partNumber", decimal part.number)]
  contentType := part.contentType
  body := { bytes := part.body }
  contentLength := if part.chunked then -1 else part.body.length
  now := part.now

def complete : HttpRequest where
  method := .post
  path := session.path
  query := [("uploadId", session.uploadId)]
  now := session.now

def requests : List HttpRequest :=
  session.initiate ::
    (session.parts.map session.upload ++ [session.complete])

/-- The get that follows the session. -/
def get : HttpRequest where
  method := .get
  path := session.path

/-- The bodies of the parts, joined in the order of their numbers. -/
def joined : Bytes :=
  (session.parts.mergeSort fun first second =>
      first.number ≤ second.number).flatMap
    Part.body

end HttpSession

/-- The engine after requests were served. -/
def serveAll
    (sortParts : List PartInfo → List PartInfo)
    (engine : ObjectProtocolEngine) (requests : List HttpRequest) :
    ObjectProtocolEngine :=
  requests.foldl
    (fun engine request => (serveHttp sortParts engine request).2) engine

/-- A get is answered with some data. -/
def Returns
    (sortParts : List PartInfo → List PartInfo)
    (engine : ObjectProtocolEngine) (request : HttpRequest)
    (data : Bytes) : Prop :=
  ∃ response,
    (serveHttp sortParts engine request).1 = .ok response ∧
      response.status = 200 ∧ response.body = data

/-! ## Requests of a session -/

section Requests

variable
    {sortParts : List PartInfo → List PartInfo}
    {engine : ObjectProtocolEngine}
    {session : HttpSession}
    {vars : Vars}

theorem hexDigit_ne_newline {value : Nat} (digit : value < 16) :
    hexDigit value ≠ '\n' := by
  have digits : ∀ index : Fin 16, hexDigit index ≠ '\n' := by decide
  exact digits ⟨value, digit⟩

/-- The number of an upload is on one line. -/
theorem newline_notMem_uploadId (random : Bytes) :
    '\n' ∉ (generateUploadId random).toList := by
  rw [generateUploadId, hexEncode, String.toList_ofList]
  intro member
  rcases List.mem_flatMap.mp member with ⟨byte, _, digit⟩
  have below := UInt8.toNat_lt byte
  simp only [List.mem_cons, List.not_mem_nil, or_false] at digit
  rcases digit with high | low
  · exact hexDigit_ne_newline (by omega) high.symm
  · exact hexDigit_ne_newline (by omega) low.symm

theorem reads_of_same
    {next : ObjectProtocolEngine}
    (objects : next.objects = engine.objects)
    (pool : next.pool = engine.pool) (bucket key : String) (data : Bytes) :
    Reads next bucket key data ↔ Reads engine bucket key data := by
  simp only [reads_iff, objects, readVerified_ok_iff, pool]

/-- A get is answered with what is read of the object. -/
theorem returns_iff
    (object : objectPath session.path = some vars) (data : Bytes) :
    Returns sortParts engine session.get data ↔
      Reads engine vars.bucket vars.key data := by
  have routed : dispatch session.get = some (.getObject, vars) :=
    dispatch_get rfl object
  have versionId : session.get.queryGet "versionId" = "" := rfl
  simp only [Returns, Reads, serveHttp, routed, Handler.serve,
    getObjectHandler, versionId]
  cases engine.getObject vars.bucket vars.key "" with
  | error fault =>
      cases fault with
      | error error => simp [respond, httpError]
      | panic message => simp [respond]
  | ok result =>
      rcases result with ⟨body, objMeta⟩
      simp [respond]

theorem serve_initiate
    (object : objectPath session.path = some vars) :
    (serveHttp sortParts engine session.initiate).2 =
      (engine.initiateMultipartUpload vars.bucket vars.key
        session.random).2 := by
  have routed :
      dispatch session.initiate = some (.initiateMultipart, vars) :=
    dispatch_initiate rfl object rfl
  simp only [serveHttp, routed, Handler.serve, initiateMultipartHandler]
  rfl

/-- A part is put as the object. -/
theorem serve_upload
    (sortParts : List PartInfo → List PartInfo)
    (engine : ObjectProtocolEngine)
    (object : objectPath session.path = some vars) (part : Part) :
    ∃ metadata,
      (serveHttp sortParts engine (session.upload part)).2 =
        (engine.putObject vars.bucket vars.key { bytes := part.body }
          (if part.chunked then -1 else part.body.length) metadata
          part.now).2 := by
  have routed :
      dispatch (session.upload part) = some (.putObject, vars) :=
    dispatch_put rfl object
  refine ⟨Dict.empty.set "Content-Type" part.contentType, ?_⟩
  simp only [serveHttp, routed, Handler.serve, putObjectHandler]
  rfl

theorem serve_complete
    (object : objectPath session.path = some vars) :
    (serveHttp sortParts engine session.complete).2 =
      (engine.completeMultipartUpload sortParts vars.bucket vars.key
        session.uploadId [] session.now).2 := by
  have uploadId : session.complete.hasQuery "uploadId" = true := by
    change decide ('\n' ∉ session.uploadId.toList) = true
    rw [decide_eq_true_eq]
    exact newline_notMem_uploadId session.random
  have routed :
      dispatch session.complete = some (.completeMultipart, vars) :=
    dispatch_complete rfl object rfl uploadId
  simp only [serveHttp, routed, Handler.serve, completeMultipartHandler]
  rfl

end Requests

/-! ## What a session does -/

/-- What putting a part as the object leaves unchanged. -/
structure PutFrame (before after : ObjectProtocolEngine) (bucket : String) :
    Prop where
  buckets : after.buckets = before.buckets
  uploads : after.uploads = before.uploads
  missing : before.buckets.get? bucket = none → after = before

section Sessions

variable
    {sortParts : List PartInfo → List PartInfo}
    {engine : ObjectProtocolEngine}
    {session : HttpSession}
    {vars : Vars}

theorem putObject_frame
    (bucket key : String) (reader : Reader) (size : ℤ)
    (metadata : Dict String String) (now : ℤ) :
    PutFrame engine
      (engine.putObject bucket key reader size metadata now).2 bucket := by
  by_cases supplied :
      ∃ data, Supplies engine bucket reader size data
  · rcases supplied with ⟨data, supplied⟩
    rcases @putObject_stored engine bucket key reader size data supplied
        metadata now with
      ⟨objMeta, _, stored⟩
    exact
      ⟨stored.buckets, stored.uploads,
        fun missing => absurd missing supplied.1⟩
  · have failed :=
      @putObject_failed engine bucket key reader size
        (fun data supplies => supplied ⟨data, supplies⟩) metadata now
    rcases failed with ⟨fault, failed⟩
    rw [failed]
    exact ⟨rfl, rfl, fun _ => rfl⟩

theorem PutFrame.trans
    {first second third : ObjectProtocolEngine} {bucket : String}
    (left : PutFrame first second bucket)
    (right : PutFrame second third bucket) :
    PutFrame first third bucket := by
  refine
    ⟨right.buckets.trans left.buckets, right.uploads.trans left.uploads, ?_⟩
  intro missing
  have same := left.missing missing
  rw [← same] at missing
  exact (right.missing missing).trans same

/-- The parts of a session are put one after the other. -/
theorem uploads_frame
    (object : objectPath session.path = some vars) (parts : List Part) :
    PutFrame engine
      (serveAll sortParts engine (parts.map session.upload))
      vars.bucket := by
  induction parts generalizing engine with
  | nil => exact ⟨rfl, rfl, fun _ => rfl⟩
  | cons part rest induction =>
      rcases serve_upload sortParts engine object part with
        ⟨metadata, served⟩
      have first :
          PutFrame engine
            (serveHttp sortParts engine (session.upload part)).2
            vars.bucket := by
        rw [served]
        exact putObject_frame _ _ _ _ _ _
      exact first.trans induction

/-- A completion without parts stores the empty object. -/
theorem complete_reads
    (sorts : sortParts [] = []) {uploadId : String}
    (initiated : engine.uploads.get? uploadId ≠ none)
    {bucket : String} (present : engine.buckets.get? bucket ≠ none)
    (key : String) (now : ℤ) (data : Bytes) :
    Reads
        (engine.completeMultipartUpload sortParts bucket key uploadId []
          now).2
        bucket key data ↔
      data = [] := by
  have read : Reader.readData { bytes := [] } 0 = .ok [] := rfl
  have supplied : Supplies engine bucket { bytes := [] } 0 [] :=
    ⟨present, read⟩
  rcases @putObject_stored engine bucket key _ _ _ supplied Dict.empty
      now with
    ⟨objMeta, put, stored⟩
  rcases Option.ne_none_iff_exists'.mp initiated with ⟨upload, found⟩
  rw [← stored.reads rfl data]
  simp only [ObjectProtocolEngine.completeMultipartUpload, found, sorts,
    ObjectProtocolEngine.readParts, List.foldl_nil]
  generalize
    engine.putObject bucket key { bytes := [] } 0 Dict.empty now = result
      at put ⊢
  rcases result with ⟨outcome, after⟩
  have success : outcome = .ok objMeta := put
  rw [success]
  exact reads_of_same rfl rfl bucket key data

theorem complete_missing
    (sorts : sortParts [] = []) {bucket : String}
    (missing : engine.buckets.get? bucket = none)
    (key uploadId : String) (now : ℤ) :
    (engine.completeMultipartUpload sortParts bucket key uploadId []
        now).2 =
      engine := by
  rw [ObjectProtocolEngine.completeMultipartUpload]
  split
  · rfl
  · simp only [sorts, ObjectProtocolEngine.readParts,
      ObjectProtocolEngine.putObject, missing]

/-- What is read after a session. -/
theorem session_reads
    (sorts : sortParts [] = [])
    (object : objectPath session.path = some vars) (data : Bytes) :
    Reads (serveAll sortParts engine session.requests) vars.bucket vars.key
        data ↔
      (engine.buckets.get? vars.bucket ≠ none ∧ data = []) ∨
        (engine.buckets.get? vars.bucket = none ∧
          Reads engine vars.bucket vars.key data) := by
  let started :=
    (engine.initiateMultipartUpload vars.bucket vars.key session.random).2
  let uploaded :=
    serveAll sortParts started (session.parts.map session.upload)
  have frame : PutFrame started uploaded vars.bucket :=
    uploads_frame object session.parts
  have initiated : uploaded.uploads.get? session.uploadId ≠ none := by
    rw [frame.uploads]
    change (Dict.set _ session.uploadId _).get? session.uploadId ≠ none
    rw [Dict.get?_set_self]
    exact Option.some_ne_none _
  have buckets :
      uploaded.buckets.get? vars.bucket =
        engine.buckets.get? vars.bucket :=
    congrArg (fun buckets => buckets.get? vars.bucket) frame.buckets
  have after :
      serveAll sortParts engine session.requests =
        (uploaded.completeMultipartUpload sortParts vars.bucket vars.key
          session.uploadId [] session.now).2 := by
    rw [serveAll, HttpSession.requests, List.foldl_cons, List.foldl_append,
      serve_initiate object]
    exact serve_complete object
  rw [after]
  by_cases present : engine.buckets.get? vars.bucket = none
  · have unchanged : uploaded = started := frame.missing present
    rw [complete_missing sorts (buckets.trans present), unchanged]
    have same :
        Reads started vars.bucket vars.key data ↔
          Reads engine vars.bucket vars.key data :=
      reads_of_same rfl rfl _ _ _
    simp [same, present]
  · rw [complete_reads sorts initiated (by rw [buckets]; exact present)]
    simp [present]

theorem joined_eq_nil_iff (session : HttpSession) :
    session.joined = [] ↔ ∀ part ∈ session.parts, part.body = [] := by
  rw [HttpSession.joined, List.flatMap_eq_nil_iff]
  simp only [List.mem_mergeSort]

/--
After a session the object is the concatenation of the parts exactly if all
parts are empty, or if the bucket does not exist and the object was this
concatenation before.
-/
theorem session_returns_iff
    (sorts : ∀ parts, (sortParts parts).Perm parts)
    (engine : ObjectProtocolEngine)
    (object : objectPath session.path = some vars) :
    Returns sortParts (serveAll sortParts engine session.requests)
        session.get session.joined ↔
      (engine.buckets.get? vars.bucket ≠ none ∧
          ∀ part ∈ session.parts, part.body = []) ∨
        (engine.buckets.get? vars.bucket = none ∧
          Reads engine vars.bucket vars.key session.joined) := by
  rw [returns_iff object, session_reads (sorts []).eq_nil object,
    joined_eq_nil_iff]

end Sessions

/-- Parts in the order of their numbers. -/
def byNumber (parts : List PartInfo) : List PartInfo :=
  parts.mergeSort fun first second => first.partNumber ≤ second.partNumber

/-- An engine with one bucket. -/
def oneBucket : ObjectProtocolEngine where
  buckets :=
    Dict.empty.set "bucket" { name := "bucket", versioningEnabled := false }

/-- An upload of one part. -/
def onePart (body : Bytes) : HttpSession where
  path := "/bucket/key"
  parts := [{ number := 1, body := body }]
  random := [1]

theorem session_returns_empty :
    Returns byNumber (serveAll byNumber oneBucket (onePart []).requests)
      (onePart []).get (onePart []).joined :=
  (session_returns_iff (fun parts => List.mergeSort_perm parts _) oneBucket
      (show objectPath "/bucket/key" = some ⟨"bucket", "key"⟩ by decide)).mpr
    (Or.inl ⟨by decide, by decide⟩)

/-- A part of one byte is lost. -/
theorem session_loses_part :
    ¬ Returns byNumber (serveAll byNumber oneBucket (onePart [7]).requests)
        (onePart [7]).get (onePart [7]).joined := by
  have object : objectPath "/bucket/key" = some ⟨"bucket", "key"⟩ := by
    decide
  have sorts : byNumber [] = [] := (List.mergeSort_perm [] _).eq_nil
  rw [returns_iff object, session_reads sorts object, joined_eq_nil_iff]
  rintro (⟨_, empty⟩ | ⟨missing, _⟩)
  · exact absurd (empty _ (List.mem_singleton.mpr rfl)) (by decide)
  · exact absurd missing (by decide)

end StorageAppliance.Unity
