import StorageAppliance.Unity.ObjectStorage

/-!
# The HTTP interface of object storage

`ServeHTTP` registers a route for each kind of request and hands a request to
the handler of the first route that matches it.  A route asks for a method, for
a form of the path and for names that must occur in the query; what stands under
such a name is arbitrary, except for line ends.

The path of a request is the one that the router matches, so it is already
cleaned.  A handler that panics sends no response.

The router is a library.  `serveThrough` serves requests through any router with
the promises that `Router.Lawful` lists, and `serveHttp` through the plain one,
which only looks at the routes.
-/

namespace StorageAppliance.Unity

open StorageAppliance.Go
open StorageAppliance.Library

/-! ## Requests and responses -/

inductive Method where
  | get
  | put
  | post
  | delete
  | head
  | other (name : String)
deriving DecidableEq

/-- A request, with the time and the random bytes that serving it uses. -/
structure HttpRequest where
  method : Method
  path : String
  query : List (String × String) := []
  contentType : String := ""
  body : Reader := { bytes := [] }
  contentLength : ℤ := 0
  now : ℤ := 0
  random : Bytes := []

structure HttpResponse where
  status : Nat
  headers : List (String × String) := []
  body : Bytes := []
deriving DecidableEq

/-- The first value under a name of the query. -/
def HttpRequest.query? (request : HttpRequest) (name : String) :
    Option String :=
  (request.query.find? fun item => item.1 = name).map Prod.snd

/-- `URL.Query().Get`. -/
def HttpRequest.queryGet (request : HttpRequest) (name : String) : String :=
  (request.query? name).getD ""

/-- `http.Error`. -/
def httpError (text : String) (code : Nat) : HttpResponse where
  status := code
  headers :=
    [("Content-Type", "text/plain; charset=utf-8"),
      ("X-Content-Type-Options", "nosniff")]
  body := stringBytes (text ++ "\n")

/-- Send an error with a status, and a result as a response. -/
def respond {Result : Type}
    (result : Except Fault Result) (code : Nat)
    (response : Result → HttpResponse) : Except Fault HttpResponse :=
  match result with
  | .ok value => .ok (response value)
  | .error (.error error) => .ok (httpError error.text code)
  | .error (.panic message) => .error (.panic message)

/-! ## Paths -/

/-- The variables of a path. -/
structure Vars where
  bucket : String := ""
  key : String := ""
deriving DecidableEq

/-- `/{bucket}` -/
def bucketPath (path : String) : Option Vars :=
  match path.toList with
  | '/' :: rest =>
      if rest ≠ [] ∧ '/' ∉ rest then
        some { bucket := String.ofList rest }
      else
        none
  | _ => none

/-- `/{bucket}/{key:.*}` -/
def objectPath (path : String) : Option Vars :=
  match path.toList with
  | '/' :: rest =>
      let bucket := rest.takeWhile fun char => char ≠ '/'
      match rest.dropWhile fun char => char ≠ '/' with
      | '/' :: key =>
          if bucket ≠ [] ∧ '\n' ∉ key then
            some
              { bucket := String.ofList bucket
                key := String.ofList key }
          else
            none
      | _ => none
  | _ => none

/-- `/` -/
def rootPath (path : String) : Option Vars :=
  if path = "/" then some {} else none

/-! ## Routes -/

inductive Handler where
  | listBuckets
  | createBucket
  | deleteBucket
  | listObjects
  | putObject
  | getObject
  | deleteObject
  | headObject
  | initiateMultipart
  | uploadPart
  | completeMultipart
deriving DecidableEq

structure Route where
  pattern : String → Option Vars
  handler : Handler
  method : Method
  queries : List String := []

/-- The routes, in the order in which they are registered. -/
def routes : List Route :=
  [{ pattern := rootPath, handler := .listBuckets, method := .get },
    { pattern := bucketPath, handler := .createBucket, method := .put },
    { pattern := bucketPath, handler := .deleteBucket, method := .delete },
    { pattern := bucketPath, handler := .listObjects, method := .get },
    { pattern := objectPath, handler := .putObject, method := .put },
    { pattern := objectPath, handler := .getObject, method := .get },
    { pattern := objectPath, handler := .deleteObject, method := .delete },
    { pattern := objectPath, handler := .headObject, method := .head },
    { pattern := objectPath, handler := .initiateMultipart, method := .post
      queries := ["uploads"] },
    { pattern := objectPath, handler := .uploadPart, method := .put
      queries := ["uploadId", "partNumber"] },
    { pattern := objectPath, handler := .completeMultipart, method := .post
      queries := ["uploadId"] }]

/-- Whether the query has a name, with a value on one line. -/
def HttpRequest.hasQuery (request : HttpRequest) (name : String) : Bool :=
  match request.query? name with
  | none => false
  | some value => '\n' ∉ value.toList

/-- The variables of a request that matches apart from the method. -/
def Route.vars (route : Route) (request : HttpRequest) : Option Vars :=
  if route.queries.all request.hasQuery then
    route.pattern request.path
  else
    none

/-- The handler of the first route that matches. -/
def dispatch (request : HttpRequest) : Option (Handler × Vars) :=
  routes.findSome? fun route =>
    if route.method = request.method then
      (route.vars request).map fun vars => (route.handler, vars)
    else
      none

/-- What the router sends when no route matches. -/
def unrouted (request : HttpRequest) : HttpResponse :=
  if routes.any fun route => (route.vars request).isSome then
    { status := 405 }
  else
    httpError "404 page not found" 404

/-! ## Handlers -/

/-- `fmt.Sscanf` of a decimal number into a variable that is zero. -/
def scanDecimal (text : String) : ℤ :=
  let chars := text.toList.dropWhile Char.isWhitespace
  let (negative, chars) :=
    match chars with
    | '-' :: rest => (true, rest)
    | '+' :: rest => (false, rest)
    | _ => (false, chars)
  let magnitude : ℤ :=
    (Nat.ofDigitChars 10 (chars.takeWhile Char.isDigit) 0 : Nat)
  let number := if negative then -magnitude else magnitude
  if -2 ^ 63 ≤ number ∧ number < 2 ^ 63 then number else 0

section Handlers

variable
    (sortParts : List PartInfo → List PartInfo)
    (engine : ObjectProtocolEngine)
    (vars : Vars)
    (request : HttpRequest)

def listBucketsHandler : Except Fault HttpResponse × ObjectProtocolEngine :=
  (.ok { status := 200, headers := [("Content-Type", "application/xml")] },
    engine)

def createBucketHandler : Except Fault HttpResponse × ObjectProtocolEngine :=
  let (result, engine) := engine.createBucket vars.bucket false
  (respond result 409 fun _ => { status := 200 }, engine)

def deleteBucketHandler : Except Fault HttpResponse × ObjectProtocolEngine :=
  let (result, engine) := engine.deleteBucket vars.bucket
  (respond result 404 fun _ => { status := 204 }, engine)

def listObjectsHandler : Except Fault HttpResponse × ObjectProtocolEngine :=
  match engine.buckets.get? vars.bucket with
  | none => (.ok (httpError "bucket not found" 404), engine)
  | some _ =>
      (.ok
          { status := 200
            headers := [("Content-Type", "application/xml")] },
        engine)

def putObjectHandler : Except Fault HttpResponse × ObjectProtocolEngine :=
  let metadata := Dict.empty.set "Content-Type" request.contentType
  let (result, engine) :=
    engine.putObject vars.bucket vars.key request.body request.contentLength
      metadata request.now
  (respond result 500 fun objMeta =>
      { status := 200, headers := [("ETag", objMeta.etag)] },
    engine)

/-- The headers that describe an object. -/
def objectHeaders (objMeta : ObjectMetadata) : List (String × String) :=
  [("Content-Type", objMeta.contentType), ("ETag", objMeta.etag),
    ("Content-Length", decimal objMeta.size)]

def getObjectHandler : Except Fault HttpResponse × ObjectProtocolEngine :=
  let result :=
    engine.getObject vars.bucket vars.key (request.queryGet "versionId")
  (respond result 404 fun object =>
      { status := 200
        headers := objectHeaders object.2
        body := object.1 },
    engine)

def deleteObjectHandler : Except Fault HttpResponse × ObjectProtocolEngine :=
  let (result, engine) :=
    engine.deleteObject vars.bucket vars.key (request.queryGet "versionId")
      request.now
  (respond result 500 fun _ => { status := 204 }, engine)

def headObjectHandler : Except Fault HttpResponse × ObjectProtocolEngine :=
  match engine.objects.get? (objectId vars.bucket vars.key) with
  | none => (.ok (httpError "object not found" 404), engine)
  | some objMeta =>
      (.ok { status := 200, headers := objectHeaders objMeta }, engine)

def initiateMultipartHandler :
    Except Fault HttpResponse × ObjectProtocolEngine :=
  let (uploadId, engine) :=
    engine.initiateMultipartUpload vars.bucket vars.key request.random
  (.ok
      { status := 200
        headers := [("Content-Type", "application/xml")]
        body :=
          stringBytes
            ("<InitiateMultipartUploadResult><UploadId>" ++ uploadId ++
              "</UploadId></InitiateMultipartUploadResult>") },
    engine)

def uploadPartHandler : Except Fault HttpResponse × ObjectProtocolEngine :=
  let (result, engine) :=
    engine.uploadPart vars.bucket vars.key (request.queryGet "uploadId")
      (scanDecimal (request.queryGet "partNumber")) request.body
      request.contentLength
  (respond result 500 fun partInfo =>
      { status := 200, headers := [("ETag", partInfo.etag)] },
    engine)

/-- The parts that the request lists are not read. -/
def completeMultipartHandler :
    Except Fault HttpResponse × ObjectProtocolEngine :=
  let (result, engine) :=
    engine.completeMultipartUpload sortParts vars.bucket vars.key
      (request.queryGet "uploadId") [] request.now
  (respond result 500 fun objMeta =>
      { status := 200, headers := [("ETag", objMeta.etag)] },
    engine)

def Handler.serve (handler : Handler) :
    Except Fault HttpResponse × ObjectProtocolEngine :=
  match handler with
  | .listBuckets => listBucketsHandler engine
  | .createBucket => createBucketHandler engine vars
  | .deleteBucket => deleteBucketHandler engine vars
  | .listObjects => listObjectsHandler engine vars
  | .putObject => putObjectHandler engine vars request
  | .getObject => getObjectHandler engine vars request
  | .deleteObject => deleteObjectHandler engine vars request
  | .headObject => headObjectHandler engine vars
  | .initiateMultipart => initiateMultipartHandler engine vars request
  | .uploadPart => uploadPartHandler engine vars request
  | .completeMultipart =>
      completeMultipartHandler sortParts engine vars request

/-- Serve a request. -/
def serveHttp : Except Fault HttpResponse × ObjectProtocolEngine :=
  match dispatch request with
  | none => (.ok (unrouted request), engine)
  | some (handler, vars) => handler.serve sortParts engine vars request

end Handlers

/-! ## Which route matches -/

theorem bucketPath_of_object
    {path : String} {vars : Vars} (object : objectPath path = some vars) :
    bucketPath path = none := by
  rw [objectPath] at object
  rw [bucketPath]
  split at object
  · rename_i rest chars
    have slash : '/' ∈ rest := by
      split at object
      · rename_i key dropped
        have suffix := List.dropWhile_suffix
          (fun char => decide (char ≠ '/')) (l := rest)
        rw [dropped] at suffix
        exact suffix.subset (by simp)
      · cases object
    simp [slash]
  · cases object

theorem rootPath_of_object
    {path : String} {vars : Vars} (object : objectPath path = some vars) :
    rootPath path = none := by
  rw [rootPath]
  split
  · rename_i root
    have none : objectPath "/" = none := by decide
    rw [root, none] at object
    cases object
  · rfl

section Dispatch

variable
    {request : HttpRequest}
    {vars : Vars}

theorem dispatch_put
    (method : request.method = .put)
    (object : objectPath request.path = some vars) :
    dispatch request = some (.putObject, vars) := by
  simp [dispatch, routes, Route.vars, method, object,
    bucketPath_of_object object]

theorem dispatch_get
    (method : request.method = .get)
    (object : objectPath request.path = some vars) :
    dispatch request = some (.getObject, vars) := by
  simp [dispatch, routes, Route.vars, method, object,
    bucketPath_of_object object, rootPath_of_object object]

theorem dispatch_initiate
    (method : request.method = .post)
    (object : objectPath request.path = some vars)
    (uploads : request.hasQuery "uploads" = true) :
    dispatch request = some (.initiateMultipart, vars) := by
  simp [dispatch, routes, Route.vars, method, object, uploads]

theorem dispatch_complete
    (method : request.method = .post)
    (object : objectPath request.path = some vars)
    (uploads : request.hasQuery "uploads" = false)
    (uploadId : request.hasQuery "uploadId" = true) :
    dispatch request = some (.completeMultipart, vars) := by
  simp [dispatch, routes, Route.vars, method, object, uploads, uploadId]

/-- No request reaches the handler of parts, as another route matches first. -/
theorem dispatch_ne_uploadPart (request : HttpRequest) (vars : Vars) :
    dispatch request ≠ some (.uploadPart, vars) := by
  intro dispatched
  rcases List.exists_of_findSome?_eq_some dispatched with
    ⟨route, registered, matched⟩
  split at matched
  · rename_i method
    rcases Option.map_eq_some_iff.mp matched with ⟨found, object, same⟩
    have handler : route.handler = .uploadPart :=
      congrArg Prod.fst same
    have partRoute : route.pattern = objectPath ∧ route.method = .put := by
      simp only [routes, List.mem_cons, List.not_mem_nil, or_false]
        at registered
      rcases registered with
        rfl | rfl | rfl | rfl | rfl | rfl | rfl | rfl | rfl | rfl | rfl
      all_goals first | exact ⟨rfl, rfl⟩ | cases handler
    rw [Route.vars, partRoute.1] at object
    split at object
    · have put := dispatch_put (method.symm.trans partRoute.2) object
      rw [put] at dispatched
      cases dispatched
    · cases object
  · cases matched

end Dispatch

/-! ## Routers -/

/--
A router.  A request is what the router is given; a handler reads from it what
`HttpRequest` has.
-/
structure Router (Request : Type) where
  /-- What a handler reads of a request. -/
  read : Request → HttpRequest
  /-- What is sent before a route is looked for, such as a redirection. -/
  redirect : Request → Option HttpResponse
  /-- The variables of a request that a route matches. -/
  matching : Route → Request → Option Vars
  /-- What is sent when no route matches. -/
  unmatched : Request → HttpResponse

namespace Router

variable
    {Request : Type}
    (router : Router Request)

/-- What the documentation of the library promises. -/
structure Lawful : Prop where
  /-- A variable without a pattern ends before the next slash. -/
  bucket :
    ∀ route ∈ routes,
      ∀ {request vars},
        router.matching route request = some vars →
          '/' ∉ vars.bucket.toList
  /-- Names that a route asks of the query only restrict it. -/
  queries :
    ∀ (route wider : Route) (request : Request),
      wider.pattern = route.pattern →
        wider.method = route.method →
          wider.queries ⊆ route.queries →
            (router.matching route request).isSome →
              (router.matching wider request).isSome

/-- The first route that matches, with the variables. -/
def dispatch (request : Request) : Option (Handler × Vars) :=
  routes.findSome? fun route =>
    (router.matching route request).map fun vars => (route.handler, vars)

/-- Serve a request through a router. -/
def serveThrough
    (sortParts : List PartInfo → List PartInfo)
    (engine : ObjectProtocolEngine) (request : Request) :
    Except Fault HttpResponse × ObjectProtocolEngine :=
  match router.redirect request with
  | some response => (.ok response, engine)
  | none =>
      match router.dispatch request with
      | none => (.ok (router.unmatched request), engine)
      | some (handler, vars) =>
          handler.serve sortParts engine vars (router.read request)

variable {router}

/-- No variable that names a bucket has a slash. -/
theorem Lawful.slash_notMem
    (lawful : router.Lawful) {request : Request} {handler : Handler}
    {vars : Vars}
    (dispatched : router.dispatch request = some (handler, vars)) :
    '/' ∉ vars.bucket.toList := by
  rcases List.exists_of_findSome?_eq_some dispatched with
    ⟨route, registered, matched⟩
  rcases Option.map_eq_some_iff.mp matched with ⟨found, taken, same⟩
  cases same
  exact lawful.bucket route registered taken

/-- The route of a plain put is registered before the one of a part. -/
theorem Lawful.dispatch_ne_uploadPart
    (lawful : router.Lawful) (request : Request) (vars : Vars) :
    router.dispatch request ≠ some (.uploadPart, vars) := by
  intro dispatched
  rw [dispatch, ← List.take_append_drop 5 routes, List.findSome?_append,
    Option.or_eq_some_iff] at dispatched
  rcases dispatched with early | ⟨passed, late⟩
  · rcases List.exists_of_findSome?_eq_some early with
      ⟨route, registered, matched⟩
    rcases Option.map_eq_some_iff.mp matched with ⟨found, _, same⟩
    have handler : route.handler = .uploadPart := congrArg Prod.fst same
    simp only [routes, List.take_succ_cons, List.take_zero, List.mem_cons,
      List.not_mem_nil, or_false] at registered
    rcases registered with rfl | rfl | rfl | rfl | rfl
    all_goals cases handler
  · rcases List.exists_of_findSome?_eq_some late with
      ⟨route, registered, matched⟩
    rcases Option.map_eq_some_iff.mp matched with ⟨found, taken, same⟩
    have handler : route.handler = .uploadPart := congrArg Prod.fst same
    have part :
        route.pattern = objectPath ∧ route.method = .put := by
      simp only [routes, List.drop_succ_cons, List.drop_zero,
        List.mem_cons, List.not_mem_nil, or_false] at registered
      rcases registered with rfl | rfl | rfl | rfl | rfl | rfl
      all_goals first | exact ⟨rfl, rfl⟩ | cases handler
    have put : ⟨objectPath, .putObject, .put, []⟩ ∈ routes.take 5 := by
      simp [routes]
    have wider :=
      lawful.queries route ⟨objectPath, .putObject, .put, []⟩ request
        part.1.symm part.2.symm (List.nil_subset _)
        (Option.isSome_of_eq_some taken)
    have missed := List.findSome?_eq_none_iff.mp passed _ put
    rw [Option.map_eq_none_iff] at missed
    rw [missed] at wider
    cases wider

end Router

/-! ## The plain router -/

/-- The router that does no more than look at the routes. -/
def plainRouter : Router HttpRequest where
  read := id
  redirect := fun _ => none
  matching := fun route request =>
    if route.method = request.method then route.vars request else none
  unmatched := unrouted

/-- The bucket in the path of an object ends before the first slash. -/
theorem slash_notMem_bucket
    {path : String} {vars : Vars} (object : objectPath path = some vars) :
    '/' ∉ vars.bucket.toList := by
  rw [objectPath] at object
  split at object
  · dsimp only at object
    split at object
    · split at object
      · cases object
        rw [String.toList_ofList]
        intro member
        have apart := List.all_eq_true.mp List.all_takeWhile '/' member
        exact absurd apart (by decide)
      · cases object
    · cases object
  · cases object

theorem slash_notMem_of_bucketPath
    {path : String} {vars : Vars} (bucket : bucketPath path = some vars) :
    '/' ∉ vars.bucket.toList := by
  rw [bucketPath] at bucket
  split at bucket
  · split at bucket
    · rename_i free
      cases bucket
      rw [String.toList_ofList]
      exact free.2
    · cases bucket
  · cases bucket

theorem slash_notMem_of_rootPath
    {path : String} {vars : Vars} (root : rootPath path = some vars) :
    '/' ∉ vars.bucket.toList := by
  rw [rootPath] at root
  split at root
  · cases root
    decide
  · cases root

theorem plainRouter_lawful : plainRouter.Lawful where
  bucket := by
    intro route registered request vars matched
    have patterns :
        route.pattern = rootPath ∨ route.pattern = bucketPath ∨
          route.pattern = objectPath := by
      simp only [routes, List.mem_cons, List.not_mem_nil, or_false]
        at registered
      rcases registered with
        rfl | rfl | rfl | rfl | rfl | rfl | rfl | rfl | rfl | rfl | rfl
      all_goals simp
    simp only [plainRouter, Route.vars, Option.ite_none_right_eq_some]
      at matched
    rcases matched with ⟨_, _, taken⟩
    rcases patterns with root | bucket | nested
    · rw [root] at taken
      exact slash_notMem_of_rootPath taken
    · rw [bucket] at taken
      exact slash_notMem_of_bucketPath taken
    · rw [nested] at taken
      exact slash_notMem_bucket taken
  queries := by
    intro route wider request pattern method asked matched
    rcases Option.isSome_iff_exists.mp matched with ⟨vars, taken⟩
    simp only [plainRouter, Route.vars, Option.ite_none_right_eq_some]
      at taken
    rcases taken with ⟨same, named, taken⟩
    have fewer : wider.queries.all request.hasQuery = true :=
      List.all_eq_true.mpr fun name member =>
        List.all_eq_true.mp named name (asked member)
    simp only [plainRouter, Route.vars, pattern, method, same, fewer,
      if_true, taken, Option.isSome_some]

theorem dispatch_plainRouter (request : HttpRequest) :
    plainRouter.dispatch request = dispatch request := by
  rw [Router.dispatch, dispatch]
  congr 1
  funext route
  simp only [plainRouter]
  split
  · rfl
  · rfl

/-- `serveHttp` serves through the plain router. -/
theorem serveThrough_plainRouter
    (sortParts : List PartInfo → List PartInfo)
    (engine : ObjectProtocolEngine) (request : HttpRequest) :
    plainRouter.serveThrough sortParts engine request =
      serveHttp sortParts engine request := by
  rw [Router.serveThrough, serveHttp, dispatch_plainRouter]
  rfl

end StorageAppliance.Unity
