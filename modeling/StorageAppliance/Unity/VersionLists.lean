import StorageAppliance.Unity.Catalog
import StorageAppliance.Unity.ObjectMap
import StorageAppliance.Unity.ObjectVersions

/-!
# Version lists

The versions of an object in a bucket with versions are the calls that put or
deleted it, in their order, and the last of them is the latest (`versionList`).
The current object is the one that was put last (`lastPut`), because a delete
adds a marker and leaves it alone.

Names join the bucket and the key with a slash.  If no bucket has a slash in its
name, then the calls on other objects have other names, so each list follows its
own calls only (`InStep`).
-/

namespace StorageAppliance.Unity

open StorageAppliance.Go
open StorageAppliance.Library

/-! ## Histories -/

/-- An engine, and what the requests have put and deleted. -/
structure CatalogHistory where
  engine : ObjectProtocolEngine := {}
  calls : List CatalogCall := []

def CatalogHistory.step
    (sortParts : List PartInfo → List PartInfo)
    (history : CatalogHistory) (request : Request) : CatalogHistory where
  engine := history.engine.serve sortParts request
  calls := history.calls ++ request.performed sortParts history.engine

/-- The calls that were about one object. -/
def CatalogHistory.callsOn
    (history : CatalogHistory) (bucket key : String) : List CatalogCall :=
  history.calls.filter fun call => call.bucket = bucket && call.key = key

/-- No bucket is deleted, and none is created with a slash in its name. -/
def SlashFree : Request → Prop
  | .createBucket name _ => '/' ∉ name.toList
  | .deleteBucket _ => False
  | _ => True

instance : DecidablePred SlashFree
  | .createBucket name _ => inferInstanceAs (Decidable ('/' ∉ name.toList))
  | .deleteBucket _ => inferInstanceAs (Decidable False)
  | .putObject .. => inferInstanceAs (Decidable True)
  | .deleteObject .. => inferInstanceAs (Decidable True)
  | .initiateMultipartUpload .. => inferInstanceAs (Decidable True)
  | .uploadPart .. => inferInstanceAs (Decidable True)
  | .completeMultipartUpload .. => inferInstanceAs (Decidable True)

/-- The versions of an object and the current one follow the calls on it. -/
structure VersionsFollow (history : CatalogHistory) (bucket key : String) :
    Prop where
  latest :
    ∀ (index : Nat) (version : ObjectVersion),
      (versionsOf history.engine (objectId bucket key))[index]? =
          some version →
        (version.isLatest = true ↔
          index + 1 =
            (versionsOf history.engine (objectId bucket key)).length)
  ordered :
    ((versionsOf history.engine (objectId bucket key)).map fun version =>
        (version.versionId, version.metadata)) =
      (history.callsOn bucket key).map fun call =>
        (call.versionId, call.metadata)
  markers :
    ∀ version ∈ versionsOf history.engine (objectId bucket key),
      version.isDeleteMarker = true ↔ version.metadata = none
  current :
    history.engine.objects.get? (objectId bucket key) =
      ((versionsOf history.engine (objectId bucket key)).filterMap
        ObjectVersion.metadata).getLast?
  absent :
    history.engine.objects.get? (objectId bucket key) = none ↔
      ∀ version ∈ versionsOf history.engine (objectId bucket key),
        version.isDeleteMarker = true

/-! ## Lists -/

/-- The versions that some calls make. -/
def versionList (calls : List CatalogCall) : List ObjectVersion :=
  calls.mapIdx fun index call =>
    { versionId := call.versionId
      metadata := call.metadata
      isLatest := index + 1 = calls.length
      isDeleteMarker := call.metadata.isNone }

/-- The object that some calls put last. -/
def lastPut (calls : List CatalogCall) : Option ObjectMetadata :=
  (calls.filterMap CatalogCall.metadata).getLast?

/-- The catalog holds what the calls on a name have made. -/
structure InStep (catalog : Catalog) (id : String)
    (calls : List CatalogCall) : Prop where
  versions : (catalog.versions.get? id).getD [] = versionList calls
  current : catalog.objects.get? id = lastPut calls

section Lists

variable {calls : List CatalogCall}

theorem versionList_concat (call : CatalogCall) :
    versionList (calls ++ [call]) =
      (versionList calls).map
          (fun version => { version with isLatest := false }) ++
        [{ versionId := call.versionId
           metadata := call.metadata
           isLatest := true
           isDeleteMarker := call.metadata.isNone }] := by
  rw [versionList, List.mapIdx_append, List.mapIdx_singleton]
  congr 1
  · apply List.ext_getElem?
    intro index
    rw [versionList, List.getElem?_map, List.getElem?_mapIdx,
      List.getElem?_mapIdx, Option.map_map]
    cases found : calls[index]? with
    | none => rfl
    | some earlier =>
        have within := (List.getElem?_eq_some_iff.mp found).1
        have before : index ≠ calls.length := by omega
        simp [before]
  · simp

theorem lastPut_concat_put
    {call : CatalogCall} {objMeta : ObjectMetadata}
    (put : call.metadata = some objMeta) :
    lastPut (calls ++ [call]) = some objMeta := by
  rw [lastPut, List.filterMap_append, List.filterMap_cons_some put,
    List.filterMap_nil, List.getLast?_concat]

theorem lastPut_concat_delete
    {call : CatalogCall} (deleted : call.metadata = none) :
    lastPut (calls ++ [call]) = lastPut calls := by
  rw [lastPut, List.filterMap_append, List.filterMap_cons_none deleted,
    List.filterMap_nil, List.append_nil, lastPut]

theorem map_metadata_versionList :
    (versionList calls).map ObjectVersion.metadata =
      calls.map CatalogCall.metadata := by
  apply List.ext_getElem?
  intro index
  rw [List.getElem?_map, versionList, List.getElem?_mapIdx,
    List.getElem?_map, Option.map_map]
  rfl

theorem filterMap_metadata_versionList :
    (versionList calls).filterMap ObjectVersion.metadata =
      calls.filterMap CatalogCall.metadata := by
  have same := congrArg (List.filterMap id) (@map_metadata_versionList calls)
  rw [List.filterMap_map, List.filterMap_map] at same
  exact same

/-- What is in step follows. -/
theorem InStep.follow
    {history : CatalogHistory} {bucket key : String}
    (inStep :
      InStep history.engine.catalog (objectId bucket key)
        (history.callsOn bucket key)) :
    VersionsFollow history bucket key := by
  have versions :
      versionsOf history.engine (objectId bucket key) =
        versionList (history.callsOn bucket key) :=
    inStep.versions
  have current :
      history.engine.objects.get? (objectId bucket key) =
        lastPut (history.callsOn bucket key) :=
    inStep.current
  have markers :
      ∀ version ∈ versionList (history.callsOn bucket key),
        version.isDeleteMarker = true ↔ version.metadata = none := by
    intro version member
    rcases List.getElem?_of_mem member with ⟨index, found⟩
    rw [versionList, List.getElem?_mapIdx, Option.map_eq_some_iff] at found
    rcases found with ⟨call, _, rfl⟩
    exact Option.isNone_iff_eq_none
  have last :
      lastPut (history.callsOn bucket key) =
        ((versionList (history.callsOn bucket key)).filterMap
          ObjectVersion.metadata).getLast? := by
    rw [lastPut, filterMap_metadata_versionList]
  constructor
  · intro index version found
    rw [versions, versionList, List.getElem?_mapIdx,
      Option.map_eq_some_iff] at found
    rcases found with ⟨call, _, rfl⟩
    rw [versions, versionList, List.length_mapIdx, decide_eq_true_iff]
  · rw [versions]
    apply List.ext_getElem?
    intro index
    rw [List.getElem?_map, versionList, List.getElem?_mapIdx,
      List.getElem?_map, Option.map_map]
    rfl
  · rw [versions]
    exact markers
  · rw [versions, current, last]
  · rw [versions, current, last, List.getLast?_eq_none_iff,
      List.filterMap_eq_nil_iff]
    apply forall₂_congr
    intro version member
    exact (markers version member).symm

end Lists

/-! ## Steps -/

section Steps

variable
    {engine after : ObjectProtocolEngine}
    {id : String}
    {calls : List CatalogCall}

theorem InStep.put
    (inStep : InStep engine.catalog id calls) {found : Bucket}
    (versioning : found.versioningEnabled = true)
    (bucket key : String) (objMeta : ObjectMetadata) :
    InStep (engine.putCatalog found id objMeta) id
      (calls ++ [⟨bucket, key, objMeta.versionId, some objMeta⟩]) := by
  rw [ObjectProtocolEngine.putCatalog, if_pos versioning]
  constructor
  · rw [versionList_concat, ← inStep.versions]
    exact versionsOf_addVersion
  · rw [lastPut_concat_put rfl]
    exact Dict.get?_set_self _ _ _

theorem InStep.delete
    (inStep : InStep engine.catalog id calls) {found : Bucket}
    (versioning : found.versioningEnabled = true)
    (bucket key versionId : String) :
    InStep (engine.deleteCatalog found id versionId) id
      (calls ++ [⟨bucket, key, versionId, none⟩]) := by
  rw [ObjectProtocolEngine.deleteCatalog, if_pos versioning]
  constructor
  · rw [versionList_concat, ← inStep.versions]
    exact versionsOf_addVersion
  · rw [lastPut_concat_delete rfl, ← inStep.current]
    rfl

/-- A put under another name. -/
theorem InStep.put_other
    (inStep : InStep engine.catalog id calls) {other : String}
    (different : id ≠ other) (found : Bucket) (objMeta : ObjectMetadata) :
    InStep (engine.putCatalog found other objMeta) id calls := by
  rw [ObjectProtocolEngine.putCatalog]
  split
  · constructor
    · rw [← inStep.versions]
      exact congrArg (Option.getD · []) (Dict.get?_set_ne _ _ different)
    · rw [← inStep.current]
      exact Dict.get?_set_ne _ _ different
  · constructor
    · exact inStep.versions
    · rw [← inStep.current]
      exact Dict.get?_set_ne _ _ different

theorem InStep.delete_other
    (inStep : InStep engine.catalog id calls) {other : String}
    (different : id ≠ other) (found : Bucket) (versionId : String) :
    InStep (engine.deleteCatalog found other versionId) id calls := by
  rw [ObjectProtocolEngine.deleteCatalog]
  split
  · constructor
    · rw [← inStep.versions]
      exact congrArg (Option.getD · []) (Dict.get?_set_ne _ _ different)
    · exact inStep.current
  · constructor
    · exact inStep.versions
    · rw [← inStep.current]
      exact Dict.get?_erase_ne _ different

end Steps

/-! ## Runs -/

section Runs

variable
    {sortParts : List PartInfo → List PartInfo}
    {history : CatalogHistory}

/-- Every object whose bucket has versions, or is not there, is in step. -/
structure Catalogued (history : CatalogHistory) : Prop where
  slashFree :
    ∀ name found,
      history.engine.buckets.get? name = some found → '/' ∉ name.toList
  inStep :
    ∀ bucket key,
      '/' ∉ bucket.toList →
        (∀ found,
          history.engine.buckets.get? bucket = some found →
            found.versioningEnabled = true) →
          InStep history.engine.catalog (objectId bucket key)
            (history.callsOn bucket key)

theorem callsOn_step (request : Request) (bucket key : String) :
    (history.step sortParts request).callsOn bucket key =
      history.callsOn bucket key ++
        (request.performed sortParts history.engine).filter fun call =>
          call.bucket = bucket && call.key = key :=
  List.filter_append _ _

/-- A call on one object leaves the others in step. -/
theorem Catalogued.call
    (catalogued : Catalogued history) {after : CatalogHistory}
    {call : CatalogCall} {found : Bucket}
    (present : history.engine.buckets.get? call.bucket = some found)
    (calls :
      ∀ bucket key,
        after.callsOn bucket key =
          history.callsOn bucket key ++
            [call].filter fun call =>
              call.bucket = bucket && call.key = key)
    (buckets : after.engine.buckets = history.engine.buckets)
    (here :
      ∀ earlier,
        found.versioningEnabled = true →
          InStep history.engine.catalog (objectId call.bucket call.key)
              earlier →
            InStep after.engine.catalog (objectId call.bucket call.key)
              (earlier ++ [call]))
    (elsewhere :
      ∀ id earlier,
        id ≠ objectId call.bucket call.key →
          InStep history.engine.catalog id earlier →
            InStep after.engine.catalog id earlier) :
    Catalogued after := by
  constructor
  · rw [buckets]
    exact catalogued.slashFree
  · intro bucket key free versioned
    rw [buckets] at versioned
    have inStep := catalogued.inStep bucket key free versioned
    rw [calls]
    by_cases same : call.bucket = bucket ∧ call.key = key
    · rcases same with ⟨rfl, rfl⟩
      have kept :
          ([call].filter fun other =>
              other.bucket = call.bucket && other.key = call.key) =
            [call] := by
        simp
      rw [kept]
      exact here _ (versioned found present) inStep
    · have dropped :
          ([call].filter fun other =>
              other.bucket = bucket && other.key = key) = [] := by
        simpa using same
      rw [dropped, List.append_nil]
      apply elsewhere _ _ _ inStep
      intro names
      rcases
          objectId_inj_of_free free
            (catalogued.slashFree call.bucket found present) names with
        ⟨buckets, keys⟩
      exact same ⟨buckets.symm, keys.symm⟩

/-- A step without a call that keeps the buckets and may add one. -/
theorem Catalogued.silent
    (catalogued : Catalogued history) {after : CatalogHistory}
    (calls :
      ∀ bucket key,
        after.callsOn bucket key = history.callsOn bucket key)
    (free :
      ∀ name found,
        after.engine.buckets.get? name = some found →
          history.engine.buckets.get? name = some found ∨
            '/' ∉ name.toList)
    (kept :
      ∀ name found,
        history.engine.buckets.get? name = some found →
          after.engine.buckets.get? name = some found)
    (versions :
      after.engine.catalog.versions = history.engine.catalog.versions)
    (objects :
      after.engine.catalog.objects = history.engine.catalog.objects) :
    Catalogued after := by
  constructor
  · intro name found present
    rcases free name found present with before | free
    · exact catalogued.slashFree name found before
    · exact free
  · intro bucket key bucketFree versioned
    have inStep :=
      catalogued.inStep bucket key bucketFree fun found present =>
        versioned found (kept bucket found present)
    rw [calls]
    constructor
    · rw [versions]
      exact inStep.versions
    · rw [objects]
      exact inStep.current

theorem catalogued_step
    (catalogued : Catalogued history) {request : Request}
    (free : SlashFree request) :
    Catalogued (history.step sortParts request) := by
  have step := @serve_catalogStep sortParts history.engine request
  have calls := @callsOn_step sortParts history request
  generalize request.performed sortParts history.engine = performed
    at step calls
  cases step with
  | same unchanged =>
      have buckets :
          (history.step sortParts request).engine.buckets =
            history.engine.buckets :=
        congrArg Catalog.buckets unchanged
      apply catalogued.silent
      · intro bucket key
        rw [calls, List.filter_nil, List.append_nil]
      · rw [buckets]
        intro name found present
        exact Or.inl present
      · rw [buckets]
        exact fun name found present => present
      · exact congrArg Catalog.versions unchanged
      · exact congrArg Catalog.objects unchanged
  | createBucket name versioningEnabled requested absent created =>
      rw [requested] at free
      have buckets :
          (history.step sortParts request).engine.buckets =
            history.engine.buckets.set name
              { name := name, versioningEnabled := versioningEnabled } :=
        congrArg Catalog.buckets created
      apply catalogued.silent
      · intro bucket key
        rw [calls, List.filter_nil, List.append_nil]
      · rw [buckets]
        intro other found present
        rcases Dict.get?_of_set present with rfl | before
        · exact Or.inr free
        · exact Or.inl before
      · rw [buckets]
        intro other found present
        rw [Dict.get?_set_ne]
        · exact present
        · rintro rfl
          rw [absent] at present
          cases present
      · change (history.engine.serve _ _).catalog.versions = _
        rw [created]
      · change (history.engine.serve _ _).catalog.objects = _
        rw [created]
  | deleteBucket name requested deleted =>
      rw [requested] at free
      exact False.elim free
  | put found bucket key objMeta present described stored =>
      apply catalogued.call present calls
      · change (history.engine.serve _ _).catalog.buckets = _
        rw [stored, putCatalog_buckets]
      · intro earlier versioning inStep
        change InStep (history.engine.serve _ _).catalog _ _
        rw [stored]
        exact inStep.put versioning bucket key objMeta
      · intro id earlier different inStep
        change InStep (history.engine.serve _ _).catalog _ _
        rw [stored]
        exact inStep.put_other different found objMeta
  | delete found bucket key versionId present deleted =>
      apply catalogued.call present calls
      · change (history.engine.serve _ _).catalog.buckets = _
        rw [deleted, deleteCatalog_buckets]
      · intro earlier versioning inStep
        change InStep (history.engine.serve _ _).catalog _ _
        rw [deleted]
        exact inStep.delete versioning bucket key versionId
      · intro id earlier different inStep
        change InStep (history.engine.serve _ _).catalog _ _
        rw [deleted]
        exact inStep.delete_other different found versionId

end Runs

/--
In every run that deletes no bucket and gives none a name with a slash, the
versions of every object in a bucket with versions follow the calls on it.
-/
theorem versions_follow_calls
    (sortParts : List PartInfo → List PartInfo) (requests : List Request)
    (free : ∀ request ∈ requests, SlashFree request)
    {bucket : String}
    (versioning :
      Versioning (run (CatalogHistory.step sortParts) {} requests).engine
        bucket)
    (key : String) :
    VersionsFollow (run (CatalogHistory.step sortParts) {} requests) bucket
      key := by
  have start : Catalogued ({} : CatalogHistory) := by
    constructor
    · intro name found present
      cases present
    · intro bucket key _ _
      exact ⟨rfl, rfl⟩
  have steps :
      ∀ history request,
        Catalogued history → SlashFree request →
          Catalogued (history.step sortParts request) :=
    fun _ _ catalogued free => catalogued_step catalogued free
  have catalogued := run_invariant_of_allowed steps start free
  rcases versioning with ⟨found, present, enabled⟩
  apply InStep.follow
  apply
    catalogued.inStep bucket key
      (catalogued.slashFree bucket found present)
  intro other same
  rw [present] at same
  cases same
  exact enabled

/-- Two puts, and a delete between them. -/
theorem versions_follow_three_calls :
    VersionsFollow
      (run (CatalogHistory.step id) {}
        [.createBucket "b" true,
          .putObject "b" "k/1" { bytes := [1] } 1 Dict.empty 1,
          .deleteObject "b" "k/1" "" 2,
          .putObject "b" "k/1" { bytes := [2] } 1 Dict.empty 3])
      "b" "k/1" := by
  apply versions_follow_calls
  · decide
  · exact ⟨⟨"b", true⟩, by decide +kernel, rfl⟩

end StorageAppliance.Unity
