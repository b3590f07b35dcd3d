import StorageAppliance.Library.Run
import StorageAppliance.Library.Separator
import StorageAppliance.Unity.ObjectStorage

/-!
# Objects as a map

An object store is a map from pairs of bucket and key to data: what is read is
what was put last, unless it was deleted since.  The engine keeps its objects
under names instead, which are not always different for different pairs.  A name
with one slash belongs to one pair, a name with more belongs to several, and a
part of an upload can have the name of an object.

`objects_asExpected_iff` says that the engine is such a map along a run exactly
if no object with another slash is put and no part overwrites an object.
-/

namespace StorageAppliance.Unity

open StorageAppliance.Go
open StorageAppliance.Library

/-- The engine, and the data that is expected of each pair. -/
structure Remembered where
  engine : ObjectProtocolEngine := {}
  expected : Dict (String × String) Bytes := Dict.empty

namespace Remembered

variable (self : Remembered)

/-- The data expected after a request. -/
def remember : Request → Dict (String × String) Bytes
  | .putObject bucket key reader size metadata now =>
      match
        (self.engine.putObject bucket key reader size metadata now).1,
        reader.readData size with
      | .ok _, .ok data => self.expected.set (bucket, key) data
      | _, _ => self.expected
  | .deleteObject bucket key versionId now =>
      match
        (self.engine.deleteObject bucket key versionId now).1 with
      | .ok _ => self.expected.erase (bucket, key)
      | .error _ => self.expected
  | _ => self.expected

/-- Serve a request and remember what it was about. -/
def step (sortParts : List PartInfo → List PartInfo)
    (self : Remembered) (request : Request) : Remembered where
  engine := self.engine.serve sortParts request
  expected := self.remember request

end Remembered

/--
Every pair is read as expected: the expected data is returned, and an error if
there is none.
-/
def AsExpected (state : Remembered) : Prop :=
  ∀ bucket key,
    match state.expected.get? (bucket, key) with
    | some data =>
        ∃ objMeta,
          state.engine.getObject bucket key "" = .ok (data, objMeta)
    | none =>
        ∃ fault, state.engine.getObject bucket key "" = .error fault

/-- The requests that a map understands, on buckets without versions. -/
def Plain : Request → Prop
  | .createBucket _ versioningEnabled => versioningEnabled = false
  | .deleteBucket _ => False
  | .completeMultipartUpload .. => False
  | _ => True

/--
No object is put whose bucket or key contains a slash, and no part is stored
under the name of an object unless the object is still read back from it.
-/
def Apart (state : Remembered) : Request → Prop
  | .putObject bucket key reader size _ _ =>
      ∀ data,
        Supplies state.engine bucket reader size data →
          '/' ∉ bucket.toList ∧ '/' ∉ key.toList
  | .uploadPart _ _ uploadId partNumber reader size =>
      ∀ data,
        state.engine.uploads.get? uploadId ≠ none →
          reader.readData size = .ok data →
            ∀ bucket key expected,
              objectId bucket key = partId uploadId partNumber →
                state.expected.get? (bucket, key) = some expected →
                  fitted expected.length data = expected
  | _ => True

/-! ## Names -/

section Names

variable
    {bucket key other otherKey : String}

theorem toList_objectId :
    (objectId bucket key).toList =
      bucket.toList ++ '/' :: key.toList := by
  rw [objectId, String.toList_append, String.toList_append,
    List.append_assoc]
  rfl

/-- A name with one slash belongs to one pair. -/
theorem objectId_inj
    (bucketFree : '/' ∉ bucket.toList) (keyFree : '/' ∉ key.toList)
    (same : objectId other otherKey = objectId bucket key) :
    (other, otherKey) = (bucket, key) := by
  have lists := congrArg String.toList same.symm
  rw [toList_objectId, toList_objectId] at lists
  rcases append_cons_inj_of_free bucketFree keyFree lists with
    ⟨buckets, keys⟩
  rw [String.toList_injective buckets, String.toList_injective keys]

/-- Objects in buckets without slashes have names of their own. -/
theorem objectId_inj_of_free
    (bucketFree : '/' ∉ bucket.toList) (otherFree : '/' ∉ other.toList)
    (same : objectId bucket key = objectId other otherKey) :
    bucket = other ∧ key = otherKey := by
  have lists := congrArg String.toList same
  rw [toList_objectId, toList_objectId] at lists
  rcases append_cons_inj bucketFree otherFree lists with ⟨buckets, keys⟩
  exact ⟨String.toList_injective buckets, String.toList_injective keys⟩

/-- A name with more slashes belongs to another pair too. -/
theorem exists_other_pair
    (slashed : '/' ∈ bucket.toList ∨ '/' ∈ key.toList) :
    ∃ other otherKey,
      (other, otherKey) ≠ (bucket, key) ∧
        objectId other otherKey = objectId bucket key := by
  rcases exists_other_split slashed with
    ⟨start, rest, different, same⟩
  refine ⟨String.ofList start, String.ofList rest, ?_, ?_⟩
  · intro equal
    have buckets := congrArg (fun pair => pair.1.toList) equal
    simp only [String.toList_ofList] at buckets
    exact different buckets
  · apply String.toList_injective
    rw [toList_objectId, toList_objectId, String.toList_ofList,
      String.toList_ofList]
    exact same

end Names

/-! ## Consistency -/

/-- An engine holds an object of some data. -/
def Holds (engine : ObjectProtocolEngine) (id : String) (data : Bytes) :
    Prop :=
  ∃ objMeta stored,
    engine.objects.get? id = some objMeta ∧
      objMeta.storageId = id ∧ objMeta.etag = md5Hex data ∧
      makeSlice objMeta.size = .ok data.length ∧
      engine.pool.storage.get? id = some stored ∧
      fitted data.length stored = data

/-- The objects of the engine are the expected ones, under simple names. -/
structure Consistent (state : Remembered) : Prop where
  unversioned :
    ∀ name bucket,
      state.engine.buckets.get? name = some bucket →
        bucket.versioningEnabled = false
  simple :
    ∀ bucket key data,
      state.expected.get? (bucket, key) = some data →
        '/' ∉ bucket.toList ∧ '/' ∉ key.toList
  stored :
    ∀ bucket key data,
      state.expected.get? (bucket, key) = some data →
        Holds state.engine (objectId bucket key) data
  known :
    ∀ id objMeta,
      state.engine.objects.get? id = some objMeta →
        ∃ bucket key data,
          id = objectId bucket key ∧
            state.expected.get? (bucket, key) = some data

section Consistency

variable
    {state : Remembered}
    {bucket key : String}
    {data : Bytes}

theorem asExpected_iff :
    AsExpected state ↔
      ∀ bucket key data,
        Reads state.engine bucket key data ↔
          state.expected.get? (bucket, key) = some data := by
  apply forall₂_congr
  intro bucket key
  cases expected : state.expected.get? (bucket, key) with
  | none =>
      simp only [getObject_error_iff, reduceCtorEq, iff_false]
  | some known =>
      constructor
      · rintro ⟨objMeta, read⟩ data
        constructor
        · rintro ⟨otherMeta, other⟩
          rw [read] at other
          cases other
          rfl
        · intro same
          cases same
          exact ⟨objMeta, read⟩
      · intro agree
        exact (agree known).mpr rfl

theorem Holds.reads
    {engine : ObjectProtocolEngine}
    (holds : Holds engine (objectId bucket key) data) (other : Bytes) :
    Reads engine bucket key other ↔ other = data := by
  rcases holds with
    ⟨objMeta, stored, found, storageId, etag, size, pooled, fits⟩
  rw [← storageId] at pooled
  rw [reads_iff, found]
  simp only [Option.some.injEq, exists_eq_left',
    readVerified_described_iff size etag pooled, fits]
  constructor
  · exact And.left
  · rintro rfl
    exact ⟨rfl, rfl⟩

/-- A pair whose name is that of an expected pair is that pair. -/
theorem Consistent.pair_eq
    (consistent : Consistent state)
    (expected : state.expected.get? (bucket, key) = some data)
    {other otherKey : String}
    (same : objectId other otherKey = objectId bucket key) :
    (other, otherKey) = (bucket, key) := by
  have simple := consistent.simple bucket key data expected
  exact objectId_inj simple.1 simple.2 same

/-- An object is stored under its name. -/
theorem Consistent.storageId_eq
    (consistent : Consistent state) {id : String}
    {objMeta : ObjectMetadata}
    (found : state.engine.objects.get? id = some objMeta) :
    objMeta.storageId = id := by
  rcases consistent.known id objMeta found with
    ⟨bucket, key, data, rfl, expected⟩
  rcases consistent.stored bucket key data expected with
    ⟨held, _, heldFound, storageId, _⟩
  cases found.symm.trans heldFound
  exact storageId

theorem Consistent.asExpected (consistent : Consistent state) :
    AsExpected state := by
  rw [asExpected_iff]
  intro bucket key data
  constructor
  · intro reads
    rcases reads_iff.mp reads with ⟨objMeta, found, _⟩
    rcases consistent.known _ objMeta found with
      ⟨other, otherKey, known, same, expected⟩
    have pairs := consistent.pair_eq expected same
    cases pairs
    have holds := consistent.stored bucket key known expected
    rw [(holds.reads data).mp reads]
    exact expected
  · intro expected
    have holds := consistent.stored bucket key data expected
    exact (holds.reads data).mpr rfl

/-- A put object is held. -/
theorem Stored.holds
    {before after : ObjectProtocolEngine} {id : String}
    {objMeta : ObjectMetadata}
    (stored : Stored before id data objMeta after) :
    Holds after id data := by
  refine
    ⟨objMeta, data, ?_, stored.storageId, stored.etag, stored.size, ?_,
      fitted_self data⟩
  · rw [stored.objects, Dict.get?_set_self]
  · rw [stored.pool, if_pos rfl]

/-- A step that changes neither objects nor data keeps them consistent. -/
theorem Consistent.congr
    {engine : ObjectProtocolEngine}
    (consistent : Consistent state)
    (unversioned :
      ∀ name bucket,
        engine.buckets.get? name = some bucket →
          bucket.versioningEnabled = false)
    (objects : engine.objects = state.engine.objects)
    (pool : engine.pool = state.engine.pool) :
    Consistent { state with engine := engine } where
  unversioned := unversioned
  simple := consistent.simple
  stored := by
    intro bucket key data expected
    change Holds engine (objectId bucket key) data
    rw [Holds, objects, pool]
    exact consistent.stored bucket key data expected
  known := by
    change ∀ id objMeta, engine.objects.get? id = some objMeta → _
    rw [objects]
    exact consistent.known

/-- An object is held as long as its metadata and its data stay. -/
theorem Holds.congr
    {before after : ObjectProtocolEngine} {id : String}
    (holds : Holds before id data)
    (objects : after.objects.get? id = before.objects.get? id)
    (pool :
      after.pool.storage.get? id = before.pool.storage.get? id) :
    Holds after id data := by
  rw [Holds, objects, pool]
  exact holds

end Consistency

/-! ## Steps -/

section Steps

variable
    {sortParts : List PartInfo → List PartInfo}
    {state : Remembered}

theorem step_createBucket
    (consistent : Consistent state) (name : String) :
    Consistent
      (state.step sortParts (.createBucket name false)) := by
  apply consistent.congr
  · intro other bucket found
    simp only [ObjectProtocolEngine.serve,
      ObjectProtocolEngine.createBucket] at found
    split at found
    · exact consistent.unversioned other bucket found
    · simp only [Dict.get?_set] at found
      split at found
      · cases found
        rfl
      · exact consistent.unversioned other bucket found
  · exact (createBucket_frame state.engine name false).1
  · exact (createBucket_frame state.engine name false).2

/-- What a put that supplies data remembers and stores. -/
theorem step_putObject
    {bucket : String} {reader : Reader} {size : ℤ} {data : Bytes}
    (supplied : Supplies state.engine bucket reader size data)
    (key : String) (metadata : Dict String String) (now : ℤ) :
    (state.step sortParts
          (.putObject bucket key reader size metadata now)).expected =
        state.expected.set (bucket, key) data ∧
      ∃ objMeta,
        Stored state.engine (objectId bucket key) data objMeta
          (state.step sortParts
            (.putObject bucket key reader size metadata now)).engine := by
  rcases putObject_stored supplied metadata now with
    ⟨objMeta, returned, stored⟩
  refine ⟨?_, objMeta, stored⟩
  simp only [Remembered.step, Remembered.remember, returned, supplied.2]

theorem step_putObject_failed
    {bucket : String} {reader : Reader} {size : ℤ}
    (none : ∀ data, ¬ Supplies state.engine bucket reader size data)
    (key : String) (metadata : Dict String String) (now : ℤ) :
    state.step sortParts
        (.putObject bucket key reader size metadata now) = state := by
  rcases @putObject_failed state.engine bucket key reader size none
      metadata now with ⟨fault, failed⟩
  simp only [Remembered.step, Remembered.remember,
    ObjectProtocolEngine.serve, failed]

theorem Consistent.put
    (consistent : Consistent state) {bucket key : String}
    {reader : Reader} {size : ℤ} (metadata : Dict String String)
    (now : ℤ)
    (apart :
      Apart state (.putObject bucket key reader size metadata now)) :
    Consistent
      (state.step sortParts
        (.putObject bucket key reader size metadata now)) := by
  by_cases supplied :
      ∃ data, Supplies state.engine bucket reader size data
  · rcases supplied with ⟨data, supplied⟩
    have simple := apart data supplied
    rcases @step_putObject sortParts state bucket reader size data supplied
        key metadata now with ⟨expected, objMeta, stored⟩
    refine ⟨?_, ?_, ?_, ?_⟩
    · rw [stored.buckets]
      exact consistent.unversioned
    · intro other otherKey known found
      rw [expected, Dict.get?_set] at found
      split at found
      · rename_i same
        cases same
        exact simple
      · exact consistent.simple other otherKey known found
    · intro other otherKey known found
      rw [expected, Dict.get?_set] at found
      split at found
      · rename_i same
        cases same
        cases found
        exact stored.holds
      · rename_i different
        have names :
            objectId other otherKey ≠ objectId bucket key :=
          fun same => different (objectId_inj simple.1 simple.2 same)
        apply (consistent.stored other otherKey known found).congr
        · rw [stored.objects, Dict.get?_set_ne _ _ names]
        · rw [stored.pool, if_neg names]
    · intro id otherMeta found
      rw [expected]
      rw [stored.objects, Dict.get?_set] at found
      split at found
      · rename_i same
        exact ⟨bucket, key, data, same, Dict.get?_set_self _ _ _⟩
      · rename_i different
        rcases consistent.known id otherMeta found with
          ⟨other, otherKey, known, name, expected⟩
        refine ⟨other, otherKey, known, name, ?_⟩
        rw [Dict.get?_set_ne, expected]
        intro same
        cases same
        exact different name
  · rw [step_putObject_failed (not_exists.mp supplied)]
    exact consistent

/-- A put under a name that others have too is read under them. -/
theorem not_asExpected_put
    (consistent : Consistent state) {bucket key : String}
    {reader : Reader} {size : ℤ} {data : Bytes}
    (supplied : Supplies state.engine bucket reader size data)
    (slashed : '/' ∈ bucket.toList ∨ '/' ∈ key.toList)
    (metadata : Dict String String) (now : ℤ) :
    ¬ AsExpected
      (state.step sortParts
        (.putObject bucket key reader size metadata now)) := by
  intro asExpected
  rcases @step_putObject sortParts state bucket reader size data supplied
      key metadata now with ⟨expected, objMeta, stored⟩
  rcases exists_other_pair slashed with
    ⟨other, otherKey, different, same⟩
  have found :=
    (asExpected_iff.mp asExpected other otherKey data).mp
      ((stored.reads same data).mpr rfl)
  rw [expected, Dict.get?_set_ne _ _ different] at found
  exact different (consistent.pair_eq found same.symm).symm

theorem Consistent.delete
    (consistent : Consistent state) (bucket key versionId : String)
    (now : ℤ) :
    Consistent
      (state.step sortParts
        (.deleteObject bucket key versionId now)) := by
  cases present : state.engine.buckets.get? bucket with
  | none =>
      have failed := deleteObject_missing present key versionId now
      have same :
          state.step sortParts (.deleteObject bucket key versionId now) =
            state := by
        simp only [Remembered.step, Remembered.remember,
          ObjectProtocolEngine.serve, failed]
      rw [same]
      exact consistent
  | some found =>
      rcases
        deleteObject_unversioned present
          (consistent.unversioned bucket found present) key versionId
          now with
        ⟨returned, buckets, objects, pool⟩
      have expected :
          (state.step sortParts
              (.deleteObject bucket key versionId now)).expected =
            state.expected.erase (bucket, key) := by
        simp only [Remembered.step, Remembered.remember, returned]
      refine ⟨?_, ?_, ?_, ?_⟩
      · intro name other listed
        apply consistent.unversioned name other
        rw [← buckets]
        exact listed
      · intro other otherKey known listed
        rw [expected] at listed
        exact consistent.simple other otherKey known
          (Dict.get?_of_erase listed).2
      · intro other otherKey known listed
        rw [expected] at listed
        rcases Dict.get?_of_erase listed with ⟨different, before⟩
        have names :
            objectId other otherKey ≠ objectId bucket key :=
          fun same =>
            different (consistent.pair_eq before same.symm).symm
        apply (consistent.stored other otherKey known before).congr
        · change
            (state.engine.deleteObject bucket key versionId
              now).2.objects.get? _ = _
          rw [objects, Dict.get?_erase_ne _ names]
        · apply pool
          intro objMeta object
          rw [consistent.storageId_eq object]
          exact names.symm
      · intro id objMeta listed
        change
          (state.engine.deleteObject bucket key versionId
            now).2.objects.get? id = some objMeta at listed
        rw [objects] at listed
        rcases Dict.get?_of_erase listed with ⟨different, before⟩
        rcases consistent.known id objMeta before with
          ⟨other, otherKey, known, name, remembered⟩
        refine ⟨other, otherKey, known, name, ?_⟩
        rw [expected, Dict.get?_erase_ne, remembered]
        intro same
        cases same
        exact different name

theorem Consistent.uploadPart
    (consistent : Consistent state) {uploadId : String} {reader : Reader}
    {size partNumber : ℤ} (bucket key : String)
    (apart :
      Apart state
        (.uploadPart bucket key uploadId partNumber reader size)) :
    Consistent
      (state.step sortParts
        (.uploadPart bucket key uploadId partNumber reader size)) := by
  by_cases written :
      ∃ data,
        state.engine.uploads.get? uploadId ≠ none ∧
          reader.readData size = .ok data
  · rcases written with ⟨data, initiated, read⟩
    have keeps := apart data initiated read
    rcases uploadPart_written initiated read bucket key partNumber with
      ⟨buckets, objects, pool⟩
    refine ⟨?_, consistent.simple, ?_, ?_⟩
    · intro name found listed
      apply consistent.unversioned name found
      rw [← buckets]
      exact listed
    · intro other otherKey known expected
      by_cases same :
          objectId other otherKey = partId uploadId partNumber
      · rcases consistent.stored other otherKey known expected with
          ⟨objMeta, _, found, storageId, etag, made, _, _⟩
        refine
          ⟨objMeta, data, ?_, storageId, etag, made, ?_,
            keeps other otherKey known same expected⟩
        · exact (congrArg (Dict.get? · _) objects).trans found
        · exact (pool _).trans (if_pos same)
      · apply (consistent.stored other otherKey known expected).congr
        · exact congrArg (Dict.get? · _) objects
        · exact (pool _).trans (if_neg same)
    · intro id objMeta found
      apply consistent.known id objMeta
      exact (congrArg (Dict.get? · _) objects).symm.trans found
  · have failed :
        state.step sortParts
            (.uploadPart bucket key uploadId partNumber reader size) =
          state := by
      have same :=
        uploadPart_failed
          (fun data initiated read =>
            written ⟨data, initiated, read⟩) bucket key partNumber
      simp only [Remembered.step, Remembered.remember,
        ObjectProtocolEngine.serve, same]
    rw [failed]
    exact consistent

/-- A part that overwrites an object is read instead of it. -/
theorem not_asExpected_uploadPart
    (consistent : Consistent state) {uploadId : String} {reader : Reader}
    {size partNumber : ℤ} {data known : Bytes} {other otherKey : String}
    (initiated : state.engine.uploads.get? uploadId ≠ none)
    (read : reader.readData size = .ok data)
    (same : objectId other otherKey = partId uploadId partNumber)
    (expected : state.expected.get? (other, otherKey) = some known)
    (differs : fitted known.length data ≠ known)
    (bucket key : String) :
    ¬ AsExpected
      (state.step sortParts
        (.uploadPart bucket key uploadId partNumber reader size)) := by
  intro asExpected
  rcases uploadPart_written initiated read bucket key partNumber with
    ⟨_, objects, pool⟩
  have reads :=
    (asExpected_iff.mp asExpected other otherKey known).mpr expected
  rcases reads_iff.mp reads with ⟨objMeta, found, verified⟩
  have before : state.engine.objects.get? (objectId other otherKey) =
      some objMeta :=
    (congrArg (Dict.get? · _) objects).symm.trans found
  rcases consistent.stored other otherKey known expected with
    ⟨held, _, heldFound, storageId, _, made, _, _⟩
  cases before.symm.trans heldFound
  rcases readVerified_ok_iff.mp verified with
    ⟨length, stored, sized, pooled, fits, _⟩
  cases sized.symm.trans made
  rw [storageId, same] at pooled
  cases ((pool _).trans (if_pos rfl)).symm.trans pooled
  exact differs fits.symm

/-- Requests that keep names apart keep the objects consistent. -/
theorem Consistent.step
    (consistent : Consistent state) {request : Request}
    (plain : Plain request) (apart : Apart state request) :
    Consistent (state.step sortParts request) := by
  cases request with
  | createBucket name versioningEnabled =>
      have unversioned : versioningEnabled = false := plain
      subst unversioned
      exact step_createBucket consistent name
  | deleteBucket name => exact plain.elim
  | putObject bucket key reader size metadata now =>
      exact consistent.put metadata now apart
  | deleteObject bucket key versionId now =>
      exact consistent.delete bucket key versionId now
  | initiateMultipartUpload bucket key random =>
      exact consistent.congr consistent.unversioned rfl rfl
  | uploadPart bucket key uploadId partNumber reader size =>
      exact consistent.uploadPart bucket key apart
  | completeMultipartUpload bucket key uploadId parts now =>
      exact plain.elim

/-- A request keeps what is read as expected exactly if it keeps apart. -/
theorem asExpected_step_iff
    (consistent : Consistent state) {request : Request}
    (plain : Plain request) :
    AsExpected (state.step sortParts request) ↔ Apart state request := by
  constructor
  · intro asExpected
    cases request with
    | putObject bucket key reader size metadata now =>
        intro data supplied
        rw [← not_or]
        intro slashed
        exact not_asExpected_put consistent supplied slashed metadata now
          asExpected
    | uploadPart bucket key uploadId partNumber reader size =>
        intro data initiated read other otherKey known same expected
        by_contra differs
        exact not_asExpected_uploadPart consistent initiated read same
          expected differs bucket key asExpected
    | createBucket name versioningEnabled => trivial
    | deleteBucket name => trivial
    | deleteObject bucket key versionId now => trivial
    | initiateMultipartUpload bucket key random => trivial
    | completeMultipartUpload bucket key uploadId parts now => trivial
  · intro apart
    exact (consistent.step plain apart).asExpected

theorem consistent_empty : Consistent {} where
  unversioned := fun name bucket found => by cases found
  simple := fun bucket key data found => by cases found
  stored := fun bucket key data found => by cases found
  known := fun id objMeta found => by cases found

/--
In every run of requests on buckets without versions, every pair is read as the
data put last in every state exactly if every request keeps names apart.
-/
theorem objects_asExpected_iff
    (sortParts : List PartInfo → List PartInfo)
    {requests : List Request}
    (plain : ∀ request ∈ requests, Plain request) :
    AllSteps (Remembered.step sortParts)
        (fun state request => AsExpected (state.step sortParts request))
        {} requests ↔
      AllSteps (Remembered.step sortParts) Apart
        {} requests := by
  have keeps :
      ∀ state request,
        Plain request → Consistent state → Apart state request →
          Consistent (state.step sortParts request) :=
    fun state request plain consistent apart =>
      consistent.step plain apart
  have agree :
      ∀ state request,
        Plain request → Consistent state →
          (AsExpected (state.step sortParts request) ↔
            Apart state request) :=
    fun state request plain consistent =>
      asExpected_step_iff consistent plain
  exact allSteps_after_iff keeps agree plain consistent_empty

end Steps

/-- Put one byte. -/
def putByte (bucket key : String) (byte : UInt8) : Request :=
  .putObject bucket key { bytes := [byte] } 1 Dict.empty 0

/-- Two objects are put; one is overwritten and the other is deleted. -/
def overwriteAndDelete : List Request :=
  [.createBucket "a" false, putByte "a" "b" 1, putByte "a" "c" 2,
    putByte "a" "b" 3, .deleteObject "a" "c" "" 0]

theorem objects_asExpected_overwritten :
    (run (Remembered.step id) {}
          overwriteAndDelete).expected.get? ("a", "b") = some [3] ∧
      (run (Remembered.step id) {}
          overwriteAndDelete).expected.get? ("a", "c") = none ∧
      AsExpected (run (Remembered.step id) {} overwriteAndDelete) := by
  have plain : ∀ request ∈ overwriteAndDelete, Plain request := by
    intro request member
    simp only [overwriteAndDelete, List.mem_cons, List.not_mem_nil,
      or_false] at member
    rcases member with rfl | rfl | rfl | rfl | rfl
    · rfl
    all_goals trivial
  have firstApart :
      ∀ (state : Remembered) (byte : UInt8),
        Apart state (putByte "a" "b" byte) :=
    fun _ _ _ _ => ⟨by decide, by decide⟩
  have secondApart :
      ∀ state : Remembered, Apart state (putByte "a" "c" 2) :=
    fun _ _ _ => ⟨by decide, by decide⟩
  have asExpected :=
    (objects_asExpected_iff id plain).mpr
      ⟨trivial, firstApart _ 1, secondApart _, firstApart _ 3, trivial,
        trivial⟩
  exact ⟨by decide +kernel, by decide +kernel, asExpected.2.2.2.2.1⟩

/-- Two objects whose buckets and keys are joined to the same name. -/
def sameName : List Request :=
  [.createBucket "a" false, .createBucket "a/b" false,
    putByte "a/b" "c" 1, putByte "a" "b/c" 2]

theorem sameName_overwrites :
    (∀ request ∈ sameName, Plain request) ∧
      (run (Remembered.step id) {}
          sameName).expected.get? ("a/b", "c") = some [1] ∧
      ((run (Remembered.step id) {}
          sameName).engine.getObject "a/b" "c" "").map Prod.fst =
        .ok [2] := by
  refine ⟨?_, ?_, ?_⟩
  · intro request member
    simp only [sameName, List.mem_cons, List.not_mem_nil,
      or_false] at member
    rcases member with rfl | rfl | rfl | rfl
    · rfl
    · rfl
    · trivial
    · trivial
  · decide +kernel
  · decide +kernel

end StorageAppliance.Unity
