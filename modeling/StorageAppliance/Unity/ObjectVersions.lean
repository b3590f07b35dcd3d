import StorageAppliance.Library.Run
import StorageAppliance.Unity.ObjectStorage

/-!
# Versions of an object

In a bucket with versions each put adds a version with metadata of its own, and
each delete adds a marker.  The data of all versions is stored in one place,
which is named after the bucket and the key, and each put replaces it.

A version is found again as long as its number is its own, but it is read from
the data that was put last.  `getObject_version_iff` says when that is still the
data of the version.
-/

namespace StorageAppliance.Unity

open StorageAppliance.Go
open StorageAppliance.Library

/-- A call that is about one object. -/
inductive KeyCall where
  | put (reader : Reader) (size : ℤ) (metadata : Dict String String)
      (now : ℤ)
  | delete (versionId : String) (now : ℤ)

/-- The number of the version that a call adds. -/
def KeyCall.versionId : KeyCall → String
  | .put _ _ _ now => generateVersionId now
  | .delete _ now => generateVersionId now

/-- The data that a call puts. -/
def KeyCall.data : KeyCall → Option Bytes
  | .put reader size _ _ => (reader.readData size).toOption
  | .delete _ _ => none

/-- Execute a call. -/
def keyStep (bucket key : String) (engine : ObjectProtocolEngine) :
    KeyCall → ObjectProtocolEngine
  | .put reader size metadata now =>
      (engine.putObject bucket key reader size metadata now).2
  | .delete versionId now =>
      (engine.deleteObject bucket key versionId now).2

/-- The data put last by some calls, or the data put before them. -/
def lastData : Bytes → List KeyCall → Bytes
  | data, [] => data
  | data, call :: rest => lastData (call.data.getD data) rest

/-! ## Versions -/

/-- The versions that the engine has under a name. -/
def versionsOf (engine : ObjectProtocolEngine) (id : String) :
    List ObjectVersion :=
  (engine.versions.get? id).getD []

/-- The metadata of the first version with a number. -/
def metadataOf (versions : List ObjectVersion) (versionId : String) :
    Option (Option ObjectMetadata) :=
  (versions.find? fun version => version.versionId = versionId).map
    ObjectVersion.metadata

section Versions

variable
    {engine : ObjectProtocolEngine}
    {id versionId : String}
    {version : ObjectVersion}

theorem versionsOf_addVersion :
    versionsOf (engine.addVersion id version) id =
      (versionsOf engine id).map
          (fun version => { version with isLatest := false }) ++
        [version] := by
  simp only [versionsOf, ObjectProtocolEngine.addVersion,
    Dict.get?_set_self, Option.getD_some]

/-- A version that is added is found if its number is its own. -/
theorem metadataOf_addVersion_self
    (fresh :
      ∀ other ∈ versionsOf engine id,
        other.versionId ≠ version.versionId) :
    metadataOf (versionsOf (engine.addVersion id version) id)
        version.versionId = some version.metadata := by
  have none :
      ((versionsOf engine id).map
          fun version => { version with isLatest := false }).find?
        (fun other => other.versionId = version.versionId) = none := by
    rw [List.find?_eq_none]
    intro other member
    rcases List.mem_map.mp member with ⟨before, listed, rfl⟩
    simpa using fresh before listed
  rw [versionsOf_addVersion, metadataOf, List.find?_append, none]
  simp

/-- A version is found after another one is added. -/
theorem metadataOf_addVersion_of_ne
    {metadata : Option ObjectMetadata}
    (found :
      metadataOf (versionsOf engine id) versionId = some metadata) :
    metadataOf (versionsOf (engine.addVersion id version) id) versionId =
      some metadata := by
  rw [metadataOf, Option.map_eq_some_iff] at found
  rcases found with ⟨before, listed, same⟩
  rw [versionsOf_addVersion, metadataOf, List.find?_append,
    List.find?_map]
  have still :
      (versionsOf engine id).find?
          ((fun version => decide (version.versionId = versionId)) ∘
            fun version => { version with isLatest := false }) =
        some before :=
    listed
  rw [still]
  simp [same]

end Versions

/-! ## Calls -/

section Calls

variable
    {engine : ObjectProtocolEngine}
    {bucket key : String}

/-- What a put to a bucket with versions does. -/
theorem putObject_versioned
    (versioning : Versioning engine bucket) {reader : Reader} {size : ℤ}
    {data : Bytes} (read : reader.readData size = .ok data)
    (metadata : Dict String String) (now : ℤ) :
    ∃ objMeta,
      objMeta.versionId = generateVersionId now ∧
        objMeta.storageId = objectId bucket key ∧
        objMeta.etag = md5Hex data ∧ objMeta.size = size ∧
        engine.putObject bucket key reader size metadata now =
          (.ok objMeta,
            (((engine.allocate (objectId bucket key)).write
                (objectId bucket key) data).addVersion
              (objectId bucket key)
              { versionId := generateVersionId now
                metadata := some objMeta
                isLatest := true
                isDeleteMarker := false }).storeMetadata
              (objectId bucket key) objMeta) := by
  rcases versioning with ⟨found, present, enabled⟩
  refine
    ⟨{ ObjectProtocolEngine.describe bucket key data size metadata with
        versionId := generateVersionId now }, rfl, rfl, rfl, rfl, ?_⟩
  simp only [ObjectProtocolEngine.putObject, present, read, enabled,
    if_true]

/-- A put that fails changes nothing. -/
theorem putObject_unread
    {reader : Reader} {size : ℤ} {fault : Fault}
    (unread : reader.readData size = .error fault)
    (metadata : Dict String String) (now : ℤ) :
    (engine.putObject bucket key reader size metadata now).2 =
      engine := by
  simp only [ObjectProtocolEngine.putObject, unread]
  split
  · rfl
  · rfl

/-- No version has a number yet. -/
structure Unused (bucket key versionId : String)
    (engine : ObjectProtocolEngine) : Prop where
  versioning : Versioning engine bucket
  fresh :
    ∀ version ∈ versionsOf engine (objectId bucket key),
      version.versionId ≠ versionId

/-- A version that is added has its own number. -/
theorem fresh_addVersion
    {id versionId : String} {added : ObjectVersion}
    (fresh :
      ∀ version ∈ versionsOf engine id, version.versionId ≠ versionId)
    (different : added.versionId ≠ versionId) :
    ∀ version ∈ versionsOf (engine.addVersion id added) id,
      version.versionId ≠ versionId := by
  rw [versionsOf_addVersion]
  intro version member
  rcases List.mem_append.mp member with before | last
  · rcases List.mem_map.mp before with ⟨old, listed, rfl⟩
    exact fresh old listed
  · rw [List.mem_singleton.mp last]
    exact different

theorem Unused.step
    {versionId : String} (unused : Unused bucket key versionId engine)
    {call : KeyCall} (different : call.versionId ≠ versionId) :
    Unused bucket key versionId (keyStep bucket key engine call) := by
  rcases unused with ⟨versioning, fresh⟩
  cases call with
  | put reader size metadata now =>
      cases read : reader.readData size with
      | error fault =>
          rw [keyStep, putObject_unread read]
          exact ⟨versioning, fresh⟩
      | ok data =>
          rcases @putObject_versioned engine bucket key versioning reader
              size data read metadata now with
            ⟨objMeta, _, _, _, _, returned⟩
          rw [keyStep, returned]
          exact ⟨versioning, fresh_addVersion fresh different⟩
  | delete deleted now =>
      rw [keyStep, deleteObject_versioned versioning]
      exact ⟨versioning, fresh_addVersion fresh different⟩

/-- A version is known, and the data put last is stored. -/
structure Kept (bucket key : String) (objMeta : ObjectMetadata)
    (last : Bytes) (engine : ObjectProtocolEngine) : Prop where
  versioning : Versioning engine bucket
  version :
    metadataOf (versionsOf engine (objectId bucket key))
      objMeta.versionId = some (some objMeta)
  current :
    ∃ current,
      engine.objects.get? (objectId bucket key) = some current ∧
        (current.versionId = objMeta.versionId → current = objMeta)
  stored :
    engine.pool.storage.get? (objectId bucket key) = some last

theorem Kept.step
    {objMeta : ObjectMetadata} {last : Bytes}
    (kept : Kept bucket key objMeta last engine) {call : KeyCall}
    (different : call.versionId ≠ objMeta.versionId) :
    Kept bucket key objMeta (call.data.getD last)
      (keyStep bucket key engine call) := by
  rcases kept with ⟨versioning, version, current, stored⟩
  cases call with
  | put reader size metadata now =>
      cases read : reader.readData size with
      | error fault =>
          rw [keyStep, putObject_unread read, KeyCall.data, read]
          exact ⟨versioning, version, current, stored⟩
      | ok data =>
          rcases @putObject_versioned engine bucket key versioning reader
              size data read metadata now with
            ⟨newMeta, number, _, _, _, returned⟩
          rw [keyStep, returned, KeyCall.data, read]
          refine ⟨versioning, ?_, ⟨newMeta, ?_, ?_⟩, ?_⟩
          · exact metadataOf_addVersion_of_ne version
          · exact Dict.get?_set_self _ _ _
          · intro same
            exact absurd (number.symm.trans same) different
          · exact (get?_write _ _).trans (if_pos rfl)
  | delete deleted now =>
      rw [keyStep, deleteObject_versioned versioning]
      exact ⟨versioning, metadataOf_addVersion_of_ne version, current,
        stored⟩

/-- A put adds a version with its own number. -/
theorem Unused.put
    {reader : Reader} {size now : ℤ} {metadata : Dict String String}
    {data : Bytes} {objMeta : ObjectMetadata}
    (unused : Unused bucket key (generateVersionId now) engine)
    (read : reader.readData size = .ok data)
    (returned :
      (engine.putObject bucket key reader size metadata now).1 =
        .ok objMeta) :
    objMeta.versionId = generateVersionId now ∧
      Kept bucket key objMeta data
        (keyStep bucket key engine (.put reader size metadata now)) ∧
      objMeta.storageId = objectId bucket key ∧
      objMeta.etag = md5Hex data ∧
      makeSlice objMeta.size = .ok data.length := by
  rcases @putObject_versioned engine bucket key unused.versioning reader
      size data read metadata now with
    ⟨newMeta, number, storageId, etag, sized, result⟩
  rw [result] at returned
  cases returned
  refine ⟨number, ?_, storageId, etag, ?_⟩
  · rw [keyStep, result]
    refine ⟨unused.versioning, ?_, ⟨objMeta, ?_, fun _ => rfl⟩, ?_⟩
    · rw [number]
      exact metadataOf_addVersion_self unused.fresh
    · exact Dict.get?_set_self _ _ _
    · exact (get?_write _ _).trans (if_pos rfl)
  · rw [sized]
    exact Reader.readData_ok read

/-- A version is kept by calls that add versions of other numbers. -/
theorem Kept.run
    {objMeta : ObjectMetadata} {last : Bytes}
    (kept : Kept bucket key objMeta last engine) {calls : List KeyCall}
    (different :
      ∀ call ∈ calls, call.versionId ≠ objMeta.versionId) :
    Kept bucket key objMeta (lastData last calls)
      (run (keyStep bucket key) engine calls) := by
  induction calls generalizing engine last with
  | nil => exact kept
  | cons call rest induction =>
      apply induction (kept.step (different call (by simp)))
      intro later member
      exact different later (by simp [member])

/-- A kept version is read from the data put last. -/
theorem Kept.getObject_iff
    {objMeta : ObjectMetadata} {last data : Bytes}
    (kept : Kept bucket key objMeta last engine)
    (numbered : objMeta.versionId ≠ "")
    (storageId : objMeta.storageId = objectId bucket key)
    (etag : objMeta.etag = md5Hex data)
    (size : makeSlice objMeta.size = .ok data.length) :
    (∃ found,
        engine.getObject bucket key objMeta.versionId =
          .ok (data, found)) ↔
      fitted data.length last = data := by
  rcases kept.current with ⟨current, found, same⟩
  have version :
      engine.findVersion (objectId bucket key) objMeta.versionId current =
        some objMeta := by
    rw [ObjectProtocolEngine.findVersion]
    split
    · have listed := kept.version
      rw [metadataOf, Option.map_eq_some_iff] at listed
      rcases listed with ⟨version, first, metadata⟩
      rw [versionsOf] at first
      rw [first]
      exact metadata
    · rename_i known
      have number : current.versionId = objMeta.versionId := by
        by_contra different
        exact known ⟨numbered, different⟩
      rw [same number]
  have pooled := kept.stored
  rw [← storageId] at pooled
  have verified :
      engine.readVerified objMeta = .ok data ↔
        fitted data.length last = data := by
    rw [readVerified_described_iff size etag pooled]
    constructor
    · rintro ⟨fits, _⟩
      exact fits.symm
    · intro fits
      exact ⟨fits.symm, rfl⟩
  rw [← verified]
  simp only [ObjectProtocolEngine.getObject, found, version]
  cases engine.readVerified objMeta with
  | error fault => simp
  | ok read => simp

/--
After any calls on an object, in a bucket with versions and with numbers of
their own, a version is read as it was put exactly if the data put last, cut or
filled up to its size, is its data.
-/
theorem getObject_version_iff
    (versioning : Versioning engine bucket)
    (unversioned :
      engine.versions.get? (objectId bucket key) = none)
    {before after : List KeyCall} {reader : Reader} {size now : ℤ}
    {metadata : Dict String String} {data : Bytes}
    {objMeta : ObjectMetadata}
    (read : reader.readData size = .ok data)
    (returned :
      ((run (keyStep bucket key) engine before).putObject bucket key
        reader size metadata now).1 = .ok objMeta)
    (distinct :
      ((before ++ .put reader size metadata now :: after).map
        KeyCall.versionId).Nodup) :
    (∃ found,
        (run (keyStep bucket key) engine
            (before ++ .put reader size metadata now :: after)).getObject
              bucket key objMeta.versionId =
          .ok (data, found)) ↔
      fitted data.length (lastData data after) = data := by
  rw [List.map_append, List.map_cons, List.nodup_append,
    List.nodup_cons] at distinct
  rcases distinct with ⟨_, ⟨later, _⟩, earlier⟩
  have start :
      Unused bucket key (generateVersionId now) engine := by
    refine ⟨versioning, ?_⟩
    rw [versionsOf, unversioned]
    intro version member
    cases member
  have beforeApart :
      ∀ call ∈ before, call.versionId ≠ generateVersionId now := by
    intro call member
    exact earlier call.versionId (List.mem_map_of_mem member) _
      List.mem_cons_self
  have steps :
      ∀ state call,
        Unused bucket key (generateVersionId now) state →
          KeyCall.versionId call ≠ generateVersionId now →
            Unused bucket key (generateVersionId now)
              (keyStep bucket key state call) :=
    fun state call unused different => unused.step different
  have unused := run_invariant_of_allowed steps start beforeApart
  have kept := unused.put read returned
  rw [run_append, run_cons]
  have afterApart :
      ∀ call ∈ after, call.versionId ≠ objMeta.versionId := by
    intro call member same
    rw [kept.1] at same
    exact later (List.mem_map.mpr ⟨call, member, same⟩)
  apply (kept.2.1.run afterApart).getObject_iff
  · rw [kept.1]
    exact decimal_ne_empty now
  · exact kept.2.2.1
  · exact kept.2.2.2.1
  · exact kept.2.2.2.2

end Calls

/-- Put some bytes at a time. -/
def putBytes (bytes : Bytes) (now : ℤ) : KeyCall :=
  .put { bytes := bytes } bytes.length Dict.empty now

/-- An engine with a bucket that has versions. -/
def versionedBucket : ObjectProtocolEngine :=
  (ObjectProtocolEngine.createBucket {} "b" true).2

theorem versionedBucket_versioning : Versioning versionedBucket "b" :=
  ⟨⟨"b", true⟩, by decide, rfl⟩

theorem getObject_version_longer :
    ∃ found,
      (run (keyStep "b" "k") versionedBucket
          [putBytes [1] 1, putBytes [1, 2] 2]).getObject "b" "k" "1" =
        .ok ([1], found) := by
  have unversioned :
      versionedBucket.versions.get? (objectId "b" "k") = none := by
    decide
  have read :
      Reader.readData { bytes := [1] } ([1] : Bytes).length = .ok [1] := by
    decide
  have returned :
      ((run (keyStep "b" "k") versionedBucket []).putObject "b" "k"
          { bytes := [1] } ([1] : Bytes).length Dict.empty 1).1 =
        .ok
          { key := "k"
            bucket := "b"
            versionId := "1"
            size := 1
            etag := md5Hex [1]
            contentType := "application/octet-stream"
            storageId := "b/k" } := by
    decide +kernel
  have distinct :
      (([] ++ putBytes [1] 1 :: [putBytes [1, 2] 2]).map
        KeyCall.versionId).Nodup := by
    decide +kernel
  have version :=
    getObject_version_iff versionedBucket_versioning unversioned read
      returned distinct
  exact version.mpr (by decide)

/-- A version is replaced by another put of the same size. -/
theorem newVersion_replaces :
    ((run (keyStep "b" "k") versionedBucket
          [putBytes [1] 1]).putObject "b" "k" { bytes := [2] } 1
        Dict.empty 2).1.map ObjectMetadata.versionId = .ok "2" ∧
      ((run (keyStep "b" "k") versionedBucket
            [putBytes [1] 1]).getObject "b" "k" "1").map Prod.fst =
          .ok [1] ∧
      (run (keyStep "b" "k") versionedBucket
          [putBytes [1] 1, putBytes [2] 2]).getObject "b" "k" "1" =
        .error (errorf "checksum mismatch") := by
  refine ⟨?_, ?_, ?_⟩
  · decide +kernel
  · decide +kernel
  · decide +kernel

end StorageAppliance.Unity
