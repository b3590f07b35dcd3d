import StorageAppliance.Unity.Catalog
import StorageAppliance.Unity.ObjectVersions

/-!
# Gets of a version

A get of a version starts from the current object.  If that is another version,
the first version of the number is taken instead; if there is none, the current
object stays, and if it is a delete marker, its missing metadata is read.

So a get of a version returns it or an error exactly if the number is not that
of a delete marker, and a number that no version has finds no object that can be
read (`getObject_exact_iff`).
-/

namespace StorageAppliance.Unity

open StorageAppliance.Go
open StorageAppliance.Library

/-- A get returns the version of the number with its size, or an error. -/
def ExactGet (engine : ObjectProtocolEngine) (bucket key versionId : String) :
    Prop :=
  match engine.getObject bucket key versionId with
  | .ok (data, objMeta) =>
      objMeta.versionId = versionId ∧ objMeta.size = data.length ∧
        ∃ version ∈ versionsOf engine (objectId bucket key),
          version.versionId = versionId ∧ version.metadata = some objMeta
  | .error fault => ∃ error, fault = .error error

/-- The data of an object is not in the pool, or has another checksum. -/
def Unreadable (engine : ObjectProtocolEngine) (objMeta : ObjectMetadata) :
    Prop :=
  ∀ stored,
    engine.pool.storage.get? objMeta.storageId = some stored →
      md5Hex (fitted objMeta.size.toNat stored) ≠ objMeta.etag

/--
If the current object is another version, then the number is not that of a
delete marker, and if no version has it, the current object cannot be read.
-/
def NotConfused (engine : ObjectProtocolEngine)
    (bucket key versionId : String) : Prop :=
  ∀ current,
    engine.objects.get? (objectId bucket key) = some current →
      current.versionId ≠ versionId →
        match
          (versionsOf engine (objectId bucket key)).find? fun version =>
            version.versionId = versionId with
        | some version => version.isDeleteMarker = false
        | none => Unreadable engine current

/-! ## Versions in the catalog -/

/-- A buffer can be made for the object. -/
def Sized (objMeta : ObjectMetadata) : Prop :=
  ∃ length, makeSlice objMeta.size = .ok length

/-- A marker has no metadata, and any metadata is that of the version. -/
structure VersionSound (version : ObjectVersion) : Prop where
  marker : version.isDeleteMarker = true ↔ version.metadata = none
  recorded :
    ∀ objMeta,
      version.metadata = some objMeta →
        objMeta.versionId = version.versionId ∧ Sized objMeta

/-- The metadata is that of a listed version. -/
def ListedIn (versions : List ObjectVersion) (objMeta : ObjectMetadata) :
    Prop :=
  ∃ version ∈ versions,
    version.versionId = objMeta.versionId ∧
      version.metadata = some objMeta

/-- Versions are sound, and an object with a number is one of them. -/
structure Numbered (catalog : Catalog) : Prop where
  sized :
    ∀ id objMeta, catalog.objects.get? id = some objMeta → Sized objMeta
  listed :
    ∀ id objMeta,
      catalog.objects.get? id = some objMeta →
        objMeta.versionId ≠ "" →
          ListedIn ((catalog.versions.get? id).getD []) objMeta
  sound :
    ∀ id,
      ∀ version ∈ (catalog.versions.get? id).getD [],
        VersionSound version

section Catalogs

variable
    {engine : ObjectProtocolEngine}
    {id : String}
    {objMeta : ObjectMetadata}

theorem get?_addVersion (version : ObjectVersion) (other : String) :
    ((engine.addVersion id version).versions.get? other).getD [] =
      if other = id then
        ((engine.versions.get? id).getD []).map
            (fun version => { version with isLatest := false }) ++
          [version]
      else
        (engine.versions.get? other).getD [] := by
  simp only [ObjectProtocolEngine.addVersion, Dict.get?_set]
  split
  · rfl
  · rfl

/-- A version that is listed stays so when another one is added. -/
theorem ListedIn.addVersion
    {other : String}
    (listed : ListedIn ((engine.versions.get? other).getD []) objMeta)
    (version : ObjectVersion) :
    ListedIn
      (((engine.addVersion id version).versions.get? other).getD [])
      objMeta := by
  rw [get?_addVersion]
  split
  · rename_i same
    rcases listed with ⟨earlier, member, known⟩
    rw [same] at member
    exact
      ⟨_, List.mem_append_left _ (List.mem_map_of_mem member), known⟩
  · exact listed

theorem Numbered.addVersion
    (numbered : Numbered engine.catalog) {version : ObjectVersion}
    (sound : VersionSound version) :
    Numbered (engine.addVersion id version).catalog where
  sized := numbered.sized
  listed := by
    intro other objMeta found named
    exact (numbered.listed other objMeta found named).addVersion version
  sound := by
    intro other listed member
    change listed ∈ ((engine.addVersion id version).versions.get? _).getD []
      at member
    rw [get?_addVersion] at member
    split at member
    · rcases List.mem_append.mp member with earlier | last
      · rcases List.mem_map.mp earlier with ⟨before, known, rfl⟩
        have kept := numbered.sound id before known
        exact ⟨kept.marker, kept.recorded⟩
      · rw [List.mem_singleton.mp last]
        exact sound
    · exact numbered.sound other listed member

theorem Numbered.storeMetadata
    (numbered : Numbered engine.catalog) (sized : Sized objMeta)
    (listed :
      objMeta.versionId ≠ "" →
        ListedIn ((engine.versions.get? id).getD []) objMeta) :
    Numbered (engine.storeMetadata id objMeta).catalog where
  sized := by
    intro other found stored
    change (engine.objects.set _ _).get? _ = _ at stored
    rw [Dict.get?_set] at stored
    split at stored
    · cases stored
      exact sized
    · exact numbered.sized other found stored
  listed := by
    intro other found stored
    change (engine.objects.set _ _).get? _ = _ at stored
    rw [Dict.get?_set] at stored
    split at stored
    · rename_i same
      cases stored
      rw [same]
      exact listed
    · exact numbered.listed other found stored
  sound := numbered.sound

theorem Numbered.deleteMetadata
    (numbered : Numbered engine.catalog) (id : String) :
    Numbered (engine.deleteMetadata id).catalog where
  sized := by
    intro other found stored
    exact numbered.sized other found (Dict.get?_of_erase stored).2
  listed := by
    intro other found stored
    exact numbered.listed other found (Dict.get?_of_erase stored).2
  sound := numbered.sound

theorem Numbered.putCatalog
    (numbered : Numbered engine.catalog) {found : Bucket}
    {bucket key : String} (described : Described found bucket key objMeta) :
    Numbered (engine.putCatalog found id objMeta) := by
  rw [ObjectProtocolEngine.putCatalog]
  split
  · have sound : VersionSound (putVersion objMeta) := by
      constructor
      · exact iff_of_false Bool.false_ne_true (Option.some_ne_none _)
      · rintro _ ⟨⟩
        exact ⟨rfl, described.size⟩
    apply (numbered.addVersion sound).storeMetadata described.size
    intro _
    refine ⟨putVersion objMeta, ?_, rfl, rfl⟩
    rw [get?_addVersion, if_pos rfl]
    exact List.mem_append_right _ List.mem_cons_self
  · rename_i unversioned
    apply numbered.storeMetadata described.size
    intro named
    exact absurd (described.numbered.mpr named) unversioned

theorem Numbered.deleteCatalog
    (numbered : Numbered engine.catalog) (found : Bucket)
    (versionId : String) :
    Numbered (engine.deleteCatalog found id versionId) := by
  rw [ObjectProtocolEngine.deleteCatalog]
  split
  · apply numbered.addVersion
    constructor
    · exact iff_of_true rfl rfl
    · rintro _ ⟨⟩
  · exact numbered.deleteMetadata id

theorem numbered_serve
    {sortParts : List PartInfo → List PartInfo}
    (numbered : Numbered engine.catalog) (request : Request) :
    Numbered (engine.serve sortParts request).catalog := by
  have step := @serve_catalogStep sortParts engine request
  generalize request.performed sortParts engine = performed at step
  cases step with
  | same unchanged =>
      rw [unchanged]
      exact numbered
  | createBucket name versioningEnabled _ _ created =>
      rw [created]
      exact ⟨numbered.sized, numbered.listed, numbered.sound⟩
  | deleteBucket name _ deleted =>
      rw [deleted]
      exact ⟨numbered.sized, numbered.listed, numbered.sound⟩
  | put found bucket key objMeta _ described stored =>
      rw [stored]
      exact numbered.putCatalog described
  | delete found bucket key versionId _ deleted =>
      rw [deleted]
      exact numbered.deleteCatalog found versionId

/-- Whatever is requested, versions and objects fit together. -/
theorem numbered_run
    (sortParts : List PartInfo → List PartInfo)
    (requests : List Request) :
    Numbered
      (run (ObjectProtocolEngine.serve sortParts) {} requests).catalog := by
  have steps :
      ∀ (engine : ObjectProtocolEngine) request,
        Numbered engine.catalog →
          Numbered (engine.serve sortParts request).catalog :=
    fun _ request numbered => numbered_serve numbered request
  have start : Numbered ({} : ObjectProtocolEngine).catalog := by
    constructor
    · rintro id objMeta ⟨⟩
    · rintro id objMeta ⟨⟩
    · intro id version member
      cases member
  exact run_invariant_of_step steps requests start

end Catalogs

/-! ## Gets -/

section Gets

variable
    {engine : ObjectProtocolEngine}
    {bucket key versionId : String}
    {objMeta : ObjectMetadata}

/-- An object of a possible size is read in full, or there is an error. -/
theorem readVerified_sized (sized : Sized objMeta) :
    match engine.readVerified objMeta with
    | .ok data => objMeta.size = data.length
    | .error fault => ∃ error, fault = .error error := by
  rcases sized with ⟨length, made⟩
  cases read : engine.readVerified objMeta with
  | ok data =>
      rcases readVerified_ok_iff.mp read with
        ⟨size, stored, sized, _, rfl, _⟩
      rw [made] at sized
      cases sized
      simp only [length_fitted]
      exact (makeSlice_ok_iff.mp made).1
  | error fault =>
      rw [ObjectProtocolEngine.readVerified, made] at read
      simp only [UnifiedStoragePool.readWithServices] at read
      cases pooled : engine.pool.storage.get? objMeta.storageId with
      | none =>
          rw [pooled] at read
          cases read
          exact ⟨_, rfl⟩
      | some stored =>
          rw [pooled] at read
          simp only at read
          split at read
          · cases read
          · cases read
            exact ⟨_, rfl⟩

theorem unreadable_iff (sized : Sized objMeta) :
    Unreadable engine objMeta ↔
      ∀ data, engine.readVerified objMeta ≠ .ok data := by
  rcases sized with ⟨length, made⟩
  have size : objMeta.size.toNat = length := by
    rw [(makeSlice_ok_iff.mp made).1]
    rfl
  rw [Unreadable, size]
  constructor
  · intro unreadable data read
    rcases readVerified_ok_iff.mp read with
      ⟨_, stored, sized, pooled, rfl, checked⟩
    rw [made] at sized
    cases sized
    exact unreadable stored pooled checked
  · intro unread stored pooled checked
    exact
      unread _
        (readVerified_ok_iff.mpr
          ⟨length, stored, made, pooled, rfl, checked⟩)

/-- A get of metadata that is found reads it. -/
theorem getObject_of_found
    {current : ObjectMetadata}
    (present : engine.objects.get? (objectId bucket key) = some current)
    (found :
      engine.findVersion (objectId bucket key) versionId current =
        some objMeta) :
    engine.getObject bucket key versionId =
      (engine.readVerified objMeta).map fun data => (data, objMeta) := by
  simp only [ObjectProtocolEngine.getObject, present, found]
  cases engine.readVerified objMeta with
  | error fault => rfl
  | ok data => rfl

theorem exactGet_of_listed
    {current : ObjectMetadata}
    (present : engine.objects.get? (objectId bucket key) = some current)
    (found :
      engine.findVersion (objectId bucket key) versionId current =
        some objMeta)
    (sized : Sized objMeta) (same : objMeta.versionId = versionId)
    (listed :
      ListedIn (versionsOf engine (objectId bucket key)) objMeta) :
    ExactGet engine bucket key versionId := by
  have read := @readVerified_sized engine objMeta sized
  rw [ExactGet, getObject_of_found present found]
  cases verified : engine.readVerified objMeta with
  | error fault =>
      rw [verified] at read
      exact read
  | ok data =>
      rw [verified] at read
      rcases listed with ⟨version, member, number, metadata⟩
      exact ⟨same, read, version, member, number.trans same, metadata⟩

/-- The current object answers for a number that no version has. -/
theorem exactGet_of_unknown_iff
    {current : ObjectMetadata}
    (present : engine.objects.get? (objectId bucket key) = some current)
    (found :
      engine.findVersion (objectId bucket key) versionId current =
        some current)
    (sized : Sized current) (different : current.versionId ≠ versionId) :
    ExactGet engine bucket key versionId ↔ Unreadable engine current := by
  have read := @readVerified_sized engine current sized
  rw [unreadable_iff sized, ExactGet, getObject_of_found present found]
  cases verified : engine.readVerified current with
  | error fault =>
      rw [verified] at read
      apply iff_of_true read
      rintro data ⟨⟩
  | ok data =>
      apply iff_of_false
      · rintro ⟨same, _⟩
        exact different same
      · intro unread
        exact unread data rfl

/-- A delete marker has no metadata to return. -/
theorem not_exactGet_of_marker
    {current : ObjectMetadata}
    (present : engine.objects.get? (objectId bucket key) = some current)
    (found :
      engine.findVersion (objectId bucket key) versionId current = none) :
    ¬ ExactGet engine bucket key versionId := by
  have panics :
      engine.getObject bucket key versionId =
        .error
          (.panic "invalid memory address or nil pointer dereference") := by
    simp only [ObjectProtocolEngine.getObject, present, found]
  rw [ExactGet, panics]
  rintro ⟨error, ⟨⟩⟩

/-- What a get of another version than the current one depends on. -/
theorem exactGet_of_other_iff
    (numbered : Numbered engine.catalog) (named : versionId ≠ "")
    {current : ObjectMetadata}
    (present : engine.objects.get? (objectId bucket key) = some current)
    (different : current.versionId ≠ versionId) :
    ExactGet engine bucket key versionId ↔
      match
        (versionsOf engine (objectId bucket key)).find? fun version =>
          version.versionId = versionId with
      | some version => version.isDeleteMarker = false
      | none => Unreadable engine current := by
  have sought :
      engine.findVersion (objectId bucket key) versionId current =
        match
          (versionsOf engine (objectId bucket key)).find? fun version =>
            version.versionId = versionId with
        | some version => version.metadata
        | none => some current := by
    rw [ObjectProtocolEngine.findVersion, if_pos ⟨named, different⟩]
    rfl
  cases first :
      (versionsOf engine (objectId bucket key)).find? fun version =>
        version.versionId = versionId with
  | none =>
      rw [first] at sought
      exact
        exactGet_of_unknown_iff present sought
          (numbered.sized _ current present) different
  | some version =>
      have member := List.mem_of_find?_eq_some first
      have number : version.versionId = versionId := by
        simpa using List.find?_some first
      have sound := numbered.sound _ version member
      cases metadata : version.metadata with
      | none =>
          simp only [first, metadata] at sought
          apply iff_of_false (not_exactGet_of_marker present sought)
          simp only [sound.marker.mpr metadata, reduceCtorEq,
            not_false_eq_true]
      | some objMeta =>
          have recorded := sound.recorded objMeta metadata
          simp only [first, metadata] at sought
          apply iff_of_true
          · apply
              exactGet_of_listed present sought recorded.2
                (recorded.1.trans number)
            exact ⟨version, member, recorded.1.symm, metadata⟩
          · simp only
            rw [← Bool.not_eq_true, sound.marker, metadata]
            exact Option.some_ne_none objMeta

theorem exactGet_iff
    (numbered : Numbered engine.catalog) (named : versionId ≠ "") :
    ExactGet engine bucket key versionId ↔
      NotConfused engine bucket key versionId := by
  cases present : engine.objects.get? (objectId bucket key) with
  | none =>
      apply iff_of_true
      · simp only [ExactGet, ObjectProtocolEngine.getObject, present]
        exact ⟨_, rfl⟩
      · intro current found
        rw [present] at found
        cases found
  | some current =>
      by_cases same : current.versionId = versionId
      · apply iff_of_true
        · have found :
              engine.findVersion (objectId bucket key) versionId current =
                some current := by
            rw [ObjectProtocolEngine.findVersion, if_neg]
            rintro ⟨_, different⟩
            exact different same
          apply
            exactGet_of_listed present found
              (numbered.sized _ current present) same
          apply numbered.listed _ current present
          rw [same]
          exact named
        · intro other found different
          rw [present] at found
          cases found
          exact absurd same different
      · rw [exactGet_of_other_iff numbered named present same]
        constructor
        · intro this other found _
          rw [present] at found
          cases found
          exact this
        · intro all
          exact all current present same

end Gets

/--
Whatever has been requested, a get of a version returns it with its size or an
error exactly if the current object is this version or there is none, or the
number is that of a version with data, or no version has the number and the
current object cannot be read.
-/
theorem getObject_exact_iff
    (sortParts : List PartInfo → List PartInfo)
    (requests : List Request) (bucket key : String) {versionId : String}
    (named : versionId ≠ "") :
    ExactGet (run (ObjectProtocolEngine.serve sortParts) {} requests)
        bucket key versionId ↔
      NotConfused (run (ObjectProtocolEngine.serve sortParts) {} requests)
        bucket key versionId :=
  exactGet_iff (numbered_run sortParts requests) named

/-- A bucket with versions, and an object that was put and deleted in it. -/
def markedRun : List Request :=
  [.createBucket "b" true,
    .putObject "b" "k" { bytes := [1] } 1 Dict.empty 1,
    .deleteObject "b" "k" "" 2]

theorem getObject_exact_current :
    ExactGet (run (ObjectProtocolEngine.serve id) {} markedRun)
      "b" "k" "1" := by
  rw [@getObject_exact_iff id markedRun "b" "k" "1" (by decide)]
  intro current present different
  have known :
      ((run (ObjectProtocolEngine.serve id) {} markedRun).objects.get?
          (objectId "b" "k")).map ObjectMetadata.versionId =
        some "1" := by
    decide +kernel
  rw [present] at known
  exact absurd (Option.some.inj known) different

/--
An unknown number is answered with the current object, and the number of a
delete marker with a panic.
-/
theorem getObject_confuses_versions :
    ¬ ExactGet (run (ObjectProtocolEngine.serve id) {} markedRun) "b" "k"
        "9" ∧
      ¬ ExactGet (run (ObjectProtocolEngine.serve id) {} markedRun) "b" "k"
        "2" := by
  constructor
  · have answered :
        (run (ObjectProtocolEngine.serve id) {} markedRun).getObject "b" "k"
            "9" =
          .ok
            ([1],
              { key := "k"
                bucket := "b"
                versionId := "1"
                size := 1
                etag := md5Hex [1]
                contentType := "application/octet-stream"
                storageId := "b/k" }) := by
      decide +kernel
    rw [ExactGet, answered]
    rintro ⟨same, _⟩
    exact absurd same (by decide)
  · have panics :
        (run (ObjectProtocolEngine.serve id) {} markedRun).getObject "b" "k"
            "2" =
          .error
            (.panic "invalid memory address or nil pointer dereference") := by
      decide +kernel
    rw [ExactGet, panics]
    rintro ⟨error, ⟨⟩⟩

end StorageAppliance.Unity
