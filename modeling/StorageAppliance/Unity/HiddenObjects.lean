import StorageAppliance.Library.Run
import StorageAppliance.Unity.ObjectStorage

/-!
# Deleted objects

An object that is deleted is hidden: it can not be read until it is put again.
In a bucket without versions a delete takes the object out of the maps.  In a
bucket with versions it adds a delete marker, which a get does not look at.

A hidden object can come back by a put of another pair with the same name, or
by a part that is stored under the name of an object whose data was lost.
`hidden_unread_iff` says when none of this happens along a run.
-/

namespace StorageAppliance.Unity

open StorageAppliance.Go
open StorageAppliance.Library

/-- The engine, and the pairs that were deleted and not put since. -/
structure Watched where
  engine : ObjectProtocolEngine := {}
  hidden : List (String × String) := []

/-- The pairs hidden after a request. -/
def Watched.watch (sortParts : List PartInfo → List PartInfo)
    (self : Watched) : Request → List (String × String)
  | .putObject bucket key reader size metadata now =>
      match
        (self.engine.putObject bucket key reader size metadata now).1 with
      | .ok _ => self.hidden.filter fun pair => pair ≠ (bucket, key)
      | .error _ => self.hidden
  | .completeMultipartUpload bucket key uploadId parts now =>
      match
        (self.engine.completeMultipartUpload sortParts bucket key uploadId
          parts now).1 with
      | .ok _ => self.hidden.filter fun pair => pair ≠ (bucket, key)
      | .error _ => self.hidden
  | .deleteObject bucket key versionId now =>
      match
        (self.engine.deleteObject bucket key versionId now).1 with
      | .ok _ =>
          if versionId = "" then
            (bucket, key) :: self.hidden
          else
            self.hidden
      | .error _ => self.hidden
  | _ => self.hidden

/-- Serve a request and watch what it hides. -/
def Watched.step (sortParts : List PartInfo → List PartInfo)
    (self : Watched) (request : Request) : Watched where
  engine := self.engine.serve sortParts request
  hidden := self.watch sortParts request

/-- A get of a hidden pair fails. -/
def Unread (state : Watched) : Prop :=
  ∀ pair ∈ state.hidden,
    ∃ fault, state.engine.getObject pair.1 pair.2 "" = .error fault

/-- The checksum of an object accepts some data. -/
def Accepts (objMeta : ObjectMetadata) (data : Bytes) : Prop :=
  ∃ size,
    makeSlice objMeta.size = .ok size ∧
      md5Hex (fitted size data) = objMeta.etag

/-- The data that the completion of an upload would store. -/
def Completes (sortParts : List PartInfo → List PartInfo)
    (engine : ObjectProtocolEngine) (bucket uploadId : String)
    (parts : List PartInfo) (data : Bytes) : Prop :=
  engine.uploads.get? uploadId ≠ none ∧
    ∃ joined,
      engine.readParts uploadId (sortParts parts) = .ok joined ∧
        Supplies engine bucket { bytes := joined }
          ((sortParts parts).foldl
            (fun total part => int64 (total + part.size)) 0) data

/-- The names of the parts that a completion reclaims. -/
def reclaimed (sortParts : List PartInfo → List PartInfo)
    (uploadId : String) (parts : List PartInfo) : List String :=
  (sortParts parts).map fun part => partId uploadId part.partNumber

/--
A delete with versions is only of an object that can not be read, an object is
put or completed only while no other pair of its name is hidden, and a part is
not accepted as the data of a hidden object.
-/
def Lasting (sortParts : List PartInfo → List PartInfo)
    (state : Watched) : Request → Prop
  | .deleteObject bucket key versionId _ =>
      versionId = "" →
        ∀ found,
          state.engine.buckets.get? bucket = some found →
            found.versioningEnabled = true →
              ∃ fault,
                state.engine.getObject bucket key "" = .error fault
  | .putObject bucket key reader size _ _ =>
      ∀ data,
        Supplies state.engine bucket reader size data →
          ∀ pair ∈ state.hidden,
            objectId pair.1 pair.2 = objectId bucket key →
              pair = (bucket, key)
  | .completeMultipartUpload bucket key uploadId parts _ =>
      ∀ data,
        Completes sortParts state.engine bucket uploadId parts data →
          ∀ pair ∈ state.hidden,
            objectId pair.1 pair.2 = objectId bucket key →
              pair = (bucket, key) ∨
                objectId bucket key ∈ reclaimed sortParts uploadId parts
  | .uploadPart _ _ uploadId partNumber reader size =>
      ∀ data,
        state.engine.uploads.get? uploadId ≠ none →
          reader.readData size = .ok data →
            ∀ pair ∈ state.hidden,
              objectId pair.1 pair.2 = partId uploadId partNumber →
                ∀ objMeta,
                  state.engine.objects.get?
                      (objectId pair.1 pair.2) = some objMeta →
                    ¬ Accepts objMeta data
  | _ => True

/-! ## Reading -/

/-- Objects are stored under their names. -/
def Named (engine : ObjectProtocolEngine) : Prop :=
  ∀ id objMeta,
    engine.objects.get? id = some objMeta → objMeta.storageId = id

/-- The object of a name can be read. -/
def Readable (engine : ObjectProtocolEngine) (id : String) : Prop :=
  ∃ objMeta stored,
    engine.objects.get? id = some objMeta ∧
      engine.pool.storage.get? id = some stored ∧
      Accepts objMeta stored

section Reading

variable
    {engine before after : ObjectProtocolEngine}
    {bucket key id : String}

theorem getObject_error_iff_not_readable (named : Named engine) :
    (∃ fault, engine.getObject bucket key "" = .error fault) ↔
      ¬ Readable engine (objectId bucket key) := by
  rw [getObject_error_iff, ← not_exists]
  apply not_congr
  constructor
  · rintro ⟨data, reads⟩
    rcases reads_iff.mp reads with ⟨objMeta, found, verified⟩
    rcases readVerified_ok_iff.mp verified with
      ⟨size, stored, made, pooled, rfl, checked⟩
    rw [named _ objMeta found] at pooled
    exact ⟨objMeta, stored, found, pooled, size, made, checked⟩
  · rintro ⟨objMeta, stored, found, pooled, size, made, checked⟩
    rw [← named _ objMeta found] at pooled
    refine ⟨fitted size stored, reads_iff.mpr ⟨objMeta, found, ?_⟩⟩
    exact readVerified_ok_iff.mpr
      ⟨size, stored, made, pooled, rfl, checked⟩

theorem unread_iff {state : Watched} (named : Named state.engine) :
    Unread state ↔
      ∀ pair ∈ state.hidden,
        ¬ Readable state.engine (objectId pair.1 pair.2) := by
  apply forall₂_congr
  intro pair member
  exact getObject_error_iff_not_readable named

end Reading

/-! ## Putting and completing -/

/-- An object is replaced, and some parts are reclaimed. -/
structure Replaced (before : ObjectProtocolEngine) (id : String)
    (data : Bytes) (gone : List String) (objMeta : ObjectMetadata)
    (after : ObjectProtocolEngine) : Prop where
  objects : after.objects = before.objects.set id objMeta
  pool :
    ∀ other,
      after.pool.storage.get? other =
        if other ∈ gone then
          none
        else if other = id then
          some data
        else
          before.pool.storage.get? other
  storageId : objMeta.storageId = id
  accepts : Accepts objMeta data

section Replacing

variable
    {before after : ObjectProtocolEngine}
    {id other bucket key : String}
    {data : Bytes}
    {gone : List String}
    {objMeta : ObjectMetadata}

theorem Stored.accepts (stored : Stored before id data objMeta after) :
    Accepts objMeta data := by
  refine ⟨data.length, stored.size, ?_⟩
  rw [fitted_self, stored.etag]

theorem Stored.replaced (stored : Stored before id data objMeta after) :
    Replaced before id data [] objMeta after where
  objects := stored.objects
  pool := by
    intro other
    rw [if_neg List.not_mem_nil, stored.pool]
  storageId := stored.storageId
  accepts := stored.accepts

theorem Replaced.named
    (replaced : Replaced before id data gone objMeta after)
    (named : Named before) : Named after := by
  intro other otherMeta found
  rw [replaced.objects, Dict.get?_set] at found
  split at found
  · rename_i same
    cases found
    rw [same]
    exact replaced.storageId
  · exact named other otherMeta found

/-- A replaced object can be read unless it is reclaimed as a part. -/
theorem Replaced.readable_self
    (replaced : Replaced before id data gone objMeta after) :
    Readable after id ↔ id ∉ gone := by
  rw [Readable, replaced.objects, Dict.get?_set_self, replaced.pool]
  constructor
  · rintro ⟨_, stored, _, pooled, _⟩ lost
    rw [if_pos lost] at pooled
    cases pooled
  · intro kept
    rw [if_neg kept, if_pos rfl]
    exact ⟨objMeta, data, rfl, rfl, replaced.accepts⟩

/-- Other objects do not become readable. -/
theorem Replaced.readable_ne
    (replaced : Replaced before id data gone objMeta after)
    (different : other ≠ id) (readable : Readable after other) :
    Readable before other := by
  rcases readable with ⟨otherMeta, stored, found, pooled, accepts⟩
  rw [replaced.objects, Dict.get?_set_ne _ _ different] at found
  rw [replaced.pool, if_neg different] at pooled
  split at pooled
  · cases pooled
  · exact ⟨otherMeta, stored, found, pooled, accepts⟩

/-- Hidden pairs stay unread exactly if none has the name of the object. -/
theorem Replaced.unread_iff
    (replaced :
      Replaced before (objectId bucket key) data gone objMeta after)
    {hidden : List (String × String)}
    (unread :
      ∀ pair ∈ hidden, ¬ Readable before (objectId pair.1 pair.2)) :
    (∀ pair ∈ hidden.filter fun pair => pair ≠ (bucket, key),
        ¬ Readable after (objectId pair.1 pair.2)) ↔
      ∀ pair ∈ hidden,
        objectId pair.1 pair.2 = objectId bucket key →
          pair = (bucket, key) ∨ objectId bucket key ∈ gone := by
  constructor
  · intro still pair member same
    by_cases own : pair = (bucket, key)
    · exact Or.inl own
    · right
      have kept :=
        still pair (List.mem_filter.mpr ⟨member, by simpa using own⟩)
      rw [same, replaced.readable_self, not_not] at kept
      exact kept
  · intro separate pair member readable
    rcases List.mem_filter.mp member with ⟨listed, different⟩
    by_cases same : objectId pair.1 pair.2 = objectId bucket key
    · rcases separate pair listed same with own | lost
      · exact absurd own (by simpa using different)
      · rw [same, replaced.readable_self] at readable
        exact readable lost
    · exact unread pair listed (replaced.readable_ne same readable)

end Replacing

section Completing

variable
    {sortParts : List PartInfo → List PartInfo}
    {engine : ObjectProtocolEngine}
    {bucket key uploadId : String}
    {parts : List PartInfo}
    {data : Bytes}

/-- Reclaiming parts takes their data out of the pool. -/
theorem foldl_reclaim (parts : List PartInfo) :
    (parts.foldl
          (fun engine part =>
            engine.reclaim (partId uploadId part.partNumber))
          engine).objects = engine.objects ∧
      ∀ other,
        (parts.foldl
            (fun engine part =>
              engine.reclaim (partId uploadId part.partNumber))
            engine).pool.storage.get? other =
          if
            other ∈
              parts.map fun part => partId uploadId part.partNumber then
            none
          else
            engine.pool.storage.get? other := by
  induction parts generalizing engine with
  | nil => exact ⟨rfl, fun other => rfl⟩
  | cons part rest induction =>
      rcases
        @induction (engine.reclaim (partId uploadId part.partNumber)) with
        ⟨objects, pool⟩
      refine ⟨objects, ?_⟩
      intro other
      rw [List.foldl_cons, pool, List.map_cons]
      by_cases later :
          other ∈ rest.map fun part => partId uploadId part.partNumber
      · rw [if_pos later, if_pos (List.mem_cons_of_mem _ later)]
      · rw [if_neg later]
        change (engine.pool.storage.erase _).get? other = _
        rw [Dict.get?_erase]
        by_cases same : other = partId uploadId part.partNumber
        · rw [if_pos same, if_pos (by simp [same])]
        · rw [if_neg same, if_neg (by simp [same, later])]

/-- What a completion leaves behind. -/
theorem completeMultipartUpload_replaced
    (completes :
      Completes sortParts engine bucket uploadId parts data)
    (key : String) (now : ℤ) :
    ∃ objMeta,
      (engine.completeMultipartUpload sortParts bucket key uploadId parts
            now).1 = .ok objMeta ∧
        Replaced engine (objectId bucket key) data
          (reclaimed sortParts uploadId parts) objMeta
          (engine.completeMultipartUpload sortParts bucket key uploadId
            parts now).2 := by
  rcases completes with ⟨initiated, joined, read, supplied⟩
  rcases Option.ne_none_iff_exists'.mp initiated with ⟨upload, found⟩
  rcases @putObject_stored engine bucket key _ _ data supplied Dict.empty
      now with ⟨objMeta, returned, stored⟩
  simp only [ObjectProtocolEngine.completeMultipartUpload, found, read]
  generalize
    engine.putObject bucket key { bytes := joined } _ Dict.empty now =
      result at returned stored ⊢
  rcases result with ⟨outcome, put⟩
  have success : outcome = .ok objMeta := returned
  subst success
  refine ⟨objMeta, rfl, ?_, ?_, stored.storageId, stored.accepts⟩
  · exact (foldl_reclaim (sortParts parts)).1.trans stored.objects
  · intro other
    refine ((foldl_reclaim (sortParts parts)).2 other).trans ?_
    exact congrArg
      (fun value =>
        if other ∈ reclaimed sortParts uploadId parts then
          none
        else
          value)
      (stored.pool other)

/-- A completion that has no data to store fails and changes nothing. -/
theorem completeMultipartUpload_failed
    (none :
      ∀ data,
        ¬ Completes sortParts engine bucket uploadId parts data)
    (key : String) (now : ℤ) :
    ∃ fault,
      engine.completeMultipartUpload sortParts bucket key uploadId parts
          now = (.error fault, engine) := by
  rw [ObjectProtocolEngine.completeMultipartUpload]
  cases found : engine.uploads.get? uploadId with
  | none => exact ⟨_, rfl⟩
  | some upload =>
      cases read : engine.readParts uploadId (sortParts parts) with
      | error fault =>
          exact ⟨fault, by simp only [read]⟩
      | ok joined =>
          have unsupplied :
              ∀ data,
                ¬ Supplies engine bucket { bytes := joined }
                  ((sortParts parts).foldl
                    (fun total part => int64 (total + part.size)) 0)
                  data := by
            intro data supplied
            refine none data ⟨?_, joined, read, supplied⟩
            rw [found]
            simp
          rcases @putObject_failed engine bucket key _ _ unsupplied
              Dict.empty now with ⟨fault, failed⟩
          exact ⟨fault, by simp only [read, failed]⟩

end Completing

/-! ## Steps -/

section Steps

variable
    {sortParts : List PartInfo → List PartInfo}
    {state : Watched}
    {bucket key : String}

/-- Nothing changes for hidden pairs that keep their objects and data. -/
theorem unread_congr
    {after : Watched} (named : Named state.engine)
    (unread : Unread state)
    (objects : after.engine.objects = state.engine.objects)
    (pool : after.engine.pool = state.engine.pool)
    (hidden : after.hidden = state.hidden) :
    Named after.engine ∧ Unread after := by
  have namedAfter : Named after.engine := by
    rw [Named, objects]
    exact named
  refine ⟨namedAfter, ?_⟩
  rw [unread_iff named] at unread
  rw [unread_iff namedAfter, hidden]
  intro pair member readable
  apply unread pair member
  rw [Readable, objects, pool] at readable
  exact readable

/-- What replacing an object means for the hidden pairs. -/
theorem unread_replaced
    {after : Watched} {data : Bytes} {gone : List String}
    {objMeta : ObjectMetadata} (named : Named state.engine)
    (unread : Unread state)
    (replaced :
      Replaced state.engine (objectId bucket key) data gone objMeta
        after.engine)
    (hidden :
      after.hidden =
        state.hidden.filter fun pair => pair ≠ (bucket, key)) :
    Named after.engine ∧
      (Unread after ↔
        ∀ pair ∈ state.hidden,
          objectId pair.1 pair.2 = objectId bucket key →
            pair = (bucket, key) ∨ objectId bucket key ∈ gone) := by
  have namedAfter := replaced.named named
  refine ⟨namedAfter, ?_⟩
  rw [unread_iff namedAfter, hidden]
  exact replaced.unread_iff ((unread_iff named).mp unread)

/-- A request that changes nothing keeps hidden pairs unread. -/
theorem unread_unchanged
    {request : Request} (named : Named state.engine)
    (unread : Unread state)
    (same : state.step sortParts request = state)
    (lasting : Lasting sortParts state request) :
    Named (state.step sortParts request).engine ∧
      (Unread (state.step sortParts request) ↔
        Lasting sortParts state request) := by
  rw [same]
  exact ⟨named, fun _ => lasting, fun _ => unread⟩

theorem unread_put
    (named : Named state.engine) (unread : Unread state)
    (reader : Reader) (size : ℤ) (metadata : Dict String String)
    (now : ℤ) :
    Named
        (state.step sortParts
          (.putObject bucket key reader size metadata now)).engine ∧
      (Unread
          (state.step sortParts
            (.putObject bucket key reader size metadata now)) ↔
        Lasting sortParts state
          (.putObject bucket key reader size metadata now)) := by
  by_cases supplied :
      ∃ data, Supplies state.engine bucket reader size data
  · rcases supplied with ⟨data, supplied⟩
    rcases @putObject_stored state.engine bucket key reader size data
        supplied metadata now with ⟨objMeta, returned, stored⟩
    have hidden :
        (state.step sortParts
            (.putObject bucket key reader size metadata now)).hidden =
          state.hidden.filter fun pair => pair ≠ (bucket, key) := by
      simp only [Watched.step, Watched.watch, returned]
    rcases unread_replaced named unread stored.replaced hidden with
      ⟨namedAfter, unreadAfter⟩
    refine ⟨namedAfter, unreadAfter.trans ?_⟩
    simp only [List.not_mem_nil, or_false]
    constructor
    · intro separate _ _
      exact separate
    · intro lasting
      exact lasting data supplied
  · have none := not_exists.mp supplied
    rcases @putObject_failed state.engine bucket key reader size none
        metadata now with ⟨fault, failed⟩
    have same :
        state.step sortParts
            (.putObject bucket key reader size metadata now) = state := by
      simp only [Watched.step, Watched.watch,
        ObjectProtocolEngine.serve, failed]
    apply unread_unchanged named unread same
    intro data supplies
    exact absurd supplies (none data)

theorem unread_complete
    (named : Named state.engine) (unread : Unread state)
    (uploadId : String) (parts : List PartInfo) (now : ℤ) :
    Named
        (state.step sortParts
          (.completeMultipartUpload bucket key uploadId parts
            now)).engine ∧
      (Unread
          (state.step sortParts
            (.completeMultipartUpload bucket key uploadId parts now)) ↔
        Lasting sortParts state
          (.completeMultipartUpload bucket key uploadId parts now)) := by
  by_cases completes :
      ∃ data,
        Completes sortParts state.engine bucket uploadId parts data
  · rcases completes with ⟨data, completes⟩
    rcases completeMultipartUpload_replaced completes key now with
      ⟨objMeta, returned, replaced⟩
    have hidden :
        (state.step sortParts
            (.completeMultipartUpload bucket key uploadId parts
              now)).hidden =
          state.hidden.filter fun pair => pair ≠ (bucket, key) := by
      simp only [Watched.step, Watched.watch, returned]
    rcases unread_replaced named unread replaced hidden with
      ⟨namedAfter, unreadAfter⟩
    refine ⟨namedAfter, unreadAfter.trans ?_⟩
    constructor
    · intro separate _ _
      exact separate
    · intro lasting
      exact lasting data completes
  · have none := not_exists.mp completes
    rcases completeMultipartUpload_failed none key now with
      ⟨fault, failed⟩
    have same :
        state.step sortParts
            (.completeMultipartUpload bucket key uploadId parts now) =
          state := by
      simp only [Watched.step, Watched.watch,
        ObjectProtocolEngine.serve, failed]
    apply unread_unchanged named unread same
    intro data completes
    exact absurd completes (none data)

theorem unread_uploadPart
    (named : Named state.engine) (unread : Unread state)
    (uploadId : String) (partNumber : ℤ) (reader : Reader) (size : ℤ) :
    Named
        (state.step sortParts
          (.uploadPart bucket key uploadId partNumber reader
            size)).engine ∧
      (Unread
          (state.step sortParts
            (.uploadPart bucket key uploadId partNumber reader size)) ↔
        Lasting sortParts state
          (.uploadPart bucket key uploadId partNumber reader size)) := by
  by_cases written :
      ∃ data,
        state.engine.uploads.get? uploadId ≠ none ∧
          reader.readData size = .ok data
  · rcases written with ⟨data, initiated, read⟩
    rcases uploadPart_written initiated read bucket key partNumber with
      ⟨_, objects, pool⟩
    have namedAfter :
        Named
          (state.step sortParts
            (.uploadPart bucket key uploadId partNumber reader
              size)).engine := by
      intro id objMeta found
      exact named id objMeta
        ((congrArg (Dict.get? · id) objects).symm.trans found)
    refine ⟨namedAfter, ?_⟩
    rw [unread_iff namedAfter]
    rw [unread_iff named] at unread
    constructor
    · intro still other _ again pair member same objMeta found accepts
      cases read.symm.trans again
      apply still pair member
      refine ⟨objMeta, data, ?_, ?_, accepts⟩
      · exact (congrArg (Dict.get? · _) objects).trans found
      · exact (pool _).trans (if_pos same)
    · intro lasting pair member readable
      rcases readable with ⟨objMeta, stored, found, pooled, accepts⟩
      have before :
          state.engine.objects.get? (objectId pair.1 pair.2) =
            some objMeta :=
        (congrArg (Dict.get? · _) objects).symm.trans found
      by_cases same :
          objectId pair.1 pair.2 = partId uploadId partNumber
      · cases ((pool _).trans (if_pos same)).symm.trans pooled
        exact lasting data initiated read pair member same objMeta
          before accepts
      · have kept := ((pool _).trans (if_neg same)).symm.trans pooled
        exact unread pair member ⟨objMeta, stored, before, kept, accepts⟩
  · have failed :
        state.step sortParts
            (.uploadPart bucket key uploadId partNumber reader size) =
          state := by
      have same :=
        uploadPart_failed
          (fun data initiated read =>
            written ⟨data, initiated, read⟩) bucket key partNumber
      simp only [Watched.step, Watched.watch, ObjectProtocolEngine.serve,
        same]
    apply unread_unchanged named unread failed
    intro data initiated read
    exact absurd ⟨data, initiated, read⟩ written

/-- A delete marker hides what can not be read anyway. -/
theorem unread_delete_versioned
    (named : Named state.engine) (unread : Unread state)
    (versioning : Versioning state.engine bucket) (versionId : String)
    (now : ℤ) :
    Named
        (state.step sortParts
          (.deleteObject bucket key versionId now)).engine ∧
      (Unread
          (state.step sortParts
            (.deleteObject bucket key versionId now)) ↔
        Lasting sortParts state
          (.deleteObject bucket key versionId now)) := by
  have returned :=
    @deleteObject_versioned state.engine bucket key versioning versionId
      now
  have objects :
      (state.step sortParts
          (.deleteObject bucket key versionId now)).engine.objects =
        state.engine.objects := by
    simp only [Watched.step, ObjectProtocolEngine.serve, returned]
    rfl
  have pool :
      (state.step sortParts
          (.deleteObject bucket key versionId now)).engine.pool =
        state.engine.pool := by
    simp only [Watched.step, ObjectProtocolEngine.serve, returned]
    rfl
  have hidden :
      (state.step sortParts
          (.deleteObject bucket key versionId now)).hidden =
        if versionId = "" then
          (bucket, key) :: state.hidden
        else
          state.hidden := by
    simp only [Watched.step, Watched.watch, returned]
  rcases versioning with ⟨found, present, enabled⟩
  by_cases current : versionId = ""
  · rw [if_pos current] at hidden
    have namedAfter :
        Named
          (state.step sortParts
            (.deleteObject bucket key versionId now)).engine := by
      rw [Named, objects]
      exact named
    refine ⟨namedAfter, ?_⟩
    rw [unread_iff named] at unread
    rw [unread_iff namedAfter, hidden, List.forall_mem_cons]
    simp only [Readable, objects, pool]
    constructor
    · rintro ⟨gone, _⟩ _ other listed _
      exact (getObject_error_iff_not_readable named).mpr gone
    · intro lasting
      have failed := lasting current found present enabled
      exact ⟨(getObject_error_iff_not_readable named).mp failed, unread⟩
  · rw [if_neg current] at hidden
    rcases unread_congr named unread objects pool hidden with
      ⟨namedAfter, unreadAfter⟩
    refine ⟨namedAfter, ?_⟩
    constructor
    · intro _ same
      exact absurd same current
    · intro _
      exact unreadAfter

/-- A delete without versions hides the object. -/
theorem unread_delete_unversioned
    (named : Named state.engine) (unread : Unread state)
    {found : Bucket}
    (present : state.engine.buckets.get? bucket = some found)
    (disabled : found.versioningEnabled = false) (versionId : String)
    (now : ℤ) :
    Named
        (state.step sortParts
          (.deleteObject bucket key versionId now)).engine ∧
      (Unread
          (state.step sortParts
            (.deleteObject bucket key versionId now)) ↔
        Lasting sortParts state
          (.deleteObject bucket key versionId now)) := by
  rcases
    @deleteObject_unversioned state.engine bucket found present disabled
      key versionId now with
    ⟨returned, _, objects, pool⟩
  have namedAfter :
      Named
        (state.step sortParts
          (.deleteObject bucket key versionId now)).engine := by
    intro id objMeta listed
    have erased :=
      (congrArg (Dict.get? · id) objects).symm.trans listed
    exact named id objMeta (Dict.get?_of_erase erased).2
  have spared :
      ∀ id,
        Readable
            (state.step sortParts
              (.deleteObject bucket key versionId now)).engine id →
          id ≠ objectId bucket key ∧ Readable state.engine id := by
    rintro id ⟨objMeta, stored, listed, pooled, accepts⟩
    have erased :=
      (congrArg (Dict.get? · id) objects).symm.trans listed
    rcases Dict.get?_of_erase erased with ⟨different, before⟩
    have kept :=
      pool id fun other own same =>
        different (same.symm.trans (named _ other own))
    exact ⟨different, objMeta, stored, before, kept.symm.trans pooled,
      accepts⟩
  refine ⟨namedAfter, ?_⟩
  constructor
  · intro _ _ other listed enabled
    rw [present] at listed
    cases listed
    rw [disabled] at enabled
    cases enabled
  · intro _
    rw [unread_iff named] at unread
    rw [unread_iff namedAfter]
    intro pair member readable
    rcases spared _ readable with ⟨different, before⟩
    simp only [Watched.step, Watched.watch, returned] at member
    split at member
    · rcases List.mem_cons.mp member with rfl | listed
      · exact different rfl
      · exact unread pair listed before
    · exact unread pair member before

theorem unread_delete
    (named : Named state.engine) (unread : Unread state)
    (versionId : String) (now : ℤ) :
    Named
        (state.step sortParts
          (.deleteObject bucket key versionId now)).engine ∧
      (Unread
          (state.step sortParts
            (.deleteObject bucket key versionId now)) ↔
        Lasting sortParts state
          (.deleteObject bucket key versionId now)) := by
  cases present : state.engine.buckets.get? bucket with
  | none =>
      have failed := deleteObject_missing present key versionId now
      have same :
          state.step sortParts (.deleteObject bucket key versionId now) =
            state := by
        simp only [Watched.step, Watched.watch,
          ObjectProtocolEngine.serve, failed]
      apply unread_unchanged named unread same
      intro _ found listed
      rw [present] at listed
      cases listed
  | some found =>
      cases enabled : found.versioningEnabled with
      | true =>
          exact unread_delete_versioned named unread
            ⟨found, present, enabled⟩ versionId now
      | false =>
          exact unread_delete_unversioned named unread present enabled
            versionId now

/-- A request keeps hidden pairs unread exactly if it lets them last. -/
theorem unread_step
    (named : Named state.engine) (unread : Unread state)
    (request : Request) :
    Named (state.step sortParts request).engine ∧
      (Unread (state.step sortParts request) ↔
        Lasting sortParts state request) := by
  cases request with
  | putObject bucket key reader size metadata now =>
      exact unread_put named unread reader size metadata now
  | deleteObject bucket key versionId now =>
      exact unread_delete named unread versionId now
  | uploadPart bucket key uploadId partNumber reader size =>
      exact unread_uploadPart named unread uploadId partNumber reader size
  | completeMultipartUpload bucket key uploadId parts now =>
      exact unread_complete named unread uploadId parts now
  | createBucket name versioningEnabled =>
      have same :=
        createBucket_frame state.engine name versioningEnabled
      have kept :=
        @unread_congr state (state.step sortParts (.createBucket _ _))
          named unread same.1 same.2 rfl
      exact ⟨kept.1, fun _ => trivial, fun _ => kept.2⟩
  | deleteBucket name =>
      have same :
          (state.engine.deleteBucket name).2.objects =
              state.engine.objects ∧
            (state.engine.deleteBucket name).2.pool =
              state.engine.pool := by
        rw [ObjectProtocolEngine.deleteBucket]
        split
        · exact ⟨rfl, rfl⟩
        · exact ⟨rfl, rfl⟩
      have kept :=
        @unread_congr state (state.step sortParts (.deleteBucket _))
          named unread same.1 same.2 rfl
      exact ⟨kept.1, fun _ => trivial, fun _ => kept.2⟩
  | initiateMultipartUpload bucket key random =>
      have kept :=
        @unread_congr state
          (state.step sortParts
            (.initiateMultipartUpload bucket key random))
          named unread rfl rfl rfl
      exact ⟨kept.1, fun _ => trivial, fun _ => kept.2⟩

/--
In every run of requests a deleted object can not be read in any state before
its next put or completion exactly if every request lets what is hidden last.
-/
theorem hidden_unread_iff
    (sortParts : List PartInfo → List PartInfo)
    (requests : List Request) :
    AllSteps (Watched.step sortParts)
        (fun state request => Unread (state.step sortParts request)) {}
        requests ↔
      AllSteps (Watched.step sortParts) (Lasting sortParts) {}
        requests := by
  apply
    @allSteps_property_iff _ _ _ _
      (fun state : Watched => Named state.engine) Unread
  · exact fun state request named unread =>
      (unread_step named unread request).1
  · exact fun state request named unread =>
      (unread_step named unread request).2
  · intro id objMeta found
    cases found
  · intro pair member
    cases member

end Steps

/-- Delete an object in a bucket with versions. -/
def deleteVersioned : List Request :=
  [.createBucket "b" true,
    .putObject "b" "k" { bytes := [1] } 1 Dict.empty 1,
    .deleteObject "b" "k" "" 2]

theorem deleteVersioned_readable :
    ((run (Watched.step id) {}
          (deleteVersioned.take 2)).engine.deleteObject "b" "k" "" 2).1 =
        .ok () ∧
      (run (Watched.step id) {} deleteVersioned).hidden = [("b", "k")] ∧
      ((run (Watched.step id) {} deleteVersioned).engine.getObject "b" "k"
          "").map Prod.fst = .ok [1] := by
  refine ⟨?_, ?_, ?_⟩
  · decide +kernel
  · decide +kernel
  · decide +kernel

end StorageAppliance.Unity
