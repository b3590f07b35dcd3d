import StorageAppliance.Library.Run
import StorageAppliance.Unity.ObjectMap

/-!
# Objects and their buckets

A put checks that its bucket exists, and stores the metadata of its object some
steps later.  The deletion of a bucket looks neither at the objects in it nor at
the puts under way, so both can be left without a bucket, and a bucket that is
created again under the name is not empty.

Each step that holds a lock is a turn of its own, so the turns of any calls come
in any order.  Run on its own, a call does what the whole operation does
(`turns_alone`).  `buckets_intact_iff` says that every object has a bucket after
each turn exactly if only empty buckets are deleted and no put stores its object
after its bucket is gone.
-/

namespace StorageAppliance.Unity

open StorageAppliance.Go
open StorageAppliance.Library

/-! ## Calls and their turns -/

inductive BucketCall where
  | createBucket (name : String) (versioningEnabled : Bool)
  | deleteBucket (name : String)
  | putObject (bucket key : String) (reader : Reader) (size : ℤ)
      (metadata : Dict String String) (now : ℤ)
  | deleteObject (bucket key versionId : String) (now : ℤ)
  | getObject (bucket key versionId : String)

/-- The bucket that a call is about. -/
def BucketCall.bucket : BucketCall → String
  | .createBucket name _ => name
  | .deleteBucket name => name
  | .putObject bucket _ _ _ _ _ => bucket
  | .deleteObject bucket _ _ _ => bucket
  | .getObject bucket _ _ => bucket

/-- How far a call has got, and what it returned. -/
inductive BucketStage where
  | started
  | allocating (found : Bucket) (data : Bytes)
  | writing (found : Bucket) (data : Bytes)
  | versioning (objMeta : ObjectMetadata)
  | storing (objMeta : ObjectMetadata)
  | marking
  | removing
  | reclaiming (storageId : String)
  | finding (objMeta : ObjectMetadata)
  | reading (objMeta : ObjectMetadata)
  | failed (fault : Fault)
  | done
  | stored (objMeta : ObjectMetadata)
  | got (data : Bytes) (objMeta : ObjectMetadata)
deriving DecidableEq

/-- A call has returned, with an answer or an error. -/
def BucketStage.returned : BucketStage → Bool
  | .failed _ => true
  | .done => true
  | .stored _ => true
  | .got _ _ => true
  | _ => false

/-- The stage of a call that returns nothing or an error. -/
def BucketStage.ofAnswer : Except Fault Unit → BucketStage
  | .error fault => .failed fault
  | .ok () => .done

/-- The next step of a put. -/
def ObjectProtocolEngine.turnPut
    (self : ObjectProtocolEngine) (bucket key : String) (reader : Reader)
    (size : ℤ) (metadata : Dict String String) (now : ℤ) :
    BucketStage → BucketStage × ObjectProtocolEngine
  | .started =>
      match self.buckets.get? bucket with
      | none => (.failed (errorf ("bucket not found: " ++ bucket)), self)
      | some found =>
          match reader.readData size with
          | .error fault => (.failed fault, self)
          | .ok data => (.allocating found data, self)
  | .allocating found data =>
      (.writing found data, self.allocate (objectId bucket key))
  | .writing found data =>
      let objMeta := describe bucket key data size metadata
      (if found.versioningEnabled then
          .versioning { objMeta with versionId := generateVersionId now }
        else
          .storing objMeta,
        self.write (objectId bucket key) data)
  | .versioning objMeta =>
      (.storing objMeta,
        self.addVersion (objectId bucket key)
          { versionId := objMeta.versionId
            metadata := some objMeta
            isLatest := true
            isDeleteMarker := false })
  | .storing objMeta =>
      (.stored objMeta, self.storeMetadata (objectId bucket key) objMeta)
  | stage => (stage, self)

/-- The next step of a delete. -/
def ObjectProtocolEngine.turnDelete
    (self : ObjectProtocolEngine) (bucket key : String) (now : ℤ) :
    BucketStage → BucketStage × ObjectProtocolEngine
  | .started =>
      match self.buckets.get? bucket with
      | none => (.failed (errorf "bucket not found"), self)
      | some found =>
          (if found.versioningEnabled then .marking else .removing, self)
  | .marking =>
      (.done,
        self.addVersion (objectId bucket key)
          { versionId := generateVersionId now
            metadata := none
            isLatest := true
            isDeleteMarker := true })
  | .removing =>
      match self.objects.get? (objectId bucket key) with
      | none => (.done, self.deleteMetadata (objectId bucket key))
      | some objMeta =>
          (.reclaiming objMeta.storageId,
            self.deleteMetadata (objectId bucket key))
  | .reclaiming storageId => (.done, self.reclaim storageId)
  | stage => (stage, self)

/-- The next step of a get. -/
def ObjectProtocolEngine.turnGet
    (self : ObjectProtocolEngine) (bucket key versionId : String) :
    BucketStage → BucketStage
  | .started =>
      match self.objects.get? (objectId bucket key) with
      | none => .failed (errorf "object not found")
      | some objMeta => .finding objMeta
  | .finding objMeta =>
      match self.findVersion (objectId bucket key) versionId objMeta with
      | none =>
          .failed
            (.panic "invalid memory address or nil pointer dereference")
      | some found => .reading found
  | .reading objMeta =>
      match self.readVerified objMeta with
      | .error fault => .failed fault
      | .ok data => .got data objMeta
  | stage => stage

/-- The next step of a call. -/
def ObjectProtocolEngine.turn
    (self : ObjectProtocolEngine) (call : BucketCall)
    (stage : BucketStage) : BucketStage × ObjectProtocolEngine :=
  match call, stage with
  | .createBucket name versioningEnabled, .started =>
      let (answer, engine) := self.createBucket name versioningEnabled
      (.ofAnswer answer, engine)
  | .deleteBucket name, .started =>
      let (answer, engine) := self.deleteBucket name
      (.ofAnswer answer, engine)
  | .putObject bucket key reader size metadata now, stage =>
      self.turnPut bucket key reader size metadata now stage
  | .deleteObject bucket key _ now, stage =>
      self.turnDelete bucket key now stage
  | .getObject bucket key versionId, stage =>
      (self.turnGet bucket key versionId stage, self)
  | _, stage => (stage, self)

/-- An engine and the stages of the calls on it. -/
structure BucketTraffic where
  engine : ObjectProtocolEngine := {}
  stages : List BucketStage
deriving DecidableEq

/-- All calls start on a new engine. -/
def BucketTraffic.start (calls : List BucketCall) : BucketTraffic where
  stages := calls.map fun _ => .started

/-- The turn of the call with an index. -/
def BucketTraffic.turn (calls : List BucketCall) (self : BucketTraffic)
    (index : Nat) : BucketTraffic :=
  match calls[index]?, self.stages[index]? with
  | some call, some stage =>
      let (stage, engine) := self.engine.turn call stage
      { engine := engine, stages := self.stages.set index stage }
  | _, _ => self

/-! ## Calls on their own -/

/-- The whole operation of a call, and what it returns. -/
def ObjectProtocolEngine.whole (self : ObjectProtocolEngine) :
    BucketCall → BucketStage × ObjectProtocolEngine
  | .createBucket name versioningEnabled =>
      let (answer, engine) := self.createBucket name versioningEnabled
      (.ofAnswer answer, engine)
  | .deleteBucket name =>
      let (answer, engine) := self.deleteBucket name
      (.ofAnswer answer, engine)
  | .putObject bucket key reader size metadata now =>
      match self.putObject bucket key reader size metadata now with
      | (.error fault, engine) => (.failed fault, engine)
      | (.ok objMeta, engine) => (.stored objMeta, engine)
  | .deleteObject bucket key versionId now =>
      let (answer, engine) := self.deleteObject bucket key versionId now
      (.ofAnswer answer, engine)
  | .getObject bucket key versionId =>
      match self.getObject bucket key versionId with
      | .error fault => (.failed fault, self)
      | .ok (data, objMeta) => (.got data objMeta, self)

/-- The turns of a call on its own are the whole operation. -/
theorem turns_alone (engine : ObjectProtocolEngine) (call : BucketCall) :
    run (BucketTraffic.turn [call])
        { engine := engine, stages := [.started] } [0, 0, 0, 0, 0] =
      { engine := (engine.whole call).2
        stages := [(engine.whole call).1] } := by
  cases call with
  | createBucket name versioningEnabled =>
      cases found : engine.buckets.get? name <;>
        simp [BucketTraffic.turn, ObjectProtocolEngine.turn,
          ObjectProtocolEngine.whole, ObjectProtocolEngine.createBucket,
          BucketStage.ofAnswer, found]
  | deleteBucket name =>
      cases found : engine.buckets.get? name <;>
        simp [BucketTraffic.turn, ObjectProtocolEngine.turn,
          ObjectProtocolEngine.whole, ObjectProtocolEngine.deleteBucket,
          BucketStage.ofAnswer, found]
  | putObject bucket key reader size metadata now =>
      cases found : engine.buckets.get? bucket with
      | none =>
          simp [BucketTraffic.turn, ObjectProtocolEngine.turn,
            ObjectProtocolEngine.turnPut, ObjectProtocolEngine.whole,
            ObjectProtocolEngine.putObject, found]
      | some present =>
          cases read : reader.readData size with
          | error fault =>
              simp [BucketTraffic.turn, ObjectProtocolEngine.turn,
                ObjectProtocolEngine.turnPut, ObjectProtocolEngine.whole,
                ObjectProtocolEngine.putObject, found, read]
          | ok data =>
              cases versioning : present.versioningEnabled <;>
                simp [BucketTraffic.turn, ObjectProtocolEngine.turn,
                  ObjectProtocolEngine.turnPut, ObjectProtocolEngine.whole,
                  ObjectProtocolEngine.putObject, found, read, versioning]
  | deleteObject bucket key versionId now =>
      cases found : engine.buckets.get? bucket with
      | none =>
          simp [BucketTraffic.turn, ObjectProtocolEngine.turn,
            ObjectProtocolEngine.turnDelete, ObjectProtocolEngine.whole,
            ObjectProtocolEngine.deleteObject, BucketStage.ofAnswer, found]
      | some present =>
          cases versioning : present.versioningEnabled with
          | true =>
              simp [BucketTraffic.turn, ObjectProtocolEngine.turn,
                ObjectProtocolEngine.turnDelete,
                ObjectProtocolEngine.whole,
                ObjectProtocolEngine.deleteObject, BucketStage.ofAnswer,
                found, versioning]
          | false =>
              cases object :
                  engine.objects.get? (objectId bucket key) <;>
                simp [BucketTraffic.turn, ObjectProtocolEngine.turn,
                  ObjectProtocolEngine.turnDelete,
                  ObjectProtocolEngine.whole,
                  ObjectProtocolEngine.deleteObject, BucketStage.ofAnswer,
                  found, versioning, object]
  | getObject bucket key versionId =>
      cases object : engine.objects.get? (objectId bucket key) with
      | none =>
          simp [BucketTraffic.turn, ObjectProtocolEngine.turn,
            ObjectProtocolEngine.turnGet, ObjectProtocolEngine.whole,
            ObjectProtocolEngine.getObject, object]
      | some objMeta =>
          cases version :
              engine.findVersion (objectId bucket key) versionId
                objMeta with
          | none =>
              simp [BucketTraffic.turn, ObjectProtocolEngine.turn,
                ObjectProtocolEngine.turnGet, ObjectProtocolEngine.whole,
                ObjectProtocolEngine.getObject, object, version]
          | some found =>
              cases read : engine.readVerified found <;>
                simp [BucketTraffic.turn, ObjectProtocolEngine.turn,
                  ObjectProtocolEngine.turnGet, ObjectProtocolEngine.whole,
                  ObjectProtocolEngine.getObject, object, version, read]

/-! ## What is expected -/

/-- Every object is in a bucket that exists. -/
def BucketsIntact (engine : ObjectProtocolEngine) : Prop :=
  ∀ id objMeta,
    engine.objects.get? id = some objMeta →
      ∃ bucket key,
        id = objectId bucket key ∧ engine.buckets.get? bucket ≠ none

/-- There is no object in a bucket. -/
def BucketEmpty (engine : ObjectProtocolEngine) (bucket : String) : Prop :=
  ∀ key, engine.objects.get? (objectId bucket key) = none

/-- If the turn creates a bucket, the bucket is empty. -/
def CreatesEmpty (engine : ObjectProtocolEngine) :
    BucketCall → BucketStage → Prop
  | .createBucket name versioningEnabled, .started =>
      engine.buckets.get? name = none →
        BucketEmpty (engine.createBucket name versioningEnabled).2 name
  | _, _ => True

/-- A bucket that is deleted is empty, and a put that stores has a bucket. -/
def KeepsBuckets (engine : ObjectProtocolEngine) :
    BucketCall → BucketStage → Prop
  | .deleteBucket name, .started => BucketEmpty engine name
  | .putObject bucket _ _ _ _ _, .storing _ =>
      engine.buckets.get? bucket ≠ none
  | _, _ => True

/-- A turn leaves every object in a bucket, and new buckets empty. -/
structure TurnIntact (calls : List BucketCall) (state : BucketTraffic)
    (index : Nat) : Prop where
  intact : BucketsIntact (state.turn calls index).engine
  empty :
    ∀ call stage,
      calls[index]? = some call →
        state.stages[index]? = some stage →
          CreatesEmpty state.engine call stage

/-- The condition on a turn. -/
def TurnKeeps (calls : List BucketCall) (state : BucketTraffic)
    (index : Nat) : Prop :=
  match calls[index]?, state.stages[index]? with
  | some call, some stage => KeepsBuckets state.engine call stage
  | _, _ => True

/-- No bucket has a slash in its name. -/
def BucketsFree (engine : ObjectProtocolEngine) : Prop :=
  ∀ name found,
    engine.buckets.get? name = some found → '/' ∉ name.toList

theorem bucketEmpty_iff
    {engine : ObjectProtocolEngine} {bucket : String} :
    BucketEmpty engine bucket ↔
      ∀ id ∈ engine.objects.keys,
        ¬ (bucket.toList ++ ['/']) <+: id.toList := by
  constructor
  · rintro empty id member ⟨key, same⟩
    rcases Dict.mem_keys_iff.mp member with ⟨objMeta, found⟩
    have named : id = objectId bucket (String.ofList key) := by
      apply String.toList_injective
      rw [toList_objectId, String.toList_ofList, ← same,
        List.append_assoc]
      rfl
    rw [named, empty] at found
    cases found
  · intro apart key
    by_contra present
    rcases Option.ne_none_iff_exists'.mp present with ⟨objMeta, found⟩
    apply apart _ (Dict.mem_keys_iff.mpr ⟨objMeta, found⟩)
    refine ⟨key.toList, ?_⟩
    rw [toList_objectId, List.append_assoc]
    rfl

instance (engine : ObjectProtocolEngine) (bucket : String) :
    Decidable (BucketEmpty engine bucket) :=
  decidable_of_iff _ bucketEmpty_iff.symm

instance (engine : ObjectProtocolEngine) (call : BucketCall)
    (stage : BucketStage) : Decidable (KeepsBuckets engine call stage) := by
  unfold KeepsBuckets
  split <;> infer_instance

instance (calls : List BucketCall) (state : BucketTraffic) (index : Nat) :
    Decidable (TurnKeeps calls state index) := by
  unfold TurnKeeps
  split <;> infer_instance

section Turns

variable
    {engine : ObjectProtocolEngine}
    {name bucket key : String}
    {stage : BucketStage}

/-- An object is in the bucket of its name. -/
theorem BucketsIntact.bucket_exists
    (intact : BucketsIntact engine) (free : BucketsFree engine)
    (nameFree : '/' ∉ name.toList) {objMeta : ObjectMetadata}
    (present : engine.objects.get? (objectId name key) = some objMeta) :
    engine.buckets.get? name ≠ none := by
  rcases intact _ _ present with ⟨other, otherKey, same, standing⟩
  rcases Option.ne_none_iff_exists'.mp standing with ⟨found, otherFound⟩
  rcases
      objectId_inj_of_free nameFree (free other found otherFound) same with
    ⟨rfl, _⟩
  exact standing

/-- There is no object in a bucket that does not exist. -/
theorem BucketsIntact.bucketEmpty
    (intact : BucketsIntact engine) (free : BucketsFree engine)
    (nameFree : '/' ∉ name.toList)
    (absent : engine.buckets.get? name = none) :
    BucketEmpty engine name := by
  intro key
  by_contra present
  rcases Option.ne_none_iff_exists'.mp present with ⟨objMeta, found⟩
  exact intact.bucket_exists free nameFree found absent

theorem BucketsIntact.createBucket
    (intact : BucketsIntact engine) (free : BucketsFree engine)
    (nameFree : '/' ∉ name.toList) (versioningEnabled : Bool) :
    BucketsIntact (engine.createBucket name versioningEnabled).2 ∧
      CreatesEmpty engine (.createBucket name versioningEnabled)
        .started := by
  constructor
  · rw [ObjectProtocolEngine.createBucket]
    split
    · exact intact
    · intro id objMeta found
      rcases intact id objMeta found with ⟨other, key, named, standing⟩
      refine ⟨other, key, named, ?_⟩
      change (engine.buckets.set _ _).get? other ≠ none
      rw [Dict.get?_set]
      split
      · exact Option.some_ne_none _
      · exact standing
  · intro absent key
    rw [(createBucket_frame engine name versioningEnabled).1]
    exact intact.bucketEmpty free nameFree absent key

/-- The objects keep their buckets if the deleted one is empty. -/
theorem BucketsIntact.deleteBucket_iff
    (intact : BucketsIntact engine) (free : BucketsFree engine)
    (nameFree : '/' ∉ name.toList) :
    BucketsIntact (engine.deleteBucket name).2 ↔
      BucketEmpty engine name := by
  rw [ObjectProtocolEngine.deleteBucket]
  cases present : engine.buckets.get? name with
  | none =>
      exact
        iff_of_true intact (intact.bucketEmpty free nameFree present)
  | some found =>
      constructor
      · intro later key
        by_contra object
        rcases Option.ne_none_iff_exists'.mp object with ⟨objMeta, held⟩
        rcases later _ objMeta held with ⟨other, otherKey, same, standing⟩
        rcases Option.ne_none_iff_exists'.mp standing with
          ⟨bucket, remains⟩
        rcases Dict.get?_of_erase remains with ⟨different, before⟩
        rcases
            objectId_inj_of_free nameFree (free other bucket before)
              same with
          ⟨equal, _⟩
        exact different equal.symm
      · intro empty id objMeta held
        rcases intact id objMeta held with ⟨other, key, named, standing⟩
        refine ⟨other, key, named, ?_⟩
        have different : other ≠ name := by
          rintro rfl
          rw [named, empty key] at held
          cases held
        change (engine.buckets.erase name).get? other ≠ none
        rw [Dict.get?_erase_ne _ different]
        exact standing

theorem BucketsIntact.storeMetadata_iff
    (intact : BucketsIntact engine) (free : BucketsFree engine)
    (bucketFree : '/' ∉ bucket.toList) (objMeta : ObjectMetadata) :
    BucketsIntact
        (engine.storeMetadata (objectId bucket key) objMeta) ↔
      engine.buckets.get? bucket ≠ none := by
  constructor
  · intro later
    exact
      later.bucket_exists free bucketFree (Dict.get?_set_self _ _ _)
  · intro standing id other held
    change (engine.objects.set _ _).get? id = _ at held
    rw [Dict.get?_set] at held
    split at held
    · rename_i same
      exact ⟨bucket, key, same, standing⟩
    · exact intact id other held

theorem BucketsIntact.deleteMetadata
    (intact : BucketsIntact engine) (id : String) :
    BucketsIntact (engine.deleteMetadata id) :=
  fun other objMeta held =>
    intact other objMeta (Dict.get?_of_erase held).2

/-- What one turn needs. -/
theorem turn_intact_iff
    (intact : BucketsIntact engine) (free : BucketsFree engine)
    {call : BucketCall} (callFree : '/' ∉ call.bucket.toList) :
    (BucketsIntact (engine.turn call stage).2 ∧
        CreatesEmpty engine call stage) ↔
      KeepsBuckets engine call stage := by
  cases call with
  | createBucket name versioningEnabled =>
      cases stage with
      | started =>
          exact
            iff_of_true
              (intact.createBucket free callFree versioningEnabled) trivial
      | _ => exact iff_of_true ⟨intact, trivial⟩ trivial
  | deleteBucket name =>
      cases stage with
      | started =>
          exact
            (and_iff_left trivial).trans
              (intact.deleteBucket_iff free callFree)
      | _ => exact iff_of_true ⟨intact, trivial⟩ trivial
  | putObject bucket key reader size metadata now =>
      cases stage with
      | started =>
          apply iff_of_true _ trivial
          refine ⟨?_, trivial⟩
          simp only [ObjectProtocolEngine.turn,
            ObjectProtocolEngine.turnPut]
          split
          · exact intact
          · split <;> exact intact
      | storing objMeta =>
          exact
            (and_iff_left trivial).trans
              (intact.storeMetadata_iff free callFree objMeta)
      | _ => exact iff_of_true ⟨intact, trivial⟩ trivial
  | deleteObject bucket key versionId now =>
      cases stage with
      | started =>
          apply iff_of_true _ trivial
          refine ⟨?_, trivial⟩
          simp only [ObjectProtocolEngine.turn,
            ObjectProtocolEngine.turnDelete]
          split <;> exact intact
      | removing =>
          apply iff_of_true _ trivial
          refine ⟨?_, trivial⟩
          simp only [ObjectProtocolEngine.turn,
            ObjectProtocolEngine.turnDelete]
          split <;> exact intact.deleteMetadata _
      | _ => exact iff_of_true ⟨intact, trivial⟩ trivial
  | getObject bucket key versionId =>
      exact iff_of_true ⟨intact, trivial⟩ trivial

theorem BucketsFree.turn
    (free : BucketsFree engine) {call : BucketCall}
    (callFree : '/' ∉ call.bucket.toList) :
    BucketsFree (engine.turn call stage).2 := by
  cases call with
  | createBucket name versioningEnabled =>
      cases stage with
      | started =>
          simp only [ObjectProtocolEngine.turn,
            ObjectProtocolEngine.createBucket]
          split
          · exact free
          · intro other found present
            change (engine.buckets.set _ _).get? other = _ at present
            rw [Dict.get?_set] at present
            split at present
            · rename_i same
              rw [same]
              exact callFree
            · exact free other found present
      | _ => exact free
  | deleteBucket name =>
      cases stage with
      | started =>
          simp only [ObjectProtocolEngine.turn,
            ObjectProtocolEngine.deleteBucket]
          split
          · exact free
          · intro other found present
            exact free other found (Dict.get?_of_erase present).2
      | _ => exact free
  | putObject bucket key reader size metadata now =>
      cases stage with
      | started =>
          simp only [ObjectProtocolEngine.turn,
            ObjectProtocolEngine.turnPut]
          split
          · exact free
          · split <;> exact free
      | _ => exact free
  | deleteObject bucket key versionId now =>
      cases stage with
      | started =>
          simp only [ObjectProtocolEngine.turn,
            ObjectProtocolEngine.turnDelete]
          split <;> exact free
      | removing =>
          simp only [ObjectProtocolEngine.turn,
            ObjectProtocolEngine.turnDelete]
          split <;> exact free
      | _ => exact free
  | getObject bucket key versionId => exact free

end Turns

/-! ## Runs -/

section Runs

variable
    {calls : List BucketCall}
    {state : BucketTraffic}

theorem turn_of_call
    {index : Nat} {call : BucketCall} {stage : BucketStage}
    (called : calls[index]? = some call)
    (staged : state.stages[index]? = some stage) :
    (state.turn calls index).engine = (state.engine.turn call stage).2 := by
  rw [BucketTraffic.turn, called, staged]

/-- The turn of no call changes nothing. -/
theorem turn_of_no_call
    {index : Nat}
    (none : calls[index]? = none ∨ state.stages[index]? = none) :
    state.turn calls index = state := by
  rw [BucketTraffic.turn]
  rcases none with uncalled | unstaged
  · rw [uncalled]
  · rw [unstaged]
    cases calls[index]? <;> rfl

/-- The turn of an index belongs to a call in a stage, or to none. -/
theorem call_or_none (calls : List BucketCall) (state : BucketTraffic)
    (index : Nat) :
    (∃ call stage,
        calls[index]? = some call ∧ state.stages[index]? = some stage) ∨
      calls[index]? = none ∨ state.stages[index]? = none := by
  cases called : calls[index]? with
  | none => exact Or.inr (Or.inl rfl)
  | some call =>
      cases staged : state.stages[index]? with
      | none => exact Or.inr (Or.inr rfl)
      | some stage => exact Or.inl ⟨call, stage, rfl, rfl⟩

theorem turnIntact_iff
    (callsFree : ∀ call ∈ calls, '/' ∉ call.bucket.toList)
    (intact : BucketsIntact state.engine)
    (free : BucketsFree state.engine) (index : Nat) :
    TurnIntact calls state index ↔ TurnKeeps calls state index := by
  rcases call_or_none calls state index with
    ⟨call, stage, called, staged⟩ | none
  · have turned :=
      @turn_intact_iff state.engine stage intact free call
        (callsFree call (List.mem_of_getElem? called))
    rw [← turn_of_call called staged] at turned
    have keeps :
        TurnKeeps calls state index ↔
          KeepsBuckets state.engine call stage := by
      rw [TurnKeeps, called, staged]
    rw [keeps, ← turned]
    constructor
    · intro holds
      exact ⟨holds.intact, holds.empty call stage called staged⟩
    · rintro ⟨kept, empty⟩
      refine ⟨kept, ?_⟩
      intro other otherStage otherCalled otherStaged
      rw [called] at otherCalled
      rw [staged] at otherStaged
      cases otherCalled
      cases otherStaged
      exact empty
  · apply iff_of_true
    · constructor
      · rw [turn_of_no_call none]
        exact intact
      · intro call stage called staged
        rcases none with uncalled | unstaged
        · rw [uncalled] at called
          cases called
        · rw [unstaged] at staged
          cases staged
    · rw [TurnKeeps]
      split
      · rename_i called staged
        rcases none with uncalled | unstaged
        · rw [uncalled] at called
          cases called
        · rw [unstaged] at staged
          cases staged
      · trivial

theorem bucketsFree_turn
    (callsFree : ∀ call ∈ calls, '/' ∉ call.bucket.toList)
    (free : BucketsFree state.engine) (index : Nat) :
    BucketsFree (state.turn calls index).engine := by
  rcases call_or_none calls state index with
    ⟨call, stage, called, staged⟩ | none
  · rw [turn_of_call called staged]
    exact free.turn (callsFree call (List.mem_of_getElem? called))
  · rw [turn_of_no_call none]
    exact free

end Runs

/--
In any order of the turns of any calls, objects have buckets and new buckets are
empty after each turn exactly if each deleted bucket is empty and each put that
stores its object still has its bucket.
-/
theorem buckets_intact_iff
    (calls : List BucketCall)
    (callsFree : ∀ call ∈ calls, '/' ∉ call.bucket.toList)
    (turns : List Nat) :
    AllSteps (BucketTraffic.turn calls) (TurnIntact calls) (.start calls)
        turns ↔
      AllSteps (BucketTraffic.turn calls) (TurnKeeps calls) (.start calls)
        turns := by
  apply
    @allSteps_iff_of_guarded _ _ _ _ _ fun state =>
      BucketsIntact state.engine ∧ BucketsFree state.engine
  · rintro state index ⟨intact, free⟩ keeps
    exact
      ⟨((turnIntact_iff callsFree intact free index).mpr keeps).intact,
        bucketsFree_turn callsFree free index⟩
  · rintro state index ⟨intact, free⟩
    exact turnIntact_iff callsFree intact free index
  · constructor
    · rintro id objMeta ⟨⟩
    · rintro name found ⟨⟩

/-- A bucket, an object in it, and the deletion of both. -/
def bucketCalls : List BucketCall :=
  [.createBucket "b" false,
    .putObject "b" "k" { bytes := [1] } 1 Dict.empty 1,
    .deleteObject "b" "k" "" 2,
    .deleteBucket "b"]

/-- The object is deleted before its bucket is. -/
theorem buckets_intact_emptied :
    AllSteps (BucketTraffic.turn bucketCalls) (TurnIntact bucketCalls)
      (.start bucketCalls) [0, 1, 1, 1, 1, 2, 2, 2, 3] := by
  rw [buckets_intact_iff]
  · decide +kernel
  · decide

/-- The bucket is deleted first, and all calls have returned. -/
theorem bucket_deleted_with_object :
    (run (BucketTraffic.turn bucketCalls) (.start bucketCalls)
          [0, 1, 1, 1, 1, 3, 2]).stages.all BucketStage.returned = true ∧
      ¬ BucketsIntact
        (run (BucketTraffic.turn bucketCalls) (.start bucketCalls)
          [0, 1, 1, 1, 1, 3, 2]).engine := by
  have object :
      ((run (BucketTraffic.turn bucketCalls) (.start bucketCalls)
            [0, 1, 1, 1, 1, 3, 2]).engine.objects.get?
          (objectId "b" "k")).isSome =
        true := by
    decide +kernel
  have buckets :
      (run (BucketTraffic.turn bucketCalls) (.start bucketCalls)
          [0, 1, 1, 1, 1, 3, 2]).engine.buckets =
        Dict.empty := by
    decide +kernel
  constructor
  · decide +kernel
  · intro intact
    rcases Option.isSome_iff_exists.mp object with ⟨objMeta, found⟩
    rcases intact _ objMeta found with ⟨bucket, key, _, standing⟩
    rw [buckets] at standing
    exact standing rfl

end StorageAppliance.Unity
