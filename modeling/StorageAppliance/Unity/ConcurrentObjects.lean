import StorageAppliance.Library.Run
import StorageAppliance.Unity.ObjectStorage

/-!
# Concurrent puts and deletes

A put allocates space in the pool, writes its data and stores its metadata, and
a delete takes the metadata out of the map and then reclaims the space.  Each of
these steps holds a lock of its own, so the steps of calls on one object can
come in any order.

The model takes the calls apart into these steps, for an object of a bucket that
has no versions; run on its own, a call does what the whole operation does
(`turns_putObject`, `turns_deleteObject`).  Two records are kept: the put whose
metadata was stored last, unless it was deleted since, and the last step in the
pool.  They say what is left when all calls have returned, and
`concurrent_intact_iff` says when that can be read.
-/

namespace StorageAppliance.Unity

open StorageAppliance.Go
open StorageAppliance.Library

/-- A call on the object. -/
inductive ObjectCall where
  | put (reader : Reader) (size : ℤ) (metadata : Dict String String)
  | delete

/-- The data that a call puts. -/
def ObjectCall.data : ObjectCall → Option Bytes
  | .put reader size _ => (reader.readData size).toOption
  | .delete => none

/-- How far a call has got. -/
inductive CallStage where
  | started
  | writing (data : Bytes)
  | storing (data : Bytes)
  | reclaiming (storageId : String)
  | returned
deriving DecidableEq

/-- A step in the pool, with the call that makes it. -/
inductive PoolStep where
  | allocate (index : Nat)
  | write (index : Nat)
  | reclaim (index : Nat)
deriving DecidableEq

/-- The calls under way, and the records. -/
structure Concurrent where
  engine : ObjectProtocolEngine
  stages : List CallStage
  lastStored : Option Nat := none
  lastPool : Option PoolStep := none
deriving DecidableEq

/-- All calls start. -/
def Concurrent.start (engine : ObjectProtocolEngine)
    (calls : List ObjectCall) : Concurrent where
  engine := engine
  stages := calls.map fun _ => .started

/-- A call goes on to another stage. -/
def Concurrent.advance (self : Concurrent) (index : Nat)
    (stage : CallStage) : Concurrent :=
  { self with stages := self.stages.set index stage }

/-- The next step of a put. -/
def Concurrent.turnPut (self : Concurrent) (bucket key : String)
    (index : Nat) (reader : Reader) (size : ℤ)
    (metadata : Dict String String) : CallStage → Concurrent
  | .started =>
      match reader.readData size with
      | .error _ => self.advance index .returned
      | .ok data =>
          { self.advance index (.writing data) with
            engine := self.engine.allocate (objectId bucket key)
            lastPool := some (.allocate index) }
  | .writing data =>
      { self.advance index (.storing data) with
        engine := self.engine.write (objectId bucket key) data
        lastPool := some (.write index) }
  | .storing data =>
      { self.advance index .returned with
        engine :=
          self.engine.storeMetadata (objectId bucket key)
            (ObjectProtocolEngine.describe bucket key data size metadata)
        lastStored := some index }
  | _ => self

/-- The next step of a delete. -/
def Concurrent.turnDelete (self : Concurrent) (bucket key : String)
    (index : Nat) : CallStage → Concurrent
  | .started =>
      match self.engine.objects.get? (objectId bucket key) with
      | none =>
          { self.advance index .returned with
            engine := self.engine.deleteMetadata (objectId bucket key)
            lastStored := none }
      | some objMeta =>
          { self.advance index (.reclaiming objMeta.storageId) with
            engine := self.engine.deleteMetadata (objectId bucket key)
            lastStored := none }
  | .reclaiming storageId =>
      { self.advance index .returned with
        engine := self.engine.reclaim storageId
        lastPool := some (.reclaim index) }
  | _ => self

/-- The next step of a call. -/
def Concurrent.turn (bucket key : String) (calls : List ObjectCall)
    (self : Concurrent) (index : Nat) : Concurrent :=
  match calls[index]?, self.stages[index]? with
  | some (.put reader size metadata), some stage =>
      self.turnPut bucket key index reader size metadata stage
  | some .delete, some stage => self.turnDelete bucket key index stage
  | _, _ => self

/-! ## Calls on their own -/

section Alone

variable
    {engine : ObjectProtocolEngine}
    {bucket : String}
    {found : Bucket}

/-- A put on its own is the whole operation. -/
theorem turns_putObject
    (present : engine.buckets.get? bucket = some found)
    (disabled : found.versioningEnabled = false)
    (key : String) (reader : Reader) (size : ℤ)
    (metadata : Dict String String) (now : ℤ) :
    (run (Concurrent.turn bucket key [.put reader size metadata])
        (.start engine [.put reader size metadata]) [0, 0, 0]).engine =
      (engine.putObject bucket key reader size metadata now).2 := by
  cases read : reader.readData size with
  | error fault =>
      simp [run, Concurrent.turn, Concurrent.start, Concurrent.turnPut,
        Concurrent.advance, ObjectProtocolEngine.putObject, present, read]
  | ok data =>
      simp [run, Concurrent.turn, Concurrent.start, Concurrent.turnPut,
        Concurrent.advance, ObjectProtocolEngine.putObject, present, read,
        disabled]

/-- A delete on its own is the whole operation. -/
theorem turns_deleteObject
    (present : engine.buckets.get? bucket = some found)
    (disabled : found.versioningEnabled = false)
    (key versionId : String) (now : ℤ) :
    (run (Concurrent.turn bucket key [.delete])
        (.start engine [.delete]) [0, 0]).engine =
      (engine.deleteObject bucket key versionId now).2 := by
  cases object : engine.objects.get? (objectId bucket key) with
  | none =>
      simp [run, Concurrent.turn, Concurrent.start, Concurrent.turnDelete,
        Concurrent.advance, ObjectProtocolEngine.deleteObject, present,
        disabled, object]
  | some objMeta =>
      simp [run, Concurrent.turn, Concurrent.start, Concurrent.turnDelete,
        Concurrent.advance, ObjectProtocolEngine.deleteObject, present,
        disabled, object]

end Alone

/-! ## What is left -/

/-- The object is not found, or the data of one of the puts is returned. -/
def Intact (bucket key : String) (calls : List ObjectCall)
    (state : Concurrent) : Prop :=
  state.engine.getObject bucket key "" =
      .error (errorf "object not found") ∨
    ∃ data objMeta,
      state.engine.getObject bucket key "" = .ok (data, objMeta) ∧
        ∃ call ∈ calls, call.data = some data

/-- The data of the put with an index. -/
def putData (calls : List ObjectCall) (index : Nat) : Option Bytes :=
  calls[index]?.bind ObjectCall.data

/--
The last step on the metadata was a deletion, if there was any, or it stored the
metadata of a put and the last step in the pool was the write of a put whose
data, cut or filled up to the size of the first, is the data of the first.
-/
def Matching (calls : List ObjectCall) (state : Concurrent) : Prop :=
  state.lastStored = none ∨
    ∃ stored written data pooled,
      state.lastStored = some stored ∧
        state.lastPool = some (.write written) ∧
        putData calls stored = some data ∧
        putData calls written = some pooled ∧
        fitted data.length pooled = data

/-- No data of one put passes the checksum of another. -/
def NoCollision (calls : List ObjectCall) : Prop :=
  ∀ stored written data pooled,
    putData calls stored = some data →
      putData calls written = some pooled →
        md5Hex (fitted data.length pooled) = md5Hex data →
          fitted data.length pooled = data

/-- The metadata of a put. -/
def Describes (objMeta : ObjectMetadata) (id : String) (data : Bytes) :
    Prop :=
  objMeta.storageId = id ∧ objMeta.etag = md5Hex data ∧
    makeSlice objMeta.size = .ok data.length

/-- What the stage of a call says. -/
def Staged (calls : List ObjectCall) (id : String)
    (lastPool : Option PoolStep) (index : Nat) : CallStage → Prop
  | .writing data => putData calls index = some data ∧ lastPool ≠ none
  | .storing data => putData calls index = some data ∧ lastPool ≠ none
  | .reclaiming storageId => storageId = id
  | _ => True

/-- What the last step in the pool says. -/
def Pooled (calls : List ObjectCall) (id : String)
    (stages : List CallStage) (pool : UnifiedStoragePool) :
    PoolStep → Prop
  | .allocate index => ∃ data, stages[index]? = some (.writing data)
  | .write index =>
      ∃ data,
        putData calls index = some data ∧
          pool.storage.get? id = some data
  | .reclaim _ => pool.storage.get? id = none

/-- What the records say about the engine and the calls. -/
structure Recorded (calls : List ObjectCall) (id : String)
    (state : Concurrent) : Prop where
  staged :
    ∀ index stage,
      state.stages[index]? = some stage →
        Staged calls id state.lastPool index stage
  absent :
    state.lastStored = none → state.engine.objects.get? id = none
  present :
    ∀ index,
      state.lastStored = some index →
        state.lastPool ≠ none ∧
          ∃ objMeta data,
            state.engine.objects.get? id = some objMeta ∧
              putData calls index = some data ∧
              Describes objMeta id data
  pooled :
    ∀ step,
      state.lastPool = some step →
        Pooled calls id state.stages state.engine.pool step

section Records

variable
    {bucket key id : String}
    {calls : List ObjectCall}
    {engine : ObjectProtocolEngine}
    {state : Concurrent}
    {index : Nat}

theorem recorded_start
    (absent : engine.objects.get? id = none) :
    Recorded calls id (.start engine calls) := by
  refine ⟨?_, fun _ => absent, ?_, ?_⟩
  · intro index stage found
    have member := List.mem_of_getElem? found
    rcases List.mem_map.mp member with ⟨call, _, rfl⟩
    trivial
  · intro index stored
    cases stored
  · intro step last
    cases last

/-- The stages after one call has moved. -/
theorem staged_advance
    {stages : List CallStage} {stage : CallStage}
    {before after : Option PoolStep}
    (staged :
      ∀ place other,
        stages[place]? = some other → Staged calls id before place other)
    (moved : Staged calls id after index stage)
    (later : before ≠ none → after ≠ none) :
    ∀ place other,
      (stages.set index stage)[place]? = some other →
        Staged calls id after place other := by
  intro place other found
  by_cases same : index = place
  · subst same
    rw [List.getElem?_set_self'] at found
    rcases Option.map_eq_some_iff.mp found with ⟨_, _, equal⟩
    cases equal
    exact moved
  · rw [List.getElem?_set_ne same] at found
    have known := staged place other found
    cases other with
    | writing data => exact ⟨known.1, later known.2⟩
    | storing data => exact ⟨known.1, later known.2⟩
    | reclaiming storageId => exact known
    | started => trivial
    | returned => trivial

/-- A call that is not writing moves without a step in the pool. -/
theorem pooled_advance
    {stages : List CallStage} {pool : UnifiedStoragePool}
    {old stage : CallStage} {step : PoolStep}
    (pooled : Pooled calls id stages pool step)
    (before : stages[index]? = some old)
    (idle : ∀ data, old ≠ .writing data) :
    Pooled calls id (stages.set index stage) pool step := by
  cases step with
  | allocate other =>
      rcases pooled with ⟨data, writing⟩
      refine ⟨data, ?_⟩
      have different : index ≠ other := by
        intro same
        rw [same, writing] at before
        cases before
        exact idle data rfl
      rw [List.getElem?_set_ne different, writing]
  | write other => exact pooled
  | reclaim other => exact pooled

/-- The data of a put is what it reads. -/
theorem putData_eq_some_iff
    {reader : Reader} {size : ℤ} {metadata : Dict String String}
    (call : calls[index]? = some (.put reader size metadata))
    {data : Bytes} :
    putData calls index = some data ↔
      reader.readData size = .ok data := by
  rw [putData, call]
  change (reader.readData size).toOption = some data ↔ _
  cases reader.readData size with
  | error fault => simp [Except.toOption]
  | ok read => simp [Except.toOption]

theorem recorded_turnPut
    (recorded : Recorded calls (objectId bucket key) state)
    {reader : Reader} {size : ℤ} {metadata : Dict String String}
    {stage : CallStage}
    (call : calls[index]? = some (.put reader size metadata))
    (before : state.stages[index]? = some stage) :
    Recorded calls (objectId bucket key)
      (state.turnPut bucket key index reader size metadata stage) := by
  have known := recorded.staged index stage before
  cases stage with
  | started =>
      rw [Concurrent.turnPut]
      cases read : reader.readData size with
      | error fault =>
          refine ⟨?_, recorded.absent, recorded.present, ?_⟩
          · exact staged_advance recorded.staged trivial id
          · intro step last
            exact pooled_advance (recorded.pooled step last) before
              (fun data same => by cases same)
      | ok data =>
          have put := (putData_eq_some_iff call).mpr read
          refine ⟨?_, recorded.absent, ?_, ?_⟩
          · exact staged_advance recorded.staged
              ⟨put, Option.some_ne_none _⟩
              (fun _ => Option.some_ne_none _)
          · intro other stored
            exact ⟨Option.some_ne_none _,
              (recorded.present other stored).2⟩
          · intro step last
            cases last
            refine ⟨data, ?_⟩
            exact List.getElem?_set_self
              (List.getElem?_eq_some_iff.mp before).1
  | writing data =>
      refine ⟨?_, recorded.absent, ?_, ?_⟩
      · exact staged_advance recorded.staged
          ⟨known.1, Option.some_ne_none _⟩
          (fun _ => Option.some_ne_none _)
      · intro other stored
        exact ⟨Option.some_ne_none _, (recorded.present other stored).2⟩
      · intro step last
        cases last
        exact ⟨data, known.1, Dict.get?_set_self _ _ _⟩
  | storing data =>
      have made :=
        Reader.readData_ok ((putData_eq_some_iff call).mp known.1)
      refine ⟨?_, ?_, ?_, ?_⟩
      · exact staged_advance recorded.staged trivial id
      · intro gone
        cases gone
      · intro other stored
        cases stored
        exact ⟨known.2, _, data, Dict.get?_set_self _ _ _, known.1, rfl,
          rfl, made⟩
      · intro step last
        exact pooled_advance (recorded.pooled step last) before
          (fun data same => by cases same)
  | reclaiming storageId => exact recorded
  | returned => exact recorded

theorem recorded_turnDelete
    (recorded : Recorded calls (objectId bucket key) state)
    {stage : CallStage} (before : state.stages[index]? = some stage) :
    Recorded calls (objectId bucket key)
      (state.turnDelete bucket key index stage) := by
  have known := recorded.staged index stage before
  have pooledAfter :
      ∀ next,
        (∀ data, stage ≠ .writing data) →
          ∀ step,
            state.lastPool = some step →
              Pooled calls (objectId bucket key)
                (state.stages.set index next) state.engine.pool step := by
    intro next idle step last
    exact pooled_advance (recorded.pooled step last) before idle
  cases stage with
  | started =>
      rw [Concurrent.turnDelete]
      cases object : state.engine.objects.get? (objectId bucket key) with
      | none =>
          refine ⟨?_, ?_, ?_, ?_⟩
          · exact staged_advance recorded.staged trivial id
          · intro _
            exact Dict.get?_erase_self _ _
          · intro other stored
            cases stored
          · exact pooledAfter _ fun data same => by cases same
      | some objMeta =>
          have own : objMeta.storageId = objectId bucket key := by
            cases last : state.lastStored with
            | none =>
                rw [recorded.absent last] at object
                cases object
            | some other =>
                rcases (recorded.present other last).2 with
                  ⟨stored, data, found, _, describes⟩
                cases found.symm.trans object
                exact describes.1
          refine ⟨?_, ?_, ?_, ?_⟩
          · exact staged_advance recorded.staged own id
          · intro _
            exact Dict.get?_erase_self _ _
          · intro other stored
            cases stored
          · exact pooledAfter _ fun data same => by cases same
  | reclaiming storageId =>
      have own : storageId = objectId bucket key := known
      subst own
      refine ⟨?_, recorded.absent, ?_, ?_⟩
      · exact staged_advance recorded.staged trivial
          (fun _ => Option.some_ne_none _)
      · intro other stored
        exact ⟨Option.some_ne_none _, (recorded.present other stored).2⟩
      · intro step last
        cases last
        exact Dict.get?_erase_self _ _
  | writing data => exact recorded
  | storing data => exact recorded
  | returned => exact recorded

/-- Every turn keeps the records. -/
theorem recorded_turn
    (recorded : Recorded calls (objectId bucket key) state)
    (index : Nat) :
    Recorded calls (objectId bucket key)
      (state.turn bucket key calls index) := by
  rw [Concurrent.turn]
  split
  · rename_i reader size metadata stage call before
    exact recorded_turnPut recorded call before
  · rename_i stage call before
    exact recorded_turnDelete recorded before
  · exact recorded

/-! ## When all calls have returned -/

/-- All calls have returned. -/
def Returned (state : Concurrent) : Prop :=
  ∀ stage ∈ state.stages, stage = .returned

/-- Without metadata the object is not found. -/
theorem Recorded.intact_of_none
    (recorded : Recorded calls (objectId bucket key) state)
    (none : state.lastStored = none) :
    Intact bucket key calls state := by
  left
  simp only [ObjectProtocolEngine.getObject, recorded.absent none]

/-- What is read of an object whose metadata was stored. -/
theorem Recorded.getObject_eq
    (recorded : Recorded calls (objectId bucket key) state)
    {stored : Nat} (last : state.lastStored = some stored) :
    ∃ objMeta data,
      putData calls stored = some data ∧
        Describes objMeta (objectId bucket key) data ∧
        state.engine.getObject bucket key "" =
          (state.engine.readVerified objMeta).map
            fun read => (read, objMeta) := by
  rcases (recorded.present stored last).2 with
    ⟨objMeta, data, found, put, describes⟩
  refine ⟨objMeta, data, put, describes, ?_⟩
  simp only [ObjectProtocolEngine.getObject, found,
    ObjectProtocolEngine.findVersion, ne_eq, not_true_eq_false, false_and,
    if_false]
  cases state.engine.readVerified objMeta with
  | error fault => rfl
  | ok read => rfl

theorem exists_call_of_putData
    {place : Nat} {data : Bytes} (put : putData calls place = some data) :
    ∃ call ∈ calls, call.data = some data := by
  rcases Option.bind_eq_some_iff.mp put with ⟨call, found, supplied⟩
  exact ⟨call, List.mem_of_getElem? found, supplied⟩

/-- Reading the data of an object does not fail for want of the object. -/
theorem readVerified_ne_notFound (objMeta : ObjectMetadata) :
    state.engine.readVerified objMeta ≠
      .error (errorf "object not found") := by
  rw [ObjectProtocolEngine.readVerified]
  cases made : makeSlice objMeta.size with
  | error fault =>
      rw [makeSlice_eq] at made
      split at made
      · cases made
      · cases made
        simp [errorf]
  | ok size =>
      simp only [UnifiedStoragePool.readWithServices]
      cases state.engine.pool.storage.get? objMeta.storageId with
      | none =>
          simp only [errorf, ne_eq, Except.error.injEq, Fault.error.injEq,
            GoError.message.injEq]
          apply append_ne_of_head
          · decide +kernel
          · decide +kernel
      | some stored =>
          simp only
          split
          · simp
          · simp only [errorf, ne_eq, Except.error.injEq,
              Fault.error.injEq, GoError.message.injEq]
            decide +kernel

/-- The last stored metadata and the last written data can be read. -/
theorem Recorded.intact_of_matching
    (recorded : Recorded calls (objectId bucket key) state)
    (matching : Matching calls state) : Intact bucket key calls state := by
  rcases matching with none | some
  · exact recorded.intact_of_none none
  · rcases some with
      ⟨stored, written, data, pooled, last, lastPool, put, wrote, fits⟩
    rcases recorded.getObject_eq last with
      ⟨objMeta, described, same, ⟨storageId, etag, size⟩, read⟩
    cases put.symm.trans same
    rcases recorded.pooled _ lastPool with ⟨found, foundPut, held⟩
    cases wrote.symm.trans foundPut
    rw [← storageId] at held
    have verified :=
      (readVerified_described_iff size etag held).mpr
        ⟨fits.symm, rfl⟩
    right
    refine ⟨data, objMeta, ?_, exists_call_of_putData put⟩
    rw [read, verified]
    rfl

/-- What can be read when all calls have returned was left by matching steps. -/
theorem Recorded.matching_of_intact
    (recorded : Recorded calls (objectId bucket key) state)
    (returned : Returned state) (noCollision : NoCollision calls)
    (intact : Intact bucket key calls state) : Matching calls state := by
  cases last : state.lastStored with
  | none => exact Or.inl last
  | some stored =>
      rcases recorded.getObject_eq last with
        ⟨objMeta, data, put, ⟨storageId, etag, size⟩, read⟩
      have verified :
          ∃ bytes, state.engine.readVerified objMeta = .ok bytes := by
        cases result : state.engine.readVerified objMeta with
        | ok bytes => exact ⟨bytes, rfl⟩
        | error fault =>
            rw [Intact, read, result] at intact
            rcases intact with missing | ⟨bytes, found, complete, _⟩
            · refine absurd ?_ (@readVerified_ne_notFound state objMeta)
              rw [result]
              exact congrArg Except.error (Except.error.inj missing)
            · cases complete
      rcases verified with ⟨bytes, verified⟩
      rcases Option.ne_none_iff_exists'.mp
          (recorded.present stored last).1 with ⟨step, lastPool⟩
      have pooled := recorded.pooled step lastPool
      cases step with
      | allocate index =>
          rcases pooled with ⟨other, writing⟩
          cases returned _ (List.mem_of_getElem? writing)
      | reclaim index =>
          rcases readVerified_ok_iff.mp verified with
            ⟨_, held, _, found, _⟩
          rw [storageId] at found
          cases pooled.symm.trans found
      | write written =>
          rcases pooled with ⟨wrote, writtenPut, held⟩
          rw [← storageId] at held
          rcases (readVerified_described_iff size etag held).mp
              verified with ⟨rfl, checked⟩
          exact Or.inr
            ⟨stored, written, data, wrote, last, lastPool, put, writtenPut,
              noCollision stored written data wrote put writtenPut
                checked⟩

/--
In every order of the steps of calls on an object that was not there, when all
calls have returned the object is not found or read as one of the puts if the
last steps match, and only then unless checksums collide.
-/
theorem concurrent_intact_iff
    (absent : engine.objects.get? (objectId bucket key) = none)
    (calls : List ObjectCall) (turns : List Nat)
    (returned :
      Returned
        (run (Concurrent.turn bucket key calls) (.start engine calls)
          turns)) :
    (Matching calls
          (run (Concurrent.turn bucket key calls) (.start engine calls)
            turns) →
        Intact bucket key calls
          (run (Concurrent.turn bucket key calls) (.start engine calls)
            turns)) ∧
      (NoCollision calls →
        Intact bucket key calls
            (run (Concurrent.turn bucket key calls) (.start engine calls)
              turns) →
          Matching calls
            (run (Concurrent.turn bucket key calls) (.start engine calls)
              turns)) := by
  have keeps :
      ∀ state index,
        Recorded calls (objectId bucket key) state →
          Recorded calls (objectId bucket key)
            (Concurrent.turn bucket key calls state index) :=
    fun state index recorded => recorded_turn recorded index
  have recorded :=
    run_invariant_of_step keeps turns (recorded_start absent)
  exact ⟨recorded.intact_of_matching,
    recorded.matching_of_intact returned⟩

end Records

/-- A put of one byte. -/
def bytePut (byte : UInt8) : ObjectCall :=
  .put { bytes := [byte] } 1 Dict.empty

/-- Two puts and a delete. -/
def putsAndDelete : List ObjectCall :=
  [bytePut 1, bytePut 2, .delete]

/-- The first put and the delete run between the steps of the second put. -/
def enclosedTurns : List Nat :=
  [0, 1, 0, 0, 2, 2, 1, 1]

theorem concurrent_intact_enclosed :
    Returned
        (run (Concurrent.turn "b" "k" putsAndDelete)
          (.start {} putsAndDelete) enclosedTurns) ∧
      Intact "b" "k" putsAndDelete
        (run (Concurrent.turn "b" "k" putsAndDelete)
          (.start {} putsAndDelete) enclosedTurns) := by
  have returned :
      Returned
        (run (Concurrent.turn "b" "k" putsAndDelete)
          (.start {} putsAndDelete) enclosedTurns) := by
    intro stage member
    have all :
        (run (Concurrent.turn "b" "k" putsAndDelete)
          (.start {} putsAndDelete) enclosedTurns).stages =
          List.replicate 3 .returned := by
      decide +kernel
    rw [all] at member
    exact List.eq_of_mem_replicate member
  have matching :
      Matching putsAndDelete
        (run (Concurrent.turn "b" "k" putsAndDelete)
          (.start {} putsAndDelete) enclosedTurns) := by
    refine Or.inr ⟨1, 1, [2], [2], ?_, ?_, ?_, ?_, ?_⟩
    · decide +kernel
    · decide +kernel
    · decide
    · decide
    · decide
  have absent :
      ({} : ObjectProtocolEngine).objects.get? (objectId "b" "k") =
        none :=
    rfl
  exact ⟨returned,
    (concurrent_intact_iff absent putsAndDelete enclosedTurns returned).1
      matching⟩

/--
The second put runs between the write and the store of the first, and a delete
reclaims the space of a put that came after its metadata was deleted.
-/
theorem crossedPuts_unreadable :
    ((run (Concurrent.turn "b" "k" [bytePut 1, bytePut 2])
            (.start {} [bytePut 1, bytePut 2]) [0, 0, 1, 1, 1, 0]).stages =
          [.returned, .returned] ∧
        (run (Concurrent.turn "b" "k" [bytePut 1, bytePut 2])
            (.start {} [bytePut 1, bytePut 2])
            [0, 0, 1, 1, 1, 0]).engine.getObject "b" "k" "" =
          .error (errorf "checksum mismatch")) ∧
      (run (Concurrent.turn "b" "k" [bytePut 1, .delete, bytePut 2])
            (.start {} [bytePut 1, .delete, bytePut 2])
            [0, 0, 0, 1, 2, 2, 2, 1]).stages =
          [.returned, .returned, .returned] ∧
        (run (Concurrent.turn "b" "k" [bytePut 1, .delete, bytePut 2])
            (.start {} [bytePut 1, .delete, bytePut 2])
            [0, 0, 0, 1, 2, 2, 2, 1]).engine.getObject "b" "k" "" =
          .error (errorf "storage ID not found: b/k") := by
  refine ⟨⟨?_, ?_⟩, ?_, ?_⟩
  · decide +kernel
  · decide +kernel
  · decide +kernel
  · decide +kernel

end StorageAppliance.Unity
