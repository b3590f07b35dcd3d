import Mathlib.Algebra.Order.BigOperators.Group.List
import StorageAppliance.Unity.ChunkBounds
import StorageAppliance.Unity.ConcurrentDedup
import StorageAppliance.Unity.DedupInvariant

/-!
# Recipes reconstruct their data

However the steps of calls and of the collector come in turn, the recipe of a
call that has returned reconstructs the data of the call, then and later
(`reconstructData_of_returned`).

A call has recorded the segments of its data before its offset (`CallSound`),
and what it has come to is counted in the engine (`Sound`).  The segments of all
calls, each as often as it occurs, are assumed to be fewer than `2 ^ 64`.
-/

namespace StorageAppliance.Unity

open StorageAppliance.Go
open StorageAppliance.Library

/-- Replacing one member changes a sum by the difference. -/
theorem sum_map_set
    {Member : Type*} {members : List Member} {index : Nat}
    {old : Member} (weight : Member → Nat) (new : Member)
    (found : members[index]? = some old) :
    ((members.set index new).map weight).sum + weight old =
      (members.map weight).sum + weight new := by
  induction members generalizing index with
  | nil => cases found
  | cons member rest induction =>
      cases index with
      | zero =>
          cases found
          simp only [List.set_cons_zero, List.map_cons, List.sum_cons]
          omega
      | succ index =>
          have tail := induction found
          simp only [List.set_cons_succ, List.map_cons, List.sum_cons]
          omega

/-! ## Calls -/

/-- The segments of a call that are made or referenced. -/
def DedupCall.counted (call : DedupCall) : Nat :=
  match call.stage with
  | .created _ => call.offset + 1
  | .stored _ => call.offset + 1
  | .written _ => call.offset + 1
  | _ => call.offset

/-- What is known of the next segment of a call. -/
def StageSound (engine : DataDomainEngine) : List Bytes → DedupStage → Prop
  | _, .lookup => True
  | _ :: _, .absent => True
  | data :: _, .found address => SegmentStored engine address data
  | data :: _, .created address => SegmentMade engine address data
  | data :: _, .stored address => SegmentStored engine address data
  | data :: _, .written address => SegmentStored engine address data
  | [], .returned => True
  | _, _ => False

/-- A call has recorded the segments before its offset. -/
structure CallSound (engine : DataDomainEngine) (call : DedupCall) :
    Prop where
  left : call.remaining = (chunkData call.data).drop call.offset
  within : call.offset ≤ (chunkData call.data).length
  recorded :
    engine.loadSegments call.progress.segmentRefs =
      .ok ((chunkData call.data).take call.offset).flatten
  staged : StageSound engine call.remaining call.stage

/-- What is known after the turn of a call. -/
structure TurnSound
    (sha256 : Bytes → Bytes) (pieces : Set Bytes) (total : Nat)
    (engine : DataDomainEngine) (call : DedupCall)
    (after : DedupCall × DataDomainEngine) : Prop where
  engineSound :
    ∃ more,
      after.1.counted = call.counted + more ∧
        EngineSound sha256 pieces (total + more) after.2
  extended : Extends engine after.2
  callSound : CallSound after.2 after.1

section Calls

variable
    {sha256 : Bytes → Bytes}
    {pieces : Set Bytes}
    {total : Nat}
    {engine before after : DataDomainEngine}
    {call : DedupCall}

theorem callSound_start (objectId : String) (data : Bytes) :
    CallSound engine (.start objectId data) :=
  ⟨rfl, Nat.zero_le _, rfl, trivial⟩

/-- A call without a next segment looks for one or has returned. -/
theorem stageSound_nil_iff {stage : DedupStage} :
    StageSound engine [] stage ↔ stage = .lookup ∨ stage = .returned := by
  cases stage <;> simp [StageSound]

theorem Extends.staged
    (extended : Extends before after)
    {remaining : List Bytes} {stage : DedupStage}
    (staged : StageSound before remaining stage) :
    StageSound after remaining stage := by
  cases remaining with
  | nil => exact stageSound_nil_iff.mpr (stageSound_nil_iff.mp staged)
  | cons data rest =>
      cases stage with
      | lookup => trivial
      | absent => trivial
      | found address => exact extended.stored staged
      | created address => exact extended.made staged
      | stored address => exact extended.stored staged
      | written address => exact extended.stored staged
      | returned => cases staged

theorem CallSound.extends
    (sound : CallSound before call) (extended : Extends before after) :
    CallSound after call :=
  ⟨sound.left, sound.within, extended.loadSegments sound.recorded,
    extended.staged sound.staged⟩

theorem CallSound.advance
    (sound : CallSound engine call) {stage : DedupStage}
    (staged : StageSound engine call.remaining stage) :
    CallSound engine (call.advance stage) :=
  ⟨sound.left, sound.within, sound.recorded, staged⟩

/-- The next segment is the one at the offset. -/
theorem CallSound.at_offset
    (sound : CallSound engine call) {data : Bytes} {rest : List Bytes}
    (remaining : call.remaining = data :: rest) :
    (chunkData call.data)[call.offset]? = some data := by
  rw [← List.head?_drop, ← sound.left, remaining, List.head?_cons]

/-- A reference to the next segment is recorded. -/
theorem CallSound.next
    (sound : CallSound engine call) {data : Bytes} {rest : List Bytes}
    (remaining : call.remaining = data :: rest)
    {progress : Progress} {ref : SegmentReference}
    (appended :
      progress.segmentRefs = call.progress.segmentRefs ++ [ref])
    (loads : engine.loadSegments [ref] = .ok data) :
    CallSound engine (call.next rest progress) := by
  have found := sound.at_offset remaining
  rcases List.getElem?_eq_some_iff.mp found with ⟨further, _⟩
  refine ⟨?_, further, ?_, trivial⟩
  · change rest = (chunkData call.data).drop (call.offset + 1)
    rw [← List.tail_drop, ← sound.left, remaining, List.tail_cons]
  · change
      engine.loadSegments progress.segmentRefs =
        .ok ((chunkData call.data).take (call.offset + 1)).flatten
    rw [appended, List.take_add_one, found, List.flatten_append]
    refine (loadSegments_append sound.recorded loads).trans ?_
    simp

/-- A turn that moves a call on without a new segment. -/
theorem turnSound_advance
    (sound : EngineSound sha256 pieces total after)
    (extended : Extends engine after) (callSound : CallSound engine call)
    {stage : DedupStage}
    (staged : StageSound after call.remaining stage)
    (counted : (call.advance stage).counted = call.counted) :
    TurnSound sha256 pieces total engine call
      (call.advance stage, after) :=
  ⟨⟨0, counted, sound⟩, extended,
    (callSound.extends extended).advance staged⟩

/-- A call that has returned does nothing. -/
theorem turn_of_returned (returned : call.stage = .returned) :
    call.turn sha256 engine = (call, engine) := by
  rw [DedupCall.turn.eq_def, returned]
  cases call.remaining with
  | nil => rfl
  | cons data rest => rfl

/-- A turn of a call that has no segment left. -/
theorem turnSound_nil
    (sound : EngineSound sha256 pieces total engine)
    (callSound : CallSound engine call) (remaining : call.remaining = []) :
    TurnSound sha256 pieces total engine call
      (call.turn sha256 engine) := by
  have staged := callSound.staged
  rw [remaining] at staged
  rcases stageSound_nil_iff.mp staged with stage | stage
  · simp only [DedupCall.turn, remaining, stage]
    apply turnSound_advance
    · exact sound.updateStats _ _ _
    · exact ⟨(Extends.refl engine).heap, (Extends.refl engine).segments⟩
    · exact callSound
    · rw [remaining]
      trivial
    · simp [DedupCall.counted, DedupCall.advance, stage]
  · rw [turn_of_returned stage]
    exact ⟨⟨0, rfl, sound⟩, Extends.refl engine, callSound⟩

/-- A turn of a call with a next segment. -/
theorem turnSound_cons
    (sound : EngineSound sha256 pieces total engine)
    (few : total < 2 ^ 64) (injective : Set.InjOn sha256 pieces)
    (callSound : CallSound engine call)
    {data : Bytes} {rest : List Bytes}
    (remaining : call.remaining = data :: rest)
    (member : data ∈ pieces) :
    TurnSound sha256 pieces total engine call
      (call.turn sha256 engine) := by
  have staged := callSound.staged
  rw [remaining] at staged
  cases stage : call.stage with
  | lookup =>
      simp only [DedupCall.turn, remaining, stage]
      cases found :
          engine.fingerprints.get? (calculateFingerprint sha256 data) with
      | some address =>
          apply turnSound_advance sound (Extends.refl engine) callSound
          · rw [remaining]
            exact sound.stored_of_indexed injective member found
          · simp [DedupCall.counted, DedupCall.advance, stage]
      | none =>
          apply turnSound_advance sound (Extends.refl engine) callSound
          · rw [remaining]
            trivial
          · simp [DedupCall.counted, DedupCall.advance, stage]
  | found address =>
      rw [stage] at staged
      simp only [DedupCall.turn, remaining, stage]
      have counted :=
        @EngineSound.addReference sha256 pieces total address engine sound
      have extended := @extends_addReference address engine
      refine ⟨⟨1, ?_, counted⟩, extended, ?_⟩
      · simp [DedupCall.counted, DedupCall.next, stage]
      · apply (callSound.extends extended).next remaining rfl
        exact counted.loadSegments_reference (extended.stored staged) _
  | absent =>
      simp only [DedupCall.turn, remaining, stage]
      have extended :=
        @extends_createSegment engine data
          (calculateFingerprint sha256 data)
      refine
        ⟨⟨1, ?_, sound.createSegment member⟩, extended,
          (callSound.extends extended).advance ?_⟩
      · simp [DedupCall.counted, DedupCall.advance, stage]
      · rw [remaining]
        exact made_createSegment
  | created address =>
      rw [stage] at staged
      simp only [DedupCall.turn, remaining, stage]
      apply turnSound_advance (sound.storeSegment few)
        (extends_storeSegment sound few) callSound
      · rw [remaining]
        exact stored_storeSegment staged
      · simp [DedupCall.counted, DedupCall.advance, stage]
  | stored address =>
      rw [stage] at staged
      simp only [DedupCall.turn, remaining, stage]
      apply turnSound_advance sound.writeBackend extends_writeBackend
        callSound
      · rw [remaining]
        exact extends_writeBackend.stored staged
      · simp [DedupCall.counted, DedupCall.advance, stage]
  | written address =>
      rw [stage] at staged
      simp only [DedupCall.turn, remaining, stage]
      have indexed := sound.indexFingerprint staged
      have extended :
          Extends engine
            (engine.indexFingerprint (calculateFingerprint sha256 data)
              address) :=
        ⟨(Extends.refl engine).heap, (Extends.refl engine).segments⟩
      refine ⟨⟨0, ?_, indexed⟩, extended, ?_⟩
      · simp [DedupCall.counted, DedupCall.next, stage]
      · apply (callSound.extends extended).next remaining rfl
        exact indexed.loadSegments_reference (extended.stored staged) _
  | returned =>
      rw [stage] at staged
      cases staged

/-- A turn keeps the data of the call. -/
theorem turn_data (call : DedupCall) (engine : DataDomainEngine) :
    (call.turn sha256 engine).1.data = call.data := by
  rw [DedupCall.turn.eq_def]
  split
  · rfl
  · split
    · rfl
    · rfl
  · rfl
  · rfl
  · rfl
  · rfl
  · rfl
  · rfl

/-- What is known after any turn of a call. -/
theorem turnSound_turn
    (sound : EngineSound sha256 pieces total engine)
    (few : total < 2 ^ 64) (injective : Set.InjOn sha256 pieces)
    (callSound : CallSound engine call)
    (known : ∀ piece ∈ chunkData call.data, piece ∈ pieces) :
    TurnSound sha256 pieces total engine call
      (call.turn sha256 engine) := by
  cases remaining : call.remaining with
  | nil => exact turnSound_nil sound callSound remaining
  | cons data rest =>
      have found := callSound.at_offset remaining
      exact turnSound_cons sound few injective callSound remaining
        (known data (List.mem_of_getElem? found))

/-- A call counts no more segments than it has. -/
theorem CallSound.counted_le (sound : CallSound engine call) :
    call.counted ≤ (chunkData call.data).length := by
  have staged := sound.staged
  cases remaining : call.remaining with
  | nil =>
      rw [remaining] at staged
      have plain : call.counted = call.offset := by
        rcases stageSound_nil_iff.mp staged with stage | stage
        · rw [DedupCall.counted, stage]
        · rw [DedupCall.counted, stage]
      rw [plain]
      exact sound.within
  | cons data rest =>
      rcases List.getElem?_eq_some_iff.mp (sound.at_offset remaining) with
        ⟨further, _⟩
      rw [DedupCall.counted]
      split
      · exact further
      · exact further
      · exact further
      · exact sound.within

/-- A call that has returned has recorded all its data. -/
theorem CallSound.recorded_of_returned
    (sound : CallSound engine call) (returned : call.stage = .returned) :
    engine.loadSegments call.progress.segmentRefs = .ok call.data := by
  have staged := sound.staged
  rw [returned] at staged
  cases remaining : call.remaining with
  | nil =>
      have left := sound.left
      rw [remaining] at left
      rw [sound.recorded,
        List.take_of_length_le (List.drop_eq_nil_iff.mp left.symm),
        chunkData_flatten]
  | cons data rest =>
      rw [remaining] at staged
      cases staged

end Calls

/-! ## Runs -/

namespace ConcurrentDedup

/-- The data of the calls that have started. -/
def datas (state : ConcurrentDedup) : List Bytes :=
  state.calls.map DedupCall.data

/-- The segments of the calls that have started. -/
def pieces (state : ConcurrentDedup) : Set Bytes :=
  { piece | ∃ data ∈ state.datas, piece ∈ chunkData data }

/-- The number of segments of the calls, each as often as it occurs. -/
def segmentCount (state : ConcurrentDedup) : Nat :=
  (state.datas.map fun data => (chunkData data).length).sum

/-- The segments that are made or referenced. -/
def counted (state : ConcurrentDedup) : Nat :=
  (state.calls.map DedupCall.counted).sum

/-- What is known of the engine, the calls and the visits. -/
structure Sound
    (sha256 : Bytes → Bytes) (state : ConcurrentDedup) : Prop where
  engine : EngineSound sha256 state.pieces state.counted state.engine
  calls : ∀ call ∈ state.calls, CallSound state.engine call
  visits :
    ∀ visit ∈ state.visits, visit.stage = .seen ∨ visit.stage = .finished

/-- There are few segments, and the hash tells them apart. -/
def Fits (sha256 : Bytes → Bytes) (state : ConcurrentDedup) : Prop :=
  state.segmentCount < 2 ^ 64 ∧ Set.InjOn sha256 state.pieces

variable
    {sha256 : Bytes → Bytes}
    {state : ConcurrentDedup}

theorem sound_start (mode : DedupMode) :
    Sound sha256 (start mode) := by
  refine ⟨engineSound_new mode, ?_, ?_⟩
  · intro call member
    cases member
  · intro visit member
    cases member

/-- A turn leaves the data of all calls. -/
theorem datas_turn
    {index : Nat} {call : DedupCall}
    (found : state.calls[index]? = some call) :
    (state.calls.set index (call.turn sha256 state.engine).1).map
        DedupCall.data =
      state.datas := by
  rcases List.getElem?_eq_some_iff.mp found with ⟨within, rfl⟩
  rw [List.map_set, turn_data, ← List.map_set, List.set_getElem_self]
  rfl

/-- A step adds at most the data of a call that starts. -/
theorem datas_step
    (sha256 : Bytes → Bytes) (state : ConcurrentDedup)
    (input : DedupInput) :
    ∃ more, (state.step sha256 input).datas = state.datas ++ more := by
  cases input with
  | start objectId data => exact ⟨[data], List.map_append⟩
  | turn index =>
      refine ⟨[], ?_⟩
      rw [List.append_nil, step]
      cases found : state.calls[index]? with
      | none => rfl
      | some call => exact datas_turn found
  | visit fingerprint =>
      refine ⟨[], ?_⟩
      rw [List.append_nil, step]
      split
      · rfl
      · rfl
  | collect index =>
      refine ⟨[], ?_⟩
      rw [List.append_nil, step]
      split
      · rfl
      · rfl

theorem pieces_step
    (sha256 : Bytes → Bytes) (state : ConcurrentDedup)
    (input : DedupInput) :
    state.pieces ⊆ (state.step sha256 input).pieces := by
  rcases datas_step sha256 state input with ⟨more, grown⟩
  rintro piece ⟨data, member, within⟩
  refine ⟨data, ?_, within⟩
  rw [grown]
  exact List.mem_append_left more member

theorem segmentCount_step
    (sha256 : Bytes → Bytes) (state : ConcurrentDedup)
    (input : DedupInput) :
    state.segmentCount ≤ (state.step sha256 input).segmentCount := by
  rcases datas_step sha256 state input with ⟨more, grown⟩
  rw [segmentCount, segmentCount, grown, List.map_append, List.sum_append]
  exact Nat.le_add_right _ _

/-- What fits after a step fits before it. -/
theorem fits_of_step
    {input : DedupInput} (fits : Fits sha256 (state.step sha256 input)) :
    Fits sha256 state :=
  ⟨Nat.lt_of_le_of_lt (segmentCount_step sha256 state input) fits.1,
    fits.2.mono (pieces_step sha256 state input)⟩

theorem Sound.counted_le (sound : Sound sha256 state) :
    state.counted ≤ state.segmentCount := by
  rw [counted, segmentCount, datas, List.map_map]
  apply List.sum_le_sum
  intro call member
  exact (sound.calls call member).counted_le

theorem Sound.start
    (sound : Sound sha256 state) (objectId : String) (data : Bytes) :
    Sound sha256 (state.step sha256 (.start objectId data)) := by
  refine ⟨?_, ?_, sound.visits⟩
  · apply sound.engine.mono (pieces_step sha256 state _)
    change _ ≤ ((state.calls ++ [_]).map _).sum
    rw [List.map_append, List.sum_append]
    exact Nat.le_add_right _ _
  · intro call member
    rcases List.mem_append.mp member with old | new
    · exact sound.calls call old
    · rw [List.mem_singleton.mp new]
      exact callSound_start objectId data

theorem Sound.turn
    (sound : Sound sha256 state) (fits : Fits sha256 state)
    (index : Nat) :
    Sound sha256 (state.step sha256 (.turn index)) := by
  rw [step]
  cases found : state.calls[index]? with
  | none => exact sound
  | some call =>
      have member := List.mem_of_getElem? found
      have known : ∀ piece ∈ chunkData call.data, piece ∈ state.pieces :=
        fun piece within =>
          ⟨call.data, List.mem_map_of_mem member, within⟩
      have turned :=
        turnSound_turn sound.engine
          (Nat.lt_of_le_of_lt sound.counted_le fits.1) fits.2
          (sound.calls call member) known
      rcases turned.engineSound with ⟨more, counted, engineSound⟩
      refine ⟨?_, ?_, sound.visits⟩
      · have total :=
          sum_map_set DedupCall.counted
            (call.turn sha256 state.engine).1 found
        apply engineSound.mono
        · rintro piece ⟨data, listed, within⟩
          refine ⟨data, ?_, within⟩
          rw [← @datas_turn sha256 state index call found] at listed
          exact listed
        · rw [counted] at total
          change (state.calls.map _).sum + more ≤ _
          change _ ≤ ((state.calls.set index _).map _).sum
          omega
      · intro other listed
        rcases List.mem_or_eq_of_mem_set listed with old | new
        · exact (sound.calls other old).extends turned.extended
        · rw [new]
          exact turned.callSound

theorem Sound.visit
    (sound : Sound sha256 state) (fingerprint : String) :
    Sound sha256 (state.step sha256 (.visit fingerprint)) := by
  rw [step]
  split
  · exact sound
  · refine ⟨sound.engine, sound.calls, ?_⟩
    intro visit member
    rcases List.mem_append.mp member with old | new
    · exact sound.visits visit old
    · rw [List.mem_singleton.mp new]
      exact Or.inl rfl

/-- A visit finds a reference and takes nothing out. -/
theorem Sound.collect
    (sound : Sound sha256 state) (fits : Fits sha256 state)
    (index : Nat) :
    Sound sha256 (state.step sha256 (.collect index)) := by
  rw [step]
  cases found : state.visits[index]? with
  | none => exact sound
  | some visit =>
      have turned :
          (visit.turn state.engine).2 = state.engine ∧
            (visit.turn state.engine).1.stage = .finished := by
        rw [Visit.turn]
        rcases sound.visits visit (List.mem_of_getElem? found) with
          seen | finished
        · rw [seen]
          cases held : state.engine.heap[visit.address]? with
          | none => exact ⟨rfl, rfl⟩
          | some segment =>
              have referenced :=
                sound.engine.refCount_ne_zero
                  (Nat.lt_of_le_of_lt sound.counted_le fits.1) held
              simp only [if_neg referenced]
              exact ⟨trivial, rfl⟩
        · rw [finished]
          exact ⟨rfl, finished⟩
      simp only [turned.1]
      refine ⟨sound.engine, sound.calls, ?_⟩
      intro other listed
      rcases List.mem_or_eq_of_mem_set listed with old | new
      · exact sound.visits other old
      · rw [new]
        exact Or.inr turned.2

/-- Every step keeps what is known, while there are few segments. -/
theorem sound_step
    (input : DedupInput)
    (sound : Fits sha256 state → Sound sha256 state)
    (fits : Fits sha256 (state.step sha256 input)) :
    Sound sha256 (state.step sha256 input) := by
  have before := fits_of_step fits
  cases input with
  | start objectId data => exact (sound before).start objectId data
  | turn index => exact (sound before).turn before index
  | visit fingerprint => exact (sound before).visit fingerprint
  | collect index => exact (sound before).collect before index

/-- A call that has returned stays as it is. -/
theorem mem_calls_step
    {call : DedupCall} (member : call ∈ state.calls)
    (returned : call.stage = .returned) (input : DedupInput) :
    call ∈ (state.step sha256 input).calls := by
  cases input with
  | start objectId data => exact List.mem_append_left _ member
  | turn index =>
      rw [step]
      cases found : state.calls[index]? with
      | none => exact member
      | some turning =>
          by_cases same : turning = call
          · subst same
            simp only [turn_of_returned returned]
            exact
              List.mem_set (List.getElem?_eq_some_iff.mp found).1 turning
          · rcases List.mem_iff_getElem?.mp member with ⟨place, held⟩
            have apart : index ≠ place := by
              intro equal
              rw [equal, held] at found
              exact same (Option.some.inj found).symm
            exact
              List.mem_of_getElem?
                ((List.getElem?_set_ne apart).trans held)
  | visit fingerprint =>
      rw [step]
      split
      · exact member
      · exact member
  | collect index =>
      rw [step]
      split
      · exact member
      · exact member

/--
In every run, whatever a call has returned reconstructs its data at every later
point, while there are fewer than `2 ^ 64` segments, each counted as often as it
occurs, and the hash tells them apart.
-/
theorem reconstructData_of_returned
    (mode : DedupMode)
    (inputs later : List DedupInput)
    (few :
      (run (ConcurrentDedup.step sha256) (.start mode)
          (inputs ++ later)).segmentCount <
        2 ^ 64)
    (injective :
      Set.InjOn sha256
        (run (ConcurrentDedup.step sha256) (.start mode)
          (inputs ++ later)).pieces) :
    ∀ call ∈
        (run (ConcurrentDedup.step sha256) (.start mode) inputs).calls,
      call.stage = .returned →
        (run (ConcurrentDedup.step sha256) (.start mode)
            (inputs ++ later)).engine.reconstructData call.recipe =
          .ok call.data := by
  intro call member returned
  have keeps :
      ∀ (state : ConcurrentDedup) (input : DedupInput),
        (Fits sha256 state → Sound sha256 state) →
          Fits sha256 (state.step sha256 input) →
            Sound sha256 (state.step sha256 input) :=
    fun state input sound fits => sound_step input sound fits
  have sound :=
    run_invariant_of_step keeps (inputs ++ later)
      (fun _ => sound_start mode) ⟨few, injective⟩
  have stays :
      ∀ (state : ConcurrentDedup) (input : DedupInput),
        call ∈ state.calls →
          call ∈ (state.step sha256 input).calls :=
    fun state input listed => mem_calls_step listed returned input
  have listed := run_invariant_of_step stays later member
  rw [← run_append] at listed
  exact (sound.calls call listed).recorded_of_returned returned

end ConcurrentDedup

/-- The text `abc`. -/
def abc : Bytes :=
  [97, 98, 99]

/-- The SHA-256 digest of `abc`. -/
def abcDigest : Bytes :=
  [0xba, 0x78, 0x16, 0xbf, 0x8f, 0x01, 0xcf, 0xea, 0x41, 0x41, 0x40, 0xde,
    0x5d, 0xae, 0x22, 0x23, 0xb0, 0x03, 0x61, 0xa3, 0x96, 0x17, 0x7a, 0x9c,
    0xb4, 0x10, 0xff, 0x61, 0xf2, 0x00, 0x15, 0xad]

/-- The SHA-256 digest of 8192 zeros. -/
def zerosDigest : Bytes :=
  [0x9f, 0x1d, 0xcb, 0xc3, 0x5c, 0x35, 0x0d, 0x60, 0x27, 0xf9, 0x8b, 0xe0, 0xf5,
    0xc8, 0xb4, 0x3b, 0x42, 0xca, 0x52, 0xb7, 0x60, 0x44, 0x59, 0xc0, 0xc4, 0x2b,
    0xe3, 0xaa, 0x88, 0x91, 0x3d, 0x47]

/-- SHA-256, for `abc` and 8192 zeros. -/
def knownDigest (data : Bytes) : Bytes :=
  if data = abc then abcDigest else zerosDigest

/-- Data whose first two segments are the same. -/
def repeated : Bytes :=
  zeros 8192 ++ (zeros 8192 ++ abc)

/-- A segment ends at the first boundary at the latest. -/
theorem findBoundary_le_of_boundary
    {data : Bytes} {first last stop : Nat}
    (inside : stop < data.length)
    (long : avgChunkSize ≤ stop - first)
    (short : stop - first < maxChunkSize)
    (boundary :
      rollingHash (between data (stop - windowSize) stop) %
          UInt32.ofNat avgChunkSize =
        0)
    (before : last ≤ stop) : findBoundary data first last ≤ stop := by
  fun_induction findBoundary data first last with
  | case1 last more found => exact before
  | case2 last more outside induction =>
      apply induction
      have apart : last ≠ stop := by
        rintro rfl
        exact outside ⟨long, boundary⟩
      omega
  | case3 last done => exact before

/-- 8192 zeros that something follows are the first segment. -/
theorem chunkData_zeros_append {rest : Bytes} (present : rest ≠ []) :
    chunkData (zeros 8192 ++ rest) = zeros 8192 :: chunkData rest := by
  have length : (zeros 8192).length = 8192 := List.length_replicate
  have longer : 8192 < (zeros 8192 ++ rest).length := by
    have some := List.length_pos_iff.mpr present
    rw [List.length_append, length]
    omega
  have boundary :
      rollingHash (between (zeros 8192 ++ rest) (8192 - windowSize) 8192) %
          UInt32.ofNat avgChunkSize =
        0 := by
    have window :
        between (zeros 8192 ++ rest) (8192 - windowSize) 8192 =
          List.replicate 48 0 := by
      rw [between, List.take_left' length, zeros, List.drop_replicate]
      rfl
    rw [window]
    decide +kernel
  have cut : chunker.cut (zeros 8192 ++ rest) = 8192 := by
    change segmentEnd (zeros 8192 ++ rest) 0 = 8192
    rw [segmentEnd]
    have least :
        min (0 + minChunkSize) (zeros 8192 ++ rest).length = 4096 := by
      rw [minChunkSize]
      omega
    rw [least]
    have most :=
      @findBoundary_le_of_boundary (zeros 8192 ++ rest) 0 4096 8192 longer
        (by decide) (by decide) boundary (by decide)
    have far :=
      @le_findBoundary_of_lt (zeros 8192 ++ rest) 0 4096 (by omega)
    rw [avgChunkSize] at far
    omega
  have joined : zeros 8192 ++ rest ≠ [] := by
    simp [present]
  rw [chunkData_eq, chunker.segments_of_ne_nil joined, cut, ← chunkData_eq,
    List.take_left' length, List.drop_left' length]

theorem chunkData_repeated :
    chunkData repeated = [zeros 8192, zeros 8192, abc] := by
  have last : chunkData abc = [abc] :=
    chunkData_of_small (by decide) (by decide)
  have present : abc ≠ [] := by
    decide
  have joined : zeros 8192 ++ abc ≠ [] := by
    simp [present]
  rw [repeated, chunkData_zeros_append joined,
    chunkData_zeros_append present, last]

/-- A call stores the data. -/
def storeRepeated : List DedupInput :=
  .start "o" repeated :: List.replicate 13 (.turn 0)

/-- The collector visits the segment that is stored once. -/
def visitAbc : List DedupInput :=
  [.visit (hexEncode abcDigest), .collect 0]

/-- A run that stores the data, with its segments in place. -/
theorem run_storeRepeated (later : List DedupInput) :
    run (ConcurrentDedup.step knownDigest) (.start .inline)
        (storeRepeated ++ later) =
      run (ConcurrentDedup.step knownDigest)
        { engine := newDataDomainEngine .inline
          calls :=
            [{ objectId := "o"
               data := repeated
               remaining := [zeros 8192, zeros 8192, abc] }] }
        (List.replicate 13 (.turn 0) ++ later) := by
  rw [storeRepeated, List.cons_append, run_cons, ← chunkData_repeated]
  rfl

theorem reconstructData_repeated :
    ∃ call ∈
        (run (ConcurrentDedup.step knownDigest) (.start .inline)
          storeRepeated).calls,
      call.stage = .returned ∧
        (run (ConcurrentDedup.step knownDigest) (.start .inline)
            (storeRepeated ++ visitAbc)).engine.reconstructData
            call.recipe =
          .ok repeated := by
  have datas :
      (run (ConcurrentDedup.step knownDigest) (.start .inline)
          (storeRepeated ++ visitAbc)).datas =
        [repeated] := by
    rw [run_storeRepeated]
    rfl
  have returned :
      ∃ call ∈
          (run (ConcurrentDedup.step knownDigest) (.start .inline)
            storeRepeated).calls,
        call.stage = .returned ∧ call.data = repeated := by
    rw [← List.append_nil storeRepeated, run_storeRepeated]
    refine ⟨_, List.mem_singleton.mpr rfl, ?_, rfl⟩
    decide +kernel
  have few :
      (run (ConcurrentDedup.step knownDigest) (.start .inline)
          (storeRepeated ++ visitAbc)).segmentCount <
        2 ^ 64 := by
    rw [ConcurrentDedup.segmentCount, datas, List.map_singleton,
      chunkData_repeated]
    decide
  have injective :
      Set.InjOn knownDigest
        (run (ConcurrentDedup.step knownDigest) (.start .inline)
          (storeRepeated ++ visitAbc)).pieces := by
    have two :
        ∀ piece ∈
            (run (ConcurrentDedup.step knownDigest) (.start .inline)
              (storeRepeated ++ visitAbc)).pieces,
          piece = zeros 8192 ∨ piece = abc := by
      rintro piece ⟨data, listed, within⟩
      rw [datas, List.mem_singleton] at listed
      rw [listed, chunkData_repeated] at within
      simp only [List.mem_cons, List.not_mem_nil, or_false] at within
      rcases within with first | second | third
      · exact Or.inl first
      · exact Or.inl second
      · exact Or.inr third
    have apart : knownDigest (zeros 8192) ≠ knownDigest abc := by
      decide +kernel
    intro left leftMember right rightMember same
    rcases two left leftMember with rfl | rfl
    · rcases two right rightMember with rfl | rfl
      · rfl
      · exact absurd same apart
    · rcases two right rightMember with rfl | rfl
      · exact absurd same.symm apart
      · rfl
  rcases returned with ⟨call, member, returned, same⟩
  refine ⟨call, member, returned, ?_⟩
  rw [← same]
  exact
    ConcurrentDedup.reconstructData_of_returned .inline storeRepeated
      visitAbc few injective call member returned

end StorageAppliance.Unity
