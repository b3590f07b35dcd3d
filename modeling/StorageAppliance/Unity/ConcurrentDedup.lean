import Mathlib.Logic.Function.Iterate
import StorageAppliance.Library.Run
import StorageAppliance.Unity.DataDomain

/-!
# Concurrent deduplication and garbage collection

The index, the store of segments, the backend and the reference counts each have
a lock of their own, so the steps of calls on one engine come in any order.  A
call looks up the fingerprint of its next segment and then either counts another
reference, or makes, stores, writes and indexes a segment.  The collector sees
an item of the index, reads the reference count and, if there is none, takes the
item out of the index and the segment out of the store.

Run on its own, a call does what `deduplicateAndStore` does
(`run_deduplicateAndStore`), and visits to all items of the index do what
`collectGarbage` does (`run_collectGarbage`).  The collector can visit any
fingerprint at any time, so every order in which it can range over an index that
changes is among the runs.
-/

namespace StorageAppliance.Unity

open StorageAppliance.Go
open StorageAppliance.Library

/-! ## Calls -/

/-- Where a call is in the deduplication of its next segment. -/
inductive DedupStage where
  | lookup
  | found (address : Nat)
  | absent
  | created (address : Nat)
  | stored (address : Nat)
  | written (address : Nat)
  | returned
deriving DecidableEq

/-- A call of `DeduplicateAndStore`, and the segments it has not reached. -/
structure DedupCall where
  objectId : String
  data : Bytes
  remaining : List Bytes
  offset : Nat := 0
  progress : Progress := {}
  stage : DedupStage := .lookup
deriving DecidableEq

/-- A call that starts. -/
def DedupCall.start (objectId : String) (data : Bytes) : DedupCall where
  objectId := objectId
  data := data
  remaining := chunkData data

/-- What a call returns. -/
def DedupCall.recipe (call : DedupCall) : RecipeMetadata :=
  recipeOf call.objectId call.data call.progress

/-- A call goes on to another stage. -/
def DedupCall.advance (call : DedupCall) (stage : DedupStage) : DedupCall :=
  { call with stage := stage }

/-- A call is done with a segment. -/
def DedupCall.next
    (call : DedupCall) (rest : List Bytes) (progress : Progress) :
    DedupCall :=
  { call with
    remaining := rest
    offset := call.offset + 1
    progress := progress
    stage := .lookup }

/-- The next step of a call. -/
def DedupCall.turn
    (sha256 : Bytes → Bytes) (call : DedupCall)
    (engine : DataDomainEngine) : DedupCall × DataDomainEngine :=
  match call.remaining, call.stage with
  | [], .lookup =>
      (call.advance .returned,
        engine.updateStats (int64 call.data.length)
          call.progress.uniqueBytes call.progress.duplicateBytes)
  | data :: _, .lookup =>
      match engine.fingerprints.get? (calculateFingerprint sha256 data) with
      | some address => (call.advance (.found address), engine)
      | none => (call.advance .absent, engine)
  | data :: rest, .found address =>
      let counted := engine.addReference address
      let ref :=
        counted.reference address (calculateFingerprint sha256 data)
          call.offset data
      (call.next rest (call.progress.duplicate ref data), counted)
  | data :: _, .absent =>
      let (address, created) :=
        engine.createSegment (calculateFingerprint sha256 data) data
      (call.advance (.created address), created)
  | _ :: _, .created address =>
      (call.advance (.stored address), engine.storeSegment address)
  | _ :: _, .stored address =>
      (call.advance (.written address), engine.writeBackend address)
  | data :: rest, .written address =>
      let indexed :=
        engine.indexFingerprint (calculateFingerprint sha256 data) address
      let ref :=
        indexed.reference address (calculateFingerprint sha256 data)
          call.offset data
      (call.next rest (call.progress.unique ref data), indexed)
  | _, _ => (call, engine)

/-! ## Visits of the collector -/

/-- How far a visit has got. -/
inductive VisitStage where
  | seen
  | unreferenced
  | unindexed
  | finished
deriving DecidableEq

/-- A visit of the collector to an item of the index. -/
structure Visit where
  fingerprint : String
  address : Nat
  stage : VisitStage := .seen
deriving DecidableEq

/-- A visit goes on to another stage. -/
def Visit.advance (visit : Visit) (stage : VisitStage) : Visit :=
  { visit with stage := stage }

/-- The next step of a visit. -/
def Visit.turn (visit : Visit) (engine : DataDomainEngine) :
    Visit × DataDomainEngine :=
  match visit.stage with
  | .seen =>
      match engine.heap[visit.address]? with
      | none => (visit.advance .finished, engine)
      | some segment =>
          if segment.refCount = 0 then
            (visit.advance .unreferenced, engine)
          else
            (visit.advance .finished, engine)
  | .unreferenced =>
      (visit.advance .unindexed, engine.unindex visit.fingerprint)
  | .unindexed =>
      (visit.advance .finished, engine.removeSegment visit.address)
  | .finished => (visit, engine)

/-! ## Runs -/

/-- The engine with the calls and the visits under way. -/
structure ConcurrentDedup where
  engine : DataDomainEngine
  calls : List DedupCall := []
  visits : List Visit := []
deriving DecidableEq

inductive DedupInput where
  | start (objectId : String) (data : Bytes)
  | turn (index : Nat)
  | visit (fingerprint : String)
  | collect (index : Nat)
deriving DecidableEq

/-- A new engine, before any call. -/
def ConcurrentDedup.start (mode : DedupMode) : ConcurrentDedup where
  engine := newDataDomainEngine mode

/-- A call starts or goes on, or the collector does. -/
def ConcurrentDedup.step
    (sha256 : Bytes → Bytes) (state : ConcurrentDedup) :
    DedupInput → ConcurrentDedup
  | .start objectId data =>
      { state with calls := state.calls ++ [.start objectId data] }
  | .turn index =>
      match state.calls[index]? with
      | none => state
      | some call =>
          let (call, engine) := call.turn sha256 state.engine
          { state with
            engine := engine
            calls := state.calls.set index call }
  | .visit fingerprint =>
      match state.engine.fingerprints.get? fingerprint with
      | none => state
      | some address =>
          { state with
            visits :=
              state.visits ++
                [{ fingerprint := fingerprint, address := address }] }
  | .collect index =>
      match state.visits[index]? with
      | none => state
      | some visit =>
          let (visit, engine) := visit.turn state.engine
          { state with
            engine := engine
            visits := state.visits.set index visit }

/-! ## Calls on their own -/

section Alone

variable
    {sha256 : Bytes → Bytes}
    {state : ConcurrentDedup}
    {call : DedupCall}

/-- A turn of the only call. -/
theorem step_turn_single (only : state.calls = [call]) :
    state.step sha256 (.turn 0) =
      { state with
        engine := (call.turn sha256 state.engine).2
        calls := [(call.turn sha256 state.engine).1] } := by
  simp [ConcurrentDedup.step, only]

/-- The only call deduplicates its next segment. -/
theorem run_deduplicate
    {data : Bytes} {rest : List Bytes}
    (only : state.calls = [call])
    (remaining : call.remaining = data :: rest)
    (lookup : call.stage = .lookup) :
    ∃ turns,
      run (ConcurrentDedup.step sha256) state turns =
        { state with
          engine :=
            (state.engine.deduplicate sha256 call.progress call.offset
              data).2
          calls :=
            [call.next rest
              (state.engine.deduplicate sha256 call.progress call.offset
                data).1] } := by
  cases found :
      state.engine.fingerprints.get?
        (calculateFingerprint sha256 data) with
  | some address =>
      refine ⟨[.turn 0, .turn 0], ?_⟩
      simp [run, step_turn_single, only, DedupCall.turn, remaining, lookup,
        found, DedupCall.advance, DedupCall.next,
        DataDomainEngine.deduplicate]
  | none =>
      refine ⟨[.turn 0, .turn 0, .turn 0, .turn 0, .turn 0], ?_⟩
      simp [run, step_turn_single, only, DedupCall.turn, remaining, lookup,
        found, DedupCall.advance, DedupCall.next,
        DataDomainEngine.deduplicate]

/-- The only call deduplicates all its segments. -/
theorem run_deduplicateAll
    {pieces : List Bytes}
    (only : state.calls = [call])
    (remaining : call.remaining = pieces)
    (lookup : call.stage = .lookup) :
    ∃ turns,
      run (ConcurrentDedup.step sha256) state turns =
        { state with
          engine :=
            (state.engine.deduplicateAll sha256 call.progress call.offset
              pieces).2
          calls :=
            [{ call with
              remaining := []
              offset := call.offset + pieces.length
              progress :=
                (state.engine.deduplicateAll sha256 call.progress
                  call.offset pieces).1 }] } := by
  induction pieces generalizing state call with
  | nil =>
      refine ⟨[], ?_⟩
      rw [run_nil]
      cases state
      cases call
      simp only at only remaining lookup
      subst only remaining lookup
      rfl
  | cons data rest induction =>
      rcases @run_deduplicate sha256 _ _ _ _ only remaining lookup with
        ⟨first, firstRun⟩
      rcases
        @induction
          { state with
            engine :=
              (state.engine.deduplicate sha256 call.progress call.offset
                data).2
            calls :=
              [call.next rest
                (state.engine.deduplicate sha256 call.progress call.offset
                  data).1] }
          _ rfl rfl rfl with
        ⟨second, secondRun⟩
      refine ⟨first ++ second, ?_⟩
      rw [run_append, firstRun, secondRun]
      have further :
          call.offset + 1 + rest.length =
            call.offset + (rest.length + 1) := by
        omega
      simp only [DedupCall.next, DataDomainEngine.deduplicateAll,
        List.length_cons, further, lookup]

/-- A call on its own is the whole operation. -/
theorem run_deduplicateAndStore
    (engine : DataDomainEngine) (objectId : String) (data : Bytes) :
    ∃ turns call,
      run (ConcurrentDedup.step sha256) { engine := engine }
            (.start objectId data :: turns) =
          { engine :=
              (engine.deduplicateAndStore sha256 objectId data).2
            calls := [call] } ∧
        call.stage = .returned ∧
        call.recipe =
          (engine.deduplicateAndStore sha256 objectId data).1 := by
  rcases
    @run_deduplicateAll sha256
      { engine := engine, calls := [.start objectId data] }
      (.start objectId data) (chunkData data) rfl rfl rfl with
    ⟨turns, turnsRun⟩
  refine
    ⟨turns ++ [.turn 0],
      { DedupCall.start objectId data with
        remaining := []
        offset := 0 + (chunkData data).length
        progress := (engine.deduplicateAll sha256 {} 0 (chunkData data)).1
        stage := .returned },
      ?_, rfl, rfl⟩
  rw [run_cons, run_append]
  change
    run (ConcurrentDedup.step sha256)
        (run (ConcurrentDedup.step sha256)
          { engine := engine, calls := [.start objectId data] } turns)
        [.turn 0] =
      _
  rw [turnsRun]
  rfl

/-! ## Visits on their own -/

/-- A visit on its own is the removal of an item. -/
theorem run_collect
    {fingerprint : String} {address : Nat}
    (indexed : state.engine.fingerprints.get? fingerprint = some address) :
    ∃ inputs visit,
      run (ConcurrentDedup.step sha256) state inputs =
        { state with
          engine := state.engine.collect fingerprint address
          visits := state.visits ++ [visit] } := by
  refine
    ⟨[.visit fingerprint, .collect state.visits.length,
      .collect state.visits.length, .collect state.visits.length], ?_⟩
  cases held : state.engine.heap[address]? with
  | none =>
      simp [run, ConcurrentDedup.step, indexed, Visit.turn, held,
        Visit.advance, DataDomainEngine.collect]
  | some segment =>
      by_cases unreferenced : segment.refCount = 0
      · simp [run, ConcurrentDedup.step, indexed, Visit.turn, held,
          Visit.advance, DataDomainEngine.collect, unreferenced]
      · simp [run, ConcurrentDedup.step, indexed, Visit.turn, held,
          Visit.advance, DataDomainEngine.collect, unreferenced]

/-- Only the fingerprint of an item is taken out of the index. -/
theorem fingerprints_collect
    (engine : DataDomainEngine) {fingerprint other : String}
    (apart : other ≠ fingerprint) (address : Nat) :
    (engine.collect fingerprint address).fingerprints.get? other =
      engine.fingerprints.get? other := by
  rw [DataDomainEngine.collect]
  split
  · rfl
  · split
    · rw [DataDomainEngine.removeSegment]
      split
      · exact Dict.get?_erase_ne _ apart
      · exact Dict.get?_erase_ne _ apart
    · rfl

/-- Visits one after another remove items one after another. -/
theorem run_visits
    {items : List (String × Nat)}
    (nodup : (items.map Prod.fst).Nodup)
    (indexed :
      ∀ item ∈ items,
        state.engine.fingerprints.get? item.1 = some item.2) :
    ∃ inputs visits,
      run (ConcurrentDedup.step sha256) state inputs =
        { state with
          engine :=
            items.foldl (fun engine item => engine.collect item.1 item.2)
              state.engine
          visits := state.visits ++ visits } := by
  induction items generalizing state with
  | nil =>
      refine ⟨[], [], ?_⟩
      rw [List.append_nil]
      rfl
  | cons item rest induction =>
      rw [List.map_cons, List.nodup_cons] at nodup
      rcases @run_collect sha256 state _ _ (indexed item (by simp)) with
        ⟨first, visit, firstRun⟩
      have later :
          ∀ other ∈ rest,
            (state.engine.collect item.1 item.2).fingerprints.get?
                other.1 =
              some other.2 := by
        intro other member
        have apart : other.1 ≠ item.1 := by
          intro same
          exact nodup.1 (same ▸ List.mem_map_of_mem member)
        rw [fingerprints_collect state.engine apart]
        exact indexed other (List.mem_cons_of_mem _ member)
      rcases
        @induction
          { state with
            engine := state.engine.collect item.1 item.2
            visits := state.visits ++ [visit] }
          nodup.2 later with
        ⟨inputs, visits, restRun⟩
      refine ⟨first ++ inputs, visit :: visits, ?_⟩
      rw [run_append, firstRun, restRun, List.append_assoc]
      rfl

/-- The collector on its own is the whole collection. -/
theorem run_collectGarbage :
    ∃ inputs visits,
      run (ConcurrentDedup.step sha256) state inputs =
        { state with
          engine := state.engine.collectGarbage
          visits := state.visits ++ visits } := by
  apply run_visits state.engine.fingerprints.nodupKeys
  intro item member
  exact Dict.get?_eq_some_iff.mpr member

end Alone

end StorageAppliance.Unity
