import StorageAppliance.Go
import StorageAppliance.Library.Dict
import StorageAppliance.Library.Run

/-!
# Metro writes

A write to a volume of a metro cluster goes to all healthy sites in parallel
(`WriteToVolume`).  Each site has a goroutine that reports an error on a channel
or records an acknowledgement, and then leaves the wait group.  Another one
closes a second channel when the wait group is empty.  The caller selects
between that channel, the error channel and a timer, invalidates the cache and
returns nil.

The model takes one call apart into the turns of its goroutines, in any order.
The wait group is represented by the goroutines that have not left it.  The
result of the write to a site is a parameter, because the remote call is a stub,
and the timer can fire at any time.  The sites are listed in the order in which
the map of sites is ranged over.

A goroutine that fails both reports its error and leaves, and the select can
take either channel.  `writeToVolume_acknowledged_iff` says when a call that
returns nil has written to all healthy sites.
-/

namespace StorageAppliance.PowerScale

open StorageAppliance.Go
open StorageAppliance.Library

/-- A site of the cluster. -/
structure ClusterSite where
  siteId : String
  healthy : Bool
deriving DecidableEq

/-- A message to the handler of cache invalidations. -/
structure CacheInvalidation where
  key : String
  version : Nat
deriving DecidableEq

/-- What a call is about, with the sites and the results of their writes. -/
structure VolumeWrite where
  sites : List ClusterSite
  writeToSite : String → Option GoError
  volumeId : String
  offset : ℤ
  sequenceNumber : Nat

/-- How far the goroutine of a site has got. -/
inductive WriterStage where
  | writing
  | leaving
deriving DecidableEq

/-- The goroutine of a site that has not left the wait group. -/
structure Writer where
  site : String
  stage : WriterStage
deriving DecidableEq

/-- How far the caller has got, and the error it returns, if any. -/
inductive Caller where
  | starting (pending : List String)
  | selecting
  | invalidating
  | returned (failure : Option Fault)
deriving DecidableEq

/-- The channels that the select waits for. -/
inductive Ready where
  | done
  | timeout
  | error
deriving DecidableEq

/-- The state of a call, with the cluster's channel of invalidations. -/
structure Writing where
  caller : Caller
  running : List Writer := []
  errChan : List GoError := []
  acks : Dict String Bool := Dict.empty
  done : Bool := false
  invalidations : List CacheInvalidation := []
deriving DecidableEq

/-- The turns of the goroutines. -/
inductive Turn where
  | startWriter
  | writer (index : Nat)
  | waiter
  | select (ready : Ready)
  | invalidate
  | handleInvalidation
deriving DecidableEq

namespace VolumeWrite

variable (self : VolumeWrite)

/-- The healthy sites. -/
def healthySites : List String :=
  (self.sites.filter ClusterSite.healthy).map ClusterSite.siteId

/-- The state when the healthy sites have been collected. -/
def start (invalidations : List CacheInvalidation) : Writing where
  caller := .starting self.healthySites
  invalidations := invalidations

/-- Start the goroutine of the next site. -/
def startWriter (state : Writing) : Writing :=
  match state.caller with
  | .starting (site :: rest) =>
      { state with
        caller := .starting rest
        running := state.running ++ [⟨site, .writing⟩] }
  | .starting [] => { state with caller := .selecting }
  | _ => state

/-- A goroutine writes to its site and reports, or leaves the wait group. -/
def runWriter (state : Writing) (index : Nat) : Writing :=
  match state.running[index]? with
  | some ⟨site, .writing⟩ =>
      match self.writeToSite site with
      | some error =>
          { state with
            running := state.running.set index ⟨site, .leaving⟩
            errChan := state.errChan ++ [error] }
      | none =>
          { state with
            running := state.running.set index ⟨site, .leaving⟩
            acks := state.acks.set site true }
  | some ⟨_, .leaving⟩ =>
      { state with running := state.running.eraseIdx index }
  | none => state

/-- The waiting goroutine, which is started last, closes its channel. -/
def closeDone (state : Writing) : Writing :=
  match state.caller with
  | .starting _ => state
  | _ =>
      if state.running = [] then
        { state with done := true }
      else
        state

/-- The caller selects a channel that is ready. -/
def select (state : Writing) (ready : Ready) : Writing :=
  match state.caller with
  | .selecting =>
      match ready with
      | .done =>
          if state.done then
            { state with caller := .invalidating }
          else
            state
      | .timeout =>
          { state with
            caller :=
              .returned (some (errorf "synchronous write timeout")) }
      | .error =>
          match state.errChan with
          | [] => state
          | error :: rest =>
              { state with
                caller :=
                  .returned
                    (some (errorf ("write failed: " ++ error.text)))
                errChan := rest }
  | _ => state

/-- The caller sends an invalidation, if there is room, and returns. -/
def invalidate (state : Writing) : Writing :=
  match state.caller with
  | .invalidating =>
      if state.invalidations.length < 1000 then
        { state with
          caller := .returned none
          invalidations :=
            state.invalidations ++
              [{ key := self.volumeId ++ ":" ++ decimal self.offset
                 version := self.sequenceNumber }] }
      else
        state
  | _ => state

/-- One turn. -/
def step (state : Writing) : Turn → Writing
  | .startWriter => startWriter state
  | .writer index => self.runWriter state index
  | .waiter => closeDone state
  | .select ready => select state ready
  | .invalidate => self.invalidate state
  | .handleInvalidation =>
      { state with invalidations := state.invalidations.tail }

end VolumeWrite

/-! ## What a call leaves behind -/

/-- There is a healthy site, and all healthy sites have acknowledged. -/
def Acknowledged (call : VolumeWrite) (state : Writing) : Prop :=
  call.healthySites ≠ [] ∧
    ∀ site ∈ call.healthySites, state.acks.get? site = some true

/--
The select takes the channel of the waiting goroutine only if no error is left
on the error channel and there is a healthy site.
-/
def Undisputed (call : VolumeWrite) (state : Writing) (turn : Turn) :
    Prop :=
  turn = .select .done → state.caller = .selecting → state.done →
    call.healthySites ≠ [] ∧ state.errChan = []

/-- The sites whose goroutines are not started yet. -/
def Caller.pending : Caller → List String
  | .starting pending => pending
  | _ => []

/-- The caller has not selected yet. -/
def Caller.Open : Caller → Prop
  | .starting _ => True
  | .selecting => True
  | _ => False

/-- The caller has selected the channel of the waiting goroutine. -/
def Caller.Passed : Caller → Prop
  | .invalidating => True
  | .returned none => True
  | _ => False

/-- A site's goroutine is not through, or its result is known. -/
def Settled (call : VolumeWrite) (state : Writing) (site : String) :
    Prop :=
  site ∈ state.caller.pending ∨ ⟨site, .writing⟩ ∈ state.running ∨
    (call.writeToSite site = none ∧
      state.acks.get? site = some true) ∨
    (call.writeToSite site ≠ none ∧
      (state.caller.Open → state.errChan ≠ []))

/-- What holds in every state of a call. -/
structure Tracked (call : VolumeWrite) (state : Writing) : Prop where
  settled : ∀ site ∈ call.healthySites, Settled call state site
  pending : ∀ site ∈ state.caller.pending, site ∈ call.healthySites
  running : ∀ writer ∈ state.running, writer.site ∈ call.healthySites
  errors :
    state.errChan ≠ [] →
      ∃ site ∈ call.healthySites, call.writeToSite site ≠ none
  honest :
    ∀ site,
      state.acks.get? site = some true → call.writeToSite site = none
  closed : state.done → state.running = [] ∧ state.caller.pending = []
  passed : state.caller.Passed → state.done

/-! ## Turns -/

section Turns

variable
    {call : VolumeWrite}
    {state : Writing}

theorem tracked_start (invalidations : List CacheInvalidation) :
    Tracked call (call.start invalidations) where
  settled := fun site healthy => Or.inl healthy
  pending := fun site healthy => healthy
  running := fun writer started => absurd started List.not_mem_nil
  errors := fun reported => absurd rfl reported
  honest := fun site acked => by cases acked
  closed := fun closed => by cases closed
  passed := fun passed => passed.elim

theorem tracked_startWriter (tracked : Tracked call state) :
    Tracked call (VolumeWrite.startWriter state) := by
  rcases tracked with
    ⟨settled, pending, running, errors, honest, closed, passed⟩
  rcases state with ⟨caller, writers, errChan, acks, done, invalidations⟩
  cases caller with
  | starting sites =>
      cases sites with
      | nil =>
          exact ⟨settled, pending, running, errors, honest, closed,
            fun passed => passed.elim⟩
      | cons site rest =>
          refine
            ⟨?_, ?_, ?_, errors, honest, ?_, fun passed => passed.elim⟩
          · intro other healthy
            rcases settled other healthy with waiting | started | result
            · rcases List.mem_cons.mp waiting with rfl | later
              · exact Or.inr (Or.inl (List.mem_append_right _
                  (List.mem_singleton.mpr rfl)))
              · exact Or.inl later
            · exact Or.inr (Or.inl (List.mem_append_left _ started))
            · exact Or.inr (Or.inr result)
          · intro other waiting
            exact pending other (List.mem_cons_of_mem _ waiting)
          · intro writer started
            rcases List.mem_append.mp started with before | new
            · exact running writer before
            · rw [List.mem_singleton.mp new]
              exact pending site List.mem_cons_self
          · intro finished
            cases (closed finished).2
  | selecting =>
      exact ⟨settled, pending, running, errors, honest, closed, passed⟩
  | invalidating =>
      exact ⟨settled, pending, running, errors, honest, closed, passed⟩
  | returned failure =>
      exact ⟨settled, pending, running, errors, honest, closed, passed⟩

/-- A goroutine that is not the one that moved goes on writing. -/
theorem mem_set_of_ne
    {writers : List Writer} {index : Nat} {writer moved other : Writer}
    (found : writers[index]? = some writer) (apart : other ≠ writer)
    (member : other ∈ writers) :
    other ∈ writers.set index moved := by
  rcases List.mem_iff_getElem?.mp member with ⟨place, atPlace⟩
  apply List.mem_iff_getElem?.mpr
  refine ⟨place, ?_⟩
  have different : index ≠ place := by
    intro same
    rw [same, atPlace] at found
    exact apart (Option.some.inj found)
  rw [List.getElem?_set_ne different, atPlace]

theorem mem_eraseIdx_of_ne
    {writers : List Writer} {index : Nat} {writer other : Writer}
    (found : writers[index]? = some writer) (apart : other ≠ writer)
    (member : other ∈ writers) :
    other ∈ writers.eraseIdx index := by
  rcases List.mem_iff_getElem?.mp member with ⟨place, atPlace⟩
  apply List.mem_eraseIdx_iff_getElem?.mpr
  refine ⟨place, ?_, atPlace⟩
  intro same
  rw [← same, atPlace] at found
  exact apart (Option.some.inj found)

/-- The result of a goroutine's write is known from then on. -/
theorem settled_report
    {index : Nat} {site other : String} {errChan : List GoError}
    {acks : Dict String Bool}
    (settled : Settled call state other)
    (found : state.running[index]? = some ⟨site, .writing⟩)
    (errorsKept : state.errChan ≠ [] → errChan ≠ [])
    (acksKept :
      state.acks.get? other = some true → acks.get? other = some true)
    (reported :
      (call.writeToSite site = none ∧ acks.get? site = some true) ∨
        (call.writeToSite site ≠ none ∧ errChan ≠ [])) :
    Settled call
      { state with
        running := state.running.set index ⟨site, .leaving⟩
        errChan := errChan
        acks := acks } other := by
  rcases settled with waiting | writing | acked | failed
  · exact Or.inl waiting
  · by_cases same : other = site
    · subst same
      rcases reported with acked | failed
      · exact Or.inr (Or.inr (Or.inl acked))
      · exact Or.inr (Or.inr (Or.inr ⟨failed.1, fun _ => failed.2⟩))
    · have apart :
          (⟨other, .writing⟩ : Writer) ≠ ⟨site, .writing⟩ := by
        intro equal
        exact same (congrArg Writer.site equal)
      exact Or.inr (Or.inl (mem_set_of_ne found apart writing))
  · exact Or.inr (Or.inr (Or.inl ⟨acked.1, acksKept acked.2⟩))
  · exact Or.inr (Or.inr (Or.inr
      ⟨failed.1, fun selecting => errorsKept (failed.2 selecting)⟩))

theorem tracked_runWriter (tracked : Tracked call state) (index : Nat) :
    Tracked call (call.runWriter state index) := by
  rw [VolumeWrite.runWriter]
  cases found : state.running[index]? with
  | none => exact tracked
  | some writer =>
      rcases writer with ⟨site, stage⟩
      have started := List.mem_of_getElem? found
      have healthy := tracked.running _ started
      have open' : ¬ state.done := by
        intro finished
        rw [(tracked.closed finished).1] at started
        cases started
      have stays :
          ∀ writer ∈ state.running.set index ⟨site, .leaving⟩,
            writer.site ∈ call.healthySites := by
        intro writer member
        rcases List.mem_or_eq_of_mem_set member with before | rfl
        · exact tracked.running writer before
        · exact healthy
      cases stage with
      | leaving =>
          refine ⟨?_, tracked.pending, ?_, tracked.errors,
            tracked.honest, fun finished => absurd finished open',
            tracked.passed⟩
          · intro other listed
            rcases tracked.settled other listed with
              waiting | writing | result
            · exact Or.inl waiting
            · have apart :
                  (⟨other, .writing⟩ : Writer) ≠ ⟨site, .leaving⟩ := by
                intro equal
                cases congrArg Writer.stage equal
              exact Or.inr
                (Or.inl (mem_eraseIdx_of_ne found apart writing))
            · exact Or.inr (Or.inr result)
          · intro writer member
            exact tracked.running writer
              (List.mem_of_mem_eraseIdx member)
      | writing =>
          simp only
          cases outcome : call.writeToSite site with
          | none =>
              refine ⟨?_, tracked.pending, stays, tracked.errors, ?_,
                fun finished => absurd finished open', tracked.passed⟩
              · intro other listed
                apply
                  settled_report (tracked.settled other listed) found id
                · intro acked
                  rw [Dict.get?_set]
                  split
                  · rfl
                  · exact acked
                · exact Or.inl ⟨outcome, Dict.get?_set_self _ _ _⟩
              · intro other acked
                rw [Dict.get?_set] at acked
                split at acked
                · rename_i same
                  rw [same]
                  exact outcome
                · exact tracked.honest other acked
          | some error =>
              have failed : call.writeToSite site ≠ none := by
                rw [outcome]
                simp
              refine ⟨?_, tracked.pending, stays,
                fun _ => ⟨site, healthy, failed⟩, tracked.honest,
                fun finished => absurd finished open', tracked.passed⟩
              intro other listed
              apply settled_report (tracked.settled other listed) found
              · simp
              · exact id
              · exact Or.inr ⟨failed, by simp⟩

theorem tracked_closeDone (tracked : Tracked call state) :
    Tracked call (VolumeWrite.closeDone state) := by
  rw [VolumeWrite.closeDone]
  split
  · exact tracked
  · rename_i started
    split
    · rename_i finished
      have none : state.caller.pending = [] := by
        cases caller : state.caller with
        | starting sites => exact absurd caller (started sites)
        | selecting => rfl
        | invalidating => rfl
        | returned failure => rfl
      exact ⟨tracked.settled, tracked.pending, tracked.running,
        tracked.errors, tracked.honest, fun _ => ⟨finished, none⟩,
        fun _ => rfl⟩
    · exact tracked

/-- A caller that has selected is not concerned with errors any more. -/
theorem settled_selected
    {site : String} {caller : Caller} {errChan : List GoError}
    (settled : Settled call state site)
    (selecting : state.caller = .selecting) (selected : ¬ caller.Open) :
    Settled call
      { state with caller := caller, errChan := errChan } site := by
  rcases settled with waiting | writing | acked | failed
  · rw [selecting] at waiting
    cases waiting
  · exact Or.inr (Or.inl writing)
  · exact Or.inr (Or.inr (Or.inl acked))
  · exact Or.inr (Or.inr (Or.inr
      ⟨failed.1, fun still => absurd still selected⟩))

theorem tracked_select (tracked : Tracked call state) (ready : Ready) :
    Tracked call (VolumeWrite.select state ready) := by
  unfold VolumeWrite.select
  cases selecting : state.caller with
  | starting sites => exact tracked
  | invalidating => exact tracked
  | returned failure => exact tracked
  | selecting =>
      have none : ∀ site ∈ ([] : List String),
          site ∈ call.healthySites :=
        fun site member => absurd member List.not_mem_nil
      cases ready with
      | done =>
          simp only
          split
          · rename_i finished
            exact
              ⟨fun site healthy =>
                  settled_selected (tracked.settled site healthy)
                    selecting id,
                none, tracked.running, tracked.errors, tracked.honest,
                fun _ => ⟨(tracked.closed finished).1, rfl⟩,
                fun _ => finished⟩
          · exact tracked
      | timeout =>
          exact
            ⟨fun site healthy =>
                settled_selected (tracked.settled site healthy)
                  selecting id,
              none, tracked.running, tracked.errors, tracked.honest,
              fun finished => ⟨(tracked.closed finished).1, rfl⟩,
              fun passed => passed.elim⟩
      | error =>
          simp only
          split
          · exact tracked
          · rename_i error rest reported
            exact
              ⟨fun site healthy =>
                  settled_selected (tracked.settled site healthy)
                    selecting id,
                none, tracked.running,
                fun _ => tracked.errors (by simp [reported]),
                tracked.honest,
                fun finished => ⟨(tracked.closed finished).1, rfl⟩,
                fun passed => passed.elim⟩

theorem tracked_invalidate (tracked : Tracked call state) :
    Tracked call (call.invalidate state) := by
  rcases tracked with
    ⟨settled, pending, running, errors, honest, closed, passed⟩
  rcases state with ⟨caller, writers, errChan, acks, done, invalidations⟩
  rw [VolumeWrite.invalidate]
  split
  · rename_i invalidating
    subst invalidating
    split
    · exact ⟨settled, pending, running, errors, honest, closed, passed⟩
    · exact ⟨settled, pending, running, errors, honest, closed, passed⟩
  · exact ⟨settled, pending, running, errors, honest, closed, passed⟩

/-- Every turn keeps track of the results. -/
theorem tracked_step (tracked : Tracked call state) (turn : Turn) :
    Tracked call (call.step state turn) := by
  cases turn with
  | startWriter => exact tracked_startWriter tracked
  | writer index => exact tracked_runWriter tracked index
  | waiter => exact tracked_closeDone tracked
  | select ready => exact tracked_select tracked ready
  | invalidate => exact tracked_invalidate tracked
  | handleInvalidation =>
      exact ⟨tracked.settled, tracked.pending, tracked.running,
        tracked.errors, tracked.honest, tracked.closed, tracked.passed⟩

/-! ## Runs -/

/-- There is a healthy site, and the writes to all of them succeed. -/
def Sound (call : VolumeWrite) : Prop :=
  call.healthySites ≠ [] ∧
    ∀ site ∈ call.healthySites, call.writeToSite site = none

/-- The writes are sound if the caller has passed the select. -/
def SoundOnce (call : VolumeWrite) (state : Writing) : Prop :=
  state.caller.Passed → Sound call

/-- When all goroutines have left, every site has answered. -/
theorem answered_of_done
    (tracked : Tracked call state) (finished : state.done)
    {site : String} (healthy : site ∈ call.healthySites) :
    call.writeToSite site = none ∧ state.acks.get? site = some true ∨
      call.writeToSite site ≠ none ∧
        (state.caller.Open → state.errChan ≠ []) := by
  have closed := tracked.closed finished
  rcases tracked.settled site healthy with waiting | writing | answered
  · rw [closed.2] at waiting
    cases waiting
  · rw [closed.1] at writing
    cases writing
  · exact answered

/-- Then the result of each site is known. -/
theorem acknowledged_iff_sound
    (tracked : Tracked call state) (finished : state.done) :
    Acknowledged call state ↔ Sound call := by
  apply and_congr_right
  intro _
  apply forall₂_congr
  intro site healthy
  constructor
  · exact tracked.honest site
  · intro succeeds
    rcases answered_of_done tracked finished healthy with acked | failed
    · exact acked.2
    · exact absurd succeeds failed.1

/-- Whether the writes succeed shows on the error channel. -/
theorem sound_iff_of_selecting
    (tracked : Tracked call state) (selecting : state.caller = .selecting)
    (finished : state.done) :
    Sound call ↔ call.healthySites ≠ [] ∧ state.errChan = [] := by
  apply and_congr_right
  intro _
  constructor
  · intro succeeds
    by_contra reported
    rcases tracked.errors reported with ⟨site, healthy, failed⟩
    exact failed (succeeds site healthy)
  · intro quiet site healthy
    rcases answered_of_done tracked finished healthy with acked | failed
    · exact acked.1
    · have stillOpen : state.caller.Open := by
        rw [selecting]
        trivial
      exact absurd quiet (failed.2 stillOpen)

theorem passed_startWriter :
    (VolumeWrite.startWriter state).caller.Passed ↔
      state.caller.Passed := by
  rcases state with ⟨caller, writers, errChan, acks, done, invalidations⟩
  cases caller with
  | starting sites =>
      cases sites with
      | nil => exact Iff.rfl
      | cons site rest => exact Iff.rfl
  | selecting => exact Iff.rfl
  | invalidating => exact Iff.rfl
  | returned failure => exact Iff.rfl

theorem caller_runWriter (index : Nat) :
    (call.runWriter state index).caller = state.caller := by
  rw [VolumeWrite.runWriter]
  split
  · split
    · rfl
    · rfl
  · rfl
  · rfl

theorem caller_closeDone :
    (VolumeWrite.closeDone state).caller = state.caller := by
  rw [VolumeWrite.closeDone]
  split
  · rfl
  · split
    · rfl
    · rfl

theorem passed_invalidate :
    (call.invalidate state).caller.Passed ↔ state.caller.Passed := by
  rw [VolumeWrite.invalidate]
  split
  · rename_i invalidating
    rw [invalidating]
    split
    · exact Iff.rfl
    · rw [invalidating]
  · exact Iff.rfl

theorem passed_select (ready : Ready) :
    (VolumeWrite.select state ready).caller.Passed ↔
      state.caller.Passed ∨
        (ready = .done ∧ state.caller = .selecting ∧ state.done) := by
  rcases state with ⟨caller, writers, errChan, acks, done, invalidations⟩
  cases caller with
  | starting sites => simp [VolumeWrite.select]
  | invalidating => simp [VolumeWrite.select]
  | returned failure => simp [VolumeWrite.select]
  | selecting =>
      cases ready with
      | done =>
          cases done with
          | false => simp [VolumeWrite.select]
          | true => simp [VolumeWrite.select, Caller.Passed]
      | timeout => simp [VolumeWrite.select, Caller.Passed]
      | error =>
          cases errChan with
          | nil => simp [VolumeWrite.select]
          | cons error rest => simp [VolumeWrite.select, Caller.Passed]

/-- Only the select of the waiting goroutine's channel passes the caller. -/
theorem passed_step_iff (turn : Turn) :
    (call.step state turn).caller.Passed ↔
      state.caller.Passed ∨
        (turn = .select .done ∧ state.caller = .selecting ∧
          state.done) := by
  cases turn with
  | startWriter => simp [VolumeWrite.step, passed_startWriter]
  | writer index => simp [VolumeWrite.step, caller_runWriter]
  | waiter => simp [VolumeWrite.step, caller_closeDone]
  | select ready => simp [VolumeWrite.step, passed_select]
  | invalidate => simp [VolumeWrite.step, passed_invalidate]
  | handleInvalidation => simp [VolumeWrite.step]

/-- A turn that keeps a passed caller sound is undisputed, and conversely. -/
theorem sound_step_iff
    (tracked : Tracked call state) (sound : SoundOnce call state)
    (turn : Turn) :
    SoundOnce call (call.step state turn) ↔
      Undisputed call state turn := by
  rw [SoundOnce, passed_step_iff, or_imp]
  constructor
  · rintro ⟨_, selected⟩ chosen selecting finished
    exact (sound_iff_of_selecting tracked selecting finished).mp
      (selected ⟨chosen, selecting, finished⟩)
  · intro undisputed
    refine ⟨sound, ?_⟩
    rintro ⟨chosen, selecting, finished⟩
    exact (sound_iff_of_selecting tracked selecting finished).mpr
      (undisputed chosen selecting finished)

/--
In every schedule of a call that returns nil, there is a healthy site and all
healthy sites have acknowledged exactly if every turn is undisputed.
-/
theorem writeToVolume_acknowledged_iff
    (call : VolumeWrite) (invalidations : List CacheInvalidation)
    (turns : List Turn)
    (returned :
      (run call.step (call.start invalidations) turns).caller =
        .returned none) :
    Acknowledged call
        (run call.step (call.start invalidations) turns) ↔
      AllSteps call.step (Undisputed call) (call.start invalidations)
        turns := by
  have keeps :
      ∀ state turn,
        Tracked call state → Tracked call (call.step state turn) :=
    fun state turn tracked => tracked_step tracked turn
  have tracked :=
    run_invariant_of_step keeps turns (tracked_start invalidations)
  have passed :
      (run call.step (call.start invalidations)
        turns).caller.Passed := by
    rw [returned]
    trivial
  have agree :
      ∀ state turn,
        Tracked call state → SoundOnce call state →
          (SoundOnce call (call.step state turn) ↔
            Undisputed call state turn) :=
    fun state turn tracked sound => sound_step_iff tracked sound turn
  have lost :
      ∀ state turn,
        Tracked call state → ¬ SoundOnce call state →
          ¬ SoundOnce call (call.step state turn) := by
    intro state turn _ unsound kept
    apply unsound
    intro before
    exact kept ((passed_step_iff turn).mpr (Or.inl before))
  have exactly :=
    run_keeps_iff_allSteps keeps agree lost turns
      (tracked_start invalidations) fun early => early.elim
  rw [← exactly,
    acknowledged_iff_sound tracked (tracked.passed passed)]
  exact ⟨fun sound _ => sound, fun sound => sound passed⟩

end Turns

instance (call : VolumeWrite) (state : Writing) (turn : Turn) :
    Decidable (Undisputed call state turn) :=
  inferInstanceAs (Decidable (_ → _ → _ → _))

/-- A write of a cluster with two healthy sites and a failed one. -/
def threeSites : VolumeWrite where
  sites := [⟨"site-1", true⟩, ⟨"site-2", false⟩, ⟨"site-3", true⟩]
  writeToSite site := if site = "site-2" then some .eof else none
  volumeId := "vol-1"
  offset := 0
  sequenceNumber := 0

/-- The last site answers before the first. -/
def lastSiteFirst : List Turn :=
  [.startWriter, .startWriter, .writer 1, .startWriter, .writer 0,
    .writer 1, .writer 0, .waiter, .select .done, .invalidate]

theorem writeToVolume_acknowledged_threeSites :
    (run threeSites.step (threeSites.start []) lastSiteFirst).caller =
        .returned none ∧
      Acknowledged threeSites
        (run threeSites.step (threeSites.start []) lastSiteFirst) := by
  have returned :
      (run threeSites.step (threeSites.start []) lastSiteFirst).caller =
        .returned none := by
    decide
  refine ⟨returned, ?_⟩
  rw [writeToVolume_acknowledged_iff threeSites [] lastSiteFirst returned]
  decide

/-- A write of a cluster with one site. -/
def oneSite (healthy : Bool) (failure : Option GoError) : VolumeWrite where
  sites := [⟨"site-1", healthy⟩]
  writeToSite _ := failure
  volumeId := "vol-1"
  offset := 0
  sequenceNumber := 0

/-- The goroutines finish before the caller selects. -/
def finishFirst : List Turn :=
  [.startWriter, .startWriter, .writer 0, .writer 0, .waiter,
    .select .done, .invalidate]

theorem failedWrite_returnsNil :
    ((run (oneSite true (some .eof)).step
            ((oneSite true (some .eof)).start []) finishFirst).caller =
          .returned none ∧
        ¬ Acknowledged (oneSite true (some .eof))
          (run (oneSite true (some .eof)).step
            ((oneSite true (some .eof)).start []) finishFirst)) ∧
      (run (oneSite false none).step ((oneSite false none).start [])
            [.startWriter, .waiter, .select .done, .invalidate]).caller =
          .returned none ∧
        (oneSite false none).healthySites = [] := by
  refine ⟨⟨by decide, ?_⟩, by decide, by decide⟩
  intro acknowledged
  have acked := acknowledged.2 "site-1" (by decide)
  revert acked
  decide

end StorageAppliance.PowerScale
