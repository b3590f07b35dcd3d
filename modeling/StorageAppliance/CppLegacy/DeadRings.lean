import StorageAppliance.CppLegacy.CompletionProcessing

/-!
# Dead completion rings

What becomes of a ring of completions when a call of `process_completions` does
not write the doorbell (`cpp-legacy/nvmedri.cpp`).  The device posts no more than
the ring holds beyond what it was told, and it is told at the end of a call only.

The doorbell that one call leaves out is written by a later one, unless the call
took all that the device may post.  Then the device waits for the doorbell and
the driver for a completion, for ever.  `canPost_iff` says in which states this
has happened, and `exists_dead` that every size of ring can get there.
-/

namespace StorageAppliance.CppLegacy

open StorageAppliance.Library

namespace System

variable
    {size : Nat}
    {Callback : Type}

/-- Some continuation of the run has another completion posted. -/
def CanPost (system : System size Callback) : Prop :=
  ∃ events : List (Event Callback),
    system.posted.length < (run step system events).posted.length

/--
The ring is full as far as the device was told, and all the rounds through it
that have begun are complete and even in number.
-/
def Dead (system : System size Callback) : Prop :=
  system.posted.length = system.told + size ∧
    2 * size ∣ system.posted.length

instance decidableDead (system : System size Callback) :
    Decidable system.Dead :=
  inferInstanceAs (Decidable (_ ∧ _))

section Steps

variable
    {system : System size Callback}

/-- A run keeps the driver in step. -/
theorem InStep.afterRun (inStep : system.InStep)
    (events : List (Event Callback)) :
    (run System.step system events).InStep :=
  run_invariant_of_step (fun _ event inStep => inStep.step event) events
    inStep

theorem post_of_room
    (room : system.posted.length < system.told + size)
    (commandId : UInt16) (code : Fin (2 ^ 15)) :
    (system.post commandId code).posted =
      system.posted ++ [system.nextCompletion commandId code] := by
  rw [post, if_pos room]

theorem post_of_full
    (full : ¬ system.posted.length < system.told + size)
    (commandId : UInt16) (code : Fin (2 ^ 15)) :
    system.post commandId code = system := by
  rw [post, if_neg full]

/-- A round posts nothing, and tells the device nothing while it finds more. -/
theorem step_round_of_some
    {cqe : NvmeCompletion} {queue : NVMeQueue size Callback}
    (taken : system.queue.round = some (cqe, queue)) :
    system.step .round =
      { system with
        queue := queue
        consumed := system.consumed ++ [cqe]
        taken := system.taken + 1 } := by
  rw [step, taken]

theorem step_round_of_none (ended : system.queue.round = none) :
    system.step .round = system.endCall := by
  rw [step, ended]

/-- The end of a call tells the device of all completions, or skips it. -/
theorem InStep.told_endCall (inStep : system.InStep)
    (ended : system.queue.round = none) :
    system.endCall.told =
      if 2 * size ∣ system.posted.length then
        system.told
      else
        system.posted.length := by
  have all := inStep.round_eq_none_iff.mp ended
  have rings := inStep.ringsDoorbell_iff
  rw [all] at rings
  show
    (if system.queue.RingsDoorbell then
        system.consumed.length
      else
        system.told) =
      _
  by_cases even : 2 * size ∣ system.posted.length
  · rw [if_neg fun written => rings.mp written even, if_pos even]
  · rw [if_pos (rings.mpr even), if_neg even, all]

/-! ## A dead ring -/

/-- Nothing that happens posts to a dead ring or tells the device anything. -/
theorem Dead.step (dead : system.Dead) (inStep : system.InStep)
    (event : Event Callback) :
    (system.step event).posted = system.posted ∧
      (system.step event).told = system.told := by
  cases event with
  | post commandId code =>
      have full : ¬ system.posted.length < system.told + size := by
        rw [dead.1]
        exact Nat.lt_irrefl _
      show
        (system.post commandId code).posted = system.posted ∧
          (system.post commandId code).told = system.told
      rw [post_of_full full]
      exact ⟨rfl, rfl⟩
  | submit callback => exact ⟨rfl, rfl⟩
  | round =>
      cases taken : system.queue.round with
      | none =>
          rw [step_round_of_none taken]
          refine ⟨rfl, ?_⟩
          rw [inStep.told_endCall taken, if_pos dead.2]
      | some result =>
          rw [step_round_of_some taken]
          exact ⟨rfl, rfl⟩

/-- A dead ring stays dead. -/
theorem Dead.run (dead : system.Dead) (inStep : system.InStep)
    (events : List (Event Callback)) :
    (run System.step system events).posted = system.posted := by
  induction events generalizing system with
  | nil => rfl
  | cons event rest induction =>
      rcases dead.step inStep event with ⟨posted, told⟩
      have next : (system.step event).Dead := by
        rw [Dead, posted, told]
        exact dead
      rw [run_cons, induction next (inStep.step event), posted]

/-! ## A ring that is not dead -/

/-- If the doorbell will be written, the driver can take and tell everything. -/
theorem InStep.drain (inStep : system.InStep)
    (uneven : ¬ 2 * size ∣ system.posted.length) :
    ∃ events : List (Event Callback),
      (run System.step system events).posted = system.posted ∧
        (run System.step system events).told = system.posted.length := by
  generalize left : system.posted.length - system.consumed.length = count
  induction count generalizing system with
  | zero =>
      have least := inStep.consumed_le
      have ended : system.queue.round = none :=
        inStep.round_eq_none_iff.mpr (by omega)
      refine ⟨[.round], ?_⟩
      rw [run_cons, run_nil, step_round_of_none ended]
      refine ⟨rfl, ?_⟩
      rw [inStep.told_endCall ended, if_neg uneven]
  | succ count induction =>
      cases taken : system.queue.round with
      | none =>
          have all := inStep.round_eq_none_iff.mp taken
          omega
      | some result =>
          rcases result with ⟨cqe, queue⟩
          have next := inStep.round taken
          have fewer :
              system.posted.length - (system.consumed ++ [cqe]).length =
                count := by
            rw [List.length_append, List.length_singleton]
            omega
          rcases induction next uneven fewer with ⟨events, drained⟩
          refine ⟨.round :: events, ?_⟩
          rw [run_cons, step_round_of_some taken]
          exact drained

theorem InStep.canPost (inStep : system.InStep) (alive : ¬ system.Dead) :
    system.CanPost := by
  by_cases room : system.posted.length < system.told + size
  · refine ⟨[.post 0 0], ?_⟩
    show _ < (system.post 0 0).posted.length
    rw [post_of_room room, List.length_append]
    exact Nat.lt_succ_self _
  · have full : system.posted.length = system.told + size :=
      Nat.le_antisymm inStep.room (Nat.le_of_not_lt room)
    rcases inStep.drain fun even => alive ⟨full, even⟩ with
      ⟨events, posted, told⟩
    have again :
        (run System.step system events).posted.length <
          (run System.step system events).told + size := by
      rw [posted, told]
      exact Nat.lt_add_of_pos_right inStep.positive
    refine ⟨events ++ [.post 0 0], ?_⟩
    rw [run_append, run_cons, run_nil]
    show _ < (System.post _ 0 0).posted.length
    rw [post_of_room again, List.length_append, posted]
    exact Nat.lt_succ_self _

theorem InStep.canPost_iff_alive (inStep : system.InStep) :
    system.CanPost ↔ ¬ system.Dead := by
  constructor
  · rintro ⟨events, more⟩ dead
    rw [dead.run inStep events] at more
    exact Nat.lt_irrefl _ more
  · exact inStep.canPost

end Steps

section Reachable

variable
    {system : System size Callback}

/-- The device posts as many as there is room for. -/
theorem InStep.fill (inStep : system.InStep) (count : Nat)
    (room : system.posted.length + count ≤ system.told + size) :
    ∃ events : List (Event Callback),
      (run System.step system events).posted.length =
          system.posted.length + count ∧
        (run System.step system events).told = system.told := by
  induction count generalizing system with
  | zero => exact ⟨[], rfl, rfl⟩
  | succ count induction =>
      have next := inStep.post 0 0
      have roomForOne : system.posted.length < system.told + size := by
        omega
      have posted := post_of_room roomForOne 0 0
      have length :
          (system.post 0 0).posted.length = system.posted.length + 1 := by
        rw [posted, List.length_append, List.length_singleton]
      have told : (system.post 0 0).told = system.told := by
        rw [System.post]
        split <;> rfl
      rcases induction next (by rw [length, told]; omega) with
        ⟨events, filled, kept⟩
      refine ⟨.post 0 0 :: events, ?_, ?_⟩
      · rw [run_cons]
        exact filled.trans (by rw [length]; omega)
      · rw [run_cons]
        exact kept.trans told

/-- Completions that are processed one by one are announced for a while. -/
theorem InStep.alternate (inStep : system.InStep)
    (told : system.told = system.posted.length) (count : Nat)
    (before : system.posted.length + count < 2 * size) :
    ∃ events : List (Event Callback),
      (run System.step system events).posted.length =
          system.posted.length + count ∧
        (run System.step system events).told =
          system.posted.length + count := by
  induction count generalizing system with
  | zero => exact ⟨[], rfl, told⟩
  | succ count induction =>
      have positive := inStep.positive
      rcases inStep.fill 1 (by omega) with ⟨posts, posted, _⟩
      have filled := inStep.afterRun posts
      have uneven :
          ¬ 2 * size ∣ (run System.step system posts).posted.length := by
        rw [posted]
        exact Nat.not_dvd_of_pos_of_lt (Nat.succ_pos _) (by omega)
      rcases filled.drain uneven with ⟨rounds, kept, drained⟩
      have ready := filled.afterRun rounds
      rcases induction ready (by rw [drained, kept])
          (by rw [kept, posted]; omega) with
        ⟨others, length, announced⟩
      rw [kept, posted] at length announced
      refine ⟨posts ++ (rounds ++ others), ?_, ?_⟩
      · rw [run_append, run_append, length]
        omega
      · rw [run_append, run_append, announced]
        omega

end Reachable

/--
Every size of ring can get dead: the completions of one round are processed one
by one, and those of the next one together.
-/
theorem exists_dead
    {dmaAllocCoherent : (count : Nat) → Vector NvmeCompletion count}
    (cleared :
      ∀ count,
        dmaAllocCoherent count = Vector.replicate count clearedCompletion)
    (positive : 0 < size) :
    ∃ events : List (Event Callback),
      (run step (new dmaAllocCoherent positive : System size Callback)
        events).Dead := by
  have start :
      (new dmaAllocCoherent positive : System size Callback).InStep :=
    inStep_new cleared positive
  have none :
      (new dmaAllocCoherent positive :
        System size Callback).posted.length = 0 :=
    rfl
  rcases start.alternate rfl size (by rw [none]; omega) with
    ⟨first, posted, told⟩
  have halfway := start.afterRun first
  rcases halfway.fill size (by rw [posted, told]) with
    ⟨second, full, kept⟩
  refine ⟨first ++ second, ?_⟩
  rw [run_append, Dead, full, kept, posted, told, none]
  exact ⟨rfl, 1, by omega⟩

end System

end StorageAppliance.CppLegacy
