import StorageAppliance.Library.Dict
import StorageAppliance.Library.PhaseRing
import StorageAppliance.Library.Run

/-!
# Completion processing of the legacy driver

The completion half of a pair of queues in the driver for NVMe controllers
(`cpp-legacy/nvmedri.cpp`).  The device posts completions in a ring, each with a
phase bit that changes with every round.  `process_completions` takes those that
carry the expected phase, and then writes the head to the doorbell, which tells
the device what it can use again.

The device posts at any time, also between two rounds of the loop, but never
more than the ring holds beyond what the doorbell told it last.

Every completion is taken once and in order.  But the doorbell is not written
when the head is at the first slot in the first phase, whether or not anything
was taken, so that the device is not told about a call that ends there
(`process_completions_sound_iff`).

The submission ring, which completions do not read, and the latency of commands
are left out.
-/

namespace StorageAppliance.CppLegacy

open StorageAppliance.Library

/-! ## Queues -/

/-- The fields of a completion that the driver reads. -/
structure NvmeCompletion where
  commandId : UInt16
  status : UInt16
deriving DecidableEq

/-- The phase bit. -/
def NvmeCompletion.phase (cqe : NvmeCompletion) : Nat :=
  (cqe.status &&& 1).toNat

/-- A completion in memory that was cleared. -/
def clearedCompletion : NvmeCompletion where
  commandId := 0
  status := 0

/-- A command that was submitted, with its callback if it has one. -/
structure CommandContext (Callback : Type) where
  commandId : UInt16
  callback : Option Callback
deriving DecidableEq

/--
A pair of queues of a size.  The doorbell is the value that was written to it
last, and the invoked callbacks are listed with their completions.
-/
structure NVMeQueue (size : Nat) (Callback : Type) where
  cq : Vector NvmeCompletion size
  cqHead : Fin size
  cqPhase : Nat
  cqDoorbell : Option Nat := none
  pendingCommands : Dict UInt16 (CommandContext Callback) := Dict.empty
  nextCommandId : UInt16 := 0
  commandsSubmitted : Nat := 0
  commandsCompleted : Nat := 0
  invoked : List (Callback × NvmeCompletion) := []
deriving DecidableEq

namespace NVMeQueue

variable
    {size : Nat}
    {Callback : Type}

/-- The constructor, with the memory that is allocated for completions. -/
def new
    (dmaAllocCoherent : (count : Nat) → Vector NvmeCompletion count)
    (positive : 0 < size) : NVMeQueue size Callback where
  cq := dmaAllocCoherent size
  cqHead := ⟨0, positive⟩
  cqPhase := 1

variable
    (queue : NVMeQueue size Callback)

/-- Give a command an identifier and store its context. -/
def submitCommand (callback : Option Callback) :
    UInt16 × NVMeQueue size Callback :=
  let cid := queue.nextCommandId
  let next := cid + 1
  (cid,
    { queue with
      nextCommandId := if size ≤ next.toNat then 0 else next
      pendingCommands :=
        queue.pendingCommands.set cid
          { commandId := cid
            callback := callback }
      commandsSubmitted := queue.commandsSubmitted + 1 })

/-- Complete the pending command of a completion. -/
def complete (cqe : NvmeCompletion) : NVMeQueue size Callback :=
  match queue.pendingCommands.get? cqe.commandId with
  | none => queue
  | some context =>
      { queue with
        commandsCompleted := queue.commandsCompleted + 1
        invoked :=
          queue.invoked ++
            context.callback.toList.map fun callback => (callback, cqe)
        pendingCommands := queue.pendingCommands.erase cqe.commandId }

/-- Advance the head, and flip the phase at the wrap. -/
def advance : NVMeQueue size Callback :=
  let head := (queue.cqHead + 1) % size
  { queue with
    cqHead :=
      ⟨head, Nat.mod_lt _ (Nat.zero_lt_of_lt queue.cqHead.isLt)⟩
    cqPhase :=
      if head = 0 then
        if queue.cqPhase = 0 then 1 else 0
      else
        queue.cqPhase }

/-- One round of the loop, which ends without a new completion. -/
def round : Option (NvmeCompletion × NVMeQueue size Callback) :=
  let cqe := queue.cq[queue.cqHead]
  if cqe.phase ≠ queue.cqPhase then
    none
  else
    some (cqe, (queue.complete cqe).advance)

/-- The condition under which the doorbell is written. -/
def RingsDoorbell : Prop :=
  queue.cqHead.val ≠ 0 ∨ queue.cqPhase ≠ 1

instance decidableRingsDoorbell : Decidable queue.RingsDoorbell :=
  inferInstanceAs (Decidable (_ ∨ _))

def updateDoorbell : NVMeQueue size Callback :=
  if queue.RingsDoorbell then
    { queue with cqDoorbell := some queue.cqHead }
  else
    queue

/-- The loop, for a number of rounds, with the completions that it takes. -/
def rounds :
    Nat → NVMeQueue size Callback →
      Option (List NvmeCompletion × NVMeQueue size Callback)
  | 0, _ => none
  | more + 1, queue =>
      match queue.round with
      | none => some ([], queue)
      | some (cqe, next) =>
          (rounds more next).map fun (others, last) => (cqe :: others, last)

/-- Process completions, while the device posts none. -/
def processCompletions :
    Option (List NvmeCompletion × NVMeQueue size Callback) :=
  (queue.rounds (size + 1)).map fun (taken, last) =>
    (taken, last.updateDoorbell)

/-- Only the head, the phase and the memory decide what is taken. -/
@[simp]
theorem complete_cq (cqe : NvmeCompletion) :
    (queue.complete cqe).cq = queue.cq := by
  rw [complete]
  split <;> rfl

@[simp]
theorem complete_cqHead (cqe : NvmeCompletion) :
    (queue.complete cqe).cqHead = queue.cqHead := by
  rw [complete]
  split <;> rfl

@[simp]
theorem complete_cqPhase (cqe : NvmeCompletion) :
    (queue.complete cqe).cqPhase = queue.cqPhase := by
  rw [complete]
  split <;> rfl

/-- The doorbell changes nothing that the driver reads. -/
@[simp]
theorem updateDoorbell_cq : queue.updateDoorbell.cq = queue.cq := by
  rw [updateDoorbell]
  split <;> rfl

@[simp]
theorem updateDoorbell_cqHead :
    queue.updateDoorbell.cqHead = queue.cqHead := by
  rw [updateDoorbell]
  split <;> rfl

@[simp]
theorem updateDoorbell_cqPhase :
    queue.updateDoorbell.cqPhase = queue.cqPhase := by
  rw [updateDoorbell]
  split <;> rfl

end NVMeQueue

/-! ## The device and the driver -/

/--
A pair of queues with what happened to it: the completions that were posted and
those that were taken, how many of these the device was told of, and how many
belong to the call that is running.
-/
structure System (size : Nat) (Callback : Type) where
  queue : NVMeQueue size Callback
  posted : List NvmeCompletion := []
  consumed : List NvmeCompletion := []
  told : Nat := 0
  taken : Nat := 0
deriving DecidableEq

/--
What happens: the device posts a completion with a status of 15 bits, a command
is submitted, or a call of `process_completions` makes its next round, which is
the first one if no call is running.
-/
inductive Event (Callback : Type) where
  | post (commandId : UInt16) (code : Fin (2 ^ 15))
  | submit (callback : Option Callback)
  | round

namespace System

variable
    {size : Nat}
    {Callback : Type}

/-- The completion that the device posts next, with its phase. -/
def nextCompletion (system : System size Callback) (commandId : UInt16)
    (code : Fin (2 ^ 15)) : NvmeCompletion where
  commandId := commandId
  status := UInt16.ofNat (2 * code + phaseTag size system.posted.length)

/-- Post a completion, if the ring has room as far as the device was told. -/
def post (system : System size Callback) (commandId : UInt16)
    (code : Fin (2 ^ 15)) : System size Callback :=
  if system.posted.length < system.told + size then
    let cqe := system.nextCompletion commandId code
    { system with
      queue :=
        { system.queue with
          cq :=
            system.queue.cq.setIfInBounds (system.posted.length % size)
              cqe }
      posted := system.posted ++ [cqe] }
  else
    system

/-- The end of a call. -/
def endCall (system : System size Callback) : System size Callback :=
  { system with
    queue := system.queue.updateDoorbell
    told :=
      if system.queue.RingsDoorbell then
        system.consumed.length
      else
        system.told
    taken := 0 }

def step (system : System size Callback) :
    Event Callback → System size Callback
  | .post commandId code => system.post commandId code
  | .submit callback =>
      { system with queue := (system.queue.submitCommand callback).2 }
  | .round =>
      match system.queue.round with
      | none => system.endCall
      | some (cqe, queue) =>
          { system with
            queue := queue
            consumed := system.consumed ++ [cqe]
            taken := system.taken + 1 }

/-- A new pair of queues. -/
def new
    (dmaAllocCoherent : (count : Nat) → Vector NvmeCompletion count)
    (positive : 0 < size) : System size Callback where
  queue := .new dmaAllocCoherent positive

/-! ## Being in step -/

/--
The driver is in step with the device: the memory is the ring of what was
posted, the head and the phase are those of the next completion, and the device
knows of no more than was taken.
-/
structure InStep (system : System size Callback) : Prop where
  memory :
    system.queue.cq.toList =
      ringMemory clearedCompletion size system.posted
  tagged :
    ∀ number cqe,
      system.posted[number]? = some cqe → cqe.phase = phaseTag size number
  head : system.queue.cqHead.val = system.consumed.length % size
  phase : system.queue.cqPhase = phaseTag size system.consumed.length
  ordered : system.consumed <+: system.posted
  told : system.told + system.taken ≤ system.consumed.length
  room : system.posted.length ≤ system.told + size

theorem phase_nextCompletion
    (system : System size Callback) (commandId : UInt16)
    (code : Fin (2 ^ 15)) :
    (system.nextCompletion commandId code).phase =
      phaseTag size system.posted.length := by
  have bound : phaseTag size system.posted.length < 2 :=
    Nat.mod_lt _ (by decide)
  have small := code.isLt
  have one : (1 : UInt16).toNat = 1 := rfl
  rw [NvmeCompletion.phase, nextCompletion, UInt16.toNat_and, one,
    Nat.and_one_is_mod, UInt16.toNat_ofNat']
  omega

/-- A new pair of queues is in step, if memory is allocated cleared. -/
theorem inStep_new
    {dmaAllocCoherent : (count : Nat) → Vector NvmeCompletion count}
    (cleared :
      ∀ count,
        dmaAllocCoherent count = Vector.replicate count clearedCompletion)
    (positive : 0 < size) :
    (new dmaAllocCoherent positive : System size Callback).InStep where
  memory := by
    show (dmaAllocCoherent size).toList = _
    rw [cleared, Vector.toList_replicate, new, ringMemory_nil]
  tagged := by
    intro number cqe absent
    cases absent
  head := (Nat.zero_mod size).symm
  phase := (phaseTag_zero size).symm
  ordered := List.nil_prefix
  told := Nat.le_refl 0
  room := Nat.zero_le _

section Steps

variable
    {system : System size Callback}

namespace InStep

theorem positive (_inStep : system.InStep) : 0 < size :=
  Nat.zero_lt_of_lt system.queue.cqHead.isLt

theorem consumed_le (inStep : system.InStep) :
    system.consumed.length ≤ system.posted.length :=
  inStep.ordered.length_le

/-- Even at a full ring the device is at most one round ahead. -/
theorem near (inStep : system.InStep) :
    system.posted.length ≤ system.consumed.length + size := by
  have told := inStep.told
  have room := inStep.room
  omega

/-- What the driver sees at the head. -/
theorem seen (inStep : system.InStep) :
    (ringMemory clearedCompletion size
        system.posted)[system.consumed.length % size]? =
      some system.queue.cq[system.queue.cqHead] := by
  rw [← inStep.memory, ← inStep.head, Vector.getElem?_toList]
  exact Vector.getElem?_eq_getElem system.queue.cqHead.isLt

/-- The loop goes on exactly if a posted completion was not taken. -/
theorem phase_iff (inStep : system.InStep) :
    system.queue.cq[system.queue.cqHead].phase = system.queue.cqPhase ↔
      system.consumed.length < system.posted.length := by
  rw [inStep.phase]
  exact
    tag_ringMemory_iff inStep.positive (by decide) inStep.tagged
      inStep.consumed_le inStep.near inStep.seen

theorem round_eq_none_iff (inStep : system.InStep) :
    system.queue.round = none ↔
      system.consumed.length = system.posted.length := by
  have least := inStep.consumed_le
  rw [NVMeQueue.round]
  by_cases more : system.consumed.length < system.posted.length
  · rw [if_neg (not_not_intro (inStep.phase_iff.mpr more))]
    exact iff_of_false (Option.some_ne_none _) more.ne
  · rw [if_pos (mt inStep.phase_iff.mp more)]
    exact iff_of_true rfl (by omega)

/-- A round takes the first of the completions that were not taken. -/
theorem round_some
    (inStep : system.InStep) {cqe : NvmeCompletion}
    {queue : NVMeQueue size Callback}
    (taken : system.queue.round = some (cqe, queue)) :
    system.posted[system.consumed.length]? = some cqe ∧
      queue = (system.queue.complete cqe).advance := by
  rw [NVMeQueue.round] at taken
  split at taken
  · cases taken
  · rename_i fresh
    have more := inStep.phase_iff.mp (not_not.mp fresh)
    cases taken
    refine ⟨?_, rfl⟩
    rw [← inStep.seen,
      ringMemory_posted inStep.positive more inStep.near]

theorem post (inStep : system.InStep) (commandId : UInt16)
    (code : Fin (2 ^ 15)) : (system.post commandId code).InStep := by
  rw [System.post]
  split
  · rename_i room
    refine
      { memory := ?_
        tagged := ?_
        head := inStep.head
        phase := inStep.phase
        ordered := inStep.ordered.trans (List.prefix_append _ _)
        told := inStep.told
        room := ?_ }
    · show
        (system.queue.cq.setIfInBounds _ _).toList =
          ringMemory clearedCompletion size (system.posted ++ [_])
      rw [ringMemory_concat, Vector.toList_setIfInBounds, inStep.memory]
    · intro number cqe found
      by_cases last : number < system.posted.length
      · rw [List.getElem?_append_left last] at found
        exact inStep.tagged number cqe found
      · rw [List.getElem?_append_right (Nat.le_of_not_lt last),
          List.getElem?_singleton] at found
        split at found
        · rename_i first
          cases found
          have same : number = system.posted.length := by
            omega
          rw [same]
          exact system.phase_nextCompletion commandId code
        · cases found
    · rw [List.length_append, List.length_singleton]
      exact room
  · exact inStep

theorem round (inStep : system.InStep) {cqe : NvmeCompletion}
    {queue : NVMeQueue size Callback}
    (taken : system.queue.round = some (cqe, queue)) :
    ({ system with
        queue := queue
        consumed := system.consumed ++ [cqe]
        taken := system.taken + 1 } : System size Callback).InStep := by
  rcases inStep.round_some taken with ⟨found, rfl⟩
  have length :
      (system.consumed ++ [cqe]).length = system.consumed.length + 1 :=
    List.length_append
  have head :
      (system.queue.cqHead.val + 1) % size =
        (system.consumed.length + 1) % size := by
    rw [inStep.head, Nat.mod_add_mod]
  refine
    { memory := ?_
      tagged := inStep.tagged
      head := ?_
      phase := ?_
      ordered := ?_
      told := ?_
      room := inStep.room }
  · show (system.queue.complete cqe).cq.toList = _
    rw [NVMeQueue.complete_cq, inStep.memory]
  · show ((system.queue.complete cqe).cqHead.val + 1) % size = _
    rw [NVMeQueue.complete_cqHead, length, head]
  · show
      (if ((system.queue.complete cqe).cqHead.val + 1) % size = 0 then
          if (system.queue.complete cqe).cqPhase = 0 then 1 else 0
        else
          (system.queue.complete cqe).cqPhase) =
        _
    rw [NVMeQueue.complete_cqHead, NVMeQueue.complete_cqPhase, length, head,
      phaseTag_succ, inStep.phase]
  · rcases inStep.ordered with ⟨rest, posted⟩
    rw [← posted, List.getElem?_append_right (Nat.le_refl _),
      Nat.sub_self] at found
    cases rest with
    | nil => cases found
    | cons first others =>
        cases found
        exact ⟨others, by rw [← posted, List.append_assoc]; rfl⟩
  · have told := inStep.told
    show system.told + (system.taken + 1) ≤ _
    rw [length]
    omega

theorem endCall (inStep : system.InStep) : system.endCall.InStep := by
  have told := inStep.told
  have room := inStep.room
  have least := inStep.consumed_le
  refine
    { memory := ?_
      tagged := inStep.tagged
      head := ?_
      phase := ?_
      ordered := inStep.ordered
      told := ?_
      room := ?_ }
  · show system.queue.updateDoorbell.cq.toList = _
    rw [NVMeQueue.updateDoorbell_cq]
    exact inStep.memory
  · show system.queue.updateDoorbell.cqHead.val = _
    rw [NVMeQueue.updateDoorbell_cqHead]
    exact inStep.head
  · show system.queue.updateDoorbell.cqPhase = _
    rw [NVMeQueue.updateDoorbell_cqPhase]
    exact inStep.phase
  · show
      (if system.queue.RingsDoorbell then
            system.consumed.length
          else
            system.told) + 0 ≤
        system.consumed.length
    split <;> omega
  · show
      system.posted.length ≤
        (if system.queue.RingsDoorbell then
            system.consumed.length
          else
            system.told) + size
    split <;> omega

/-- Every event keeps the driver in step. -/
theorem step (inStep : system.InStep) (event : Event Callback) :
    (system.step event).InStep := by
  cases event with
  | post commandId code => exact inStep.post commandId code
  | submit callback =>
      exact
        ⟨inStep.memory, inStep.tagged, inStep.head, inStep.phase,
          inStep.ordered, inStep.told, inStep.room⟩
  | round =>
      rw [System.step]
      split
      · exact inStep.endCall
      · rename_i cqe queue taken
        exact inStep.round taken

end InStep

/-! ## Whole calls -/

/-- The completions that a call still takes. -/
def remaining (system : System size Callback) : List NvmeCompletion :=
  system.posted.drop system.consumed.length

/-- As many rounds as there are completions left, and one more, are a call. -/
theorem InStep.rounds
    (inStep : system.InStep) {fuel : Nat}
    (enough : system.remaining.length < fuel) :
    ∃ last,
      system.queue.rounds fuel = some (system.remaining, last) ∧
        (run System.step system
            (List.replicate (system.remaining.length + 1) .round)).queue =
          last.updateDoorbell := by
  induction fuel generalizing system with
  | zero => exact absurd enough (Nat.not_lt_zero _)
  | succ fuel induction =>
      cases taken : system.queue.round with
      | none =>
          have all := inStep.round_eq_none_iff.mp taken
          have none : system.remaining = [] :=
            List.drop_of_length_le all.symm.le
          refine ⟨system.queue, ?_, ?_⟩
          · rw [NVMeQueue.rounds, taken, none]
          · rw [none]
            show (system.step .round).queue = _
            rw [System.step, taken]
            rfl
      | some result =>
          rcases result with ⟨cqe, queue⟩
          have found := (inStep.round_some taken).1
          have next := inStep.round taken
          have first :
              system.remaining =
                cqe :: system.posted.drop (system.consumed.length + 1) := by
            rw [remaining]
            exact List.drop_eq_getElem?_toList_append.trans (by rw [found]; rfl)
          have length :
              (system.consumed ++ [cqe]).length =
                system.consumed.length + 1 :=
            List.length_append
          have fewer :
              remaining
                  ({ system with
                    queue := queue
                    consumed := system.consumed ++ [cqe]
                    taken := system.taken + 1 } : System size Callback) =
                system.posted.drop (system.consumed.length + 1) := by
            rw [remaining, length]
          rw [first, List.length_cons] at enough
          rcases induction next (by rw [fewer]; omega) with
            ⟨last, rounds, ended⟩
          rw [fewer] at rounds ended
          refine ⟨last, ?_, ?_⟩
          · rw [NVMeQueue.rounds, taken, first]
            simp only [rounds, Option.map_some]
          · rw [first, List.length_cons, List.replicate_succ, run_cons,
              System.step, taken]
            exact ended

/--
A call without postings in between ends, takes what was posted and not taken
before, and does what its rounds do.
-/
theorem InStep.processCompletions (inStep : system.InStep) :
    ∃ last,
      system.queue.processCompletions = some (system.remaining, last) ∧
        (run System.step system
            (List.replicate (system.remaining.length + 1) .round)).queue =
          last := by
  have near := inStep.near
  have enough : system.remaining.length < size + 1 := by
    rw [remaining, List.length_drop]
    omega
  rcases inStep.rounds enough with ⟨last, rounds, ended⟩
  refine ⟨last.updateDoorbell, ?_, ended⟩
  rw [NVMeQueue.processCompletions, rounds]
  rfl

end Steps

/-! ## What the device is told -/

/--
What an event is to keep: the completions are taken in the order of their
postings, a call that ends has taken all of them, and if it took any the doorbell
has the head.
-/
structure Sound (system : System size Callback) (event : Event Callback) :
    Prop where
  ordered : (system.step event).consumed <+: (system.step event).posted
  complete :
    event = .round →
      system.queue.round = none → system.consumed = system.posted
  doorbell :
    event = .round →
      system.queue.round = none →
        system.taken ≠ 0 →
          (system.step event).queue.cqDoorbell =
            some (system.step event).queue.cqHead.val

/--
A call that took completions and now finds no more does not end after an even
number of rounds through the ring, or the doorbell has the first slot already.
-/
def Announced (system : System size Callback) : Event Callback → Prop
  | .round =>
      system.taken ≠ 0 →
        system.consumed.length = system.posted.length →
          ¬ 2 * size ∣ system.posted.length ∨
            system.queue.cqDoorbell = some 0
  | _ => True

instance decidableAnnounced (system : System size Callback) :
    ∀ event, Decidable (system.Announced event)
  | .post _ _ => isTrue trivial
  | .submit _ => isTrue trivial
  | .round => inferInstanceAs (Decidable (_ → _ → _ ∨ _))

section Doorbell

variable
    {system : System size Callback}

/-- At the end of a call the doorbell is skipped after even rounds. -/
theorem InStep.ringsDoorbell_iff (inStep : system.InStep) :
    system.queue.RingsDoorbell ↔ ¬ 2 * size ∣ system.consumed.length := by
  rw [← first_slot_iff inStep.positive, ← inStep.head, ← inStep.phase,
    not_and_or]
  exact Iff.rfl

/-- The doorbell has the head after a call if it was written, or had it. -/
theorem InStep.doorbell_iff (inStep : system.InStep) :
    system.queue.updateDoorbell.cqDoorbell =
        some system.queue.updateDoorbell.cqHead.val ↔
      ¬ 2 * size ∣ system.consumed.length ∨
        system.queue.cqDoorbell = some 0 := by
  have rings := inStep.ringsDoorbell_iff
  by_cases even : 2 * size ∣ system.consumed.length
  · have silent : ¬ system.queue.RingsDoorbell :=
      fun written => rings.mp written even
    have first : system.queue.cqHead.val = 0 := by
      rw [inStep.head]
      exact ((first_slot_iff inStep.positive).mpr even).1
    rw [NVMeQueue.updateDoorbell, if_neg silent, first]
    exact (or_iff_right (not_not_intro even)).symm
  · rw [NVMeQueue.updateDoorbell, if_pos (rings.mpr even)]
    exact iff_of_true rfl (Or.inl even)

theorem InStep.sound_iff_announced
    (inStep : system.InStep) (event : Event Callback) :
    system.Sound event ↔ system.Announced event := by
  have ordered := (inStep.step event).ordered
  have all :
      system.queue.round = none → system.consumed = system.posted := by
    intro ended
    exact inStep.ordered.eq_of_length (inStep.round_eq_none_iff.mp ended)
  have doorbell :
      system.queue.round = none →
        ((system.step .round).queue.cqDoorbell =
            some (system.step .round).queue.cqHead.val ↔
          ¬ 2 * size ∣ system.posted.length ∨
            system.queue.cqDoorbell = some 0) := by
    intro ended
    rw [← all ended, ← inStep.doorbell_iff, System.step, ended]
    rfl
  constructor
  · intro sound
    cases event with
    | post commandId code => trivial
    | submit callback => trivial
    | round =>
        intro took found
        have ended := inStep.round_eq_none_iff.mpr found
        exact (doorbell ended).mp (sound.doorbell rfl ended took)
  · intro announced
    refine ⟨ordered, fun _ => all, ?_⟩
    rintro rfl ended took
    exact
      (doorbell ended).mpr
        (announced took (inStep.round_eq_none_iff.mp ended))

end Doorbell

/-- The two conditions agree in every run of a driver that is in step. -/
theorem InStep.allSteps_announced_iff
    {system : System size Callback} (inStep : system.InStep)
    (events : List (Event Callback)) :
    AllSteps System.step Sound system events ↔
      AllSteps System.step Announced system events := by
  have keeps :
      ∀ (system : System size Callback) event,
        system.InStep → (system.step event).InStep :=
    fun _ event inStep => inStep.step event
  have agree :
      ∀ (system : System size Callback) event,
        system.InStep → (system.Sound event ↔ system.Announced event) :=
    fun _ event inStep => inStep.sound_iff_announced event
  exact allSteps_iff_of_invariant keeps agree events inStep

/--
In a run of a new pair of queues each completion is taken once and in order, and
every call that takes any tells the device its head, exactly if no such call ends
when a multiple of twice the size was posted, unless the doorbell has the first
slot already.
-/
theorem process_completions_sound_iff
    {dmaAllocCoherent : (count : Nat) → Vector NvmeCompletion count}
    (cleared :
      ∀ count,
        dmaAllocCoherent count = Vector.replicate count clearedCompletion)
    {size : Nat} (atLeastTwo : 2 ≤ size)
    (events : List (Event Callback)) :
    AllSteps step Sound
        (new dmaAllocCoherent (Nat.zero_lt_of_lt atLeastTwo) :
          System size Callback) events ↔
      AllSteps step Announced
        (new dmaAllocCoherent (Nat.zero_lt_of_lt atLeastTwo) :
          System size Callback) events :=
  (inStep_new cleared _).allSteps_announced_iff events

/-- Memory as the kernel allocates it. -/
def clearedMemory (count : Nat) : Vector NvmeCompletion count :=
  Vector.replicate count clearedCompletion

/-- Two slots. -/
def twoSlots : System 2 Unit :=
  new clearedMemory (Nat.zero_lt_of_lt (Nat.le_refl 2))

/-- The device posts a completion, and a call takes it. -/
def postAndProcess (commandId : UInt16) : List (Event Unit) :=
  [.post commandId 0, .round, .round]

/-- Three completions that are taken one by one are announced. -/
theorem process_completions_threeCalls :
    AllSteps step Sound twoSlots
      ([0, 1, 2].flatMap postAndProcess) :=
  (process_completions_sound_iff (fun _ => rfl) (Nat.le_refl 2) _).mpr
    (by decide)

/--
The fourth ends in the first slot and the first phase: the head is 0, but the
doorbell is not written and still has 1.
-/
theorem process_completions_fourCalls_silent :
    let after := run step twoSlots ([0, 1, 2, 3].flatMap postAndProcess)
    after.consumed = after.posted ∧
      after.queue.cqHead.val = 0 ∧
      after.queue.cqDoorbell = some 1 ∧
      ¬ AllSteps step Sound twoSlots
          ([0, 1, 2, 3].flatMap postAndProcess) := by
  have inStep : twoSlots.InStep := inStep_new (fun _ => rfl) _
  refine ⟨by decide, by decide, by decide, ?_⟩
  rw [inStep.allSteps_announced_iff]
  decide

end System

end StorageAppliance.CppLegacy
