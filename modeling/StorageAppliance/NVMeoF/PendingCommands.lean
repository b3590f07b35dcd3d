import Mathlib.Data.List.Perm.Basic
import StorageAppliance.Library.Run
import StorageAppliance.Library.Tickets
import StorageAppliance.NVMeoF.Initiator

/-!
# Pending commands of a queue

Any number of callers share an I/O queue.  `SubmitCommand` takes an identifier
under one lock, stores the command under another, sends it and counts it;
`HandleCompletion` removes the command that a completion names and counts it.
Between these steps other calls take theirs.  A caller whose context ends
returns without touching the queue.

The identifier is a counter of 16 bits and the size of the queue is never looked
at.  An identifier is given twice exactly if a command is still there after a
multiple of 65536 submissions, and the queue overflows exactly if a command is
stored in a full one (`allSteps_sound_iff`).  Otherwise the two counters account
for what is pending.
-/

namespace StorageAppliance.NVMeoF

open StorageAppliance.Go
open StorageAppliance.Library

/-! ## The parts of a call -/

structure IOQueue extends CommandQueue where
  size : UInt16
  commandsSubmitted : UInt64 := 0
  commandsCompleted : UInt64 := 0
deriving DecidableEq

namespace CommandQueue

variable (queue : CommandQueue)

/-- What `SubmitCommand` does under `commandsMu`. -/
def assignId : UInt16 × CommandQueue :=
  let cid := queue.nextCmdId
  (cid, { queue with nextCmdId := cid + 1 })

/-- What `SubmitCommand` does under `pendingMu`. -/
def storePending (pending : PendingCommand) : CommandQueue :=
  { queue with pending := queue.pending.set pending.commandId pending }

/-- A submission takes an identifier and stores its command. -/
theorem submitCommand_eq
    (cmd : NVMeCommand) (data : Bytes) (callback : Nat) :
    queue.submitCommand cmd data callback =
      ({ command := { cmd with commandId := queue.assignId.1 }
         data := data },
        queue.assignId.2.storePending
          { commandId := queue.assignId.1
            callback := callback
            dataBuffer := data }) :=
  rfl

end CommandQueue

/--
A queue with the calls in progress: commands that have an identifier and are not
stored, the number of stored commands that are not counted, and the number of
removed commands that are not counted.  Submissions are numbered, and the number
stands for the callback.
-/
structure QueueCalls where
  queue : IOQueue
  issued : Nat := 0
  assigned : List PendingCommand := []
  sending : Nat := 0
  completing : Nat := 0
deriving DecidableEq

inductive QueueStep where
  | assign (data : Bytes)
  | store (place : Nat)
  | count
  | complete (completion : NVMeCompletion)
  | countCompleted
  | cancel
deriving DecidableEq

namespace QueueCalls

variable (calls : QueueCalls)

/-- The next submission takes its identifier. -/
def assign (data : Bytes) : QueueCalls :=
  let (cid, commands) := calls.queue.assignId
  { calls with
    queue := { calls.queue with toCommandQueue := commands }
    issued := calls.issued + 1
    assigned :=
      calls.assigned ++
        [{ commandId := cid
           callback := calls.issued
           dataBuffer := data }] }

/-- A submission stores its command, which is then sent. -/
def store (place : Nat) : QueueCalls :=
  match calls.assigned[place]? with
  | none => calls
  | some pending =>
      { calls with
        queue :=
          { calls.queue with
            toCommandQueue := calls.queue.storePending pending }
        assigned := calls.assigned.eraseIdx place
        sending := calls.sending + 1 }

/-- A submission that was sent is counted. -/
def count : QueueCalls :=
  match calls.sending with
  | 0 => calls
  | sending + 1 =>
      { calls with
        queue :=
          { calls.queue with
            commandsSubmitted := calls.queue.commandsSubmitted + 1 }
        sending := sending }

/-- A completion removes the command that it names. -/
def complete (completion : NVMeCompletion) : QueueCalls :=
  match calls.queue.handleCompletion completion with
  | (none, _) => calls
  | (some _, commands) =>
      { calls with
        queue := { calls.queue with toCommandQueue := commands }
        completing := calls.completing + 1 }

/-- A completion whose command was removed is counted. -/
def countCompleted : QueueCalls :=
  match calls.completing with
  | 0 => calls
  | completing + 1 =>
      { calls with
        queue :=
          { calls.queue with
            commandsCompleted := calls.queue.commandsCompleted + 1 }
        completing := completing }

/-- One step of one call; a cancelled caller only stops waiting. -/
def step : QueueStep → QueueCalls
  | .assign data => calls.assign data
  | .store place => calls.store place
  | .count => calls.count
  | .complete completion => calls.complete completion
  | .countCompleted => calls.countCompleted
  | .cancel => calls

/-- A queue of `createIOQueues`, before any call. -/
def created (qid size : UInt16) : QueueCalls where
  queue := { qid := qid, size := size }

/-! ## What the identifiers and counters have to do -/

/-- The commands that have an identifier and no completion. -/
def live : List PendingCommand :=
  calls.assigned ++ calls.queue.pending.values

/-- The number of entries in `pending`. -/
def pendingCount : Nat :=
  calls.queue.pending.values.length

/-- No call is in progress. -/
def Quiet : Prop :=
  calls.assigned = [] ∧ calls.sending = 0 ∧ calls.completing = 0

instance : Decidable calls.Quiet :=
  inferInstanceAs (Decidable (_ ∧ _ ∧ _))

/-- An identifier that is taken belongs to no live command. -/
def FreshId : QueueStep → Prop
  | .assign _ =>
      ∀ command ∈ calls.live, calls.queue.assignId.1 ≠ command.commandId
  | _ => True

/-- No more commands are pending than the size of the queue. -/
def WithinSize : Prop :=
  calls.pendingCount ≤ calls.queue.size.toNat

/-- Without calls in progress the counters differ by what is pending. -/
def Accounted : Prop :=
  calls.Quiet →
    calls.queue.commandsSubmitted - calls.queue.commandsCompleted =
      UInt64.ofNat calls.pendingCount

/-- What a step has to do. -/
def Sound (input : QueueStep) : Prop :=
  calls.FreshId input ∧
    (calls.step input).WithinSize ∧ (calls.step input).Accounted

/--
The condition on a step: no live command is a multiple of 65536 submissions old
when the next takes its identifier, and no command is stored in a full queue.
-/
def Proper : QueueStep → Prop
  | .assign _ =>
      ∀ command ∈ calls.live,
        (calls.issued - command.callback) % 65536 ≠ 0
  | .store place =>
      place < calls.assigned.length →
        calls.pendingCount < calls.queue.size.toNat
  | _ => True

/-! ## The effect of a step -/

theorem store_of_absent
    {calls : QueueCalls} {place : Nat}
    (absent : calls.assigned[place]? = none) :
    calls.store place = calls := by
  simp only [store, absent]

theorem store_of_get
    {calls : QueueCalls} {place : Nat} {pending : PendingCommand}
    (found : calls.assigned[place]? = some pending) :
    calls.store place =
      { calls with
        queue :=
          { calls.queue with
            pending :=
              calls.queue.pending.set pending.commandId pending }
        assigned := calls.assigned.eraseIdx place
        sending := calls.sending + 1 } := by
  simp only [store, found]
  rfl

theorem complete_of_absent
    {calls : QueueCalls} {completion : NVMeCompletion}
    (absent : calls.queue.pending.get? completion.commandId = none) :
    calls.complete completion = calls := by
  simp only [complete, CommandQueue.handleCompletion, absent]

theorem complete_of_get
    {calls : QueueCalls} {completion : NVMeCompletion}
    {pending : PendingCommand}
    (found :
      calls.queue.pending.get? completion.commandId = some pending) :
    calls.complete completion =
      { calls with
        queue :=
          { calls.queue with
            pending :=
              calls.queue.pending.erase completion.commandId }
        completing := calls.completing + 1 } := by
  simp only [complete, CommandQueue.handleCompletion, found]

/-- A submission that nothing interrupts is one `submitCommand`. -/
theorem store_assign
    (alone : calls.assigned = []) (cmd : NVMeCommand) (data : Bytes) :
    ((calls.assign data).store 0).queue.toCommandQueue =
      (calls.queue.submitCommand cmd data calls.issued).2 := by
  have found :
      (calls.assign data).assigned[0]? =
        some
          { commandId := calls.queue.assignId.1
            callback := calls.issued
            dataBuffer := data } := by
    simp only [assign, alone, List.nil_append, List.getElem?_cons_zero]
  rw [store_of_get found, CommandQueue.submitCommand_eq]
  rfl

/-- A submission adds its command to the live ones. -/
theorem live_assign (data : Bytes) :
    (calls.assign data).live.Perm
      ({ commandId := calls.queue.nextCmdId
         callback := calls.issued
         dataBuffer := data } :: calls.live) := by
  show
    ((calls.assigned ++ [_]) ++ calls.queue.pending.values).Perm
      (_ :: (calls.assigned ++ calls.queue.pending.values))
  rw [List.append_assoc]
  exact List.perm_middle

/-- Storing a command under a free identifier keeps the live commands. -/
theorem live_store
    {calls : QueueCalls} {place : Nat} {pending : PendingCommand}
    (found : calls.assigned[place]? = some pending)
    (free : calls.queue.pending.get? pending.commandId = none) :
    (calls.store place).live.Perm calls.live := by
  rw [store_of_get found]
  obtain ⟨within, rfl⟩ := List.getElem?_eq_some_iff.mp found
  have added := Dict.values_set_perm_of_absent calls.assigned[place] free
  have taken := List.getElem_cons_eraseIdx_perm within
  calc
    (calls.assigned.eraseIdx place ++
          (calls.queue.pending.set _ calls.assigned[place]).values).Perm
        (calls.assigned.eraseIdx place ++
          calls.assigned[place] :: calls.queue.pending.values) :=
      added.append_left _
    List.Perm _
        ((calls.assigned[place] :: calls.assigned.eraseIdx place) ++
          calls.queue.pending.values) :=
      List.perm_middle
    List.Perm _ (calls.assigned ++ calls.queue.pending.values) :=
      taken.append_right _

/-- A completion takes its command from the live ones. -/
theorem live_complete
    {calls : QueueCalls} {completion : NVMeCompletion}
    {pending : PendingCommand}
    (found :
      calls.queue.pending.get? completion.commandId = some pending) :
    calls.live.Perm (pending :: (calls.complete completion).live) := by
  rw [complete_of_get found]
  exact
    ((Dict.values_perm_erase found).append_left _).trans List.perm_middle

/-! ## Identifiers and counters -/

/-- The identifier of a live command tells its submission. -/
structure Numbered : Prop where
  next : calls.queue.nextCmdId = ticket 0 calls.issued
  earlier : ∀ command ∈ calls.live, command.callback < calls.issued
  named :
    ∀ command ∈ calls.live,
      command.commandId = ticket 0 command.callback
  distinct : (calls.live.map PendingCommand.commandId).Nodup
  keyed :
    ∀ commandId command,
      calls.queue.pending.get? commandId = some command →
        command.commandId = commandId

/-- The counters account for what is pending and what is not yet counted. -/
def Balanced : Prop :=
  calls.queue.commandsSubmitted + UInt64.ofNat calls.sending =
    calls.queue.commandsCompleted + UInt64.ofNat calls.completing +
      UInt64.ofNat calls.pendingCount

structure Invariant : Prop where
  numbered : calls.Numbered
  balanced : calls.Balanced
  within : calls.WithinSize

theorem created_invariant (qid size : UInt16) :
    (created qid size).Invariant where
  numbered :=
    { next := rfl
      earlier := by
        intro command member
        cases member
      named := by
        intro command member
        cases member
      distinct := List.nodup_nil
      keyed := by
        intro commandId command found
        cases found }
  balanced := rfl
  within := Nat.zero_le _

theorem Numbered.freshId_iff
    {calls : QueueCalls}
    (numbered : calls.Numbered) (data : Bytes) :
    calls.FreshId (.assign data) ↔ calls.Proper (.assign data) := by
  show
    (∀ command ∈ calls.live, calls.queue.nextCmdId ≠ command.commandId) ↔
      ∀ command ∈ calls.live,
        (calls.issued - command.callback) % 65536 ≠ 0
  apply forall₂_congr
  intro command member
  rw [numbered.next, numbered.named command member]
  exact not_congr
    (ticket_eq_ticket_iff (numbered.earlier command member).le)

/-- A command that waits to be stored finds its identifier free. -/
theorem Numbered.free
    {calls : QueueCalls}
    (numbered : calls.Numbered) {place : Nat} {pending : PendingCommand}
    (found : calls.assigned[place]? = some pending) :
    calls.queue.pending.get? pending.commandId = none := by
  rcases stored : calls.queue.pending.get? pending.commandId with
    _ | other
  · rfl
  · have apart := numbered.distinct
    rw [live, List.map_append, List.nodup_append] at apart
    have waiting :
        pending.commandId ∈
          calls.assigned.map PendingCommand.commandId :=
      List.mem_map_of_mem (List.mem_of_getElem? found)
    have listed :
        other.commandId ∈
          calls.queue.pending.values.map PendingCommand.commandId :=
      List.mem_map_of_mem (Dict.mem_values_iff.mpr ⟨_, stored⟩)
    rw [numbered.keyed _ other stored] at listed
    exact absurd rfl (apart.2.2 _ waiting _ listed)

/-- Under the invariant a quiet queue is accounted for. -/
theorem Balanced.accounted
    {calls : QueueCalls}
    (balanced : calls.Balanced) :
    calls.Accounted := by
  rintro ⟨-, sending, completing⟩
  unfold Balanced at balanced
  rw [sending, completing] at balanced
  have sum :
      calls.queue.commandsSubmitted =
        calls.queue.commandsCompleted + UInt64.ofNat calls.pendingCount := by
    simpa using balanced
  rw [sum, UInt64.add_comm]
  exact UInt64.add_sub_cancel _ _

/-! ## One step -/

theorem Invariant.assign
    {calls : QueueCalls}
    (invariant : calls.Invariant) {data : Bytes}
    (fresh : calls.FreshId (.assign data)) :
    (calls.assign data).Invariant where
  numbered :=
    { next := by
        show calls.queue.nextCmdId + 1 = ticket 0 (calls.issued + 1)
        rw [invariant.numbered.next, ticket_succ]
      earlier := by
        intro command member
        rcases List.mem_cons.mp ((live_assign calls data).mem_iff.mp member)
          with rfl | older
        · exact Nat.lt_succ_self _
        · exact
            Nat.lt_succ_of_lt
              (invariant.numbered.earlier command older)
      named := by
        intro command member
        rcases List.mem_cons.mp ((live_assign calls data).mem_iff.mp member)
          with rfl | older
        · exact invariant.numbered.next
        · exact invariant.numbered.named command older
      distinct := by
        have added := (live_assign calls data).map PendingCommand.commandId
        apply added.nodup_iff.mpr
        rw [List.map_cons, List.nodup_cons]
        refine ⟨?_, invariant.numbered.distinct⟩
        intro taken
        obtain ⟨command, member, same⟩ := List.mem_map.mp taken
        exact fresh command member same.symm
      keyed := invariant.numbered.keyed }
  balanced := invariant.balanced
  within := invariant.within

theorem pendingCount_store
    {calls : QueueCalls}
    (numbered : calls.Numbered) {place : Nat} {pending : PendingCommand}
    (found : calls.assigned[place]? = some pending) :
    (calls.store place).pendingCount = calls.pendingCount + 1 := by
  have added :=
    Dict.values_set_perm_of_absent pending (numbered.free found)
  rw [store_of_get found]
  exact added.length_eq

theorem Numbered.store
    {calls : QueueCalls}
    (numbered : calls.Numbered) {place : Nat} {pending : PendingCommand}
    (found : calls.assigned[place]? = some pending) :
    (calls.store place).Numbered := by
  have kept := live_store found (numbered.free found)
  have issued : (calls.store place).issued = calls.issued := by
    rw [store_of_get found]
  constructor
  case next =>
    rw [store_of_get found]
    exact numbered.next
  case earlier =>
    intro command member
    rw [issued]
    exact numbered.earlier command (kept.mem_iff.mp member)
  case named =>
    intro command member
    exact numbered.named command (kept.mem_iff.mp member)
  case distinct =>
    exact (kept.map _).nodup_iff.mpr numbered.distinct
  case keyed =>
    intro commandId command stored
    rw [store_of_get found] at stored
    rw [Dict.get?_set] at stored
    split at stored
    · rename_i same
      cases stored
      exact same.symm
    · exact numbered.keyed commandId command stored

/-- A stored command joins the pending ones as one that is not counted. -/
theorem Balanced.store
    {calls : QueueCalls}
    (balanced : calls.Balanced) (numbered : calls.Numbered)
    {place : Nat} {pending : PendingCommand}
    (found : calls.assigned[place]? = some pending) :
    (calls.store place).Balanced := by
  have counted := pendingCount_store numbered found
  unfold Balanced at balanced ⊢
  rw [counted, store_of_get found]
  show
    calls.queue.commandsSubmitted + UInt64.ofNat (calls.sending + 1) =
      calls.queue.commandsCompleted + UInt64.ofNat calls.completing +
        UInt64.ofNat (calls.pendingCount + 1)
  rw [UInt64.ofNat_add, UInt64.ofNat_add, ← UInt64.add_assoc,
    ← UInt64.add_assoc, balanced]

theorem Invariant.store
    {calls : QueueCalls}
    (invariant : calls.Invariant) {place : Nat}
    (proper : calls.Proper (.store place)) :
    (calls.store place).Invariant := by
  rcases found : calls.assigned[place]? with _ | pending
  · rw [store_of_absent found]
    exact invariant
  · constructor
    case numbered => exact invariant.numbered.store found
    case balanced => exact invariant.balanced.store invariant.numbered found
    case within =>
      have present : place < calls.assigned.length :=
        (List.getElem?_eq_some_iff.mp found).1
      have room := proper present
      have size : (calls.store place).queue.size = calls.queue.size := by
        rw [store_of_get found]
      unfold WithinSize
      rw [pendingCount_store invariant.numbered found, size]
      exact room

theorem Invariant.count
    {calls : QueueCalls}
    (invariant : calls.Invariant) :
    calls.count.Invariant := by
  unfold QueueCalls.count
  split
  · exact invariant
  · rename_i sending equal
    refine
      ⟨⟨invariant.numbered.next, invariant.numbered.earlier,
          invariant.numbered.named, invariant.numbered.distinct,
          invariant.numbered.keyed⟩,
        ?_, invariant.within⟩
    have balanced := invariant.balanced
    unfold Balanced at balanced ⊢
    rw [equal, Nat.succ_eq_add_one, UInt64.ofNat_add] at balanced
    show
      calls.queue.commandsSubmitted + 1 + UInt64.ofNat sending =
        calls.queue.commandsCompleted + UInt64.ofNat calls.completing +
          UInt64.ofNat calls.pendingCount
    rw [← balanced, UInt64.add_assoc, UInt64.add_comm 1]
    rfl

theorem pendingCount_complete
    {calls : QueueCalls} {completion : NVMeCompletion}
    {pending : PendingCommand}
    (found :
      calls.queue.pending.get? completion.commandId = some pending) :
    calls.pendingCount = (calls.complete completion).pendingCount + 1 := by
  rw [complete_of_get found]
  exact (Dict.values_perm_erase found).length_eq

theorem Numbered.complete
    {calls : QueueCalls}
    (numbered : calls.Numbered) {completion : NVMeCompletion}
    {pending : PendingCommand}
    (found :
      calls.queue.pending.get? completion.commandId = some pending) :
    (calls.complete completion).Numbered := by
  have taken := live_complete found
  have issued : (calls.complete completion).issued = calls.issued := by
    rw [complete_of_get found]
  have kept :
      ∀ command ∈ (calls.complete completion).live,
        command ∈ calls.live :=
    fun command member =>
      taken.mem_iff.mpr (List.mem_cons_of_mem _ member)
  constructor
  case next =>
    rw [complete_of_get found]
    exact numbered.next
  case earlier =>
    intro command member
    rw [issued]
    exact numbered.earlier command (kept command member)
  case named =>
    intro command member
    exact numbered.named command (kept command member)
  case distinct =>
    have apart :=
      (taken.map PendingCommand.commandId).nodup_iff.mp numbered.distinct
    rw [List.map_cons, List.nodup_cons] at apart
    exact apart.2
  case keyed =>
    intro commandId command stored
    rw [complete_of_get found] at stored
    exact numbered.keyed commandId command (Dict.get?_of_erase stored).2

/-- A removed command leaves the pending ones as one that is not counted. -/
theorem Balanced.complete
    {calls : QueueCalls}
    (balanced : calls.Balanced) {completion : NVMeCompletion}
    {pending : PendingCommand}
    (found :
      calls.queue.pending.get? completion.commandId = some pending) :
    (calls.complete completion).Balanced := by
  unfold Balanced at balanced ⊢
  rw [pendingCount_complete found, UInt64.ofNat_add] at balanced
  generalize (calls.complete completion).pendingCount = left at balanced ⊢
  rw [complete_of_get found]
  show
    calls.queue.commandsSubmitted + UInt64.ofNat calls.sending =
      calls.queue.commandsCompleted +
          UInt64.ofNat (calls.completing + 1) +
        UInt64.ofNat left
  rw [balanced, UInt64.ofNat_add]
  ac_rfl

theorem Invariant.complete
    {calls : QueueCalls}
    (invariant : calls.Invariant) (completion : NVMeCompletion) :
    (calls.complete completion).Invariant := by
  rcases found : calls.queue.pending.get? completion.commandId with
    _ | pending
  · rw [complete_of_absent found]
    exact invariant
  · constructor
    case numbered => exact invariant.numbered.complete found
    case balanced => exact invariant.balanced.complete found
    case within =>
      have size :
          (calls.complete completion).queue.size = calls.queue.size := by
        rw [complete_of_get found]
      have counted := pendingCount_complete found
      have within := invariant.within
      unfold WithinSize at within ⊢
      rw [size]
      omega

theorem Invariant.countCompleted
    {calls : QueueCalls}
    (invariant : calls.Invariant) :
    calls.countCompleted.Invariant := by
  unfold QueueCalls.countCompleted
  split
  · exact invariant
  · rename_i completing equal
    refine
      ⟨⟨invariant.numbered.next, invariant.numbered.earlier,
          invariant.numbered.named, invariant.numbered.distinct,
          invariant.numbered.keyed⟩,
        ?_, invariant.within⟩
    have balanced := invariant.balanced
    unfold Balanced at balanced ⊢
    rw [equal, Nat.succ_eq_add_one, UInt64.ofNat_add] at balanced
    show
      calls.queue.commandsSubmitted + UInt64.ofNat calls.sending =
        calls.queue.commandsCompleted + 1 + UInt64.ofNat completing +
          UInt64.ofNat calls.pendingCount
    rw [balanced, UInt64.add_assoc _ 1, UInt64.add_comm 1]
    rfl

/-- A proper step keeps the invariant. -/
theorem Invariant.step
    {calls : QueueCalls}
    (invariant : calls.Invariant) {input : QueueStep}
    (proper : calls.Proper input) :
    (calls.step input).Invariant := by
  cases input with
  | assign data =>
      exact
        invariant.assign ((invariant.numbered.freshId_iff data).mpr proper)
  | store place => exact invariant.store proper
  | count => exact invariant.count
  | complete completion => exact invariant.complete completion
  | countCompleted => exact invariant.countCompleted
  | cancel => exact invariant

/-- A store that leaves room afterwards had room before. -/
theorem Numbered.proper_store
    {calls : QueueCalls}
    (numbered : calls.Numbered) {place : Nat}
    (within : (calls.store place).WithinSize) :
    calls.Proper (.store place) := by
  intro present
  have found :
      calls.assigned[place]? = some calls.assigned[place] :=
    List.getElem?_eq_getElem present
  have size : (calls.store place).queue.size = calls.queue.size := by
    rw [store_of_get found]
  unfold WithinSize at within
  rw [pendingCount_store numbered found, size] at within
  exact within

/-- Under the invariant the sound steps are the proper ones. -/
theorem Invariant.sound_iff
    {calls : QueueCalls}
    (invariant : calls.Invariant) (input : QueueStep) :
    calls.Sound input ↔ calls.Proper input := by
  constructor
  · rintro ⟨fresh, within, -⟩
    cases input with
    | assign data =>
        exact (invariant.numbered.freshId_iff data).mp fresh
    | store place => exact invariant.numbered.proper_store within
    | count => trivial
    | complete completion => trivial
    | countCompleted => trivial
    | cancel => trivial
  · intro proper
    have after := invariant.step proper
    refine ⟨?_, after.within, after.balanced.accounted⟩
    cases input with
    | assign data =>
        exact (invariant.numbered.freshId_iff data).mpr proper
    | store place => trivial
    | count => trivial
    | complete completion => trivial
    | countCompleted => trivial
    | cancel => trivial

/-! ## Runs -/

/--
In a run from a new queue every step is sound exactly if every step is proper.
-/
theorem allSteps_sound_iff
    (qid size : UInt16) (inputs : List QueueStep) :
    AllSteps step Sound (created qid size) inputs ↔
      AllSteps step Proper (created qid size) inputs :=
  allSteps_iff_of_guarded
    (fun _ _ invariant proper => invariant.step proper)
    (fun _ input invariant => invariant.sound_iff input)
    inputs (created_invariant qid size)

/-- Two submissions overflow a queue of size 1. -/
theorem allSteps_sound_overflow :
    ¬AllSteps step Sound (created 1 1)
        [.assign [], .store 0, .assign [], .store 0] := by
  intro sound
  have within := sound.2.2.2.1.2.1
  revert within
  unfold WithinSize
  decide

end QueueCalls

end StorageAppliance.NVMeoF
