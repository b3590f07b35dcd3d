import StorageAppliance.CppLegacy.CompletionProcessing

/-!
# Command queues of the legacy driver

Both halves of a pair of queues of the driver for NVMe controllers, with the
device behind them (`cpp-legacy/nvmedri.cpp`).  `submit_command` gives a command
the next of as many identifiers as there are slots, puts its callback in the
table of pending commands and the command in the submission ring, and writes the
tail to the doorbell.  The device fetches commands in the order of the ring while
its own head differs from the doorbell, completes them in any order, and the
driver looks up the identifier of a completion in the table.

Nothing keeps an identifier or a slot from being used again too early.
`commandQueues_sound_iff` says that every callback is invoked once, with the
completion of its own command, exactly if each command is given an identifier
that is not pending and leaves a slot between the tail and the head of the
device.  A bound on the number of pending commands does not suffice, because an
old command keeps its identifier while later ones are completed.

The lock of the driver makes a submission, and the handling of one completion,
atomic.
-/

namespace StorageAppliance.CppLegacy

open StorageAppliance.Library

/-! ## Both rings -/

/-- A command, with what it says beside its identifier. -/
structure NvmeCommand (Body : Type) where
  commandId : UInt16
  body : Body
deriving DecidableEq

/--
A pair of queues and the device.  The numbers and identifiers of the commands
that the device has fetched and not completed are listed, and so are the commands
that were submitted, those that were fetched, and the numbers of those that were
completed.
-/
structure Traffic (size : Nat) (Body Callback : Type) where
  system : System size Callback
  sq : Vector (NvmeCommand Body) size
  sqTail : Fin size
  sqDoorbell : Nat
  deviceHead : Fin size
  executing : List (Nat × UInt16) := []
  submitted : List (NvmeCommand Body × Option Callback) := []
  fetched : List (NvmeCommand Body) := []
  answered : List Nat := []
deriving DecidableEq

/--
What happens: a command is submitted, the device fetches one, it completes one of
those it has fetched with a status of 15 bits, or a call of
`process_completions` makes its next round.
-/
inductive TrafficEvent (Body Callback : Type) where
  | submit (body : Body) (callback : Option Callback)
  | fetch
  | complete (index : Nat) (code : Fin (2 ^ 15))
  | round

namespace Traffic

variable
    {size : Nat}
    {Body Callback : Type}

/-- The slot after another one. -/
def nextSlot (slot : Fin size) : Fin size :=
  ⟨(slot.val + 1) % size, Nat.mod_lt _ (Nat.zero_lt_of_lt slot.isLt)⟩

/-- Submit a command. -/
def submitCommand (traffic : Traffic size Body Callback) (body : Body)
    (callback : Option Callback) : Traffic size Body Callback :=
  let command : NvmeCommand Body :=
    { commandId := traffic.system.queue.nextCommandId
      body := body }
  { traffic with
    system := traffic.system.step (.submit callback)
    sq :=
      traffic.sq.set traffic.sqTail.val command traffic.sqTail.isLt
    sqTail := nextSlot traffic.sqTail
    sqDoorbell := (nextSlot traffic.sqTail).val
    submitted := traffic.submitted ++ [(command, callback)] }

/-- The device fetches the command at its head, if the doorbell is elsewhere. -/
def fetch (traffic : Traffic size Body Callback) :
    Traffic size Body Callback :=
  if traffic.deviceHead.val = traffic.sqDoorbell then
    traffic
  else
    let command := traffic.sq[traffic.deviceHead]
    { traffic with
      deviceHead := nextSlot traffic.deviceHead
      executing :=
        traffic.executing ++ [(traffic.fetched.length, command.commandId)]
      fetched := traffic.fetched ++ [command] }

/-- The device completes a command, if it may post a completion. -/
def complete (traffic : Traffic size Body Callback) (index : Nat)
    (code : Fin (2 ^ 15)) : Traffic size Body Callback :=
  match traffic.executing[index]? with
  | none => traffic
  | some (number, commandId) =>
      if traffic.system.posted.length < traffic.system.told + size then
        { traffic with
          system := traffic.system.step (.post commandId code)
          executing := traffic.executing.eraseIdx index
          answered := traffic.answered ++ [number] }
      else
        traffic

def step (traffic : Traffic size Body Callback) :
    TrafficEvent Body Callback → Traffic size Body Callback
  | .submit body callback => traffic.submitCommand body callback
  | .fetch => traffic.fetch
  | .complete index code => traffic.complete index code
  | .round => { traffic with system := traffic.system.step .round }

/-- A new pair of queues, with memory for its commands. -/
def new
    (dmaAllocCoherent : (count : Nat) → Vector NvmeCompletion count)
    (sq : Vector (NvmeCommand Body) size) (positive : 0 < size) :
    Traffic size Body Callback where
  system := .new dmaAllocCoherent positive
  sq := sq
  sqTail := ⟨0, positive⟩
  sqDoorbell := 0
  deviceHead := ⟨0, positive⟩

/-! ## What is to hold -/

/-- The numbers of the commands whose completions the driver has taken. -/
def taken (traffic : Traffic size Body Callback) : List Nat :=
  traffic.answered.take traffic.system.consumed.length

/-- The callbacks of the commands with these numbers, with the completions. -/
def callbacks (submitted : List (NvmeCommand Body × Option Callback))
    (completions : List (Nat × NvmeCompletion)) :
    List (Callback × NvmeCompletion) :=
  completions.flatMap fun (number, cqe) =>
    ((submitted[number]?.bind Prod.snd).map fun callback =>
      (callback, cqe)).toList

/--
The device has fetched the first of the submitted commands, in order, and sees
how many more there are.  Each command that was submitted and not taken has its
entry in the table of pending commands, which has no others.  No command was
completed twice, and the callback of each command that was taken was invoked with
the completion of this command.
-/
structure Sound (traffic : Traffic size Body Callback) : Prop where
  inOrder : traffic.fetched <+: traffic.submitted.map Prod.fst
  visible :
    (traffic.sqDoorbell + (size - traffic.deviceHead.val)) % size =
      traffic.submitted.length - traffic.fetched.length
  pending :
    ∀ number command callback,
      traffic.submitted[number]? = some (command, callback) →
        number ∉ traffic.taken →
          traffic.system.queue.pendingCommands.get? command.commandId =
            some
              { commandId := command.commandId
                callback := callback }
  counted :
    traffic.system.queue.pendingCommands.items.length +
        traffic.system.consumed.length =
      traffic.submitted.length
  once : traffic.answered.Nodup
  routed :
    traffic.system.queue.invoked =
      callbacks traffic.submitted
        (traffic.taken.zip traffic.system.consumed)

/--
A command that is submitted gets an identifier that is not pending, and the slot
after it is not the one that the device reads next.
-/
def Free (traffic : Traffic size Body Callback) :
    TrafficEvent Body Callback → Prop
  | .submit _ _ =>
      traffic.system.queue.pendingCommands.get?
            traffic.system.queue.nextCommandId =
          none ∧
        nextSlot traffic.sqTail ≠ traffic.deviceHead
  | _ => True

instance decidableFree [DecidableEq Callback]
    (traffic : Traffic size Body Callback) :
    ∀ event, Decidable (traffic.Free event)
  | .submit _ _ => inferInstanceAs (Decidable (_ ∧ _))
  | .fetch => isTrue trivial
  | .complete _ _ => isTrue trivial
  | .round => isTrue trivial

/-! ## The numbers of commands -/

/--
The rings and the identifiers are those of the numbers of the commands, each
command that was fetched is being executed or was completed, and the commands
that were not taken are less than a round apart.
-/
structure Tracked (traffic : Traffic size Body Callback) : Prop where
  inStep : traffic.system.InStep
  tail : traffic.sqTail.val = traffic.submitted.length % size
  doorbell : traffic.sqDoorbell = traffic.submitted.length % size
  head : traffic.deviceHead.val = traffic.fetched.length % size
  next :
    traffic.system.queue.nextCommandId.toNat =
      traffic.submitted.length % size
  identified :
    ∀ number command callback,
      traffic.submitted[number]? = some (command, callback) →
        command.commandId.toNat = number % size
  memory :
    ∀ number command callback,
      traffic.submitted[number]? = some (command, callback) →
        traffic.fetched.length ≤ number →
          traffic.sq[number % size]? = some command
  ahead : traffic.submitted.length < traffic.fetched.length + size
  accounted :
    (traffic.answered ++ traffic.executing.map Prod.fst).Perm
      (List.range traffic.fetched.length)
  executed :
    ∀ number commandId,
      (number, commandId) ∈ traffic.executing →
        ∃ command callback,
          traffic.submitted[number]? = some (command, callback) ∧
            command.commandId = commandId
  answers : traffic.answered.length = traffic.system.posted.length
  answered :
    ∀ (place number : Nat) (cqe : NvmeCompletion),
      traffic.answered[place]? = some number →
        traffic.system.posted[place]? = some cqe →
          ∃ command callback,
            traffic.submitted[number]? = some (command, callback) ∧
              command.commandId = cqe.commandId
  recent :
    ∀ number,
      number < traffic.submitted.length →
        number ∉ traffic.taken →
          traffic.submitted.length ≤ number + size
  sound : traffic.Sound

theorem val_nextSlot {slot : Fin size} {number : Nat}
    (at_ : slot.val = number % size) :
    (nextSlot slot).val = (number + 1) % size := by
  show (slot.val + 1) % size = _
  rw [at_, Nat.mod_add_mod]

/-- The identifier after that of a command is that of the next command. -/
theorem toNat_nextCommandId
    {commandId : UInt16} {number : Nat}
    (positive : 0 < size) (small : size < 2 ^ 16)
    (numbered : commandId.toNat = number % size) :
    (if size ≤ (commandId + 1).toNat then 0 else commandId + 1).toNat =
      (number + 1) % size := by
  have bound : number % size < size := Nat.mod_lt _ positive
  have following : (commandId + 1).toNat = number % size + 1 := by
    rw [UInt16.toNat_add, numbered]
    exact Nat.mod_eq_of_lt (by show number % size + 1 < 2 ^ 16; omega)
  rw [← Nat.mod_add_mod]
  by_cases wraps : size ≤ (commandId + 1).toNat
  · have last : number % size + 1 = size := by
      omega
    rw [if_pos wraps, last, Nat.mod_self]
    rfl
  · have inside : number % size + 1 < size := by
      omega
    rw [if_neg wraps, following]
    exact (Nat.mod_eq_of_lt inside).symm

section Callbacks

variable
    {submitted : List (NvmeCommand Body × Option Callback)}

/-- Commands that are submitted later change nothing for the earlier ones. -/
theorem callbacks_append
    (later : List (NvmeCommand Body × Option Callback))
    {completions : List (Nat × NvmeCompletion)}
    (earlier :
      ∀ completion ∈ completions, completion.1 < submitted.length) :
    callbacks (submitted ++ later) completions =
      callbacks submitted completions := by
  apply List.flatMap_congr
  intro completion member
  show ((((submitted ++ later)[completion.1]?).bind _).map _).toList = _
  rw [List.getElem?_append_left (earlier completion member)]

theorem callbacks_concat
    (completions : List (Nat × NvmeCompletion)) {number : Nat}
    (cqe : NvmeCompletion) {command : NvmeCommand Body}
    {callback : Option Callback}
    (found : submitted[number]? = some (command, callback)) :
    callbacks submitted (completions ++ [(number, cqe)]) =
      callbacks submitted completions ++
        callback.toList.map fun callback => (callback, cqe) := by
  rw [callbacks, List.flatMap_append, List.flatMap_singleton]
  show _ ++ (((submitted[number]?).bind _).map _).toList = _
  rw [found]
  cases callback <;> rfl

end Callbacks

/-- What is found after an entry was appended was there, or is the entry. -/
theorem getElem?_of_concat
    {α : Type} {entries : List α} {number : Nat} {entry found : α}
    (present : (entries ++ [entry])[number]? = some found) :
    entries[number]? = some found ∨
      number = entries.length ∧ found = entry := by
  by_cases earlier : number < entries.length
  · rw [List.getElem?_append_left earlier] at present
    exact Or.inl present
  · have inside := (List.getElem?_eq_some_iff.mp present).1
    rw [List.length_append, List.length_singleton] at inside
    have last : number = entries.length := by
      omega
    rw [last, List.getElem?_concat_length] at present
    exact Or.inr ⟨last, (Option.some.inj present).symm⟩

theorem getElem?_concat_of_some
    {α : Type} {entries : List α} {number : Nat} {found : α}
    (present : entries[number]? = some found) (entry : α) :
    (entries ++ [entry])[number]? = some found := by
  have inside := (List.getElem?_eq_some_iff.mp present).1
  rw [List.getElem?_append_left inside]
  exact present

section Steps

variable
    {traffic : Traffic size Body Callback}

namespace Tracked

theorem positive (tracked : traffic.Tracked) : 0 < size :=
  tracked.inStep.positive

theorem fetched_le (tracked : traffic.Tracked) :
    traffic.fetched.length ≤ traffic.submitted.length := by
  have bound := tracked.sound.inOrder.length_le
  rwa [List.length_map] at bound

/-- No command is both completed and still executed, or one of them twice. -/
theorem nodup (tracked : traffic.Tracked) :
    (traffic.answered ++ traffic.executing.map Prod.fst).Nodup :=
  tracked.accounted.nodup_iff.mpr List.nodup_range

theorem once (tracked : traffic.Tracked) : traffic.answered.Nodup :=
  (List.nodup_append.mp tracked.nodup).1

theorem answered_lt (tracked : traffic.Tracked) {number : Nat}
    (member : number ∈ traffic.answered) :
    number < traffic.submitted.length := by
  have fetched :=
    tracked.accounted.mem_iff.mp (List.mem_append_left _ member)
  exact (List.mem_range.mp fetched).trans_le tracked.fetched_le

theorem taken_lt (tracked : traffic.Tracked)
    {completion : Nat × NvmeCompletion}
    (member :
      completion ∈ traffic.taken.zip traffic.system.consumed) :
    completion.1 < traffic.submitted.length :=
  tracked.answered_lt
    (List.mem_of_mem_take (List.of_mem_zip member).1)

/-- The device sees how many commands it has not fetched. -/
theorem visible (tracked : traffic.Tracked) :
    (traffic.sqDoorbell + (size - traffic.deviceHead.val)) % size =
      traffic.submitted.length - traffic.fetched.length := by
  rw [tracked.doorbell, tracked.head]
  exact
    SlotRing.distance tracked.positive tracked.fetched_le tracked.ahead

/-- The device stops at the doorbell when it has fetched all commands. -/
theorem head_eq_doorbell_iff (tracked : traffic.Tracked) :
    traffic.deviceHead.val = traffic.sqDoorbell ↔
      traffic.fetched.length = traffic.submitted.length := by
  rw [tracked.head, tracked.doorbell]
  constructor
  · exact SlotRing.slot_injective tracked.fetched_le tracked.ahead
  · intro same
    rw [same]

/-! ## Submissions -/

/-- A command in a free slot is not a whole round ahead of the device. -/
theorem room (tracked : traffic.Tracked)
    (apart : nextSlot traffic.sqTail ≠ traffic.deviceHead) :
    traffic.submitted.length + 1 < traffic.fetched.length + size := by
  apply Nat.lt_of_le_of_ne tracked.ahead
  intro full
  apply apart
  apply Fin.ext
  have last : traffic.submitted.length + 1 = traffic.fetched.length + size :=
    full
  rw [val_nextSlot tracked.tail, tracked.head, last, Nat.add_mod_right]

/-- A pending identifier is not that of another command. -/
theorem commandId_ne_next (tracked : traffic.Tracked)
    (unused :
      traffic.system.queue.pendingCommands.get?
          traffic.system.queue.nextCommandId =
        none)
    {number : Nat} {command : NvmeCommand Body}
    {callback : Option Callback}
    (found : traffic.submitted[number]? = some (command, callback))
    (untaken : number ∉ traffic.taken) :
    command.commandId ≠ traffic.system.queue.nextCommandId := by
  intro same
  have pending :=
    tracked.sound.pending number command callback found untaken
  rw [same, unused] at pending
  cases pending

theorem sound_submit (tracked : traffic.Tracked) {body : Body}
    {callback : Option Callback}
    (free : traffic.Free (.submit body callback)) :
    (traffic.submitCommand body callback).Sound := by
  have unused := free.1
  have length :
      (traffic.submitCommand body callback).submitted.length =
        traffic.submitted.length + 1 :=
    List.length_append
  refine
    { inOrder := ?_
      visible := ?_
      pending := ?_
      counted := ?_
      once := tracked.once
      routed := ?_ }
  · show
      traffic.fetched <+:
        (traffic.submitted ++ [_]).map Prod.fst
    rw [List.map_append]
    exact tracked.sound.inOrder.trans (List.prefix_append _ _)
  · rw [length]
    show
      ((nextSlot traffic.sqTail).val + (size - traffic.deviceHead.val)) %
          size =
        _ - traffic.fetched.length
    have least := tracked.fetched_le
    rw [val_nextSlot tracked.tail, tracked.head]
    exact
      SlotRing.distance tracked.positive (by omega)
        (tracked.room free.2)
  · intro number command other found untaken
    show
      (traffic.system.queue.pendingCommands.set
          traffic.system.queue.nextCommandId _).get? command.commandId =
        _
    rcases getElem?_of_concat found with before | ⟨_, last⟩
    · rw [Dict.get?_set_ne _ _
        (tracked.commandId_ne_next unused before untaken)]
      exact tracked.sound.pending number command other before untaken
    · cases last
      exact Dict.get?_set_self _ _ _
  · rw [length, ← tracked.sound.counted]
    show (traffic.system.queue.pendingCommands.set _ _).items.length + _ = _
    rw [Dict.items_set_of_absent _ unused, List.length_append,
      List.length_singleton]
    exact Nat.add_right_comm _ _ _
  · show
      traffic.system.queue.invoked =
        callbacks (traffic.submitted ++ [_])
          (traffic.taken.zip traffic.system.consumed)
    rw [callbacks_append _ fun _ member => tracked.taken_lt member]
    exact tracked.sound.routed

theorem submit (tracked : traffic.Tracked) (small : size < 2 ^ 16)
    {body : Body} {callback : Option Callback}
    (free : traffic.Free (.submit body callback)) :
    (traffic.submitCommand body callback).Tracked := by
  have positive := tracked.positive
  have least := tracked.fetched_le
  have room := tracked.room free.2
  have length :
      (traffic.submitCommand body callback).submitted.length =
        traffic.submitted.length + 1 :=
    List.length_append
  refine
    { inStep := tracked.inStep.step (.submit callback)
      tail := ?_
      doorbell := ?_
      head := tracked.head
      next := ?_
      identified := ?_
      memory := ?_
      ahead := ?_
      accounted := tracked.accounted
      executed := ?_
      answers := tracked.answers
      answered := ?_
      recent := ?_
      sound := tracked.sound_submit free }
  · rw [length]
    exact val_nextSlot tracked.tail
  · rw [length]
    exact val_nextSlot tracked.tail
  · rw [length]
    exact toNat_nextCommandId positive small tracked.next
  · intro number command other found
    rcases getElem?_of_concat found with before | ⟨last, new⟩
    · exact tracked.identified number command other before
    · cases new
      rw [last]
      exact tracked.next
  · intro number command other found unfetched
    show (traffic.sq.set _ _ traffic.sqTail.isLt)[number % size]? = _
    rcases getElem?_of_concat found with before | ⟨last, new⟩
    · have inside := (List.getElem?_eq_some_iff.mp before).1
      have waiting : traffic.fetched.length ≤ number := unfetched
      have near : traffic.submitted.length < number + size := by
        omega
      have apart : traffic.sqTail.val ≠ number % size := by
        rw [tracked.tail]
        intro same
        exact
          inside.ne
            (SlotRing.slot_injective (Nat.le_of_lt inside) near same.symm)
      rw [Vector.getElem?_set_ne _ apart]
      exact tracked.memory number command other before unfetched
    · cases new
      rw [last, ← tracked.tail, Vector.getElem?_set_self]
  · rw [length]
    exact room
  · intro number commandId member
    rcases tracked.executed number commandId member with
      ⟨command, other, found, identified⟩
    exact
      ⟨command, other, getElem?_concat_of_some found _, identified⟩
  · intro place number cqe answered posted
    rcases tracked.answered place number cqe answered posted with
      ⟨command, other, found, identified⟩
    exact
      ⟨command, other, getElem?_concat_of_some found _, identified⟩
  · intro number inside untaken
    rw [length] at inside ⊢
    by_cases last : number = traffic.submitted.length
    · omega
    · have earlier : number < traffic.submitted.length := by
        omega
      have recent := tracked.recent number earlier untaken
      rcases found : traffic.submitted[number] with ⟨command, other⟩
      have before :
          traffic.submitted[number]? = some (command, other) := by
        rw [List.getElem?_eq_getElem earlier, found]
      have apart := tracked.commandId_ne_next free.1 before untaken
      apply Nat.lt_of_le_of_ne recent
      intro round
      apply apart
      apply UInt16.toNat_inj.mp
      rw [tracked.identified number command other before, tracked.next,
        round, Nat.add_mod_right]

/-- A command that is given a pending identifier has no entry of its own. -/
theorem free_of_sound_submit (tracked : traffic.Tracked) {body : Body}
    {callback : Option Callback}
    (sound : (traffic.submitCommand body callback).Sound) :
    traffic.Free (.submit body callback) := by
  have length :
      (traffic.submitCommand body callback).submitted.length =
        traffic.submitted.length + 1 :=
    List.length_append
  constructor
  · by_contra used
    have counted := sound.counted
    rw [length, ← tracked.sound.counted] at counted
    have same :
        (traffic.system.queue.pendingCommands.set
            traffic.system.queue.nextCommandId
            { commandId := traffic.system.queue.nextCommandId
              callback := callback }).items.length =
          traffic.system.queue.pendingCommands.items.length :=
      Dict.length_items_set_of_present _ used
    have changed :
        (traffic.system.queue.pendingCommands.set
            traffic.system.queue.nextCommandId
            { commandId := traffic.system.queue.nextCommandId
              callback := callback }).items.length +
            traffic.system.consumed.length =
          traffic.system.queue.pendingCommands.items.length +
              traffic.system.consumed.length +
            1 :=
      counted
    omega
  · intro full
    have visible := sound.visible
    rw [length] at visible
    have least := tracked.fetched_le
    have none :
        ((nextSlot traffic.sqTail).val +
              (size - traffic.deviceHead.val)) % size =
          traffic.submitted.length + 1 - traffic.fetched.length :=
      visible
    have bound := traffic.deviceHead.isLt
    rw [full, Nat.add_sub_cancel' bound.le, Nat.mod_self] at none
    omega

/-! ## The device -/

/-- The device fetches the first command that it has not fetched. -/
theorem fetch_cases (tracked : traffic.Tracked) :
    traffic.fetch = traffic ∨
      ∃ command callback,
        traffic.submitted[traffic.fetched.length]? =
            some (command, callback) ∧
          traffic.fetch =
            { traffic with
              deviceHead := nextSlot traffic.deviceHead
              executing :=
                traffic.executing ++
                  [(traffic.fetched.length, command.commandId)]
              fetched := traffic.fetched ++ [command] } := by
  rw [Traffic.fetch]
  split
  · exact Or.inl rfl
  · rename_i elsewhere
    have inside : traffic.fetched.length < traffic.submitted.length :=
      Nat.lt_of_le_of_ne tracked.fetched_le
        (mt tracked.head_eq_doorbell_iff.mpr elsewhere)
    rcases found : traffic.submitted[traffic.fetched.length] with
      ⟨command, callback⟩
    have known :
        traffic.submitted[traffic.fetched.length]? =
          some (command, callback) := by
      rw [List.getElem?_eq_getElem inside, found]
    have slot := tracked.memory _ command callback known (Nat.le_refl _)
    have read : traffic.sq[traffic.deviceHead] = command := by
      apply Option.some.inj
      rw [← slot, ← tracked.head]
      exact (Vector.getElem?_eq_getElem traffic.deviceHead.isLt).symm
    exact Or.inr ⟨command, callback, known, by rw [read]⟩

theorem fetchNext (tracked : traffic.Tracked)
    {command : NvmeCommand Body} {callback : Option Callback}
    (found :
      traffic.submitted[traffic.fetched.length]? =
        some (command, callback)) :
    ({ traffic with
        deviceHead := nextSlot traffic.deviceHead
        executing :=
          traffic.executing ++
            [(traffic.fetched.length, command.commandId)]
        fetched := traffic.fetched ++ [command] } :
      Traffic size Body Callback).Tracked := by
  have inside := (List.getElem?_eq_some_iff.mp found).1
  have length :
      (traffic.fetched ++ [command]).length = traffic.fetched.length + 1 :=
    List.length_append
  have head :
      (nextSlot traffic.deviceHead).val =
        (traffic.fetched ++ [command]).length % size := by
    rw [length]
    exact val_nextSlot tracked.head
  have ahead :
      traffic.submitted.length <
        (traffic.fetched ++ [command]).length + size := by
    have before := tracked.ahead
    omega
  have inOrder :
      traffic.fetched ++ [command] <+: traffic.submitted.map Prod.fst := by
    have before := List.prefix_iff_eq_take.mp tracked.sound.inOrder
    apply List.prefix_iff_eq_take.mpr
    rw [length, List.take_add_one, ← before, List.getElem?_map, found]
    rfl
  refine
    { inStep := tracked.inStep
      tail := tracked.tail
      doorbell := tracked.doorbell
      head := head
      next := tracked.next
      identified := tracked.identified
      memory := ?_
      ahead := ahead
      accounted := ?_
      executed := ?_
      answers := tracked.answers
      answered := tracked.answered
      recent := tracked.recent
      sound :=
        { inOrder := inOrder
          visible := ?_
          pending := tracked.sound.pending
          counted := tracked.sound.counted
          once := tracked.once
          routed := tracked.sound.routed } }
  · intro number other callback known unfetched
    apply tracked.memory number other callback known
    exact Nat.le_of_succ_le (length.symm.trans_le unfetched)
  · show
      (traffic.answered ++ (traffic.executing ++ [_]).map Prod.fst).Perm
        (List.range (traffic.fetched ++ [command]).length)
    rw [length, List.range_succ, List.map_append, ← List.append_assoc]
    exact tracked.accounted.append_right _
  · intro number commandId member
    rcases List.mem_append.mp member with old | new
    · exact tracked.executed number commandId old
    · cases List.mem_singleton.mp new
      exact ⟨command, callback, found, rfl⟩
  · show
      (traffic.sqDoorbell +
            (size - (nextSlot traffic.deviceHead).val)) % size =
        traffic.submitted.length - (traffic.fetched ++ [command]).length
    rw [tracked.doorbell, head]
    exact
      SlotRing.distance tracked.positive (length.trans_le inside) ahead

theorem fetch (tracked : traffic.Tracked) : traffic.fetch.Tracked := by
  rcases tracked.fetch_cases with same | ⟨command, callback, found, fetched⟩
  · rw [same]
    exact tracked
  · rw [fetched]
    exact tracked.fetchNext found

/-- The completions that the driver has taken were posted before. -/
theorem taken_concat (tracked : traffic.Tracked) (number : Nat) :
    (traffic.answered ++ [number]).take traffic.system.consumed.length =
      traffic.taken := by
  apply List.take_append_of_le_length
  rw [tracked.answers]
  exact tracked.inStep.consumed_le

/-- A posted completion changes the memory of the ring only. -/
theorem posted_of_room
    {system : System size Callback}
    (room : system.posted.length < system.told + size)
    (commandId : UInt16) (code : Fin (2 ^ 15)) :
    ∃ cq,
      system.step (.post commandId code) =
        { system with
          queue := { system.queue with cq := cq }
          posted :=
            system.posted ++ [system.nextCompletion commandId code] } :=
  ⟨_, if_pos room⟩

theorem completeNext (tracked : traffic.Tracked)
    {index number : Nat} {commandId : UInt16}
    (found : traffic.executing[index]? = some (number, commandId))
    (room :
      traffic.system.posted.length < traffic.system.told + size)
    (code : Fin (2 ^ 15)) :
    ({ traffic with
        system := traffic.system.step (.post commandId code)
        executing := traffic.executing.eraseIdx index
        answered := traffic.answered ++ [number] } :
      Traffic size Body Callback).Tracked := by
  rcases List.getElem?_eq_some_iff.mp found with ⟨inside, read⟩
  have inStep := tracked.inStep.step (.post commandId code)
  have taken := tracked.taken_concat number
  have accounted :
      ((traffic.answered ++ [number]) ++
          (traffic.executing.eraseIdx index).map Prod.fst).Perm
        (List.range traffic.fetched.length) := by
    have moved := (List.getElem_cons_eraseIdx_perm inside).map Prod.fst
    rw [read, List.map_cons] at moved
    rw [List.append_assoc, List.singleton_append]
    exact (moved.append_left _).trans tracked.accounted
  rcases posted_of_room room commandId code with ⟨cq, posted⟩
  rw [posted] at inStep ⊢
  refine
    { inStep := inStep
      tail := tracked.tail
      doorbell := tracked.doorbell
      head := tracked.head
      next := tracked.next
      identified := tracked.identified
      memory := tracked.memory
      ahead := tracked.ahead
      accounted := accounted
      executed := ?_
      answers := ?_
      answered := ?_
      recent := ?_
      sound :=
        { inOrder := tracked.sound.inOrder
          visible := tracked.visible
          pending := ?_
          counted := tracked.sound.counted
          once := ?_
          routed := ?_ } }
  · intro other otherId member
    exact
      tracked.executed other otherId (List.mem_of_mem_eraseIdx member)
  · show (traffic.answered ++ [_]).length = (_ ++ [_]).length
    rw [List.length_append, List.length_append, tracked.answers]
    rfl
  · intro place other cqe answered known
    rcases getElem?_of_concat answered with before | ⟨last, new⟩
    · rcases getElem?_of_concat known with earlier | ⟨later, _⟩
      · exact tracked.answered place other cqe before earlier
      · have bound := (List.getElem?_eq_some_iff.mp before).1
        rw [later, tracked.answers] at bound
        exact absurd bound (Nat.lt_irrefl _)
    · have same :
          (traffic.system.posted ++
              [traffic.system.nextCompletion commandId code])[place]? =
            some cqe :=
        known
      rw [last, tracked.answers, List.getElem?_concat_length] at same
      cases same
      rw [new]
      exact
        tracked.executed number commandId
          (List.mem_of_getElem? found)
  · intro other earlier untaken
    apply tracked.recent other earlier
    rwa [← taken]
  · intro other command callback known untaken
    apply tracked.sound.pending other command callback known
    rwa [← taken]
  · exact
      (List.nodup_append.mp (accounted.nodup_iff.mpr List.nodup_range)).1
  · show
      traffic.system.queue.invoked =
        callbacks traffic.submitted
          (((traffic.answered ++ [number]).take
              traffic.system.consumed.length).zip
            traffic.system.consumed)
    rw [taken]
    exact tracked.sound.routed

theorem complete (tracked : traffic.Tracked) (index : Nat)
    (code : Fin (2 ^ 15)) : (traffic.complete index code).Tracked := by
  cases found : traffic.executing[index]? with
  | none =>
      rw [Traffic.complete, found]
      exact tracked
  | some entry =>
      rw [Traffic.complete, found]
      by_cases room :
        traffic.system.posted.length < traffic.system.told + size
      · simp only [room, if_true]
        exact tracked.completeNext found room code
      · simp only [room, if_false]
        exact tracked

/-! ## Rounds of the driver -/

/-- The end of a call changes nothing but the doorbell. -/
theorem endCall_queue (system : System size Callback) :
    ∃ doorbell,
      system.endCall.queue =
        { system.queue with cqDoorbell := doorbell } := by
  show ∃ doorbell, system.queue.updateDoorbell = _
  rw [NVMeQueue.updateDoorbell]
  split
  · exact ⟨_, rfl⟩
  · exact ⟨system.queue.cqDoorbell, rfl⟩

theorem endCall (tracked : traffic.Tracked) :
    ({ traffic with system := traffic.system.endCall } :
      Traffic size Body Callback).Tracked := by
  rcases endCall_queue traffic.system with ⟨doorbell, queue⟩
  have next :
      traffic.system.endCall.queue.nextCommandId =
        traffic.system.queue.nextCommandId := by
    rw [queue]
  have pending :
      traffic.system.endCall.queue.pendingCommands =
        traffic.system.queue.pendingCommands := by
    rw [queue]
  have invoked :
      traffic.system.endCall.queue.invoked =
        traffic.system.queue.invoked := by
    rw [queue]
  exact
    { inStep := tracked.inStep.endCall
      tail := tracked.tail
      doorbell := tracked.doorbell
      head := tracked.head
      next := next ▸ tracked.next
      identified := tracked.identified
      memory := tracked.memory
      ahead := tracked.ahead
      accounted := tracked.accounted
      executed := tracked.executed
      answers := tracked.answers
      answered := tracked.answered
      recent := tracked.recent
      sound :=
        { inOrder := tracked.sound.inOrder
          visible := tracked.visible
          pending := pending ▸ tracked.sound.pending
          counted := pending ▸ tracked.sound.counted
          once := tracked.once
          routed := invoked.trans tracked.sound.routed } }

/-- The next completion is that of a command that was not taken. -/
theorem next_taken (tracked : traffic.Tracked) {cqe : NvmeCompletion}
    (found :
      traffic.system.posted[traffic.system.consumed.length]? =
        some cqe) :
    ∃ number command callback,
      traffic.answered[traffic.system.consumed.length]? = some number ∧
        number ∉ traffic.taken ∧
          traffic.submitted[number]? = some (command, callback) ∧
            command.commandId = cqe.commandId := by
  have inside := (List.getElem?_eq_some_iff.mp found).1
  rw [← tracked.answers] at inside
  have answered := List.getElem?_eq_getElem inside
  rcases tracked.answered _ _ cqe answered found with
    ⟨command, callback, known, identified⟩
  refine ⟨_, command, callback, answered, ?_, known, identified⟩
  have split :=
    List.nodup_append.mp
      ((List.take_append_drop traffic.system.consumed.length
        traffic.answered).symm ▸ tracked.once)
  intro member
  have later :
      traffic.answered[traffic.system.consumed.length] ∈
        traffic.answered.drop traffic.system.consumed.length := by
    rw [List.drop_eq_getElem_cons inside]
    exact List.mem_cons_self
  exact split.2.2 _ member _ later rfl

/-- Commands that were not taken have different identifiers. -/
theorem commandId_injective (tracked : traffic.Tracked)
    {first second : Nat} {command other : NvmeCommand Body}
    {callback otherCallback : Option Callback}
    (found : traffic.submitted[first]? = some (command, callback))
    (known : traffic.submitted[second]? = some (other, otherCallback))
    (untaken : first ∉ traffic.taken)
    (untakenOther : second ∉ traffic.taken)
    (same : command.commandId = other.commandId) :
    first = second := by
  have firstInside := (List.getElem?_eq_some_iff.mp found).1
  have secondInside := (List.getElem?_eq_some_iff.mp known).1
  have firstRecent := tracked.recent first firstInside untaken
  have secondRecent := tracked.recent second secondInside untakenOther
  have slots : first % size = second % size := by
    rw [← tracked.identified first command callback found,
      ← tracked.identified second other otherCallback known, same]
  rcases Nat.le_total first second with ordered | ordered
  · exact SlotRing.slot_injective ordered (by omega) slots
  · exact
      (SlotRing.slot_injective ordered (by omega) slots.symm).symm

/-- A completion that is taken invokes the callback of its command. -/
theorem complete_queue (tracked : traffic.Tracked) {cqe : NvmeCompletion}
    {number : Nat} {command : NvmeCommand Body}
    {callback : Option Callback}
    (known : traffic.submitted[number]? = some (command, callback))
    (untaken : number ∉ traffic.taken)
    (identified : command.commandId = cqe.commandId) :
    traffic.system.queue.complete cqe =
      { traffic.system.queue with
        commandsCompleted := traffic.system.queue.commandsCompleted + 1
        invoked :=
          traffic.system.queue.invoked ++
            callback.toList.map fun callback => (callback, cqe)
        pendingCommands :=
          traffic.system.queue.pendingCommands.erase
            command.commandId } := by
  have pending :=
    tracked.sound.pending number command callback known untaken
  rw [NVMeQueue.complete, ← identified, pending]

theorem taken_next {number : Nat}
    (answered :
      traffic.answered[traffic.system.consumed.length]? = some number) :
    traffic.answered.take (traffic.system.consumed.length + 1) =
      traffic.taken ++ [number] := by
  rw [List.take_add_one, answered]
  rfl

theorem takeNext (tracked : traffic.Tracked) {cqe : NvmeCompletion}
    {queue : NVMeQueue size Callback}
    (taken : traffic.system.queue.round = some (cqe, queue)) :
    ({ traffic with
        system :=
          { traffic.system with
            queue := queue
            consumed := traffic.system.consumed ++ [cqe]
            taken := traffic.system.taken + 1 } } :
      Traffic size Body Callback).Tracked := by
  have inStep := tracked.inStep.round taken
  rcases tracked.inStep.round_some taken with ⟨found, rfl⟩
  rcases tracked.next_taken found with
    ⟨number, command, callback, answered, untaken, known, identified⟩
  have length :
      (traffic.system.consumed ++ [cqe]).length =
        traffic.system.consumed.length + 1 :=
    List.length_append
  have next :
      traffic.answered.take (traffic.system.consumed ++ [cqe]).length =
        traffic.taken ++ [number] := by
    rw [length, taken_next answered]
  have queue := tracked.complete_queue known untaken identified
  have pending :=
    tracked.sound.pending number command callback known untaken
  have fewer :=
    (Dict.values_perm_erase pending).length_eq
  refine
    { inStep := inStep
      tail := tracked.tail
      doorbell := tracked.doorbell
      head := tracked.head
      next := ?_
      identified := tracked.identified
      memory := tracked.memory
      ahead := tracked.ahead
      accounted := tracked.accounted
      executed := tracked.executed
      answers := tracked.answers
      answered := tracked.answered
      recent := ?_
      sound :=
        { inOrder := tracked.sound.inOrder
          visible := tracked.visible
          pending := ?_
          counted := ?_
          once := tracked.once
          routed := ?_ } }
  · show (traffic.system.queue.complete cqe).nextCommandId.toNat = _
    rw [queue]
    exact tracked.next
  · intro other inside later
    apply tracked.recent other inside
    intro member
    apply later
    show other ∈ traffic.answered.take _
    rw [next]
    exact List.mem_append_left _ member
  · intro other otherCommand otherCallback otherKnown later
    have apart : other ∉ traffic.taken ++ [number] := by
      rw [← next]
      exact later
    rw [List.mem_append, List.mem_singleton, not_or] at apart
    show
      (traffic.system.queue.complete cqe).pendingCommands.get? _ = _
    rw [queue]
    show (traffic.system.queue.pendingCommands.erase _).get? _ = _
    rw [Dict.get?_erase_ne]
    · exact
        tracked.sound.pending other otherCommand otherCallback otherKnown
          apart.1
    · intro same
      exact
        apart.2
          (tracked.commandId_injective otherKnown known apart.1 untaken
            same)
  · show
      (traffic.system.queue.complete cqe).pendingCommands.items.length +
          (traffic.system.consumed ++ [cqe]).length =
        traffic.submitted.length
    rw [queue, length, ← tracked.sound.counted]
    rw [List.length_cons, Dict.values, Dict.values, List.length_map,
      List.length_map] at fewer
    show
      (traffic.system.queue.pendingCommands.erase
          command.commandId).items.length + _ =
        _
    omega
  · show
      (traffic.system.queue.complete cqe).invoked =
        callbacks traffic.submitted
          ((traffic.answered.take
              (traffic.system.consumed ++ [cqe]).length).zip
            (traffic.system.consumed ++ [cqe]))
    have equal :
        traffic.taken.length = traffic.system.consumed.length := by
      rw [Traffic.taken, List.length_take, tracked.answers]
      exact Nat.min_eq_left tracked.inStep.consumed_le
    rw [queue, next, List.zip_append equal]
    show _ = callbacks _ (_ ++ [(number, cqe)])
    rw [callbacks_concat _ cqe known, ← tracked.sound.routed]

theorem round (tracked : traffic.Tracked) :
    ({ traffic with system := traffic.system.step .round } :
      Traffic size Body Callback).Tracked := by
  cases taken : traffic.system.queue.round with
  | none =>
      rw [System.step, taken]
      exact tracked.endCall
  | some result =>
      rw [System.step, taken]
      exact tracked.takeNext taken

/-- Every event from which the resources are free keeps the numbers. -/
theorem step (tracked : traffic.Tracked) (small : size < 2 ^ 16)
    {event : TrafficEvent Body Callback} (free : traffic.Free event) :
    (traffic.step event).Tracked := by
  cases event with
  | submit body callback => exact tracked.submit small free
  | fetch => exact tracked.fetch
  | complete index code => exact tracked.complete index code
  | round => exact tracked.round

theorem sound_step_iff (tracked : traffic.Tracked) (small : size < 2 ^ 16)
    (event : TrafficEvent Body Callback) :
    (traffic.step event).Sound ↔ traffic.Free event := by
  constructor
  · intro sound
    cases event with
    | submit body callback => exact tracked.free_of_sound_submit sound
    | fetch => trivial
    | complete index code => trivial
    | round => trivial
  · intro free
    exact (tracked.step small free).sound

end Tracked

end Steps

theorem tracked_new
    {dmaAllocCoherent : (count : Nat) → Vector NvmeCompletion count}
    (cleared :
      ∀ count,
        dmaAllocCoherent count = Vector.replicate count clearedCompletion)
    (sq : Vector (NvmeCommand Body) size) (positive : 0 < size) :
    (new dmaAllocCoherent sq positive :
      Traffic size Body Callback).Tracked where
  inStep := System.inStep_new cleared positive
  tail := (Nat.zero_mod size).symm
  doorbell := (Nat.zero_mod size).symm
  head := (Nat.zero_mod size).symm
  next := (Nat.zero_mod size).symm
  identified := by
    intro number command callback absent
    cases absent
  memory := by
    intro number command callback absent
    cases absent
  ahead := positive.trans_eq (Nat.zero_add size).symm
  accounted := List.Perm.nil
  executed := by
    intro number commandId absent
    cases absent
  answers := rfl
  answered := by
    intro place number cqe absent
    cases absent
  recent := by
    intro number absent
    cases absent
  sound :=
    { inOrder := List.nil_prefix
      visible := by
        show (0 + (size - 0)) % size = 0
        rw [Nat.zero_add, Nat.sub_zero, Nat.mod_self]
      pending := by
        intro number command callback absent
        cases absent
      counted := rfl
      once := List.nodup_nil
      routed := rfl }

/-- A pair of queues of four slots, for commands that are numbers. -/
def fourSlots : Traffic 4 Nat String :=
  new System.clearedMemory
    (Vector.replicate 4
      { commandId := 0
        body := 0 })
    (by decide)

/-- Three commands are submitted and fetched, and completed in another order. -/
def threeCommands (success failure : Fin (2 ^ 15)) :
    List (TrafficEvent Nat String) :=
  [.submit 10 (some "a"), .submit 11 (some "b"), .submit 12 none,
    .fetch, .fetch, .fetch,
    .complete 1 success, .complete 0 failure, .complete 0 success]

/--
The first command is the only one that is pending when the fifth one is given its
identifier.
-/
example :
    let old :=
      run step fourSlots
        ((threeCommands 0 3).take 6 ++
          [.complete 1 0, .complete 1 0, .submit 13 none, .fetch,
            .complete 1 0, .round, .round, .round, .round])
    old.system.queue.pendingCommands.keys = [0] ∧
      ¬ old.Free (.submit 14 none) := by
  decide

end Traffic

end StorageAppliance.CppLegacy
