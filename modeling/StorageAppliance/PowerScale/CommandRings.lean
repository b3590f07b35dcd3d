import Mathlib.Logic.Function.Basic
import StorageAppliance.Library.SlotRing
import StorageAppliance.Library.Run
import StorageAppliance.PowerScale.Zones

/-!
# The command rings of a controller

A controller has pairs of queues, and both queues of a pair are rings of one
size (`CreateController`).  A command is put at the tail of a submission queue,
and a task is started that puts its completion at the tail of the completion
queue (`SubmitCommand`, `processCommand`).  The tasks take their steps in any
order.

Neither queue is compared with its head, and no head ever moves.
`commandRings_live_iff` says which commands and completions overwrite nothing
that is still needed.
-/

namespace StorageAppliance.PowerScale

open StorageAppliance.Go
open StorageAppliance.Library

/-- A command. -/
structure NVMeCommand where
  commandId : Nat
deriving DecidableEq

/-- The completion of a command. -/
structure NVMeCompletion where
  commandId : Nat
  status : Nat
deriving DecidableEq

/-- The statistics of a pair of queues, which wrap. -/
structure QueueStats where
  commandsSubmitted : Nat := 0
  commandsCompleted : Nat := 0
  queueDepth : Nat := 0
deriving DecidableEq

/-- A submission queue and the completion queue that belongs to it. -/
structure NVMeQueuePair where
  queueId : Nat
  queueDepth : Nat
  submissionQueue : SlotRing NVMeCommand
  completionQueue : SlotRing NVMeCompletion
  stats : QueueStats
deriving DecidableEq

/-- A controller. -/
structure NVMeController where
  ioQueues : List NVMeQueuePair
  completedCommands : Nat := 0
deriving DecidableEq

namespace NVMeQueuePair

/-- Put a command in the submission queue. -/
def submit (self : NVMeQueuePair) (command : NVMeCommand) :
    NVMeQueuePair :=
  { self with
    submissionQueue := self.submissionQueue.put command
    stats :=
      { self.stats with
        commandsSubmitted := (self.stats.commandsSubmitted + 1) % 2 ^ 64
        queueDepth := (self.stats.queueDepth + 1) % 2 ^ 64 } }

/-- Put the completion of a command in the completion queue. -/
def complete (self : NVMeQueuePair) (command : NVMeCommand) :
    NVMeQueuePair :=
  { self with
    completionQueue :=
      self.completionQueue.put
        { commandId := command.commandId
          status := 0 } }

/-- Count a command as completed. -/
def countCompleted (self : NVMeQueuePair) : NVMeQueuePair :=
  { self with
    stats :=
      { self.stats with
        commandsCompleted := (self.stats.commandsCompleted + 1) % 2 ^ 64
        queueDepth := (self.stats.queueDepth + (2 ^ 64 - 1)) % 2 ^ 64 } }

end NVMeQueuePair

/-- A pair of queues of a depth. -/
def createQueuePair (queueId depth : Nat) : NVMeQueuePair where
  queueId := queueId
  queueDepth := depth
  submissionQueue := .new depth
  completionQueue := .new depth
  stats := {}

namespace NVMeController

/-- The controller that is created (`CreateController`). -/
def new (config : NVMeConfig) : NVMeController where
  ioQueues :=
    (List.range config.numIOQueues.toNat).map fun number =>
      createQueuePair ((number + 1) % 2 ^ 16) config.queueDepth

/-- The place of the queues that a command is submitted to. -/
def queueIdx (self : NVMeController) (command : NVMeCommand) : Nat :=
  command.commandId % self.ioQueues.length

/-- Submit a command, unless there are no queues or they have no slots. -/
def submitCommand (self : NVMeController) (command : NVMeCommand) :
    Except Fault Unit × NVMeController :=
  match self.ioQueues[self.queueIdx command]? with
  | none => (.error (.panic "integer divide by zero"), self)
  | some queue =>
      if queue.submissionQueue.tail <
          queue.submissionQueue.entries.length then
        (.ok (),
          { self with
            ioQueues :=
              self.ioQueues.set (self.queueIdx command)
                (queue.submit command) })
      else
        (.error (.panic "index out of range"), self)

end NVMeController

/-! ## Commands in flight -/

/-- What a task does next. -/
inductive TaskStage where
  | complete
  | countQueue
  | countController
  | finished
deriving DecidableEq

/--
A task that processes a command, with the queues and the slot that the command
was submitted to and the number of commands submitted to the queues before.
-/
structure CommandTask where
  queue : Nat
  command : NVMeCommand
  slot : Nat
  number : Nat
  stage : TaskStage := .complete
deriving DecidableEq

/-- The command has not been processed. -/
def CommandTask.Outstanding (self : CommandTask) : Prop :=
  self.stage = .complete

instance (task : CommandTask) : Decidable task.Outstanding :=
  inferInstanceAs (Decidable (_ = _))

/--
A controller with its tasks, and the commands and completions that have been put
in each pair of queues.
-/
structure CommandTraffic where
  controller : NVMeController
  tasks : List CommandTask := []
  submitted : Nat → List NVMeCommand := fun _ => []
  completed : Nat → List NVMeCompletion := fun _ => []

/-- A command is submitted, or a task takes its next step. -/
inductive CommandEvent where
  | submit (command : NVMeCommand)
  | proceed (task : Nat)

namespace CommandTraffic

/-- Change the controller at a pair of queues. -/
def modifyQueue (self : CommandTraffic) (queue : Nat)
    (change : NVMeQueuePair → NVMeQueuePair) : NVMeController :=
  { self.controller with
    ioQueues := self.controller.ioQueues.modify queue change }

/-- Submit a command and start its task. -/
def submit (self : CommandTraffic) (command : NVMeCommand) :
    CommandTraffic :=
  let queueIdx := self.controller.queueIdx command
  match self.controller.ioQueues[queueIdx]?,
    self.controller.submitCommand command with
  | some queue, (.ok _, controller) =>
      { self with
        controller := controller
        tasks :=
          self.tasks ++
            [{ queue := queueIdx
               command := command
               slot := queue.submissionQueue.tail
               number := (self.submitted queueIdx).length }]
        submitted :=
          Function.update self.submitted queueIdx
            (self.submitted queueIdx ++ [command]) }
  | _, _ => self

/-- Replace a task. -/
def setTask (self : CommandTraffic) (place : Nat) (task : CommandTask)
    (stage : TaskStage) : List CommandTask :=
  self.tasks.set place { task with stage := stage }

/-- The next step of a task. -/
def processCommand (self : CommandTraffic) (place : Nat)
    (task : CommandTask) : CommandTraffic :=
  match task.stage with
  | .complete =>
      { self with
        controller :=
          self.modifyQueue task.queue fun queue =>
            queue.complete task.command
        tasks := self.setTask place task .countQueue
        completed :=
          Function.update self.completed task.queue
            (self.completed task.queue ++
              [{ commandId := task.command.commandId
                 status := 0 }]) }
  | .countQueue =>
      { self with
        controller :=
          self.modifyQueue task.queue NVMeQueuePair.countCompleted
        tasks := self.setTask place task .countController }
  | .countController =>
      { self with
        controller :=
          { self.controller with
            completedCommands :=
              (self.controller.completedCommands + 1) % 2 ^ 64 }
        tasks := self.setTask place task .finished }
  | .finished => self

/-- The state after an event. -/
def step (self : CommandTraffic) : CommandEvent → CommandTraffic
  | .submit command => self.submit command
  | .proceed place =>
      match self.tasks[place]? with
      | none => self
      | some task => self.processCommand place task

/-- The slots of the commands of a queue that have not been processed. -/
def outstanding (self : CommandTraffic) (queue : Nat) : List Nat :=
  (self.tasks.filter fun task =>
    task.queue = queue ∧ task.Outstanding).map CommandTask.slot

/-- A new controller, to which no command has been submitted. -/
def start (config : NVMeConfig) : CommandTraffic where
  controller := .new config

end CommandTraffic

/--
An event leaves at most as many commands of a queue outstanding as it has slots,
and overwrites neither an outstanding command nor an unconsumed completion.
-/
structure EventLive (state : CommandTraffic) (event : CommandEvent) :
    Prop where
  bounded :
    ∀ place queue,
      (state.step event).controller.ioQueues[place]? = some queue →
        ((state.step event).outstanding place).length ≤
          queue.submissionQueue.size
  submission :
    ∀ command queue,
      event = .submit command →
        state.controller.ioQueues[state.controller.queueIdx command]? =
            some queue →
          queue.submissionQueue.tail ∉
            state.outstanding (state.controller.queueIdx command)
  completion :
    ∀ place task queue,
      event = .proceed place →
        state.tasks[place]? = some task →
          task.Outstanding →
            state.controller.ioQueues[task.queue]? = some queue →
              ¬ queue.completionQueue.Unconsumed
                queue.completionQueue.tail

/--
The commands submitted to the queue a round before, or earlier, have been
processed, or the queue has completed less than a round of commands.
-/
def HasSlot (size : Nat) (state : CommandTraffic) : CommandEvent → Prop
  | .submit command =>
      ∀ task ∈ state.tasks,
        task.queue = state.controller.queueIdx command →
          task.Outstanding →
            (state.submitted task.queue).length < task.number + size
  | .proceed place =>
      ∀ task ∈ state.tasks[place]?,
        task.Outstanding → (state.completed task.queue).length < size

/-! ## Rings in order -/

/-- A command is in the slot of its number, not a round ago. -/
structure TaskInOrder (size : Nat) (state : CommandTraffic)
    (task : CommandTask) : Prop where
  queue : task.queue < state.controller.ioQueues.length
  positive : 0 < size
  slot : task.slot = task.number % size
  before : task.number < (state.submitted task.queue).length
  near : (state.submitted task.queue).length ≤ task.number + size

/-- The rings are what has been put in them. -/
structure RingsInOrder (size : Nat) (state : CommandTraffic) : Prop where
  submission :
    ∀ place queue,
      state.controller.ioQueues[place]? = some queue →
        queue.submissionQueue =
          (SlotRing.new size).putAll (state.submitted place)
  completion :
    ∀ place queue,
      state.controller.ioQueues[place]? = some queue →
        queue.completionQueue =
          (SlotRing.new size).putAll (state.completed place)
  tasks :
    ∀ task ∈ state.tasks, task.Outstanding → TaskInOrder size state task
  apart : ∀ place, (state.outstanding place).Nodup

/-- The task that is started for a command. -/
def CommandTraffic.startedTask (self : CommandTraffic)
    (queue : NVMeQueuePair) (command : NVMeCommand) : CommandTask where
  queue := self.controller.queueIdx command
  command := command
  slot := queue.submissionQueue.tail
  number := (self.submitted (self.controller.queueIdx command)).length

/-- A command has been put in a queue, and its task has been started. -/
structure Submitted (size : Nat) (state : CommandTraffic)
    (command : NVMeCommand) (queue : NVMeQueuePair)
    (after : CommandTraffic) : Prop where
  found :
    state.controller.ioQueues[state.controller.queueIdx command]? =
      some queue
  positive : 0 < size
  queues :
    after.controller.ioQueues =
      state.controller.ioQueues.set (state.controller.queueIdx command)
        (queue.submit command)
  tasks : after.tasks = state.tasks ++ [state.startedTask queue command]
  submitted :
    after.submitted =
      Function.update state.submitted (state.controller.queueIdx command)
        (state.submitted (state.controller.queueIdx command) ++ [command])
  completed : after.completed = state.completed

section Rings

variable
    {size : Nat}
    {state : CommandTraffic}

theorem mem_outstanding_iff (place slot : Nat) :
    slot ∈ state.outstanding place ↔
      ∃ task ∈ state.tasks,
        task.queue = place ∧ task.Outstanding ∧ task.slot = slot := by
  simp only [CommandTraffic.outstanding, List.mem_map, List.mem_filter,
    decide_eq_true_eq, and_assoc]

/-- No more commands are outstanding than there are slots. -/
theorem outstanding_length_le (order : RingsInOrder size state)
    (place : Nat) :
    (state.outstanding place).length ≤ size := by
  apply SlotRing.length_le_of_slots (order.apart place)
  intro slot listed
  rw [mem_outstanding_iff] at listed
  rcases listed with ⟨task, member, _, waiting, rfl⟩
  have inOrder := order.tasks task member waiting
  rw [inOrder.slot]
  exact Nat.mod_lt _ inOrder.positive

/-- A submission is refused, or puts a command at the tail of a queue. -/
theorem submit_cases (order : RingsInOrder size state)
    (command : NVMeCommand) :
    state.submit command = state ∨
      ∃ queue, Submitted size state command queue (state.submit command) := by
  rw [CommandTraffic.submit, NVMeController.submitCommand]
  cases found :
      state.controller.ioQueues[state.controller.queueIdx command]? with
  | none =>
      left
      rfl
  | some queue =>
      simp only
      by_cases inside :
          queue.submissionQueue.tail < queue.submissionQueue.entries.length
      · right
        have slots := inside
        rw [order.submission _ queue found,
          SlotRing.length_entries_putAll] at slots
        rw [if_pos inside]
        exact
          ⟨queue,
            { found := found
              positive := Nat.zero_lt_of_lt slots
              queues := rfl
              tasks := rfl
              submitted := rfl
              completed := rfl }⟩
      · left
        rw [if_neg inside]

/-- The commands of a queue that are outstanding after one is submitted. -/
theorem outstanding_started {after : CommandTraffic} {task : CommandTask}
    (started : after.tasks = state.tasks ++ [task])
    (waiting : task.Outstanding) (place : Nat) :
    after.outstanding place =
      if task.queue = place then
        state.outstanding place ++ [task.slot]
      else
        state.outstanding place := by
  rw [CommandTraffic.outstanding, started, List.filter_append,
    List.map_append]
  by_cases same : task.queue = place
  · rw [if_pos same, List.filter_singleton]
    simp only [same, waiting, and_self, decide_true, cond_true]
    rfl
  · rw [if_neg same, List.filter_singleton]
    simp only [same, false_and, decide_false, cond_false, List.map_nil,
      List.append_nil]
    rfl

/--
The slot at the tail of a queue is free exactly if the outstanding commands were
submitted less than a round before.
-/
theorem tail_free_iff (order : RingsInOrder size state)
    {place : Nat} {queue : NVMeQueuePair}
    (found : state.controller.ioQueues[place]? = some queue) :
    queue.submissionQueue.tail ∉ state.outstanding place ↔
      ∀ task ∈ state.tasks,
        task.queue = place →
          task.Outstanding →
            (state.submitted task.queue).length < task.number + size := by
  rw [order.submission place queue found, SlotRing.tail_putAll,
    mem_outstanding_iff]
  constructor
  · intro free task member same waiting
    have inOrder := order.tasks task member waiting
    by_contra far
    have round :
        (state.submitted place).length = task.number + size := by
      rw [← same]
      exact Nat.le_antisymm inOrder.near (Nat.not_lt.mp far)
    apply free
    refine ⟨task, member, same, waiting, ?_⟩
    rw [inOrder.slot, round, Nat.add_mod_right]
  · rintro recent ⟨task, member, same, waiting, taken⟩
    have inOrder := order.tasks task member waiting
    have near := recent task member same waiting
    have before := inOrder.before
    rw [inOrder.slot] at taken
    rw [same] at near before
    have equal := SlotRing.slot_injective before.le near taken
    omega

section Submission

variable
    {after : CommandTraffic}
    {command : NVMeCommand}
    {queue : NVMeQueuePair}

/-- A pair of queues is the one submitted to, or is as it was. -/
theorem Submitted.getElem?
    (submitted : Submitted size state command queue after)
    {place : Nat} {other : NVMeQueuePair}
    (listed : after.controller.ioQueues[place]? = some other) :
    (place = state.controller.queueIdx command ∧
        other = queue.submit command) ∨
      (place ≠ state.controller.queueIdx command ∧
        state.controller.ioQueues[place]? = some other) := by
  have inside := (List.getElem?_eq_some_iff.mp submitted.found).1
  rw [submitted.queues, List.getElem?_set] at listed
  by_cases same : state.controller.queueIdx command = place
  · rw [if_pos same, if_pos (same ▸ inside)] at listed
    exact Or.inl ⟨same.symm, (Option.some.inj listed).symm⟩
  · rw [if_neg same] at listed
    exact Or.inr ⟨Ne.symm same, listed⟩

/-- How many commands have been submitted to each queue. -/
theorem Submitted.length_submitted
    (submitted : Submitted size state command queue after)
    (place : Nat) :
    (after.submitted place).length =
      (state.submitted place).length +
        if place = state.controller.queueIdx command then 1 else 0 := by
  rw [submitted.submitted]
  by_cases same : place = state.controller.queueIdx command
  · rw [same, Function.update_self, if_pos rfl, List.length_append]
    rfl
  · rw [Function.update_of_ne same, if_neg same]
    rfl

/-- The tasks stay in order if no slot is a round old. -/
theorem Submitted.taskInOrder
    (submitted : Submitted size state command queue after)
    (order : RingsInOrder size state)
    (hasSlot : HasSlot size state (.submit command))
    {task : CommandTask} (member : task ∈ after.tasks)
    (waiting : task.Outstanding) :
    TaskInOrder size after task := by
  have inside := (List.getElem?_eq_some_iff.mp submitted.found).1
  have length := submitted.length_submitted task.queue
  have queues :
      after.controller.ioQueues.length =
        state.controller.ioQueues.length := by
    rw [submitted.queues, List.length_set]
  rw [submitted.tasks] at member
  rcases List.mem_append.mp member with old | new
  · have inOrder := order.tasks task old waiting
    have before := inOrder.before
    have near := inOrder.near
    have recent := fun same => hasSlot task old same waiting
    refine
      { queue := queues ▸ inOrder.queue
        positive := inOrder.positive
        slot := inOrder.slot
        before := ?_
        near := ?_ }
    · omega
    · by_cases same : task.queue = state.controller.queueIdx command
      · have later := recent same
        rw [if_pos same] at length
        omega
      · rw [if_neg same] at length
        omega
  · rw [List.mem_singleton] at new
    subst new
    have positive := submitted.positive
    have number :
        (state.startedTask queue command).number =
          (state.submitted
            (state.startedTask queue command).queue).length :=
      rfl
    have same :
        (state.startedTask queue command).queue =
          state.controller.queueIdx command :=
      rfl
    rw [if_pos same] at length
    refine
      { queue := queues ▸ inside
        positive := positive
        slot := ?_
        before := ?_
        near := ?_ }
    · show queue.submissionQueue.tail = _
      rw [order.submission _ queue submitted.found, SlotRing.tail_putAll]
      rfl
    · omega
    · omega

/-- The outstanding commands stay apart if the slot at the tail is free. -/
theorem Submitted.apart
    (submitted : Submitted size state command queue after)
    (order : RingsInOrder size state)
    (free :
      queue.submissionQueue.tail ∉
        state.outstanding (state.controller.queueIdx command))
    (place : Nat) :
    (after.outstanding place).Nodup := by
  rw [outstanding_started submitted.tasks rfl place]
  by_cases same :
      (state.startedTask queue command).queue = place
  · subst same
    rw [if_pos rfl]
    apply List.nodup_append.mpr
    refine ⟨order.apart _, List.nodup_singleton _, ?_⟩
    intro slot listed tailSlot last equal
    rw [List.mem_singleton] at last
    subst last
    subst equal
    exact free listed
  · rw [if_neg same]
    exact order.apart place

end Submission

/-- The rings stay in order if the slot at the tail is free. -/
theorem submit_inOrder (order : RingsInOrder size state)
    (command : NVMeCommand)
    (hasSlot : HasSlot size state (.submit command)) :
    RingsInOrder size (state.submit command) := by
  rcases submit_cases order command with same | ⟨queue, submitted⟩
  · rw [same]
    exact order
  refine
    { submission := ?_
      completion := ?_
      tasks := fun _ => submitted.taskInOrder order hasSlot
      apart :=
        submitted.apart order
          ((tail_free_iff order submitted.found).mpr hasSlot) }
  · intro place other listed
    rw [submitted.submitted]
    rcases submitted.getElem? listed with ⟨rfl, rfl⟩ | ⟨apart, before⟩
    · rw [Function.update_self, SlotRing.putAll_append_singleton,
        ← order.submission _ queue submitted.found]
      rfl
    · rw [Function.update_of_ne apart]
      exact order.submission place other before
  · intro place other listed
    rw [submitted.completed]
    rcases submitted.getElem? listed with ⟨rfl, rfl⟩ | ⟨_, before⟩
    · exact order.completion _ queue submitted.found
    · exact order.completion place other before

/-! ## Steps of the tasks -/

/-- A command that is processed is no longer among the outstanding ones. -/
theorem filter_set_sublist {α : Type*} (meets : α → Bool) (place : Nat)
    (changed : α) (done : meets changed = false) (items : List α) :
    ((items.set place changed).filter meets).Sublist
      (items.filter meets) := by
  induction items generalizing place with
  | nil => exact List.Sublist.refl _
  | cons item rest induction =>
      cases place with
      | zero =>
          rw [List.set_cons_zero, List.filter_cons_of_neg (by simp [done])]
          exact (List.sublist_cons_self item rest).filter meets
      | succ place =>
          rw [List.set_cons_succ, List.filter_cons, List.filter_cons]
          split
          · exact (induction place).cons_cons item
          · exact induction place

/-- Rings stay in order if a task that is replaced is not outstanding. -/
theorem inOrder_of_setTask (order : RingsInOrder size state)
    {after : CommandTraffic} {place : Nat} {task : CommandTask}
    {stage : TaskStage}
    (replaced : after.tasks = state.setTask place task stage)
    (done : stage ≠ .complete)
    (submitted : after.submitted = state.submitted)
    (length :
      after.controller.ioQueues.length =
        state.controller.ioQueues.length)
    (submission :
      ∀ place queue,
        after.controller.ioQueues[place]? = some queue →
          queue.submissionQueue =
            (SlotRing.new size).putAll (state.submitted place))
    (completion :
      ∀ place queue,
        after.controller.ioQueues[place]? = some queue →
          queue.completionQueue =
            (SlotRing.new size).putAll (after.completed place)) :
    RingsInOrder size after := by
  refine
    { submission := ?_
      completion := completion
      tasks := ?_
      apart := ?_ }
  · rw [submitted]
    exact submission
  · intro other member waiting
    rw [replaced] at member
    rcases List.mem_or_eq_of_mem_set member with old | rfl
    · have inOrder := order.tasks other old waiting
      exact
        { queue := by
            rw [length]
            exact inOrder.queue
          positive := inOrder.positive
          slot := inOrder.slot
          before := by
            rw [submitted]
            exact inOrder.before
          near := by
            rw [submitted]
            exact inOrder.near }
    · exact absurd waiting done
  · intro queue
    refine List.Nodup.sublist ?_ (order.apart queue)
    rw [CommandTraffic.outstanding, replaced]
    apply List.Sublist.map
    apply filter_set_sublist
    exact decide_eq_false fun both => done both.2

/-- A pair of queues after one of them has been modified. -/
theorem getElem?_modifyQueue {place queue : Nat}
    {change : NVMeQueuePair → NVMeQueuePair} {after : NVMeQueuePair}
    (listed :
      (state.modifyQueue queue change).ioQueues[place]? = some after) :
    ∃ before,
      state.controller.ioQueues[place]? = some before ∧
        after = if queue = place then change before else before := by
  rw [CommandTraffic.modifyQueue, List.getElem?_modify] at listed
  rcases Option.map_eq_some_iff.mp listed with ⟨before, found, rfl⟩
  exact ⟨before, found, rfl⟩

/-- Submission queues that are not changed hold what was put in them. -/
theorem submission_modifyQueue (order : RingsInOrder size state)
    {change : NVMeQueuePair → NVMeQueuePair}
    {place queue : Nat} {after : NVMeQueuePair}
    (listed :
      (state.modifyQueue queue change).ioQueues[place]? = some after)
    (keeps :
      ∀ queue, (change queue).submissionQueue = queue.submissionQueue) :
    after.submissionQueue =
      (SlotRing.new size).putAll (state.submitted place) := by
  rcases getElem?_modifyQueue listed with ⟨before, known, rfl⟩
  rw [← order.submission place before known]
  split
  · exact keeps before
  · rfl

/-- The rings stay in order when a task takes a step. -/
theorem proceed_inOrder (order : RingsInOrder size state) (place : Nat) :
    RingsInOrder size (state.step (.proceed place)) := by
  rw [CommandTraffic.step]
  cases found : state.tasks[place]? with
  | none => exact order
  | some task =>
      simp only
      rw [CommandTraffic.processCommand]
      cases stage : task.stage with
      | complete =>
          refine
            inOrder_of_setTask order rfl (by decide) rfl
              (List.length_modify _ _ _) ?_ ?_
          · intro number after listed
            exact submission_modifyQueue order listed fun _ => rfl
          · intro number after listed
            rcases getElem?_modifyQueue listed with ⟨before, known, rfl⟩
            have ring := order.completion number before known
            by_cases same : task.queue = number
            · subst same
              simp only [if_true, Function.update_self]
              rw [SlotRing.putAll_append_singleton, ← ring]
              rfl
            · simp only [if_neg same,
                Function.update_of_ne (Ne.symm same)]
              exact ring
      | countQueue =>
          refine
            inOrder_of_setTask order rfl (by decide) rfl
              (List.length_modify _ _ _) ?_ ?_
          · intro number after listed
            exact submission_modifyQueue order listed fun _ => rfl
          · intro number after listed
            rcases getElem?_modifyQueue listed with ⟨before, known, rfl⟩
            rw [← order.completion number before known]
            split
            · rfl
            · rfl
      | countController =>
          exact
            inOrder_of_setTask order rfl (by decide) rfl rfl
              order.submission order.completion
      | finished => exact order

/-- An event is live exactly if it finds a slot. -/
theorem eventLive_iff (order : RingsInOrder size state)
    (event : CommandEvent) :
    EventLive state event ↔ HasSlot size state event := by
  have bounded :
      RingsInOrder size (state.step event) →
        ∀ place queue,
          (state.step event).controller.ioQueues[place]? = some queue →
            ((state.step event).outstanding place).length ≤
              queue.submissionQueue.size := by
    intro after place queue listed
    rw [after.submission place queue listed, SlotRing.size_putAll]
    exact outstanding_length_le after place
  cases event with
  | submit command =>
      constructor
      · intro live task member same waiting
        have inside := (order.tasks task member waiting).queue
        rw [same] at inside
        have found := List.getElem?_eq_getElem inside
        exact
          (tail_free_iff order found).mp
            (live.submission command _ rfl found) task member same waiting
      · intro hasSlot
        refine
          { bounded := bounded (submit_inOrder order command hasSlot)
            submission := ?_
            completion := ?_ }
        · rintro _ queue ⟨⟩ found
          exact (tail_free_iff order found).mpr hasSlot
        · rintro _ _ _ ⟨⟩
  | proceed place =>
      constructor
      · intro live task listed waiting
        have inOrder :=
          order.tasks task (List.mem_of_getElem? listed) waiting
        have found := List.getElem?_eq_getElem inOrder.queue
        have free := live.completion place task _ rfl listed waiting found
        rw [order.completion _ _ found,
          SlotRing.unconsumed_tail_iff _ inOrder.positive] at free
        exact Nat.not_le.mp free
      · intro hasSlot
        refine
          { bounded := bounded (proceed_inOrder order place)
            submission := ?_
            completion := ?_ }
        · rintro _ _ ⟨⟩
        · rintro _ task queue ⟨⟩ listed waiting found
          have inOrder :=
            order.tasks task (List.mem_of_getElem? listed) waiting
          rw [order.completion _ _ found,
            SlotRing.unconsumed_tail_iff _ inOrder.positive]
          exact Nat.not_le.mpr (hasSlot task listed waiting)

end Rings

/-- The rings of a new controller are in order. -/
theorem start_inOrder (config : NVMeConfig) :
    RingsInOrder config.queueDepth (CommandTraffic.start config) := by
  have created :
      ∀ (place : Nat) (queue : NVMeQueuePair),
        (CommandTraffic.start config).controller.ioQueues[place]? =
            some queue →
          ∃ queueId, queue = createQueuePair queueId config.queueDepth := by
    intro place queue listed
    rcases List.mem_map.mp (List.mem_of_getElem? listed) with
      ⟨number, _, rfl⟩
    exact ⟨_, rfl⟩
  refine
    { submission := ?_
      completion := ?_
      tasks := ?_
      apart := fun _ => List.nodup_nil }
  · intro place queue listed
    rcases created place queue listed with ⟨queueId, rfl⟩
    rfl
  · intro place queue listed
    rcases created place queue listed with ⟨queueId, rfl⟩
    rfl
  · rintro task ⟨⟩

/--
The rings of a controller are live during commands and their tasks exactly if
each command finds those processed that were submitted to its queue a round
before, and no queue completes more commands than a round.
-/
theorem commandRings_live_iff (config : NVMeConfig)
    (events : List CommandEvent) :
    AllSteps CommandTraffic.step EventLive (.start config) events ↔
      AllSteps CommandTraffic.step (HasSlot config.queueDepth)
        (.start config) events := by
  apply
    @allSteps_iff_of_guarded _ _ _ _ _ (RingsInOrder config.queueDepth)
  · intro state event order hasSlot
    cases event with
    | submit command => exact submit_inOrder order command hasSlot
    | proceed place => exact proceed_inOrder order place
  · intro state event order
    exact eventLive_iff order event
  · exact start_inOrder config

/-- A pair of queues with a slot each. -/
def singleSlot : NVMeConfig where
  numIOQueues := 1
  queueDepth := 1
  defaultBlockSize := 4096
  enableZNS := false

/--
The second of two commands overwrites the first one, and the completion of a
command overwrites that of the one processed before.
-/
theorem commandRings_notLive :
    (¬ AllSteps CommandTraffic.step EventLive (.start singleSlot)
        [.submit ⟨1⟩, .submit ⟨2⟩]) ∧
      ¬ AllSteps CommandTraffic.step EventLive (.start singleSlot)
        [.submit ⟨1⟩, .proceed 0, .submit ⟨2⟩, .proceed 1] := by
  constructor
  · rintro ⟨_, live, _⟩
    have free := live.submission ⟨2⟩ _ rfl rfl
    revert free
    decide
  · rintro ⟨_, _, _, live, _⟩
    have free := live.completion 1 _ _ rfl rfl rfl rfl
    apply free
    exact ⟨⟨_, rfl⟩, le_rfl⟩

end StorageAppliance.PowerScale
