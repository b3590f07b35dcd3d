import StorageAppliance.NvmeDrv.CompletionQueue

/-!
# The memory of a completion queue

In C a completion queue is an array of 256 completions and three numbers of 16
bits (`nvmedrv/driver.h`), and its operations compute with these
(`nvmedrv/driver_cgo.go`).  Here an access outside of the array and a remainder
by zero are faults.

Once it is initialized, this memory stands for a ring, whatever it held before
and whatever depth it was given (`represents_queueInit`), and each operation
does to it what it does to the ring (`Represents.call`).  So every sequence of
calls runs without a fault and treats the completions as a queue of bounded
capacity does (`completionRing_fifo`).
-/

namespace StorageAppliance.NvmeDrv

open StorageAppliance.Library

/-- The structure `nvme_cq`. -/
structure NvmeCqMemory where
  cpls : Vector NvmeCpl 256
  head : UInt16
  tail : UInt16
  depth : UInt16
deriving DecidableEq

namespace NvmeCqMemory

/-! ## Operations -/

/-- `nvme_queue_init`, for the completion queue. -/
def queueInit (cq : NvmeCqMemory) (depth : UInt16) : NvmeCqMemory :=
  let depth := if depth = 0 ∨ 256 < depth then 64 else depth
  { cq with
    head := 0
    tail := 0
    depth := depth }

/-- The slot after another, which is computed as an `int` and then cut. -/
def following (cq : NvmeCqMemory) (slot : UInt16) : Except CFault UInt16 :=
  if cq.depth = 0 then
    .error .divisionByZero
  else
    .ok (UInt16.ofNat ((slot.toNat + 1) % cq.depth.toNat))

/-- `nvme_queue_push`. -/
def queuePush (cq : NvmeCqMemory) (cpl : NvmeCpl) :
    Except CFault (ℤ × NvmeCqMemory) :=
  match cq.following cq.tail with
  | .error fault => .error fault
  | .ok next =>
      if next = cq.head then
        .ok (-1, cq)
      else if inside : cq.tail.toNat < 256 then
        .ok
          (0,
            { cq with
              cpls := cq.cpls.set cq.tail.toNat cpl inside
              tail := next })
      else
        .error .outOfBounds

/-- `nvme_queue_pop`. -/
def queuePop (cq : NvmeCqMemory) :
    Except CFault (ℤ × Option NvmeCpl × NvmeCqMemory) :=
  if cq.head = cq.tail then
    .ok (-1, none, cq)
  else if inside : cq.head.toNat < 256 then
    let cpl := cq.cpls[cq.head.toNat]
    match cq.following cq.head with
    | .error fault => .error fault
    | .ok next => .ok (0, some cpl, { cq with head := next })
  else
    .error .outOfBounds

def call (cq : NvmeCqMemory) :
    QueueCall → Except CFault (QueueAnswer × NvmeCqMemory)
  | .init depth => .ok (none, cq.queueInit depth)
  | .push cpl =>
      match cq.queuePush cpl with
      | .error fault => .error fault
      | .ok (code, pushed) => .ok (some (code, none), pushed)
  | .pop =>
      match cq.queuePop with
      | .error fault => .error fault
      | .ok (code, cpl, popped) => .ok (some (code, cpl), popped)

/-- The answers to successive calls, none of which is a fault. -/
def answers :
    NvmeCqMemory → List QueueCall →
      Except CFault (List QueueAnswer × NvmeCqMemory)
  | cq, [] => .ok ([], cq)
  | cq, first :: rest =>
      match cq.call first with
      | .error fault => .error fault
      | .ok (answer, next) =>
          match next.answers rest with
          | .error fault => .error fault
          | .ok (others, last) => .ok (answer :: others, last)

/-! ## The ring that memory stands for -/

/-- The ends, the depth and the slots of memory are those of a ring. -/
structure Represents (memory : NvmeCqMemory) (cq : NvmeCq) : Prop where
  head : memory.head.toNat = cq.ring.head
  tail : memory.tail.toNat = cq.ring.tail
  depth : memory.depth.toNat = cq.ring.depth
  slots :
    ∀ slot (inside : slot < 256), memory.cpls[slot] = cq.ring.slots slot

/-- Any memory, as a ring that is not in use. -/
def unused (memory : NvmeCqMemory) : NvmeCq where
  ring :=
    { blankCq.ring with
      slots := fun slot => memory.cpls[slot]?.getD {} }
  depth_le := blankCq.depth_le

theorem unused_slots
    (memory : NvmeCqMemory) (slot : Nat) (inside : slot < 256) :
    memory.cpls[slot] = memory.unused.ring.slots slot := by
  show memory.cpls[slot] = memory.cpls[slot]?.getD {}
  rw [Vector.getElem?_eq_getElem inside, Option.getD_some]

/-- Initialized memory stands for an initialized ring of the same slots. -/
theorem represents_queueInit
    {memory : NvmeCqMemory} {cq : NvmeCq} (depth : UInt16)
    (slots :
      ∀ slot (inside : slot < 256),
        memory.cpls[slot] = cq.ring.slots slot) :
    (memory.queueInit depth).Represents (nvmeQueueInit cq depth) where
  head := rfl
  tail := rfl
  depth := by
    show
      (if depth = 0 ∨ 256 < depth then (64 : UInt16) else depth).toNat =
        queueDepth depth
    rw [queueDepth]
    split <;> rfl
  slots := slots

namespace Represents

variable
    {memory : NvmeCqMemory}
    {cq : NvmeCq}

theorem depth_ne_zero (represents : memory.Represents cq) :
    memory.depth ≠ 0 := by
  intro zero
  have number := represents.depth
  rw [zero] at number
  exact absurd number (Nat.zero_lt_of_lt cq.ring.head_lt).ne

/-- The slot after another is the one in the ring. -/
theorem following
    (represents : memory.Represents cq) {slot : UInt16} {place : Nat}
    (same : slot.toNat = place) :
    ∃ next,
      memory.following slot = .ok next ∧
        next.toNat = cq.ring.next place := by
  refine ⟨_, if_neg represents.depth_ne_zero, ?_⟩
  have bound : cq.ring.next place < 2 ^ 16 :=
    ((cq.ring.next_lt place).trans_le cq.depth_le).trans (by decide)
  rw [UInt16.toNat_ofNat', same, represents.depth]
  exact Nat.mod_eq_of_lt bound

theorem head_inside (represents : memory.Represents cq) :
    memory.head.toNat < 256 := by
  rw [represents.head]
  exact cq.ring.head_lt.trans_le cq.depth_le

theorem tail_inside (represents : memory.Represents cq) :
    memory.tail.toNat < 256 := by
  rw [represents.tail]
  exact cq.ring.tail_lt.trans_le cq.depth_le

theorem queuePush_of_full
    (represents : memory.Represents cq) (full : cq.ring.IsFull)
    (cpl : NvmeCpl) : memory.queuePush cpl = .ok (-1, memory) := by
  rcases represents.following represents.tail with ⟨next, found, place⟩
  have reached : next = memory.head := by
    rw [← UInt16.toNat_inj, place, represents.head]
    exact full
  simp only [queuePush, found, if_pos reached]

/-- While there is room, a completion is stored where the ring has it. -/
theorem queuePush_of_room
    (represents : memory.Represents cq) (room : ¬ cq.ring.IsFull)
    (cpl : NvmeCpl) :
    ∃ after pushed,
      memory.queuePush cpl = .ok (0, after) ∧
        nvmeQueuePush cq cpl = (0, pushed) ∧ after.Represents pushed := by
  rcases represents.following represents.tail with ⟨next, found, place⟩
  have apart : next ≠ memory.head := by
    rw [ne_eq, ← UInt16.toNat_inj, place, represents.head]
    exact room
  have inside := represents.tail_inside
  rw [nvmeQueuePush]
  split
  · rename_i refused
    rw [BoundedRing.push, if_neg room] at refused
    cases refused
  · rename_i pushed done
    refine
      ⟨{ memory with
          cpls := memory.cpls.set memory.tail.toNat cpl inside
          tail := next },
        _, ?_, rfl, ?_⟩
    · simp only [queuePush, found, if_neg apart, dif_pos inside]
    · rw [BoundedRing.push, if_neg room] at done
      cases done
      refine ⟨represents.head, place, represents.depth, ?_⟩
      intro slot bound
      show
        (memory.cpls.set memory.tail.toNat cpl inside)[slot] =
          Function.update cq.ring.slots cq.ring.tail cpl slot
      rw [Vector.getElem_set, Function.update_apply, represents.tail,
        represents.slots slot bound]
      exact if_congr eq_comm rfl rfl

theorem queuePop_of_empty
    (represents : memory.Represents cq)
    (empty : cq.ring.head = cq.ring.tail) :
    memory.queuePop = .ok (-1, none, memory) := by
  apply if_pos
  rw [← UInt16.toNat_inj, represents.head, represents.tail]
  exact empty

theorem queuePop_of_entry
    (represents : memory.Represents cq)
    (apart : cq.ring.head ≠ cq.ring.tail) :
    ∃ after cpl popped,
      memory.queuePop = .ok (0, some cpl, after) ∧
        nvmeQueuePop cq = (0, some cpl, popped) ∧
        after.Represents popped := by
  rcases represents.following represents.head with ⟨next, found, place⟩
  have other : memory.head ≠ memory.tail := by
    rw [ne_eq, ← UInt16.toNat_inj, represents.head, represents.tail]
    exact apart
  have inside := represents.head_inside
  have first : memory.cpls[memory.head.toNat] = cq.ring.slots cq.ring.head := by
    rw [represents.slots _ inside, represents.head]
  rw [nvmeQueuePop]
  split
  · rename_i nothing
    rw [BoundedRing.pop, if_neg apart] at nothing
    cases nothing
  · rename_i cpl popped taken
    rw [BoundedRing.pop, if_neg apart] at taken
    cases taken
    refine ⟨{ memory with head := next }, _, _, ?_, rfl, ?_⟩
    · simp only [queuePop, if_neg other, dif_pos inside, found, first]
    · exact ⟨place, represents.tail, represents.depth, represents.slots⟩

/-- Each call does to the memory what it does to the ring. -/
theorem call (represents : memory.Represents cq) (call : QueueCall) :
    ∃ after,
      memory.call call = .ok ((cq.call call).1, after) ∧
        after.Represents (cq.call call).2 := by
  cases call with
  | init depth =>
      exact ⟨_, rfl, represents_queueInit depth represents.slots⟩
  | push cpl =>
      by_cases full : cq.ring.IsFull
      · simp only [NvmeCqMemory.call, NvmeCq.call, nvmeQueuePush_of_full full,
          represents.queuePush_of_full full]
        exact ⟨memory, rfl, represents⟩
      · rcases represents.queuePush_of_room full cpl with
          ⟨after, pushed, stored, done, next⟩
        simp only [NvmeCqMemory.call, NvmeCq.call, done, stored]
        exact ⟨after, rfl, next⟩
  | pop =>
      by_cases empty : cq.ring.head = cq.ring.tail
      · have nothing : nvmeQueuePop cq = (-1, none, cq) := by
          rw [nvmeQueuePop]
          split
          · rfl
          · rename_i cpl popped taken
            rw [BoundedRing.pop, if_pos empty] at taken
            cases taken
        simp only [NvmeCqMemory.call, NvmeCq.call, nothing,
          represents.queuePop_of_empty empty]
        exact ⟨memory, rfl, represents⟩
      · rcases represents.queuePop_of_entry empty with
          ⟨after, cpl, popped, taken, done, next⟩
        simp only [NvmeCqMemory.call, NvmeCq.call, done, taken]
        exact ⟨after, rfl, next⟩

/-- Successive calls run without a fault, as on the ring. -/
theorem answers
    (represents : memory.Represents cq) (calls : List QueueCall) :
    ∃ last,
      memory.answers calls =
          .ok ((NvmeDrv.answers NvmeCq.call cq calls).1, last) ∧
        last.Represents (NvmeDrv.answers NvmeCq.call cq calls).2 := by
  induction calls generalizing memory cq with
  | nil => exact ⟨memory, rfl, represents⟩
  | cons first rest induction =>
      rcases represents.call first with ⟨next, answered, represented⟩
      rcases induction represented with ⟨last, others, final⟩
      refine ⟨last, ?_, final⟩
      simp only [NvmeCqMemory.answers, answered, others]
      rfl

end Represents

/-! ## Sequences of calls -/

/--
The completions that are in memory: the ends are inside of it, and the next
operation fails exactly if there is no room for another, or none to take out.
-/
structure Queues (memory : NvmeCqMemory) (queued : List NvmeCpl) : Prop where
  head_lt : memory.head < memory.depth
  tail_lt : memory.tail < memory.depth
  depth_le : memory.depth ≤ 256
  push :
    ∀ cpl, ∃ code after,
      memory.queuePush cpl = .ok (code, after) ∧
        (code ≠ 0 ↔ queued.length = memory.depth.toNat - 1)
  pop :
    ∃ code cpl after,
      memory.queuePop = .ok (code, cpl, after) ∧
        (code ≠ 0 ↔ queued = [])

theorem Represents.queues
    {memory : NvmeCqMemory} {cq : NvmeCq}
    (represents : memory.Represents cq) :
    memory.Queues cq.ring.contents where
  head_lt := by
    rw [UInt16.lt_iff_toNat_lt, represents.head, represents.depth]
    exact cq.ring.head_lt
  tail_lt := by
    rw [UInt16.lt_iff_toNat_lt, represents.tail, represents.depth]
    exact cq.ring.tail_lt
  depth_le := by
    rw [UInt16.le_iff_toNat_le, represents.depth]
    exact cq.depth_le
  push := by
    intro cpl
    have full := @isFull_iff_fifo cq
    rw [represents.depth]
    by_cases isFull : cq.ring.IsFull
    · refine ⟨_, _, represents.queuePush_of_full isFull cpl, ?_⟩
      exact iff_of_true (by decide) (full.mp isFull)
    · rcases represents.queuePush_of_room isFull cpl with
        ⟨after, _, stored, _⟩
      exact
        ⟨0, after, stored, iff_of_false (by decide) (mt full.mpr isFull)⟩
  pop := by
    by_cases empty : cq.ring.head = cq.ring.tail
    · have none : cq.ring.pop = none := if_pos empty
      refine ⟨_, _, _, represents.queuePop_of_empty empty, ?_⟩
      exact iff_of_true (by decide) (BoundedRing.contents_of_pop_none none)
    · rcases represents.queuePop_of_entry empty with
        ⟨after, cpl, _, taken, _⟩
      have some : cq.ring.pop = some (_, _) := if_neg empty
      have first := BoundedRing.contents_of_pop some
      refine ⟨0, _, after, taken, iff_of_false (by decide) ?_⟩
      rw [first]
      exact List.cons_ne_nil _ _

theorem depth_answers
    {cq : NvmeCq} {calls : List QueueCall}
    (kept : ∀ call ∈ calls, ∀ depth, call ≠ .init depth) :
    (NvmeDrv.answers NvmeCq.call cq calls).2.ring.depth = cq.ring.depth := by
  induction calls generalizing cq with
  | nil => rfl
  | cons first rest induction =>
      have one : (cq.call first).2.ring.depth = cq.ring.depth := by
        cases first with
        | init depth => exact absurd rfl (kept _ (by simp) depth)
        | push cpl => exact nvmeQueuePush_depth cpl
        | pop =>
            show (nvmeQueuePop cq).2.2.ring.depth = cq.ring.depth
            rw [nvmeQueuePop]
            split
            · rfl
            · rename_i cpl popped taken
              exact BoundedRing.depth_of_pop taken
      rw [← one]
      exact induction fun call member => kept call (by simp [member])

/-- The queue of bounded capacity that a depth asks for, without completions. -/
def emptyFifo (depth : UInt16) : CompletionFifo where
  capacity := queueDepth depth - 1
  entries := []

/--
After an initialization every sequence of pushes and pops runs inside of the
memory, is answered as by the queue of bounded capacity, and takes out the
completions that were put in, in their order, up to those still queued.
-/
theorem completionRing_fifo
    (memory : NvmeCqMemory) (depth : UInt16) {calls : List QueueCall}
    (kept : ∀ call ∈ calls, ∀ depth, call ≠ .init depth) :
    ∃ answers last queued,
      (memory.queueInit depth).answers calls = .ok (answers, last) ∧
        last.Queues queued ∧
        last.depth.toNat = queueDepth depth ∧
        answers =
          (NvmeDrv.answers CompletionFifo.call (emptyFifo depth) calls).1 ∧
        allAdded calls answers = answers.flatMap handedOut ++ queued := by
  have start := represents_queueInit depth memory.unused_slots
  rcases start.answers calls with ⟨last, answered, represents⟩
  refine ⟨_, last, _, answered, represents.queues, ?_, ?_, ?_⟩
  · rw [represents.depth, depth_answers kept]
    rfl
  · rw [emptyFifo, ← @fifo_init memory.unused depth]
    exact congrArg Prod.fst (answers_fifo _ calls)
  · have conserved :=
      contents_conserved (nvmeQueueInit memory.unused depth) calls kept
    have none : (nvmeQueueInit memory.unused depth).ring.contents = [] :=
      BoundedRing.contents_reset _ _
    rw [none] at conserved
    exact conserved

/-- The memory of a controller that was just allocated. -/
def zeroed : NvmeCqMemory where
  cpls := Vector.replicate 256 {}
  head := 0
  tail := 0
  depth := 0

/-- With a depth of two, the second of two completions is refused. -/
def twoPushes : List QueueCall :=
  [.push { cid := 1 }, .push { cid := 2 }, .pop, .pop]

theorem completionRing_twoPushes :
    ∃ answers last queued,
      (zeroed.queueInit 2).answers twoPushes = .ok (answers, last) ∧
        last.Queues queued ∧
        last.depth.toNat = queueDepth 2 ∧
        answers =
          (NvmeDrv.answers CompletionFifo.call (emptyFifo 2) twoPushes).1 ∧
        allAdded twoPushes answers =
          answers.flatMap handedOut ++ queued :=
  completionRing_fifo zeroed 2 (by simp [twoPushes])

end NvmeCqMemory

end StorageAppliance.NvmeDrv
