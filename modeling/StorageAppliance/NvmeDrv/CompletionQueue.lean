import StorageAppliance.NvmeDrv.Driver

/-!
# The completion queue

A completion queue is for a queue of bounded capacity: a completion is refused
when the queue is full, and completions are taken out in the order in which they
were put in.  The ring of a controller answers every sequence of calls as this
queue does (`answers_fifo`), so that between two initializations no completion
is lost, doubled or overtaken (`contents_conserved`).
-/

namespace StorageAppliance.NvmeDrv

open StorageAppliance.Library

/-! ## Calls -/

/-- The operations on a completion queue. -/
inductive QueueCall where
  | init (depth : UInt16)
  | push (cpl : NvmeCpl)
  | pop
deriving DecidableEq

/-- A code and the completion taken out; an initialization returns nothing. -/
abbrev QueueAnswer :=
  Option (ℤ × Option NvmeCpl)

def NvmeCq.call (cq : NvmeCq) : QueueCall → QueueAnswer × NvmeCq
  | .init depth => (none, nvmeQueueInit cq depth)
  | .push cpl =>
      let (code, pushed) := nvmeQueuePush cq cpl
      (some (code, none), pushed)
  | .pop =>
      let (code, cpl, popped) := nvmeQueuePop cq
      (some (code, cpl), popped)

/-- The answers to successive calls, and the state after them. -/
def answers
    {State : Type} (call : State → QueueCall → QueueAnswer × State) :
    State → List QueueCall → List QueueAnswer × State
  | state, [] => ([], state)
  | state, first :: rest =>
      let (answer, next) := call state first
      let (others, last) := answers call next rest
      (answer :: others, last)

/-! ## The queue that is meant -/

/-- Completions in the order of their arrival, up to a number of them. -/
structure CompletionFifo where
  capacity : Nat
  entries : List NvmeCpl
deriving DecidableEq

def CompletionFifo.call (fifo : CompletionFifo) :
    QueueCall → QueueAnswer × CompletionFifo
  | .init depth =>
      (none, { capacity := queueDepth depth - 1, entries := [] })
  | .push cpl =>
      if fifo.entries.length = fifo.capacity then
        (some (-1, none), fifo)
      else
        (some (0, none),
          { fifo with entries := fifo.entries ++ [cpl] })
  | .pop =>
      match fifo.entries with
      | [] => (some (-1, none), fifo)
      | cpl :: rest => (some (0, some cpl), { fifo with entries := rest })

/-- The queue that a ring stands for; one slot is never used. -/
def NvmeCq.fifo (cq : NvmeCq) : CompletionFifo where
  capacity := cq.ring.depth - 1
  entries := cq.ring.contents

/-! ## One call -/

section Calls

variable
    {cq : NvmeCq}

/-- The ring is full when the queue is. -/
theorem isFull_iff_fifo :
    cq.ring.IsFull ↔ cq.fifo.entries.length = cq.fifo.capacity := by
  rw [cq.ring.isFull_iff]
  have positive : 0 < cq.ring.depth := Nat.zero_lt_of_lt cq.ring.head_lt
  show
    cq.ring.contents.length + 1 = cq.ring.depth ↔
      cq.ring.contents.length = cq.ring.depth - 1
  omega

theorem fifo_init (depth : UInt16) :
    (nvmeQueueInit cq depth).fifo =
      { capacity := queueDepth depth - 1, entries := [] } := by
  show
    CompletionFifo.mk (queueDepth depth - 1)
        (cq.ring.reset (queueDepth depth)
          (queueDepth_pos depth)).contents =
      _
  rw [BoundedRing.contents_reset]

theorem nvmeQueuePush_depth (cpl : NvmeCpl) :
    (nvmeQueuePush cq cpl).2.ring.depth = cq.ring.depth := by
  rw [nvmeQueuePush]
  split
  · rfl
  · rename_i pushed done
    exact BoundedRing.depth_of_push done

theorem call_push_fifo (cpl : NvmeCpl) :
    ((cq.call (.push cpl)).1, (cq.call (.push cpl)).2.fifo) =
      cq.fifo.call (.push cpl) := by
  by_cases full : cq.ring.IsFull
  · simp only [NvmeCq.call, CompletionFifo.call,
      nvmeQueuePush_of_full full, if_pos (isFull_iff_fifo.mp full)]
  · have room := mt isFull_iff_fifo.mpr full
    rcases nvmeQueuePush_of_room full cpl with ⟨pushed, done, contents⟩
    have depth : pushed.ring.depth = cq.ring.depth := by
      rw [← @nvmeQueuePush_depth cq cpl, done]
    simp only [NvmeCq.call, CompletionFifo.call, done, if_neg room]
    simp only [NvmeCq.fifo, contents, depth]

theorem call_pop_fifo :
    ((cq.call .pop).1, (cq.call .pop).2.fifo) = cq.fifo.call .pop := by
  simp only [NvmeCq.call, CompletionFifo.call, nvmeQueuePop]
  split
  · rename_i empty
    have nothing : cq.fifo.entries = [] :=
      BoundedRing.contents_of_pop_none empty
    simp only [nothing]
  · rename_i cpl popped taken
    have first : cq.fifo.entries = cpl :: popped.contents :=
      BoundedRing.contents_of_pop taken
    have depth := BoundedRing.depth_of_pop taken
    simp only [first]
    simp only [NvmeCq.fifo, depth]

/-- Each call does to the ring what it does to the queue. -/
theorem call_fifo (call : QueueCall) :
    ((cq.call call).1, (cq.call call).2.fifo) = cq.fifo.call call := by
  cases call with
  | init depth => exact Prod.ext rfl (fifo_init depth)
  | push cpl => exact call_push_fifo cpl
  | pop => exact call_pop_fifo

end Calls

/-! ## Sequences of calls -/

/-- Every sequence of calls is answered as by the queue. -/
theorem answers_fifo (cq : NvmeCq) (calls : List QueueCall) :
    ((answers NvmeCq.call cq calls).1,
        (answers NvmeCq.call cq calls).2.fifo) =
      answers CompletionFifo.call cq.fifo calls := by
  induction calls generalizing cq with
  | nil => rfl
  | cons first rest induction =>
      have one := @call_fifo cq first
      have others := induction (cq.call first).2
      simp only [answers, ← one, ← others]

/-- The completion that a call adds, by its answer. -/
def QueueCall.added : QueueCall → QueueAnswer → List NvmeCpl
  | .push cpl, some (0, _) => [cpl]
  | _, _ => []

/-- The completion that an answer hands out. -/
def handedOut : QueueAnswer → List NvmeCpl
  | some (_, some cpl) => [cpl]
  | _ => []

/-- One call of the queue keeps the order of its completions. -/
theorem entries_conserved_call
    (fifo : CompletionFifo) {call : QueueCall}
    (kept : ∀ depth, call ≠ .init depth) :
    fifo.entries ++ call.added (fifo.call call).1 =
      handedOut (fifo.call call).1 ++ (fifo.call call).2.entries := by
  cases call with
  | init depth => exact absurd rfl (kept depth)
  | push cpl =>
      simp only [CompletionFifo.call]
      split
      · exact List.append_nil _
      · rfl
  | pop =>
      simp only [CompletionFifo.call]
      split
      · exact List.append_nil _
      · rename_i cpl rest entries
        rw [entries]
        exact List.append_nil _

/-- The completions that a sequence of calls adds. -/
def allAdded (calls : List QueueCall) (answers : List QueueAnswer) :
    List NvmeCpl :=
  (List.zipWith QueueCall.added calls answers).flatten

/--
Without an initialization the completions of a ring and those added to it are
those handed out and those left, in this order.
-/
theorem contents_conserved
    (cq : NvmeCq) (calls : List QueueCall)
    (kept : ∀ call ∈ calls, ∀ depth, call ≠ .init depth) :
    let result := answers NvmeCq.call cq calls
    cq.ring.contents ++ allAdded calls result.1 =
      result.1.flatMap handedOut ++ result.2.ring.contents := by
  induction calls generalizing cq with
  | nil => exact List.append_nil _
  | cons first rest induction =>
      have one := @call_fifo cq first
      have conserved :=
        entries_conserved_call cq.fifo (kept first (by simp))
      rw [← one] at conserved
      have others :=
        induction (cq.call first).2
          fun call member => kept call (by simp [member])
      show
        cq.fifo.entries ++
            (first.added (cq.call first).1 ++
              allAdded rest (answers NvmeCq.call (cq.call first).2 rest).1) =
          (handedOut (cq.call first).1 ++
              (answers NvmeCq.call (cq.call first).2 rest).1.flatMap
                handedOut) ++
            (answers NvmeCq.call (cq.call first).2 rest).2.ring.contents
      rw [← List.append_assoc, conserved, List.append_assoc,
        List.append_assoc, ← others]
      rfl

end StorageAppliance.NvmeDrv
