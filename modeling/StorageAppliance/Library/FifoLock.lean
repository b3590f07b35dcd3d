import Mathlib.Data.List.Basic

/-!
# A lock with a queue

The lock of a cooperative scheduler.  A task that finds it free takes it at
once; otherwise the task joins the queue.  Releasing hands the lock to the
first task of the queue.
-/

namespace StorageAppliance.Library

universe u

variable {Task : Type u}

/-- The task that has the lock, and the tasks that wait for it in order. -/
structure FifoLock (Task : Type u) where
  holder : Option Task := none
  waiters : List Task := []
deriving DecidableEq

namespace FifoLock

/-- Take the lock if it is free, reporting whether it was; else wait for it. -/
def acquire (lock : FifoLock Task) (task : Task) : Bool × FifoLock Task :=
  match lock.holder, lock.waiters with
  | none, [] => (true, { holder := some task })
  | _, _ => (false, { lock with waiters := lock.waiters ++ [task] })

/-- Give the lock to the next task. -/
def release (lock : FifoLock Task) : FifoLock Task :=
  match lock.waiters with
  | [] => {}
  | next :: rest => { holder := some next, waiters := rest }

/-- A free lock is taken at once. -/
@[simp]
theorem acquire_free (task : Task) :
    (({} : FifoLock Task).acquire task) = (true, { holder := some task }) :=
  rfl

/-- Without waiting tasks a released lock is free. -/
@[simp]
theorem release_alone (task : Task) :
    ({ holder := some task } : FifoLock Task).release = {} :=
  rfl

end FifoLock

end StorageAppliance.Library
