import StorageAppliance.Core.Controller
import StorageAppliance.Library.FifoLock

/-!
# Concurrent requests

Requests are tasks of one event loop.  A task runs until it waits for the file
system or for the lock of the backend, and only then can another task run.  One
step lets a task run from one wait to the next: the file operation it waited for
takes effect, and the task goes on until it waits again or returns.  The other
locks of the source are never held across a wait, so no task waits for them.

`delete_volume` walks the block map of the volume object it looked up, also
after another task removed that object from the volume manager; `retired` keeps
the removed objects.  Python's iterator notices when the map has changed its
size, and sees the new value of an entry that was overwritten.
-/

namespace StorageAppliance.Core

open StorageAppliance.Python
open StorageAppliance.Library
open StorageAppliance.Storage
open StorageAppliance.Purity

/-- Where a write is. -/
inductive WritePoint where
  | notStarted
  | waiting (blockId : String) (pending : PendingStore)
  | makingDirectories (blockId : String) (pending : PendingStore)
  | readingMetadata (blockId : String) (pending : PendingStore)
  | countingReference (blockId : String) (pending : PendingStore)
      (info : BlockInfo)
  | writingData (blockId : String) (pending : PendingStore)
  | writingMetadata (blockId : String) (pending : PendingStore)
  | returned (answer : Except PyException (Option WriteResult))
deriving DecidableEq

/-- An iteration over a block map: its size at first, and the entries taken. -/
structure BlockIterator where
  size : Nat
  taken : Nat
deriving DecidableEq

/-- Where a deletion is. -/
inductive DeletePoint where
  | notStarted
  | waiting (iterator : BlockIterator) (blockId : String)
  | readingMetadata (iterator : BlockIterator) (blockId : String)
  | removingData (iterator : BlockIterator) (blockId : String)
  | removingMetadata (iterator : BlockIterator) (blockId : String)
  | updatingMetadata (iterator : BlockIterator) (blockId : String)
      (info : BlockInfo)
  | returned (answer : Except PyException Bool)
deriving DecidableEq

/-- A request and how far it got. -/
inductive Task where
  | write (volumeId : String) (offset : ℤ) (data : Bytes)
      (point : WritePoint)
  | delete (volumeId : String) (point : DeletePoint)
deriving DecidableEq

/-- The controller, the lock of its backend and the running requests. -/
structure EventLoop where
  controller : StorageController
  lock : FifoLock Nat := {}
  retired : Dict String Volume := Dict.empty
  tasks : Dict Nat Task
deriving DecidableEq

namespace EventLoop

variable (platform : Platform)

/-- Put a write at a point. -/
def setWrite (self : EventLoop) (taskId : Nat) (volumeId : String)
    (offset : ℤ) (data : Bytes) (point : WritePoint) : EventLoop :=
  { self with
    tasks := self.tasks.set taskId (.write volumeId offset data point) }

/-- Put a deletion at a point. -/
def setDelete (self : EventLoop) (taskId : Nat) (volumeId : String)
    (point : DeletePoint) : EventLoop :=
  { self with tasks := self.tasks.set taskId (.delete volumeId point) }

/-- Replace the backend of the controller. -/
def withBackend (self : EventLoop) (backend : FileBackend) : EventLoop :=
  { self with controller := { self.controller with backend := backend } }

/-- Leave the backend, giving its lock away. -/
def unlock (self : EventLoop) : EventLoop :=
  { self with lock := self.lock.release }

/-! ## Writes -/

/-- Ask for the lock of the backend to store a block. -/
def enterWrite (self : EventLoop) (taskId : Nat) (volumeId : String)
    (offset : ℤ) (data : Bytes) (blockId : String)
    (pending : PendingStore) : EventLoop :=
  let (acquired, lock) := self.lock.acquire taskId
  let point :=
    if acquired then WritePoint.makingDirectories blockId pending
    else WritePoint.waiting blockId pending
  { self with lock := lock }.setWrite taskId volumeId offset data point

/-- Return from the backend, register the block and record the write. -/
def completeWrite (self : EventLoop) (taskId : Nat) (volumeId : String)
    (offset : ℤ) (data : Bytes) (blockId : String)
    (pending : PendingStore) : EventLoop :=
  let (answer, controller) :=
    self.controller.finishWrite platform volumeId offset data blockId
      pending
  { self.unlock with controller := controller }.setWrite taskId volumeId
    offset data (.returned answer)

/-- Let a write run to its next wait. -/
def resumeWrite (self : EventLoop) (taskId : Nat) (volumeId : String)
    (offset : ℤ) (data : Bytes) : WritePoint → EventLoop
  | .notStarted =>
      match
        self.controller.beginWrite platform volumeId offset data
      with
      | (.answered answer, controller) =>
          { self with controller := controller }.setWrite taskId volumeId
            offset data (.returned answer)
      | (.storing blockId pending, controller) =>
          { self with controller := controller }.enterWrite taskId
            volumeId offset data blockId pending
  | .waiting blockId pending =>
      if self.lock.holder = some taskId then
        self.setWrite taskId volumeId offset data
          (.makingDirectories blockId pending)
      else
        self
  | .makingDirectories blockId pending =>
      match self.controller.backend.metadata.get? blockId with
      | some _ =>
          self.setWrite taskId volumeId offset data
            (.readingMetadata blockId pending)
      | none =>
          self.setWrite taskId volumeId offset data
            (.writingData blockId pending)
  | .readingMetadata blockId pending =>
      match
        self.controller.backend.existingInfo platform blockId
          pending.currentData
      with
      | some info =>
          self.setWrite taskId volumeId offset data
            (.countingReference blockId pending
              { info with referenceCount := info.referenceCount + 1 })
      | none =>
          self.setWrite taskId volumeId offset data
            (.writingData blockId pending)
  | .countingReference blockId pending info =>
      (self.withBackend
          (self.controller.backend.writeMetadata blockId
            info)).completeWrite platform taskId volumeId offset data
        blockId pending
  | .writingData blockId pending =>
      (self.withBackend
          (self.controller.backend.writeFile blockId
            pending.currentData)).setWrite taskId volumeId offset data
        (.writingMetadata blockId pending)
  | .writingMetadata blockId pending =>
      let info :=
        FileBackend.newBlockInfo platform blockId pending.currentData
      (self.withBackend
          ((self.controller.backend.writeMetadata blockId
            info).recordWritten pending.currentData)).completeWrite
        platform taskId volumeId offset data blockId pending
  | .returned _ => self

/-! ## Deletions -/

/-- The volume object that a deletion iterates over. -/
def volumeObject (self : EventLoop) (volumeId : String) : Option Volume :=
  match self.controller.volumeManager.getVolume volumeId with
  | some volume => some volume
  | none => self.retired.get? volumeId

/-- Remove the volume, after its last block. -/
def completeDelete (self : EventLoop) (taskId : Nat) (volumeId : String) :
    EventLoop :=
  let retired :=
    match self.controller.volumeManager.getVolume volumeId with
    | some volume => self.retired.set volumeId volume
    | none => self.retired
  let (deleted, controller) := self.controller.removeVolume volumeId
  { self with controller := controller, retired := retired }.setDelete
    taskId volumeId (.returned (.ok deleted))

/-- Drop one reference of a fingerprint, returning the remaining count. -/
def dereference (self : EventLoop) (fingerprint : String) :
    Nat × EventLoop :=
  let purity := self.controller.purity
  let (refCount, deduplication) :=
    purity.deduplication.dereferenceBlock fingerprint
  (refCount,
    { self with
      controller :=
        { self.controller with
          purity := { purity with deduplication := deduplication } } })

/-- Drop the references of the remaining blocks up to the next wait. -/
def deleteBlocks (self : EventLoop) (taskId : Nat) (volumeId : String)
    (iterator : BlockIterator) : List VolumeBlock → EventLoop
  | [] => self.completeDelete taskId volumeId
  | block :: rest =>
      let next := { iterator with taken := iterator.taken + 1 }
      let (refCount, released) := self.dereference block.fingerprint
      if refCount = 0 then
        let (acquired, lock) := released.lock.acquire taskId
        let queued := { released with lock := lock }
        if acquired then
          match queued.controller.backend.metadata.get? block.blockId with
          | some _ =>
              queued.setDelete taskId volumeId
                (.readingMetadata next block.blockId)
          | none => queued.unlock.deleteBlocks taskId volumeId next rest
        else
          queued.setDelete taskId volumeId (.waiting next block.blockId)
      else
        released.deleteBlocks taskId volumeId next rest

/-- Go on with the next block of the map, if the map still has its size. -/
def continueDelete (self : EventLoop) (taskId : Nat) (volumeId : String)
    (iterator : BlockIterator) : EventLoop :=
  match self.volumeObject volumeId with
  | none => self
  | some volume =>
      if volume.blocks.items.length ≠ iterator.size then
        self.setDelete taskId volumeId
          (.returned (.error (.runtimeError
            "dictionary changed size during iteration")))
      else
        self.deleteBlocks taskId volumeId iterator
          (volume.blocks.values.drop iterator.taken)

/-- Let a deletion run to its next wait. -/
def resumeDelete (self : EventLoop) (taskId : Nat) (volumeId : String) :
    DeletePoint → EventLoop
  | .notStarted =>
      match self.controller.volumeManager.getVolume volumeId with
      | none => self.setDelete taskId volumeId (.returned (.ok false))
      | some volume =>
          self.deleteBlocks taskId volumeId
            ⟨volume.blocks.items.length, 0⟩ volume.blocks.values
  | .waiting iterator blockId =>
      if self.lock.holder = some taskId then
        match self.controller.backend.metadata.get? blockId with
        | some _ =>
            self.setDelete taskId volumeId
              (.readingMetadata iterator blockId)
        | none => self.unlock.continueDelete taskId volumeId iterator
      else
        self
  | .readingMetadata iterator blockId =>
      match self.controller.backend.metadata.get? blockId with
      | none => self.unlock.continueDelete taskId volumeId iterator
      | some info =>
          if info.referenceCount ≤ 1 then
            self.setDelete taskId volumeId (.removingData iterator blockId)
          else
            self.setDelete taskId volumeId
              (.updatingMetadata iterator blockId
                { info with referenceCount := info.referenceCount - 1 })
  | .removingData iterator blockId =>
      match self.controller.backend.files.get? blockId with
      | none => self.unlock.continueDelete taskId volumeId iterator
      | some _ =>
          (self.withBackend
              (self.controller.backend.removeFile blockId)).setDelete taskId
            volumeId (.removingMetadata iterator blockId)
  | .removingMetadata iterator blockId =>
      match self.controller.backend.metadata.get? blockId with
      | none => self.unlock.continueDelete taskId volumeId iterator
      | some _ =>
          (self.withBackend
              (self.controller.backend.removeMetadata
                blockId).recordDeleted).unlock.continueDelete taskId volumeId
            iterator
  | .updatingMetadata iterator blockId info =>
      (self.withBackend
          (self.controller.backend.writeMetadata blockId
            info)).unlock.continueDelete taskId volumeId iterator
  | .returned _ => self

/-- Let one task run to its next wait. -/
def step (self : EventLoop) (taskId : Nat) : EventLoop :=
  match self.tasks.get? taskId with
  | none => self
  | some (.write volumeId offset data point) =>
      self.resumeWrite platform taskId volumeId offset data point
  | some (.delete volumeId point) =>
      self.resumeDelete taskId volumeId point

end EventLoop

end StorageAppliance.Core
