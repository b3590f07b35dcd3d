import StorageAppliance.Purity.Engine
import StorageAppliance.Core.SnapshotManager
import StorageAppliance.Library.Run

/-!
# Storage controller

The calls of `core/controller.py`, with the two calls of the volume manager
that the API makes directly.  Each call returns its answer and the controller
it leaves behind.

`write` is cut where the source waits for the backend: `beginWrite` runs up to
the wait and `finishWrite` from its end.  `deleteVolume` drops the references of
the volume one block after another before it removes the volume.
-/

namespace StorageAppliance.Core

open StorageAppliance.Python
open StorageAppliance.Library
open StorageAppliance.Storage
open StorageAppliance.Purity

/-- Result of a write operation. -/
structure WriteResult where
  volumeId : String
  offset : ℤ
  size : Nat
  reduction : ReductionResult
deriving DecidableEq

/-- Result of a read operation. -/
structure ReadResult where
  volumeId : String
  offset : ℤ
  data : Bytes
  size : Nat
deriving DecidableEq

/-- The controller and the components it orchestrates. -/
structure StorageController where
  settings : Settings
  backend : FileBackend := {}
  purity : PurityEngine
  volumeManager : VolumeManager
  snapshotManager : SnapshotManager := {}
  uuidsDrawn : Nat := 0
deriving DecidableEq

/-- How far a write gets before it waits for the backend. -/
inductive WriteStart where
  | answered (answer : Except PyException (Option WriteResult))
  | storing (blockId : String) (pending : PendingStore)
deriving DecidableEq

namespace StorageController

/-- The controller built from settings. -/
def new (settings : Settings) : StorageController where
  settings := settings
  purity := PurityEngine.new settings
  volumeManager := { blockSize := settings.defaultBlockSize }

/-- Count one identifier as drawn. -/
def drawUuid (self : StorageController) : StorageController :=
  { self with uuidsDrawn := self.uuidsDrawn + 1 }

variable (platform : Platform)

/-- The identifier the next `uuid4` returns. -/
def nextUuid (self : StorageController) : String :=
  platform.uuid4 self.uuidsDrawn

/-! ## Volume operations -/

/-- Create a new storage volume. -/
def createVolume (self : StorageController) (name : String) (sizeGb : ℚ)
    (description : String) (tags : Dict String String) :
    Volume × StorageController :=
  let (volume, manager) :=
    self.volumeManager.createVolume (self.nextUuid platform) name
      (truncate (sizeGb * 1024 * 1024 * 1024)) description tags
  (volume, { self.drawUuid with volumeManager := manager })

/-- Drop the reference of one block. -/
def releaseBlock (self : StorageController) (block : VolumeBlock) :
    StorageController :=
  let (_, engine, removed) :=
    self.purity.delete self.backend block.blockId block.fingerprint
  { self with purity := engine, backend := removed }

/-- Drop the references of blocks in order. -/
def releaseBlocks (self : StorageController) :
    List VolumeBlock → StorageController
  | [] => self
  | block :: rest => (self.releaseBlock block).releaseBlocks rest

/-- Remove a volume from the volume manager. -/
def removeVolume (self : StorageController) (volumeId : String) :
    Bool × StorageController :=
  let (deleted, manager) := self.volumeManager.deleteVolume volumeId
  (deleted, { self with volumeManager := manager })

/-- Delete a volume and its data. -/
def deleteVolume (self : StorageController) (volumeId : String) :
    Bool × StorageController :=
  match self.volumeManager.getVolume volumeId with
  | none => (false, self)
  | some volume =>
      (self.releaseBlocks volume.blocks.values).removeVolume volumeId

/-- Clone a volume (copy-on-write). -/
def cloneVolume (self : StorageController)
    (sourceId newName description : String) :
    Option Volume × StorageController :=
  match self.volumeManager.getVolume sourceId with
  | none => (none, self)
  | some _ =>
      let (clone, manager) :=
        self.volumeManager.cloneVolume (self.nextUuid platform) sourceId
          newName description
      (clone, { self.drawUuid with volumeManager := manager })

/-! ## Data operations -/

/-- Record a reduced block in the volume map and answer the write. -/
def recordWrite (self : StorageController) (volumeId : String)
    (offset : ℤ) (data : Bytes) (reduction : ReductionResult) :
    Except PyException (Option WriteResult) × StorageController :=
  match
    self.volumeManager.writeBlock volumeId offset reduction.blockId
      reduction.dedupeResult.fingerprint data.length reduction.storedSize
  with
  | (.error exception, manager) =>
      (.error exception, { self with volumeManager := manager })
  | (.ok _, manager) =>
      (.ok (some
          { volumeId := volumeId
            offset := offset
            size := data.length
            reduction := reduction }),
        { self with volumeManager := manager })

/-- The message of a misaligned write. -/
def misalignedMessage (blockSize : Nat) : String :=
  "Offset must be aligned to block size (" ++ toString blockSize ++ ")"

/-- `write` up to the wait for the backend. -/
def beginWrite (self : StorageController) (volumeId : String)
    (offset : ℤ) (data : Bytes) : WriteStart × StorageController :=
  match self.volumeManager.getVolume volumeId with
  | none => (.answered (.ok none), self)
  | some _ =>
      if self.settings.defaultBlockSize = 0 then
        (.answered (.error (.zeroDivisionError "integer modulo by zero")),
          self)
      else if offset % self.settings.defaultBlockSize ≠ 0 then
        (.answered (.error (.valueError
            (misalignedMessage self.settings.defaultBlockSize))),
          self)
      else
        match self.purity.reduce platform data with
        | (.failed exception, engine) =>
            (.answered (.error exception), { self with purity := engine })
        | (.duplicate result, engine) =>
            let (answer, recorded) :=
              { self with purity := engine }.recordWrite volumeId offset
                data result
            (.answered answer, recorded)
        | (.store pending, engine) =>
            (.storing (self.nextUuid platform) pending,
              { self.drawUuid with purity := engine })

/-- `write` from the return of the backend on. -/
def finishWrite (self : StorageController) (volumeId : String)
    (offset : ℤ) (data : Bytes) (blockId : String)
    (pending : PendingStore) :
    Except PyException (Option WriteResult) × StorageController :=
  let (result, engine) :=
    self.purity.finishStore platform pending blockId
  { self with purity := engine }.recordWrite volumeId offset data result

/-- Write data to a volume. -/
def write (self : StorageController) (volumeId : String) (offset : ℤ)
    (data : Bytes) :
    Except PyException (Option WriteResult) × StorageController :=
  match self.beginWrite platform volumeId offset data with
  | (.answered answer, controller) => (answer, controller)
  | (.storing blockId pending, controller) =>
      let written :=
        (controller.backend.writeBlock platform blockId
          pending.currentData).2
      { controller with backend := written }.finishWrite platform volumeId
        offset data blockId pending

/-- Read data from a volume. -/
def read (self : StorageController) (volumeId : String) (offset : ℤ) :
    Except PyException (Option ReadResult) × StorageController :=
  match self.volumeManager.getBlock volumeId offset with
  | none => (.ok none, self)
  | some block =>
      match self.purity.retrieve platform self.backend block.blockId with
      | (.error exception, backend) =>
          (.error exception, { self with backend := backend })
      | (.ok data, backend) =>
          (.ok (some
              { volumeId := volumeId
                offset := offset
                data := data
                size := data.length }),
            { self with backend := backend })

/-! ## Snapshot operations -/

/-- Create a snapshot of a volume. -/
def createSnapshot (self : StorageController) (volumeId : String)
    (name : Option String) (description timestamp : String) :
    Option Snapshot × StorageController :=
  match self.volumeManager.getVolume volumeId with
  | none => (none, self)
  | some volume =>
      let (snapshot, manager) :=
        self.snapshotManager.createSnapshot (self.nextUuid platform) volume
          name description timestamp Dict.empty
      (some snapshot, { self.drawUuid with snapshotManager := manager })

/-- Delete a snapshot. -/
def deleteSnapshot (self : StorageController) (snapshotId : String) :
    Except PyException Bool × StorageController :=
  match self.snapshotManager.getSnapshot snapshotId with
  | none => (.ok false, self)
  | some _ =>
      let (answer, manager) :=
        self.snapshotManager.deleteSnapshot snapshotId
      (answer, { self with snapshotManager := manager })

/-- Replace the block map of a volume by the one of a snapshot. -/
def restoreInto (self : StorageController) (snapshot : Snapshot)
    (volumeId : String) (volume : Volume) : Volume × StorageController :=
  let restored :=
    { volume with
      blocks := snapshot.blocks
      usedBytes := snapshot.usedBytes }
  (restored,
    { self with
      volumeManager :=
        { self.volumeManager with
          volumes := self.volumeManager.volumes.set volumeId restored } })

/-- Restore a snapshot into a new volume, or into the given one. -/
def restoreSnapshot (self : StorageController) (snapshotId : String)
    (volumeId : Option String) : Option Volume × StorageController :=
  match self.snapshotManager.getSnapshot snapshotId with
  | none => (none, self)
  | some snapshot =>
      let target := volumeId.getD ""
      if target ≠ "" then
        match self.volumeManager.getVolume target with
        | none => (none, self)
        | some volume =>
            let (restored, controller) :=
              self.restoreInto snapshot target volume
            (some restored, controller)
      else
        let (volume, controller) :=
          self.createVolume platform (snapshot.volumeName ++ "-restored")
            (nearestDouble snapshot.sizeBytes / 1024 ^ 3)
            ("Restored from snapshot " ++ snapshot.name) Dict.empty
        let (restored, restoredController) :=
          controller.restoreInto snapshot volume.id volume
        (some restored, restoredController)

/-! ## Calls -/

/-- The calls a client can make. -/
inductive Call where
  | createVolume (name : String) (sizeGb : ℚ) (description : String)
      (tags : Dict String String)
  | updateVolume (volumeId : String) (name description : Option String)
      (tags : Option (Dict String String))
  | resizeVolume (volumeId : String) (newSizeBytes : ℤ)
  | deleteVolume (volumeId : String)
  | cloneVolume (sourceId newName description : String)
  | write (volumeId : String) (offset : ℤ) (data : Bytes)
  | read (volumeId : String) (offset : ℤ)
  | createSnapshot (volumeId : String) (name : Option String)
      (description timestamp : String)
  | deleteSnapshot (snapshotId : String)
  | restoreSnapshot (snapshotId : String) (volumeId : Option String)
deriving DecidableEq

/-- The controller after a call. -/
def step (self : StorageController) : Call → StorageController
  | .createVolume name sizeGb description tags =>
      (self.createVolume platform name sizeGb description tags).2
  | .updateVolume volumeId name description tags =>
      { self with
        volumeManager :=
          (self.volumeManager.updateVolume volumeId name description
            tags).2 }
  | .resizeVolume volumeId newSizeBytes =>
      { self with
        volumeManager :=
          (self.volumeManager.resizeVolume volumeId newSizeBytes).2 }
  | .deleteVolume volumeId => (self.deleteVolume volumeId).2
  | .cloneVolume sourceId newName description =>
      (self.cloneVolume platform sourceId newName description).2
  | .write volumeId offset data =>
      (self.write platform volumeId offset data).2
  | .read volumeId offset => (self.read platform volumeId offset).2
  | .createSnapshot volumeId name description timestamp =>
      (self.createSnapshot platform volumeId name description timestamp).2
  | .deleteSnapshot snapshotId => (self.deleteSnapshot snapshotId).2
  | .restoreSnapshot snapshotId volumeId =>
      (self.restoreSnapshot platform snapshotId volumeId).2

end StorageController

end StorageAppliance.Core
