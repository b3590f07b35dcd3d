import StorageAppliance.Core.VolumeManager

/-!
# Snapshot manager

Point-in-time copies of block maps (`core/snapshot_manager.py`).  A snapshot
copies the map and takes no references.  Creation times are left out; the time
stamp that a generated name contains is an argument.
-/

namespace StorageAppliance.Core

open StorageAppliance.Python
open StorageAppliance.Library

/-- Snapshot state. -/
inductive SnapshotState where
  | creating
  | available
  | deleting
  | error
deriving DecidableEq, Repr

/-- Point-in-time snapshot of a volume. -/
structure Snapshot where
  id : String
  name : String
  volumeId : String
  volumeName : String
  state : SnapshotState := .available
  description : String := ""
  blocks : Dict ℤ VolumeBlock := Dict.empty
  sizeBytes : ℤ := 0
  usedBytes : ℤ := 0
  tags : Dict String String := Dict.empty
deriving DecidableEq

/-- Snapshot manager statistics. -/
structure SnapshotStats where
  totalSnapshots : ℤ := 0
  snapshotsByVolume : Dict String Nat := Dict.empty
deriving DecidableEq

/-- The live snapshots, their index by volume and their statistics. -/
structure SnapshotManager where
  snapshots : Dict String Snapshot := Dict.empty
  volumeSnapshots : Dict String (List String) := Dict.empty
  stats : SnapshotStats := {}
deriving DecidableEq

namespace SnapshotManager

/-- The given name, or one made from the volume and the time stamp. -/
def snapshotName (volume : Volume) (timestamp : String) :
    Option String → String
  | none => volume.name ++ "-snap-" ++ timestamp
  | some name =>
      if name = "" then volume.name ++ "-snap-" ++ timestamp else name

/-- Create a snapshot; `snapshotId` is what `uuid4` returns. -/
def createSnapshot (self : SnapshotManager) (snapshotId : String)
    (volume : Volume) (name : Option String)
    (description timestamp : String) (tags : Dict String String) :
    Snapshot × SnapshotManager :=
  let snapshot : Snapshot :=
    { id := snapshotId
      name := snapshotName volume timestamp name
      volumeId := volume.id
      volumeName := volume.name
      description := description
      blocks := volume.blocks
      sizeBytes := volume.sizeBytes
      usedBytes := volume.usedBytes
      tags := tags }
  let tracked :=
    (self.volumeSnapshots.get? volume.id).getD [] ++ [snapshotId]
  (snapshot,
    { snapshots := self.snapshots.set snapshotId snapshot
      volumeSnapshots := self.volumeSnapshots.set volume.id tracked
      stats :=
        { totalSnapshots := self.stats.totalSnapshots + 1
          snapshotsByVolume :=
            self.stats.snapshotsByVolume.set volume.id tracked.length } })

/-- A snapshot by its identifier. -/
def getSnapshot (self : SnapshotManager) (snapshotId : String) :
    Option Snapshot :=
  self.snapshots.get? snapshotId

/-- List the snapshots, or those of one volume. -/
def listSnapshots (self : SnapshotManager) (volumeId : Option String) :
    List Snapshot :=
  let filter := volumeId.getD ""
  if filter ≠ "" then
    ((self.volumeSnapshots.get? filter).getD []).filterMap
      self.snapshots.get?
  else
    self.snapshots.values

/-- Delete a snapshot; its blocks are the caller's concern. -/
def deleteSnapshot (self : SnapshotManager) (snapshotId : String) :
    Except PyException Bool × SnapshotManager :=
  match self.getSnapshot snapshotId with
  | none => (.ok false, self)
  | some snapshot =>
      match self.volumeSnapshots.get? snapshot.volumeId with
      | none =>
          (.ok true,
            { self with
              snapshots := self.snapshots.erase snapshotId
              stats :=
                { self.stats with
                  totalSnapshots := self.stats.totalSnapshots - 1 } })
      | some tracked =>
          if snapshotId ∈ tracked then
            let remaining := tracked.erase snapshotId
            (.ok true,
              { snapshots := self.snapshots.erase snapshotId
                volumeSnapshots :=
                  self.volumeSnapshots.set snapshot.volumeId remaining
                stats :=
                  { totalSnapshots := self.stats.totalSnapshots - 1
                    snapshotsByVolume :=
                      self.stats.snapshotsByVolume.set snapshot.volumeId
                        remaining.length } })
          else
            (.error (.valueError "list.remove(x): x not in list"),
              { self with
                snapshots :=
                  self.snapshots.set snapshotId
                    { snapshot with state := .deleting } })

end SnapshotManager

end StorageAppliance.Core
