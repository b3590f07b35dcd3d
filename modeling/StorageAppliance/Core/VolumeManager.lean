import StorageAppliance.Python
import StorageAppliance.Library.Dict

/-!
# Volume manager

Volumes and their block maps (`core/volume_manager.py`).  A volume maps an
offset to the stored block written there and to the fingerprint under which
that block is to be dereferenced.  Counters that the source decrements are
integers.  The creation and update times of a volume are left out, because no
modelled function reads them.
-/

namespace StorageAppliance.Core

open StorageAppliance.Python
open StorageAppliance.Library

/-- Volume state. -/
inductive VolumeState where
  | creating
  | available
  | inUse
  | deleting
  | error
deriving DecidableEq, Repr

/-- A block within a volume. -/
structure VolumeBlock where
  offset : ℤ
  blockId : String
  fingerprint : String
  size : ℤ
deriving DecidableEq, Repr

/-- Storage volume. -/
structure Volume where
  id : String
  name : String
  sizeBytes : ℤ
  state : VolumeState := .available
  description : String := ""
  blocks : Dict ℤ VolumeBlock := Dict.empty
  usedBytes : ℤ := 0
  logicalBytes : ℤ := 0
  physicalBytes : ℤ := 0
  tags : Dict String String := Dict.empty
deriving DecidableEq

/-- Volume manager statistics. -/
structure VolumeStats where
  totalVolumes : ℤ := 0
  totalProvisionedBytes : ℤ := 0
  totalUsedBytes : ℤ := 0
  totalLogicalBytes : ℤ := 0
  totalPhysicalBytes : ℤ := 0
deriving DecidableEq, Repr

/-- The live volumes and their statistics. -/
structure VolumeManager where
  blockSize : Nat := 4096
  volumes : Dict String Volume := Dict.empty
  stats : VolumeStats := {}
deriving DecidableEq

namespace VolumeManager

/-- Create a volume; `volumeId` is what `uuid4` returns. -/
def createVolume (self : VolumeManager) (volumeId name : String)
    (sizeBytes : ℤ) (description : String) (tags : Dict String String) :
    Volume × VolumeManager :=
  let volume : Volume :=
    { id := volumeId
      name := name
      sizeBytes := sizeBytes
      description := description
      tags := tags }
  (volume,
    { self with
      volumes := self.volumes.set volumeId volume
      stats :=
        { self.stats with
          totalVolumes := self.stats.totalVolumes + 1
          totalProvisionedBytes :=
            self.stats.totalProvisionedBytes + sizeBytes } })

/-- A volume by its identifier. -/
def getVolume (self : VolumeManager) (volumeId : String) : Option Volume :=
  self.volumes.get? volumeId

/-- Update the metadata that is given. -/
def updateVolume (self : VolumeManager) (volumeId : String)
    (name description : Option String) (tags : Option (Dict String String)) :
    Option Volume × VolumeManager :=
  match self.getVolume volumeId with
  | none => (none, self)
  | some volume =>
      let updated :=
        { volume with
          name := name.getD volume.name
          description := description.getD volume.description
          tags := tags.getD volume.tags }
      (some updated,
        { self with volumes := self.volumes.set volumeId updated })

/-- Delete a volume; its blocks are the caller's concern. -/
def deleteVolume (self : VolumeManager) (volumeId : String) :
    Bool × VolumeManager :=
  match self.getVolume volumeId with
  | none => (false, self)
  | some volume =>
      (true,
        { self with
          volumes := self.volumes.erase volumeId
          stats :=
            { totalVolumes := self.stats.totalVolumes - 1
              totalProvisionedBytes :=
                self.stats.totalProvisionedBytes - volume.sizeBytes
              totalUsedBytes :=
                self.stats.totalUsedBytes - volume.usedBytes
              totalLogicalBytes :=
                self.stats.totalLogicalBytes - volume.logicalBytes
              totalPhysicalBytes :=
                self.stats.totalPhysicalBytes - volume.physicalBytes } })

/-- Expand a volume. -/
def resizeVolume (self : VolumeManager) (volumeId : String)
    (newSizeBytes : ℤ) : Except PyException (Option Volume) × VolumeManager :=
  match self.getVolume volumeId with
  | none => (.ok none, self)
  | some volume =>
      if newSizeBytes < volume.sizeBytes then
        (.error (.valueError "Cannot shrink volume"), self)
      else
        let resized := { volume with sizeBytes := newSizeBytes }
        (.ok (some resized),
          { self with
            volumes := self.volumes.set volumeId resized
            stats :=
              { self.stats with
                totalProvisionedBytes :=
                  self.stats.totalProvisionedBytes +
                    (newSizeBytes - volume.sizeBytes) } })

/-- The size that an overwritten block takes out of the counters. -/
def overwrittenSize (volume : Volume) (offset : ℤ) : ℤ :=
  match volume.blocks.get? offset with
  | some old => old.size
  | none => 0

/-- The volume after a block write. -/
def mapBlock (volume : Volume) (offset : ℤ) (blockId fingerprint : String)
    (size physicalSize : ℤ) : Volume :=
  { volume with
    blocks :=
      volume.blocks.set offset
        { offset := offset
          blockId := blockId
          fingerprint := fingerprint
          size := size }
    usedBytes :=
      volume.usedBytes - overwrittenSize volume offset + size
    logicalBytes :=
      volume.logicalBytes - overwrittenSize volume offset + size
    physicalBytes := physicalSize }

/-- Record a block write to a volume. -/
def writeBlock (self : VolumeManager) (volumeId : String) (offset : ℤ)
    (blockId fingerprint : String) (size physicalSize : ℤ) :
    Except PyException Bool × VolumeManager :=
  match self.getVolume volumeId with
  | none => (.ok false, self)
  | some volume =>
      if volume.sizeBytes < offset + size then
        (.error (.valueError "Write exceeds volume size"), self)
      else
        (.ok true,
          { self with
            volumes :=
              self.volumes.set volumeId
                (mapBlock volume offset blockId fingerprint size
                  physicalSize)
            stats :=
              { self.stats with
                totalUsedBytes := self.stats.totalUsedBytes + size
                totalLogicalBytes :=
                  self.stats.totalLogicalBytes + size } })

/-- The block at an offset. -/
def getBlock (self : VolumeManager) (volumeId : String) (offset : ℤ) :
    Option VolumeBlock :=
  match self.getVolume volumeId with
  | none => none
  | some volume => volume.blocks.get? offset

/-- Clone a volume, sharing its blocks; `cloneId` is what `uuid4` returns. -/
def cloneVolume (self : VolumeManager)
    (cloneId sourceId newName description : String) :
    Option Volume × VolumeManager :=
  match self.getVolume sourceId with
  | none => (none, self)
  | some source =>
      let described :=
        if description = "" then "Clone of " ++ source.name
        else description
      let (created, manager) :=
        self.createVolume cloneId newName source.sizeBytes described
          source.tags
      let clone :=
        { created with
          blocks := source.blocks
          usedBytes := source.usedBytes
          logicalBytes := source.logicalBytes
          physicalBytes := 0 }
      (some clone,
        { manager with volumes := manager.volumes.set cloneId clone })

end VolumeManager

open VolumeManager

/-! ## The live volumes after each operation -/

theorem createVolume_volumes
    (self : VolumeManager) (volumeId name : String) (sizeBytes : ℤ)
    (description : String) (tags : Dict String String) :
    (self.createVolume volumeId name sizeBytes description tags).2.volumes =
      self.volumes.set volumeId
        (self.createVolume volumeId name sizeBytes description tags).1 :=
  rfl

theorem deleteVolume_volumes (self : VolumeManager) (volumeId other : String) :
    (self.deleteVolume volumeId).2.volumes.get? other =
      if other = volumeId then none else self.volumes.get? other := by
  rw [deleteVolume]
  split
  · rename_i absent
    split
    · rename_i same
      rw [same]
      exact absent
    · rfl
  · exact Dict.get?_erase _ _ _

/-- The block map after a block write. -/
theorem mapBlock_get?
    (volume : Volume) (offset : ℤ) (blockId fingerprint : String)
    (size physicalSize other : ℤ) :
    (mapBlock volume offset blockId fingerprint size
        physicalSize).blocks.get? other =
      if other = offset then
        some ⟨offset, blockId, fingerprint, size⟩
      else
        volume.blocks.get? other :=
  Dict.get?_set _ _ _ _

end StorageAppliance.Core
