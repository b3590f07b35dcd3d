import StorageAppliance.Library.DictSum
import StorageAppliance.Core.VolumeChanges

/-!
# The totals of the volume manager

The volume manager keeps five running totals beside its volumes.  Deleting a
volume subtracts the volume's own counters, so the totals are meant to be the
number of live volumes and the sums of their counters.  They are not: an
overwrite adds the new size and does not take out the old one, a clone and a
restore change volumes and no total, and no call adds to the physical total.

The calls are those of the controller and those that reach its volume manager
directly.  For each of them there is an exact condition, on the state before the
call, under which the totals follow.
-/

namespace StorageAppliance.Core

open StorageAppliance.Python
open StorageAppliance.Library
open StorageAppliance.Storage
open StorageAppliance.Purity
open StorageController

/-! ## Counters -/

/-- What the volume manager keeps a total of. -/
inductive Counter where
  | volumes
  | provisioned
  | used
  | logical
  | physical
deriving DecidableEq, Repr

/-- What one volume adds to each total. -/
def Volume.counts (volume : Volume) : Counter → ℤ
  | .volumes => 1
  | .provisioned => volume.sizeBytes
  | .used => volume.usedBytes
  | .logical => volume.logicalBytes
  | .physical => volume.physicalBytes

/-- The totals as the volume manager keeps them. -/
def VolumeStats.totals (stats : VolumeStats) : Counter → ℤ
  | .volumes => stats.totalVolumes
  | .provisioned => stats.totalProvisionedBytes
  | .used => stats.totalUsedBytes
  | .logical => stats.totalLogicalBytes
  | .physical => stats.totalPhysicalBytes

/-- Every total is the sum over the live volumes, and none is negative. -/
def TotalsExact (manager : VolumeManager) : Prop :=
  manager.volumes.Tallies Volume.counts manager.stats.totals

/-! ## Calls -/

/-- A call of the controller, or one that reaches its volume manager. -/
inductive ManagedCall where
  | controller (call : Call)
  | createVolume (name : String) (sizeBytes : ℤ) (description : String)
      (tags : Dict String String)
  | deleteVolume (volumeId : String)
  | cloneVolume (sourceId newName description : String)
  | writeBlock (volumeId : String) (offset : ℤ)
      (blockId fingerprint : String) (size physicalSize : ℤ)
deriving DecidableEq

namespace StorageController

/-- The controller after a call of either kind. -/
def stepManaged (platform : Platform) (self : StorageController) :
    ManagedCall → StorageController
  | .controller call => self.step platform call
  | .createVolume name sizeBytes description tags =>
      { self.drawUuid with
        volumeManager :=
          (self.volumeManager.createVolume (self.nextUuid platform) name
            sizeBytes description tags).2 }
  | .deleteVolume volumeId =>
      { self with
        volumeManager := (self.volumeManager.deleteVolume volumeId).2 }
  | .cloneVolume sourceId newName description =>
      match self.volumeManager.getVolume sourceId with
      | none => self
      | some _ =>
          { self.drawUuid with
            volumeManager :=
              (self.volumeManager.cloneVolume (self.nextUuid platform)
                sourceId newName description).2 }
  | .writeBlock volumeId offset blockId fingerprint size physicalSize =>
      { self with
        volumeManager :=
          (self.volumeManager.writeBlock volumeId offset blockId fingerprint
            size physicalSize).2 }

end StorageController

/-! ## When the totals follow -/

/-- The size of a new volume leaves the provisioned total not negative. -/
def TalliesNew (manager : VolumeManager) (sizeBytes : ℤ) : Prop :=
  0 ≤ manager.stats.totalProvisionedBytes + sizeBytes

/-- No counter of a deleted volume exceeds its total. -/
structure TalliesDeleted (manager : VolumeManager) (volume : Volume) :
    Prop where
  provisioned : volume.sizeBytes ≤ manager.stats.totalProvisionedBytes
  used : volume.usedBytes ≤ manager.stats.totalUsedBytes
  logical : volume.logicalBytes ≤ manager.stats.totalLogicalBytes
  physical : volume.physicalBytes ≤ manager.stats.totalPhysicalBytes

/-- A cloned volume has no data. -/
structure TalliesCloned (manager : VolumeManager) (source : Volume) :
    Prop where
  new : TalliesNew manager source.sizeBytes
  used : source.usedBytes = 0
  logical : source.logicalBytes = 0

/--
A recorded block takes the place of none of positive size, and the physical size
of the volume is already what the block is stored as.
-/
structure TalliesWritten (manager : VolumeManager) (volume : Volume)
    (offset size physicalSize : ℤ) : Prop where
  overwritten : VolumeManager.overwrittenSize volume offset = 0
  physical : physicalSize = volume.physicalBytes
  used : 0 ≤ manager.stats.totalUsedBytes + size
  logical : 0 ≤ manager.stats.totalLogicalBytes + size

/-- The condition on a call of the controller. -/
def KeepsTotals (platform : Platform) (before : StorageController) :
    Call → Prop
  | .createVolume _ sizeGb _ _ =>
      TalliesNew before.volumeManager
        (truncate (sizeGb * 1024 * 1024 * 1024))
  | .deleteVolume volumeId =>
      ∀ volume,
        before.volumes.get? volumeId = some volume →
          TalliesDeleted before.volumeManager volume
  | .cloneVolume sourceId _ _ =>
      ∀ source,
        before.volumes.get? sourceId = some source →
          TalliesCloned before.volumeManager source
  | .write volumeId offset data =>
      ∀ volume,
        Records platform before volumeId volume offset data →
          TalliesWritten before.volumeManager volume offset data.length
            (storedSize platform before.purity data)
  | .restoreSnapshot snapshotId target =>
      ∀ snapshot,
        before.snapshots.get? snapshotId = some snapshot →
          if target.getD "" = "" then
            TalliesNew before.volumeManager (restoredSize snapshot) ∧
              snapshot.usedBytes = 0
          else
            ∀ volume,
              before.volumes.get? (target.getD "") = some volume →
                snapshot.usedBytes = volume.usedBytes
  | _ => True

/-- The condition on a call of either kind. -/
def KeepsTotalsManaged (platform : Platform)
    (before : StorageController) : ManagedCall → Prop
  | .controller call => KeepsTotals platform before call
  | .createVolume _ sizeBytes _ _ =>
      TalliesNew before.volumeManager sizeBytes
  | .deleteVolume volumeId =>
      ∀ volume,
        before.volumes.get? volumeId = some volume →
          TalliesDeleted before.volumeManager volume
  | .cloneVolume sourceId _ _ =>
      ∀ source,
        before.volumes.get? sourceId = some source →
          TalliesCloned before.volumeManager source
  | .writeBlock volumeId offset _ _ size physicalSize =>
      ∀ volume,
        before.volumes.get? volumeId = some volume →
          offset + size ≤ volume.sizeBytes →
            TalliesWritten before.volumeManager volume offset size
              physicalSize

/-! ## The operations of the volume manager -/

theorem Counter.forall_iff {holds : Counter → Prop} :
    (∀ counter, holds counter) ↔
      holds .volumes ∧ holds .provisioned ∧ holds .used ∧
        holds .logical ∧ holds .physical := by
  constructor
  · intro each
    exact ⟨each _, each _, each _, each _, each _⟩
  · rintro ⟨volumes, provisioned, used, logical, physical⟩ counter
    cases counter with
    | volumes => exact volumes
    | provisioned => exact provisioned
    | used => exact used
    | logical => exact logical
    | physical => exact physical

section Operations

variable
    {manager : VolumeManager}
    {volumeId : String}
    {volume : Volume}

/-- The number of live volumes. -/
theorem TotalsExact.totalVolumes (exact : TotalsExact manager) :
    manager.stats.totalVolumes = manager.volumes.values.length := by
  have counted := congrFun exact.sum .volumes
  rw [Dict.sumBy_apply] at counted
  exact counted.trans (Dict.sumBy_one manager.volumes)

/-- When the totals follow a volume put in the place of another. -/
theorem TotalsExact.put_iff
    (exact : TotalsExact manager)
    (found : manager.volumes.get? volumeId = some volume)
    (put : Volume) (stats : VolumeStats) :
    TotalsExact
        { manager with
          volumes := manager.volumes.set volumeId put
          stats := stats } ↔
      ∀ counter,
        stats.totals counter =
            manager.stats.totals counter - volume.counts counter +
              put.counts counter ∧
          0 ≤ stats.totals counter := by
  rw [TotalsExact, Dict.Tallies.set_iff exact found, forall_and,
    funext_iff, Pi.le_def]
  exact Iff.rfl

/-- When the totals follow a volume that is added. -/
theorem TotalsExact.add_iff
    (exact : TotalsExact manager)
    (absent : manager.volumes.get? volumeId = none)
    (added : Volume) (stats : VolumeStats) :
    TotalsExact
        { manager with
          volumes := manager.volumes.set volumeId added
          stats := stats } ↔
      ∀ counter,
        stats.totals counter =
            manager.stats.totals counter + added.counts counter ∧
          0 ≤ stats.totals counter := by
  rw [TotalsExact, Dict.Tallies.set_absent_iff exact absent, forall_and,
    funext_iff, Pi.le_def]
  exact Iff.rfl

/-- When the totals follow a volume that is removed. -/
theorem TotalsExact.remove_iff
    (exact : TotalsExact manager)
    (found : manager.volumes.get? volumeId = some volume)
    (stats : VolumeStats) :
    TotalsExact
        { manager with
          volumes := manager.volumes.erase volumeId
          stats := stats } ↔
      ∀ counter,
        stats.totals counter =
            manager.stats.totals counter - volume.counts counter ∧
          0 ≤ stats.totals counter := by
  rw [TotalsExact, Dict.Tallies.erase_iff exact found, forall_and,
    funext_iff, Pi.le_def]
  exact Iff.rfl

theorem totalsExact_new (settings : Settings) :
    TotalsExact (StorageController.new settings).volumeManager where
  sum := by
    ext counter
    cases counter <;> rfl
  nonneg := by
    intro counter
    cases counter <;> exact Int.le_refl 0

theorem TotalsExact.nonneg (exact : TotalsExact manager) :
    0 ≤ manager.stats.totalVolumes ∧
      0 ≤ manager.stats.totalProvisionedBytes ∧
      0 ≤ manager.stats.totalUsedBytes ∧
      0 ≤ manager.stats.totalLogicalBytes ∧
      0 ≤ manager.stats.totalPhysicalBytes :=
  Counter.forall_iff.mp (Dict.Tallies.nonneg exact)

theorem TotalsExact.createVolume_iff
    (exact : TotalsExact manager)
    (absent : manager.volumes.get? volumeId = none)
    (name : String) (sizeBytes : ℤ) (description : String)
    (tags : Dict String String) :
    TotalsExact
        (manager.createVolume volumeId name sizeBytes description tags).2 ↔
      TalliesNew manager sizeBytes := by
  have nonneg := exact.nonneg
  have added :=
    exact.add_iff absent
      (manager.createVolume volumeId name sizeBytes description tags).1
      (manager.createVolume volumeId name sizeBytes description tags).2.stats
  apply added.trans
  rw [Counter.forall_iff]
  simp only [VolumeManager.createVolume, VolumeStats.totals,
    Volume.counts, TalliesNew, true_and]
  omega

theorem TotalsExact.updateVolume
    (exact : TotalsExact manager) (volumeId : String)
    (name description : Option String)
    (tags : Option (Dict String String)) :
    TotalsExact
      (manager.updateVolume volumeId name description tags).2 := by
  rw [VolumeManager.updateVolume]
  split
  · exact exact
  · rename_i volume found
    have nonneg := exact.nonneg
    apply (exact.put_iff found _ manager.stats).mpr
    rw [Counter.forall_iff]
    simp only [VolumeStats.totals, Volume.counts]
    omega

theorem TotalsExact.resizeVolume
    (exact : TotalsExact manager) (volumeId : String)
    (newSizeBytes : ℤ) :
    TotalsExact (manager.resizeVolume volumeId newSizeBytes).2 := by
  rw [VolumeManager.resizeVolume]
  split
  · exact exact
  · rename_i volume found
    split
    · exact exact
    · have nonneg := exact.nonneg
      apply (exact.put_iff found _ _).mpr
      rw [Counter.forall_iff]
      simp only [VolumeStats.totals, Volume.counts]
      omega

theorem TotalsExact.deleteVolume_iff
    (exact : TotalsExact manager) (volumeId : String) :
    TotalsExact (manager.deleteVolume volumeId).2 ↔
      ∀ volume,
        manager.volumes.get? volumeId = some volume →
          TalliesDeleted manager volume := by
  rw [VolumeManager.deleteVolume]
  split
  · rename_i absent
    constructor
    · intro _ volume found
      cases absent.symm.trans found
    · exact fun _ => exact
  · rename_i volume found
    have present : 0 < manager.volumes.values.length :=
      List.length_pos_of_mem
        (Dict.mem_values_iff.mpr ⟨volumeId, found⟩)
    have counted := exact.totalVolumes
    apply (exact.remove_iff found _).trans
    rw [Counter.forall_iff]
    simp only [VolumeStats.totals, Volume.counts, true_and]
    constructor
    · rintro ⟨_, provisioned, used, logical, physical⟩ other live
      cases found.symm.trans live
      constructor <;> omega
    · intro deleted
      rcases deleted volume found with
        ⟨provisioned, used, logical, physical⟩
      omega

theorem TotalsExact.writeBlock_iff
    (exact : TotalsExact manager) (volumeId : String)
    (offset : ℤ) (blockId fingerprint : String)
    (size physicalSize : ℤ) :
    TotalsExact
        (manager.writeBlock volumeId offset blockId fingerprint size
          physicalSize).2 ↔
      ∀ volume,
        manager.volumes.get? volumeId = some volume →
          offset + size ≤ volume.sizeBytes →
            TalliesWritten manager volume offset size physicalSize := by
  rw [VolumeManager.writeBlock]
  split
  · rename_i absent
    constructor
    · intro _ volume found
      cases absent.symm.trans found
    · exact fun _ => exact
  · rename_i volume found
    split
    · rename_i exceeds
      constructor
      · intro _ other live within
        cases found.symm.trans live
        exact (Int.not_lt.mpr within exceeds).elim
      · exact fun _ => exact
    · rename_i within
      have nonneg := exact.nonneg
      apply (exact.put_iff found _ _).trans
      rw [Counter.forall_iff]
      simp only [VolumeStats.totals, Volume.counts,
        VolumeManager.mapBlock]
      constructor
      · rintro ⟨_, _, used, logical, physical⟩ other live _
        cases found.symm.trans live
        constructor <;> omega
      · intro written
        rcases written volume found (Int.not_lt.mp within) with
          ⟨overwritten, physical, used, logical⟩
        omega

theorem TotalsExact.cloneVolume_iff
    (exact : TotalsExact manager) {cloneId : String}
    (absent : manager.volumes.get? cloneId = none)
    (sourceId newName description : String) :
    TotalsExact
        (manager.cloneVolume cloneId sourceId newName description).2 ↔
      ∀ source,
        manager.volumes.get? sourceId = some source →
          TalliesCloned manager source := by
  cases found : manager.getVolume sourceId with
  | none =>
      simp only [VolumeManager.cloneVolume, found]
      constructor
      · intro _ source live
        cases found.symm.trans live
      · exact fun _ => exact
  | some source =>
      have nonneg := exact.nonneg
      simp only [VolumeManager.cloneVolume, found,
        VolumeManager.createVolume, Dict.set_set]
      apply (exact.add_iff absent _ _).trans
      rw [Counter.forall_iff]
      simp only [VolumeStats.totals, Volume.counts, true_and]
      constructor
      · rintro ⟨_, provisioned, used, logical, _⟩ other live
        cases found.symm.trans live
        constructor
        · exact provisioned
        · omega
        · omega
      · intro cloned
        rcases cloned source found with ⟨new, used, logical⟩
        rw [TalliesNew] at new
        omega

end Operations

/-! ## The calls -/

section Calls

variable
    {platform : Platform}
    {before : StorageController}

/-- The next identifier is that of no live volume. -/
theorem VolumesDrawn.next_absent
    (injective : Function.Injective platform.uuid4)
    (drawn : VolumesDrawn platform before) :
    before.volumeManager.volumes.get? (before.nextUuid platform) =
      none := by
  cases found : before.volumes.get? (before.nextUuid platform) with
  | none => rfl
  | some volume =>
      have fresh := (drawn _ volume found).ne_fresh injective
      exact (fresh rfl).elim

/-- When the totals follow a write. -/
theorem TotalsExact.write_iff
    (exact : TotalsExact before.volumeManager)
    (volumeId : String) (offset : ℤ) (data : Bytes) :
    TotalsExact
        (before.write platform volumeId offset data).2.volumeManager ↔
      KeepsTotals platform before (.write volumeId offset data) := by
  by_cases recorded :
      ∃ volume, Records platform before volumeId volume offset data
  · rcases recorded with ⟨volume, records⟩
    rcases write_of_records records with ⟨blockId, fingerprint, written⟩
    rw [written, exact.writeBlock_iff]
    constructor
    · intro tallies other others
      exact tallies other others.found others.within
    · intro keeps other found within
      cases records.found.symm.trans found
      exact keeps volume records
  · rw [write_of_not_records recorded]
    constructor
    · intro _ volume records
      exact (recorded ⟨volume, records⟩).elim
    · exact fun _ => exact

/-- When the totals follow a restore into a live volume. -/
theorem TotalsExact.restoredInto_iff
    {manager : VolumeManager} (exact : TotalsExact manager)
    {volumeId : String} {volume : Volume}
    (found : manager.volumes.get? volumeId = some volume)
    (snapshot : Snapshot) :
    TotalsExact
        { manager with
          volumes :=
            manager.volumes.set volumeId (volume.restoredFrom snapshot) } ↔
      snapshot.usedBytes = volume.usedBytes := by
  have nonneg := exact.nonneg
  apply (exact.put_iff found _ manager.stats).trans
  rw [Counter.forall_iff]
  simp only [VolumeStats.totals, Volume.counts, Volume.restoredFrom]
  omega

/-- When the totals follow a restore into a new volume. -/
theorem TotalsExact.recovered_iff
    {manager : VolumeManager} (exact : TotalsExact manager)
    {volumeId : String} (absent : manager.volumes.get? volumeId = none)
    {volume : Volume} (blank : volume.Blank) (snapshot : Snapshot)
    (name description : String) :
    TotalsExact
        { (manager.createVolume volumeId name volume.sizeBytes description
            Dict.empty).2 with
          volumes :=
            manager.volumes.set volumeId (volume.restoredFrom snapshot) } ↔
      TalliesNew manager volume.sizeBytes ∧ snapshot.usedBytes = 0 := by
  have nonneg := exact.nonneg
  apply (exact.add_iff absent _ _).trans
  rw [Counter.forall_iff]
  simp only [VolumeManager.createVolume, VolumeStats.totals,
    Volume.counts, Volume.restoredFrom, blank.logicalBytes,
    blank.physicalBytes, TalliesNew, true_and]
  omega

/-- When the totals follow a restore. -/
theorem TotalsExact.restoreSnapshot_iff
    (injective : Function.Injective platform.uuid4)
    (drawn : VolumesDrawn platform before)
    (exact : TotalsExact before.volumeManager)
    (snapshotId : String) (target : Option String) :
    TotalsExact
        (before.restoreSnapshot platform snapshotId
          target).2.volumeManager ↔
      KeepsTotals platform before (.restoreSnapshot snapshotId target) := by
  cases taken : before.snapshots.get? snapshotId with
  | none =>
      rw [restoreSnapshot_ignored (Or.inl taken)]
      constructor
      · intro _ snapshot found
        cases taken.symm.trans found
      · exact fun _ => exact
  | some snapshot =>
      have only :
          KeepsTotals platform before
              (.restoreSnapshot snapshotId target) ↔
            if target.getD "" = "" then
              TalliesNew before.volumeManager (restoredSize snapshot) ∧
                snapshot.usedBytes = 0
            else
              ∀ volume,
                before.volumes.get? (target.getD "") = some volume →
                  snapshot.usedBytes = volume.usedBytes := by
        constructor
        · intro keeps
          exact keeps snapshot taken
        · intro keeps other found
          cases taken.symm.trans found
          exact keeps
      rw [only]
      by_cases unnamed : target.getD "" = ""
      · rcases restoreSnapshot_new taken unnamed with
          ⟨name, description, volume, blank, size, recovered⟩
        rw [recovered, if_pos unnamed, ← size]
        exact
          exact.recovered_iff (drawn.next_absent injective) blank snapshot
            name description
      · rw [if_neg unnamed]
        cases found : before.volumes.get? (target.getD "") with
        | none =>
            rw [restoreSnapshot_ignored (Or.inr ⟨unnamed, found⟩)]
            constructor
            · intro _ volume live
              cases live
            · exact fun _ => exact
        | some volume =>
            rw [restoreSnapshot_into taken unnamed found]
            apply (exact.restoredInto_iff found snapshot).trans
            constructor
            · intro same other live
              cases live
              exact same
            · intro same
              exact same volume rfl

/-- The totals follow a call of the controller exactly under its condition. -/
theorem TotalsExact.step_iff
    (injective : Function.Injective platform.uuid4)
    (drawn : VolumesDrawn platform before)
    (exact : TotalsExact before.volumeManager) (call : Call) :
    TotalsExact (before.step platform call).volumeManager ↔
      KeepsTotals platform before call := by
  have absent := drawn.next_absent injective
  rw [volumeManager_step]
  cases call with
  | createVolume name sizeGb description tags =>
      exact exact.createVolume_iff absent _ _ _ _
  | updateVolume volumeId name description tags =>
      exact iff_true_intro (exact.updateVolume _ _ _ _)
  | resizeVolume volumeId newSizeBytes =>
      exact iff_true_intro (exact.resizeVolume _ _)
  | deleteVolume volumeId => exact exact.deleteVolume_iff volumeId
  | cloneVolume sourceId newName description =>
      exact exact.cloneVolume_iff absent _ _ _
  | write volumeId offset data =>
      exact exact.write_iff volumeId offset data
  | read => exact iff_true_intro exact
  | createSnapshot => exact iff_true_intro exact
  | deleteSnapshot => exact iff_true_intro exact
  | restoreSnapshot snapshotId target =>
      exact exact.restoreSnapshot_iff injective drawn snapshotId target

/-- A clone on the volume manager is the clone of the controller. -/
theorem stepManaged_cloneVolume
    (platform : Platform) (before : StorageController)
    (sourceId newName description : String) :
    before.stepManaged platform
        (.cloneVolume sourceId newName description) =
      before.step platform (.cloneVolume sourceId newName description) := by
  cases found : before.volumeManager.getVolume sourceId with
  | none =>
      simp only [StorageController.stepManaged, StorageController.step,
        StorageController.cloneVolume, found]
  | some source =>
      simp only [StorageController.stepManaged, StorageController.step,
        StorageController.cloneVolume, found]

/-- The totals follow a call of either kind exactly under its condition. -/
theorem TotalsExact.stepManaged_iff
    (injective : Function.Injective platform.uuid4)
    (drawn : VolumesDrawn platform before)
    (exact : TotalsExact before.volumeManager) (call : ManagedCall) :
    TotalsExact (before.stepManaged platform call).volumeManager ↔
      KeepsTotalsManaged platform before call := by
  have absent := drawn.next_absent injective
  cases call with
  | controller call => exact exact.step_iff injective drawn call
  | createVolume name sizeBytes description tags =>
      exact exact.createVolume_iff absent _ _ _ _
  | deleteVolume volumeId => exact exact.deleteVolume_iff volumeId
  | cloneVolume sourceId newName description =>
      rw [stepManaged_cloneVolume]
      exact exact.step_iff injective drawn
        (.cloneVolume sourceId newName description)
  | writeBlock volumeId offset blockId fingerprint size physicalSize =>
      exact exact.writeBlock_iff _ _ _ _ _ _

/-- The identifiers of the live volumes stay drawn. -/
theorem VolumesDrawn.stepManaged
    (drawn : VolumesDrawn platform before) (call : ManagedCall) :
    VolumesDrawn platform (before.stepManaged platform call) := by
  cases call with
  | controller call => exact drawn.step call
  | createVolume name sizeBytes description tags =>
      intro volumeId volume found
      rcases Dict.get?_of_set found with rfl | kept
      · exact drawn_next platform before.uuidsDrawn
      · exact (drawn volumeId volume kept).mono (Nat.le_succ _)
  | deleteVolume deleted =>
      intro volumeId volume found
      simp only [StorageController.stepManaged, volumes,
        deleteVolume_volumes] at found
      split at found
      · cases found
      · exact drawn volumeId volume found
  | cloneVolume sourceId newName description =>
      rw [stepManaged_cloneVolume]
      exact drawn.step (.cloneVolume sourceId newName description)
  | writeBlock written offset blockId fingerprint size physicalSize =>
      intro volumeId volume found
      simp only [StorageController.stepManaged, volumes,
        VolumeManager.writeBlock] at found
      split at found
      · exact drawn volumeId volume found
      · rename_i old live
        split at found
        · exact drawn volumeId volume found
        · rcases Dict.get?_of_set found with rfl | kept
          · exact drawn volumeId old live
          · exact drawn volumeId volume kept

end Calls

/-! ## Every run -/

/--
The totals of the volume manager are exact after each call of a run, made on the
controller or on its volume manager, exactly if every call of the run meets its
condition.
-/
theorem totalsExact_after_each_iff
    {platform : Platform}
    (injective : Function.Injective platform.uuid4)
    (settings : Settings) (calls : List ManagedCall) :
    AllSteps (stepManaged platform)
        (fun controller call =>
          TotalsExact (controller.stepManaged platform call).volumeManager)
        (StorageController.new settings) calls ↔
      AllSteps (stepManaged platform) (KeepsTotalsManaged platform)
        (StorageController.new settings) calls := by
  apply
    @allSteps_property_iff _ _ _ _ (VolumesDrawn platform)
      (fun controller => TotalsExact controller.volumeManager)
  · exact fun controller call drawn _ => drawn.stepManaged call
  · exact fun controller call drawn exact =>
      exact.stepManaged_iff injective drawn call
  · intro volumeId volume found
    rw [volumes_new] at found
    cases found
  · exact totalsExact_new settings

theorem totalsExact_resized :
    AllSteps (stepManaged storingPlatform)
      (fun controller call =>
        TotalsExact
          (controller.stepManaged storingPlatform call).volumeManager)
      (StorageController.new {})
      [.createVolume "volume" 4096 "" Dict.empty,
        .controller (.resizeVolume "0" 8192)] := by
  apply
    (totalsExact_after_each_iff storingPlatform_lawful.uuid4_injective {}
      _).mpr
  have provisioned :
      TalliesNew (StorageController.new {}).volumeManager 4096 := by
    show (0 : ℤ) ≤ 0 + 4096
    decide
  exact ⟨provisioned, trivial, trivial⟩

/-- Two bytes, overwritten by two others, in a volume that is deleted. -/
def deletedRun : List ManagedCall :=
  [.controller (createGibibyte "volume"),
    .controller (.write "0" 0 [1, 2]),
    .controller (.write "0" 0 [3, 4]),
    .controller (.deleteVolume "0")]

/-- No volume is left, two bytes count as used and one total is negative. -/
theorem totals_lost_by_delete :
    ¬ TotalsExact
      (run (stepManaged storingPlatform) (StorageController.new {})
        deletedRun).volumeManager := by
  have totals :
      (run (stepManaged storingPlatform) (StorageController.new {})
          deletedRun).volumeManager.stats =
        { totalUsedBytes := 2
          totalLogicalBytes := 2
          totalPhysicalBytes := -7 } := by
    decide +kernel
  intro exact
  have physical := exact.nonneg.2.2.2.2
  rw [totals] at physical
  exact absurd physical (by decide)

end StorageAppliance.Core
