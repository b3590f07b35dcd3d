import StorageAppliance.Library.SecondaryIndex
import StorageAppliance.Core.VolumeChanges

/-!
# The indexes of the snapshot manager

The snapshot manager keeps its snapshots by identifier, lists their identifiers
by volume, and counts them, in total and by volume.  The specification is one
list: the snapshots that were created and not deleted, oldest first.  `Tracks`
relates the manager to this list, by the library of secondary indexes.

Every call keeps the relation, because the identifiers of snapshots are fresh.
Deleting a snapshot takes its identifier out of a list that has it, so the
`remove` of the source never raises.
-/

namespace StorageAppliance.Core

open StorageAppliance.Python
open StorageAppliance.Library
open StorageAppliance.Storage
open StorageAppliance.Purity
open StorageController

/-- The manager holds exactly these snapshots, the oldest first. -/
structure Tracks (manager : SnapshotManager) (live : List Snapshot) :
    Prop where
  indexes :
    Indexes Snapshot.id Snapshot.volumeId live manager.snapshots
      manager.volumeSnapshots
  counted :
    ∀ volumeId,
      manager.stats.snapshotsByVolume.get? volumeId =
        (manager.volumeSnapshots.get? volumeId).map List.length
  total : manager.stats.totalSnapshots = live.length

theorem tracks_new : Tracks {} [] where
  indexes := indexes_empty
  counted := by
    intro volumeId
    rfl
  total := rfl

section Manager

variable
    {manager : SnapshotManager}
    {live : List Snapshot}

/-- A volume's count stays the length of its list when both are replaced. -/
theorem Tracks.counted_set
    (tracks : Tracks manager live) (key : String) (tracked : List String)
    (volumeId : String) :
    (manager.stats.snapshotsByVolume.set key tracked.length).get?
        volumeId =
      ((manager.volumeSnapshots.set key tracked).get? volumeId).map
        List.length := by
  rw [Dict.get?_set, Dict.get?_set]
  split
  · rfl
  · exact tracks.counted volumeId

/-- A snapshot under a fresh identifier is the latest. -/
theorem Tracks.createSnapshot
    (tracks : Tracks manager live) {snapshotId : String}
    (fresh : manager.snapshots.get? snapshotId = none)
    (volume : Volume) (name : Option String)
    (description timestamp : String) (tags : Dict String String) :
    Tracks
      (manager.createSnapshot snapshotId volume name description timestamp
        tags).2
      (live ++
        [(manager.createSnapshot snapshotId volume name description
          timestamp tags).1]) where
  indexes := tracks.indexes.add fresh
  counted := tracks.counted_set _ _
  total := by
    rw [List.length_append, Nat.cast_add]
    show manager.stats.totalSnapshots + 1 = _
    rw [tracks.total]
    rfl

/-- Deleting a live snapshot removes it from the table and its list. -/
theorem Tracks.deleteSnapshot_of_live
    (tracks : Tracks manager live) {snapshotId : String}
    {snapshot : Snapshot}
    (found : manager.snapshots.get? snapshotId = some snapshot) :
    (manager.deleteSnapshot snapshotId).1 = .ok true ∧
      Tracks (manager.deleteSnapshot snapshotId).2
        (live.filter fun other => other.id ≠ snapshotId) := by
  have present : manager.getSnapshot snapshotId = some snapshot := found
  have removed := tracks.indexes.remove found
  have tracked := tracks.indexes.get?_eq_some_iff.mp found
  have listed := tracks.indexes.mem_index tracked.1
  rw [tracked.2] at listed
  have fewer := (Dict.values_perm_erase found).length_eq
  rw [tracks.indexes.values, removed.values, List.length_cons] at fewer
  cases indexed : manager.volumeSnapshots.get? snapshot.volumeId with
  | none =>
      rw [indexed] at listed
      cases listed
  | some identifiers =>
      rw [indexed, Option.getD_some] at listed removed
      simp only [SnapshotManager.deleteSnapshot, present, indexed]
      rw [if_pos listed]
      refine ⟨rfl, removed, tracks.counted_set _ _, ?_⟩
      show manager.stats.totalSnapshots - 1 = _
      rw [tracks.total, fewer]
      omega

/-- Deleting answers whether the snapshot was live, and never raises. -/
theorem Tracks.deleteSnapshot
    (tracks : Tracks manager live) (snapshotId : String) :
    (manager.deleteSnapshot snapshotId).1 =
        .ok (manager.getSnapshot snapshotId).isSome ∧
      Tracks (manager.deleteSnapshot snapshotId).2
        (live.filter fun other => other.id ≠ snapshotId) := by
  cases found : manager.getSnapshot snapshotId with
  | some snapshot => exact tracks.deleteSnapshot_of_live found
  | none =>
      have kept :
          live.filter (fun other => other.id ≠ snapshotId) = live := by
        rw [List.filter_eq_self]
        intro other member
        have apart : other.id ≠ snapshotId := by
          rintro rfl
          have live := tracks.indexes.get?_of_mem member
          cases found.symm.trans live
        exact decide_eq_true apart
      rw [kept]
      simp only [SnapshotManager.deleteSnapshot, found]
      exact ⟨rfl, tracks⟩

/-! ## Listing -/

theorem Tracks.listSnapshots
    (tracks : Tracks manager live) : manager.listSnapshots none = live :=
  tracks.indexes.values

/-- Listing by volume filters; the empty identifier filters nothing. -/
theorem Tracks.listSnapshots_by
    (tracks : Tracks manager live) (volumeId : String) :
    manager.listSnapshots (some volumeId) =
      live.filter fun snapshot =>
        volumeId = "" ∨ snapshot.volumeId = volumeId := by
  by_cases empty : volumeId = ""
  · simp only [SnapshotManager.listSnapshots, Option.getD_some, empty,
      true_or, decide_true, List.filter_true]
    exact tracks.indexes.values
  · simp only [SnapshotManager.listSnapshots, Option.getD_some, empty,
      false_or]
    rw [if_pos empty]
    exact tracks.indexes.lookup volumeId

end Manager

/-! ## Runs of the snapshot manager -/

/-- A call of the snapshot manager. -/
inductive SnapshotCall where
  | createSnapshot (volume : Volume) (name : Option String)
      (description timestamp : String) (tags : Dict String String)
  | deleteSnapshot (snapshotId : String)
deriving DecidableEq

/-- A snapshot manager and the snapshots its answers leave live. -/
structure SnapshotRun where
  manager : SnapshotManager := {}
  uuidsDrawn : Nat := 0
  live : List Snapshot := []
deriving DecidableEq

/-- The run after a call. -/
def SnapshotRun.step (platform : Platform) (state : SnapshotRun) :
    SnapshotCall → SnapshotRun
  | .createSnapshot volume name description timestamp tags =>
      let (snapshot, manager) :=
        state.manager.createSnapshot (platform.uuid4 state.uuidsDrawn)
          volume name description timestamp tags
      { manager := manager
        uuidsDrawn := state.uuidsDrawn + 1
        live := state.live ++ [snapshot] }
  | .deleteSnapshot snapshotId =>
      { state with
        manager := (state.manager.deleteSnapshot snapshotId).2
        live := state.live.filter fun other => other.id ≠ snapshotId }

/--
Both indexes and both statistics describe the live snapshots.  The empty string,
which identifies no volume, lists them all.
-/
structure IndexesAgree (state : SnapshotRun) : Prop where
  listed : state.manager.listSnapshots none = state.live
  tracked :
    ∀ volumeId,
      (state.manager.volumeSnapshots.get? volumeId).getD [] =
        (state.live.filter fun snapshot =>
          snapshot.volumeId = volumeId).map Snapshot.id
  distinct :
    ∀ volumeId,
      ((state.manager.volumeSnapshots.get? volumeId).getD []).Nodup
  listedBy :
    ∀ volumeId,
      state.manager.listSnapshots (some volumeId) =
        (state.manager.listSnapshots none).filter fun snapshot =>
          volumeId = "" ∨ snapshot.volumeId = volumeId
  counted :
    ∀ volumeId,
      state.manager.stats.snapshotsByVolume.get? volumeId =
        (state.manager.volumeSnapshots.get? volumeId).map List.length
  total : state.manager.stats.totalSnapshots = state.live.length
  deletes :
    ∀ snapshotId,
      (state.manager.deleteSnapshot snapshotId).1 =
        .ok (state.manager.getSnapshot snapshotId).isSome

theorem Tracks.indexesAgree
    {state : SnapshotRun} (tracks : Tracks state.manager state.live) :
    IndexesAgree state where
  listed := tracks.listSnapshots
  tracked := tracks.indexes.index
  distinct := by
    intro volumeId
    rw [tracks.indexes.index]
    exact tracks.indexes.members_nodup volumeId
  listedBy := by
    intro volumeId
    rw [tracks.listSnapshots]
    exact tracks.listSnapshots_by volumeId
  counted := tracks.counted
  total := tracks.total
  deletes := by
    intro snapshotId
    exact (tracks.deleteSnapshot snapshotId).1

/-- The identifiers of the snapshots are drawn. -/
def SnapshotsDrawn (platform : Platform) (count : Nat)
    (live : List Snapshot) : Prop :=
  ∀ snapshot ∈ live, Drawn platform count snapshot.id

section Fresh

variable
    {platform : Platform}
    {count : Nat}
    {live : List Snapshot}

/-- The next identifier is that of no live snapshot. -/
theorem SnapshotsDrawn.next_absent
    (injective : Function.Injective platform.uuid4)
    (drawn : SnapshotsDrawn platform count live)
    {manager : SnapshotManager} (tracks : Tracks manager live) :
    manager.snapshots.get? (platform.uuid4 count) = none := by
  cases found : manager.snapshots.get? (platform.uuid4 count) with
  | none => rfl
  | some snapshot =>
      have listed := tracks.indexes.get?_eq_some_iff.mp found
      have fresh := (drawn snapshot listed.1).ne_fresh injective
      exact (fresh listed.2).elim

theorem SnapshotsDrawn.append
    (drawn : SnapshotsDrawn platform count live) {snapshot : Snapshot}
    (named : snapshot.id = platform.uuid4 count) :
    SnapshotsDrawn platform (count + 1) (live ++ [snapshot]) := by
  intro listed member
  rcases List.mem_append.mp member with old | new
  · exact (drawn listed old).mono (Nat.le_succ count)
  · rw [List.mem_singleton.mp new, named]
    exact drawn_next platform count

theorem SnapshotsDrawn.filter
    (drawn : SnapshotsDrawn platform count live)
    (keep : Snapshot → Bool) :
    SnapshotsDrawn platform count (live.filter keep) := by
  intro snapshot member
  exact drawn snapshot (List.mem_filter.mp member).1

theorem SnapshotsDrawn.mono
    (drawn : SnapshotsDrawn platform count live) {more : Nat}
    (le : count ≤ more) :
    SnapshotsDrawn platform more live := by
  intro snapshot member
  exact (drawn snapshot member).mono le

end Fresh

section Runs

variable {platform : Platform}

/-- Every call keeps the manager in step with its answers. -/
theorem tracks_step
    (injective : Function.Injective platform.uuid4)
    (state : SnapshotRun) (call : SnapshotCall)
    (held :
      Tracks state.manager state.live ∧
        SnapshotsDrawn platform state.uuidsDrawn state.live) :
    Tracks (state.step platform call).manager
        (state.step platform call).live ∧
      SnapshotsDrawn platform (state.step platform call).uuidsDrawn
        (state.step platform call).live := by
  rcases held with ⟨tracks, drawn⟩
  cases call with
  | createSnapshot volume name description timestamp tags =>
      have fresh := drawn.next_absent injective tracks
      constructor
      · exact tracks.createSnapshot fresh volume name description timestamp
          tags
      · exact drawn.append rfl
  | deleteSnapshot snapshotId =>
      constructor
      · exact (tracks.deleteSnapshot snapshotId).2
      · exact drawn.filter _

/--
After every sequence of calls on any volumes the indexes and the statistics of
the snapshot manager describe the live snapshots in creation order, and the next
deletion does not raise.
-/
theorem indexesAgree_after
    (injective : Function.Injective platform.uuid4)
    (calls : List SnapshotCall) :
    IndexesAgree (run (SnapshotRun.step platform) {} calls) := by
  have start :
      Tracks ({} : SnapshotRun).manager ({} : SnapshotRun).live ∧
        SnapshotsDrawn platform ({} : SnapshotRun).uuidsDrawn
          ({} : SnapshotRun).live := by
    refine ⟨tracks_new, ?_⟩
    intro snapshot member
    cases member
  have held :=
    run_invariant_of_step (tracks_step injective) calls start
  exact held.1.indexesAgree

theorem indexesAgree_after_three :
    IndexesAgree
      (run (SnapshotRun.step storingPlatform) {}
        [.createSnapshot { id := "a", name := "first", sizeBytes := 1 }
            none "" "20240101-000000" Dict.empty,
          .createSnapshot { id := "b", name := "second", sizeBytes := 2 }
            (some "daily") "" "20240101-000001" Dict.empty,
          .deleteSnapshot "0"]) :=
  indexesAgree_after storingPlatform_lawful.uuid4_injective _

/-! ## The snapshot manager of a controller -/

/-- The snapshots of a controller are held in some order of creation. -/
def SnapshotsHeld (platform : Platform) (controller : StorageController) :
    Prop :=
  ∃ live,
    Tracks controller.snapshotManager live ∧
      SnapshotsDrawn platform controller.uuidsDrawn live

theorem SnapshotsHeld.step
    (injective : Function.Injective platform.uuid4)
    (controller : StorageController) (call : Call)
    (held : SnapshotsHeld platform controller) :
    SnapshotsHeld platform (controller.step platform call) := by
  rcases held with ⟨live, tracks, drawn⟩
  have more := uuidsDrawn_step platform controller call
  rw [SnapshotsHeld, snapshotManager_step]
  split
  · rename_i volumeId name description timestamp
    split
    · exact ⟨live, tracks, drawn.mono more⟩
    · rename_i volume found
      have fresh := drawn.next_absent injective tracks
      refine
        ⟨_, tracks.createSnapshot fresh volume name description timestamp
          Dict.empty, ?_⟩
      have counted :
          (controller.step platform
              (.createSnapshot volumeId name description
                timestamp)).uuidsDrawn = controller.uuidsDrawn + 1 := by
        simp only [StorageController.step,
          StorageController.createSnapshot, found]
        rfl
      rw [counted]
      exact drawn.append rfl
  · rename_i snapshotId
    exact
      ⟨_, (tracks.deleteSnapshot snapshotId).2,
        (drawn.filter _).mono more⟩
  · exact ⟨live, tracks, drawn.mono more⟩

/-- Under any settings, no deletion of a snapshot raises. -/
theorem deleteSnapshot_answers
    (injective : Function.Injective platform.uuid4)
    (settings : Settings) (calls : List Call) (snapshotId : String) :
    let controller :=
      run (StorageController.step platform)
        (StorageController.new settings) calls
    (controller.deleteSnapshot snapshotId).1 =
      .ok (controller.snapshots.get? snapshotId).isSome := by
  have start :
      SnapshotsHeld platform (StorageController.new settings) := by
    refine ⟨[], tracks_new, ?_⟩
    intro snapshot member
    cases member
  have held :=
    run_invariant_of_step (SnapshotsHeld.step injective) calls start
  dsimp only
  generalize
    run (StorageController.step platform)
      (StorageController.new settings) calls = controller at held ⊢
  rcases held with ⟨live, tracks, _⟩
  cases found : controller.snapshotManager.getSnapshot snapshotId with
  | none =>
      have absent : controller.snapshots.get? snapshotId = none := found
      simp only [StorageController.deleteSnapshot, found, absent]
      rfl
  | some snapshot =>
      have answered := (tracks.deleteSnapshot snapshotId).1
      simp only [StorageController.deleteSnapshot, found]
      exact answered

end Runs

end StorageAppliance.Core
