import StorageAppliance.Core.LiveReferences
import StorageAppliance.Core.Tasks

/-!
# Concurrent deletions of one volume

`delete_volume` looks the volume up, releases its blocks one after another
across waits for the backend, and removes the volume only at the end.  A second
request that starts in between walks the same block map and releases every
block again.

Two kinds of volumes are deleted as if by one request.  If deleting the volume
removes no file, the first request never waits and the second finds nothing.
If the volume owns all counts of its fingerprints and all of its stored blocks
go away, releasing twice does no more harm than once.

`Deleting` is the invariant of any number of deletions of the volume: the counts
have dropped at least as far as each deletion has walked, and the blocks that a
single deletion discards are gone behind it.
-/

namespace StorageAppliance.Core

open StorageAppliance.Python
open StorageAppliance.Library
open StorageAppliance.Storage
open StorageAppliance.Purity
open StorageController
open EventLoop

/-- Deleting the volume more than once has the effect of deleting it once. -/
def Undisturbed (controller : StorageController) (volumeId : String) :
    Prop :=
  ∀ volume ∈ controller.volumes.get? volumeId,
    ((∀ blockId,
        Discarded controller.references volume.references blockId →
          controller.files.get? blockId = none) ∨
      ∀ reference ∈ volume.references,
        controller.references reference.2 ≤
            keyCount volume.references reference.2 ∧
          (controller.files.get? reference.1 ≠ none →
            Discarded controller.references volume.references
              reference.1)) ∧
      ∀ other offset block,
        other ≠ volumeId →
          controller.mapped other offset = some block →
            controller.files.get? block.blockId ≠ none →
              ¬ Discarded controller.references volume.references
                block.blockId

/-- The blocks discarded by the references are gone. -/
def Cleared (before : StorageController) (files : Dict String Bytes)
    (references : List (String × String)) : Prop :=
  ∀ blockId,
    Discarded before.references references blockId →
      files.get? blockId = none

/-- A deletion is at a block: it has released it and cleared those before. -/
structure Handling (before : StorageController) (volume : Volume)
    (dropped : String → Nat) (files : Dict String Bytes)
    (iterator : BlockIterator) (blockId : String) : Prop where
  size : iterator.size = volume.blocks.items.length
  counted :
    ∀ fingerprint,
      keyCount (volume.references.take iterator.taken) fingerprint ≤
        dropped fingerprint
  cleared :
    ∃ passed fingerprint,
      volume.references.take iterator.taken =
          passed ++ [(blockId, fingerprint)] ∧
        Cleared before files passed

/-- What a deletion relies on while it waits. -/
def PointSound (before : StorageController) (volumeId : String)
    (volume : Volume) (dropped : String → Nat)
    (controller : StorageController) : DeletePoint → Prop
  | .notStarted => True
  | .waiting iterator blockId =>
      Handling before volume dropped controller.files iterator blockId
  | .readingMetadata iterator blockId =>
      Handling before volume dropped controller.files iterator blockId
  | .removingData iterator blockId =>
      Handling before volume dropped controller.files iterator blockId
  | .removingMetadata iterator blockId =>
      Handling before volume dropped controller.files iterator blockId ∧
        controller.files.get? blockId = none
  | .updatingMetadata _ _ _ => False
  | .returned _ => controller.volumes.get? volumeId = none

/-- Deletions of the volume are under way; the running one is exempt. -/
structure Deleting (before : StorageController) (volumeId : String)
    (volume : Volume) (running : Option Nat) (dropped : String → Nat)
    (loop : EventLoop) : Prop where
  table :
    ∀ fingerprint,
      loop.controller.table.get? fingerprint =
        (before.table.get? fingerprint).bind fun entry =>
          DedupEntry.without entry (dropped fingerprint)
  held :
    ∀ fingerprint,
      keyCount volume.references fingerprint = 0 →
        dropped fingerprint = 0
  stored :
    ∀ blockId,
      (loop.controller.files.get? blockId = before.files.get? blockId ∧
          loop.controller.backend.metadata.get? blockId =
            before.backend.metadata.get? blockId) ∨
        ((∃ fingerprint, (blockId, fingerprint) ∈ volume.references) ∧
          loop.controller.files.get? blockId = none ∧
          (loop.controller.backend.metadata.get? blockId = none ∨
            loop.controller.backend.metadata.get? blockId =
              before.backend.metadata.get? blockId))
  object : loop.volumeObject volumeId = some volume
  removed :
    loop.controller.volumes.get? volumeId = none →
      (∀ fingerprint,
          keyCount volume.references fingerprint ≤ dropped fingerprint) ∧
        Cleared before loop.controller.files volume.references
  tasks :
    ∀ taskId task,
      some taskId ≠ running →
        loop.tasks.get? taskId = some task →
          ∃ point,
            task = .delete volumeId point ∧
              PointSound before volumeId volume dropped loop.controller
                point
  halves :
    ∀ blockId,
      loop.controller.files.get? blockId = none →
        loop.controller.backend.metadata.get? blockId ≠ none →
          ∃ taskId iterator,
            some taskId ≠ running ∧
              loop.tasks.get? taskId =
                some (.delete volumeId
                  (.removingMetadata iterator blockId))

section Deletes

variable
    {before : StorageController}
    {volumeId : String}
    {volume : Volume}
    {dropped : String → Nat}
    {running : Option Nat}
    {loop : EventLoop}
    {taskId : Nat}

/-! ## What other tasks rely on is kept -/

theorem Cleared.mono
    {files fewer : Dict String Bytes}
    {references : List (String × String)}
    (cleared : Cleared before files references)
    (kept :
      ∀ blockId,
        files.get? blockId = none → fewer.get? blockId = none) :
    Cleared before fewer references :=
  fun blockId discarded => kept blockId (cleared blockId discarded)

theorem Handling.mono
    {files fewer : Dict String Bytes} {more : String → Nat}
    {iterator : BlockIterator} {blockId : String}
    (handling : Handling before volume dropped files iterator blockId)
    (le : ∀ fingerprint, dropped fingerprint ≤ more fingerprint)
    (kept :
      ∀ blockId,
        files.get? blockId = none → fewer.get? blockId = none) :
    Handling before volume more fewer iterator blockId where
  size := handling.size
  counted := fun fingerprint =>
    Nat.le_trans (handling.counted fingerprint) (le fingerprint)
  cleared := by
    rcases handling.cleared with ⟨passed, fingerprint, taken, cleared⟩
    exact ⟨passed, fingerprint, taken, cleared.mono kept⟩

theorem PointSound.mono
    {controller after : StorageController} {more : String → Nat}
    {point : DeletePoint}
    (sound :
      PointSound before volumeId volume dropped controller point)
    (le : ∀ fingerprint, dropped fingerprint ≤ more fingerprint)
    (files :
      ∀ blockId,
        controller.files.get? blockId = none →
          after.files.get? blockId = none)
    (volumes :
      controller.volumes.get? volumeId = none →
        after.volumes.get? volumeId = none) :
    PointSound before volumeId volume more after point := by
  cases point with
  | notStarted => trivial
  | waiting => exact Handling.mono sound le files
  | readingMetadata => exact Handling.mono sound le files
  | removingData => exact Handling.mono sound le files
  | removingMetadata =>
      exact ⟨Handling.mono sound.1 le files, files _ sound.2⟩
  | updatingMetadata => exact sound.elim
  | returned => exact volumes sound

/-- The block of a deletion is a block of the volume. -/
theorem Handling.referenced
    {files : Dict String Bytes} {iterator : BlockIterator}
    {blockId : String}
    (handling : Handling before volume dropped files iterator blockId) :
    ∃ fingerprint, (blockId, fingerprint) ∈ volume.references := by
  rcases handling.cleared with ⟨passed, fingerprint, taken, _⟩
  refine ⟨fingerprint, List.mem_of_mem_take (i := iterator.taken) ?_⟩
  rw [taken]
  exact List.mem_append_right _ List.mem_cons_self

/-- A released block that is gone leaves everything up to it cleared. -/
theorem Handling.cleared_taken
    {files : Dict String Bytes} {iterator : BlockIterator}
    {blockId : String}
    (handling : Handling before volume dropped files iterator blockId)
    (gone : files.get? blockId = none) :
    Cleared before files (volume.references.take iterator.taken) := by
  rcases handling.cleared with ⟨passed, fingerprint, taken, cleared⟩
  rw [taken]
  intro other discarded
  rcases (discarded_concat_iff _ _ _ _).mp discarded with
    earlier | ⟨same, _⟩
  · exact cleared other earlier
  · rw [← same]
    exact gone

/-- A missing metadata file means a missing data file. -/
theorem Deleting.file_missing
    (wellFormed : before.backend.WellFormed)
    (deleting : Deleting before volumeId volume running dropped loop)
    {blockId : String}
    (missing :
      loop.controller.backend.metadata.get? blockId = none) :
    loop.controller.files.get? blockId = none := by
  rcases deleting.stored blockId with ⟨sameFile, sameMetadata⟩ | gone
  · rw [missing] at sameMetadata
    rw [sameFile]
    exact (wellFormed.paired blockId).mpr sameMetadata.symm
  · exact gone.2.1

/-- Metadata that is left counts one reference. -/
theorem Deleting.metadata_single
    (wellFormed : before.backend.WellFormed)
    (deleting : Deleting before volumeId volume running dropped loop)
    {blockId : String} {info : BlockInfo}
    (found :
      loop.controller.backend.metadata.get? blockId = some info) :
    info.referenceCount = 1 := by
  have original :
      before.backend.metadata.get? blockId = some info := by
    rcases deleting.stored blockId with ⟨_, same⟩ | ⟨_, _, none | same⟩
    · exact same.symm.trans found
    · rw [none] at found
      cases found
    · exact same.symm.trans found
  exact wellFormed.single blockId info original

/-- The lock plays no part in the invariant. -/
theorem Deleting.withLock
    (deleting : Deleting before volumeId volume running dropped loop)
    (lock : FifoLock Nat) :
    Deleting before volumeId volume running dropped
      { loop with lock := lock } :=
  ⟨deleting.table, deleting.held, deleting.stored, deleting.object,
    deleting.removed, deleting.tasks, deleting.halves⟩

/-- A task that is not about to remove metadata can run. -/
theorem Deleting.resume
    (deleting : Deleting before volumeId volume none dropped loop)
    {point : DeletePoint}
    (scheduled :
      loop.tasks.get? taskId = some (.delete volumeId point))
    (finished :
      ∀ iterator blockId,
        point = .removingMetadata iterator blockId →
          loop.controller.backend.metadata.get? blockId = none) :
    Deleting before volumeId volume (some taskId) dropped loop where
  table := deleting.table
  held := deleting.held
  stored := deleting.stored
  object := deleting.object
  removed := deleting.removed
  tasks := fun other task _ found =>
    deleting.tasks other task (by simp) found
  halves := by
    intro blockId noFile metadata
    rcases deleting.halves blockId noFile metadata with
      ⟨owner, iterator, _, found⟩
    refine ⟨owner, iterator, ?_, found⟩
    intro same
    cases same
    rw [scheduled] at found
    cases found
    exact metadata (finished iterator blockId rfl)

/-- A task that has run waits at a sound point. -/
theorem Deleting.park
    (deleting :
      Deleting before volumeId volume (some taskId) dropped loop)
    {point : DeletePoint}
    (sound :
      PointSound before volumeId volume dropped loop.controller point) :
    Deleting before volumeId volume none dropped
      (loop.setDelete taskId volumeId point) where
  table := deleting.table
  held := deleting.held
  stored := deleting.stored
  object := deleting.object
  removed := deleting.removed
  tasks := by
    intro other task _ found
    simp only [setDelete, Dict.get?_set] at found
    split at found
    · cases found
      exact ⟨point, rfl, sound⟩
    · rename_i apart
      exact deleting.tasks other task (by simp [apart]) found
  halves := by
    intro blockId noFile metadata
    rcases deleting.halves blockId noFile metadata with
      ⟨owner, iterator, apart, found⟩
    refine ⟨owner, iterator, by simp, ?_⟩
    have other : owner ≠ taskId := by
      intro same
      exact apart (congrArg some same)
    exact (Dict.get?_set_ne _ _ other).trans found

/-! ## One walk over the block map -/

/-- The count that is left of a fingerprint. -/
theorem Deleting.references
    (deleting : Deleting before volumeId volume running dropped loop)
    (fingerprint : String) :
    loop.controller.references fingerprint =
      before.references fingerprint - dropped fingerprint := by
  have entries := deleting.table fingerprint
  cases found : before.table.get? fingerprint with
  | none =>
      rw [found] at entries
      have absent : before.references fingerprint = 0 :=
        references_of_absent found
      rw [absent, Nat.zero_sub]
      exact references_of_absent entries
  | some entry =>
      rw [found, Option.bind_some] at entries
      have counted :
          before.references fingerprint = entry.referenceCount :=
        references_of_get? found
      rw [counted]
      cases left : DedupEntry.without entry (dropped fingerprint) with
      | none =>
          have gone := DedupEntry.without_eq_none left
          have absent : loop.controller.references fingerprint = 0 :=
            references_of_absent (entries.trans left)
          rw [absent]
          exact (Nat.sub_eq_zero_of_le gone).symm
      | some kept =>
          have remaining := (DedupEntry.without_eq_some left).2.1
          rw [← remaining]
          exact references_of_get? (entries.trans left)

/-- The dropped references with one more of a fingerprint. -/
def dropOne (dropped : String → Nat) (fingerprint : String) :
    String → Nat :=
  fun other => dropped other + if fingerprint = other then 1 else 0

theorem le_dropOne (fingerprint other : String) :
    dropped other ≤ dropOne dropped fingerprint other :=
  Nat.le_add_right _ _

/-- A running deletion drops a reference of the volume. -/
theorem Deleting.dereference
    (deleting :
      Deleting before volumeId volume (some taskId) dropped loop)
    {fingerprint : String}
    (holds : 0 < keyCount volume.references fingerprint) :
    Deleting before volumeId volume (some taskId)
      (dropOne dropped fingerprint) (loop.dereference fingerprint).2 where
  table := by
    intro other
    have released :=
      dereferenceBlock_get? loop.controller.purity.deduplication
        fingerprint other
    have entries := deleting.table other
    rw [StorageController.table] at entries
    rw [entries, Option.bind_assoc] at released
    refine released.trans ?_
    congr 1
    funext entry
    exact DedupEntry.without_without entry _ _
  held := by
    intro other none
    have apart : fingerprint ≠ other := by
      intro same
      rw [same, none] at holds
      exact absurd holds (Nat.lt_irrefl 0)
    rw [dropOne, if_neg apart, deleting.held other none]
  stored := deleting.stored
  object := deleting.object
  removed := by
    intro gone
    rcases deleting.removed gone with ⟨counted, cleared⟩
    refine ⟨fun other => ?_, cleared⟩
    exact Nat.le_trans (counted other) (le_dropOne fingerprint other)
  tasks := by
    intro other task apart found
    rcases deleting.tasks other task apart found with
      ⟨point, same, sound⟩
    exact ⟨point, same,
      sound.mono (le_dropOne fingerprint) (fun _ gone => gone)
        (fun gone => gone)⟩
  halves := deleting.halves

/-- A dereference returns the number of references left. -/
theorem dereference_count (loop : EventLoop) (fingerprint : String) :
    (loop.dereference fingerprint).1 =
      loop.controller.references fingerprint - 1 := by
  have count :=
    dereferenceBlock_fst loop.controller.purity.deduplication fingerprint
  rw [release_apply, if_pos rfl] at count
  exact count

/-- The returned number is zero when all references are dropped. -/
theorem Deleting.dereference_fst
    (deleting : Deleting before volumeId volume running dropped loop)
    (fingerprint : String) :
    (loop.dereference fingerprint).1 =
      before.references fingerprint -
        dropOne dropped fingerprint fingerprint := by
  have left := deleting.references fingerprint
  rw [dropOne, if_pos rfl, ← Nat.sub_sub, ← left]
  exact dereference_count loop fingerprint

/-- The last block is passed: the volume goes. -/
theorem Deleting.complete
    (deleting :
      Deleting before volumeId volume (some taskId) dropped loop)
    (counted :
      ∀ fingerprint,
        keyCount volume.references fingerprint ≤ dropped fingerprint)
    (cleared :
      Cleared before loop.controller.files volume.references) :
    Deleting before volumeId volume none dropped
      (loop.completeDelete taskId volumeId) := by
  have gone :
      (loop.controller.removeVolume volumeId).2.volumes.get? volumeId =
        none := by
    have erased :=
      deleteVolume_volumes loop.controller.volumeManager volumeId volumeId
    rw [if_pos rfl] at erased
    exact erased
  have removing :
      Deleting before volumeId volume (some taskId) dropped
        { loop with
          controller := (loop.controller.removeVolume volumeId).2
          retired := (loop.completeDelete taskId volumeId).retired } :=
    { table := deleting.table
      held := deleting.held
      stored := deleting.stored
      object := by
        have object := deleting.object
        rw [volumeObject] at object ⊢
        have absent :
            (loop.controller.removeVolume
              volumeId).2.volumeManager.getVolume volumeId = none := gone
        rw [absent, completeDelete]
        cases live :
          loop.controller.volumeManager.getVolume volumeId with
        | none =>
            rw [live] at object
            exact object
        | some current =>
            rw [live] at object
            cases object
            exact Dict.get?_set_self _ _ _
      removed := fun _ => ⟨counted, cleared⟩
      tasks := by
        intro other task apart found
        rcases deleting.tasks other task apart found with
          ⟨point, same, sound⟩
        exact ⟨point, same,
          sound.mono (fun _ => Nat.le_refl _) (fun _ missing => missing)
            (fun _ => gone)⟩
      halves := deleting.halves }
  exact removing.park gone

/-- Taking one more block takes its reference. -/
theorem references_take_succ
    {taken : Nat} {block : VolumeBlock} {rest : List VolumeBlock}
    (remaining : volume.blocks.values.drop taken = block :: rest) :
    volume.references.take (taken + 1) =
      volume.references.take taken ++ [block.reference] := by
  have next : volume.blocks.values[taken]? = some block := by
    rw [← List.head?_drop, remaining]
    rfl
  rw [List.take_add_one, Volume.references, List.getElem?_map, next]
  rfl

/-- A deletion that drops the reference of its next block is at it. -/
theorem handling_next
    {files : Dict String Bytes} {iterator : BlockIterator}
    {block : VolumeBlock} {rest : List VolumeBlock}
    (size : iterator.size = volume.blocks.items.length)
    (remaining :
      volume.blocks.values.drop iterator.taken = block :: rest)
    (counted :
      ∀ fingerprint,
        keyCount (volume.references.take iterator.taken) fingerprint ≤
          dropped fingerprint)
    (cleared :
      Cleared before files (volume.references.take iterator.taken)) :
    Handling before volume (dropOne dropped block.fingerprint) files
      { iterator with taken := iterator.taken + 1 } block.blockId where
  size := size
  counted := by
    intro fingerprint
    rw [references_take_succ remaining, keyCount_append, keyCount_cons,
      keyCount_nil, Nat.zero_add]
    exact Nat.add_le_add_right (counted fingerprint) _
  cleared :=
    ⟨volume.references.take iterator.taken, block.fingerprint,
      references_take_succ remaining, cleared⟩

/-- A deletion that stays at no block has cleared all it has taken. -/
theorem cleared_of_counted
    {files : Dict String Bytes} {taken : Nat}
    {block : VolumeBlock} {rest : List VolumeBlock}
    (remaining : volume.blocks.values.drop taken = block :: rest)
    (counted :
      ∀ fingerprint,
        keyCount (volume.references.take taken) fingerprint ≤
          dropped fingerprint)
    (cleared : Cleared before files (volume.references.take taken))
    (inUse :
      before.references block.fingerprint -
        dropOne dropped block.fingerprint block.fingerprint ≠ 0) :
    Cleared before files (volume.references.take (taken + 1)) := by
  rw [references_take_succ remaining]
  intro other discarded
  rcases (discarded_concat_iff _ _ _ _).mp discarded with
    earlier | ⟨_, late⟩
  · exact cleared other earlier
  · have counts := counted block.fingerprint
    simp only [dropOne, VolumeBlock.reference, if_true] at inUse late
    exact absurd (Nat.sub_eq_zero_of_le (by omega)) inUse

/-- What a deletion does at its next block. -/
theorem deleteBlocks_cons
    (loop : EventLoop) (taskId : Nat) (volumeId : String)
    (iterator : BlockIterator) (block : VolumeBlock)
    (rest : List VolumeBlock) :
    loop.deleteBlocks taskId volumeId iterator (block :: rest) =
      let next := { iterator with taken := iterator.taken + 1 }
      let released := (loop.dereference block.fingerprint).2
      let queued :=
        { released with lock := (loop.lock.acquire taskId).2 }
      if (loop.dereference block.fingerprint).1 = 0 then
        if (loop.lock.acquire taskId).1 then
          match loop.controller.backend.metadata.get? block.blockId with
          | some _ =>
              queued.setDelete taskId volumeId
                (.readingMetadata next block.blockId)
          | none => queued.unlock.deleteBlocks taskId volumeId next rest
        else
          queued.setDelete taskId volumeId (.waiting next block.blockId)
      else
        released.deleteBlocks taskId volumeId next rest :=
  rfl

/-- A running deletion walks to its next wait. -/
theorem Deleting.deleteBlocks
    (wellFormed : before.backend.WellFormed)
    {iterator : BlockIterator} {blocks : List VolumeBlock}
    (deleting :
      Deleting before volumeId volume (some taskId) dropped loop)
    (size : iterator.size = volume.blocks.items.length)
    (remaining : volume.blocks.values.drop iterator.taken = blocks)
    (counted :
      ∀ fingerprint,
        keyCount (volume.references.take iterator.taken) fingerprint ≤
          dropped fingerprint)
    (cleared :
      Cleared before loop.controller.files
        (volume.references.take iterator.taken)) :
    ∃ more,
      Deleting before volumeId volume none more
        (loop.deleteBlocks taskId volumeId iterator blocks) := by
  induction blocks generalizing loop dropped iterator with
  | nil =>
      have all : volume.references.take iterator.taken =
          volume.references := by
        apply List.take_of_length_le
        rw [Volume.references, List.length_map]
        exact List.drop_eq_nil_iff.mp remaining
      rw [all] at counted cleared
      exact ⟨dropped, deleting.complete counted cleared⟩
  | cons block rest induction =>
      have member : block ∈ volume.blocks.values := by
        apply List.mem_of_mem_drop (i := iterator.taken)
        rw [remaining]
        exact List.mem_cons_self
      have holds :
          0 < keyCount volume.references block.fingerprint :=
        keyCount_pos_of_mem
          (List.mem_map.mpr ⟨block, member, rfl⟩ :
            block.reference ∈ volume.references)
      have released := deleting.dereference holds
      have count := deleting.dereference_fst block.fingerprint
      have handling := handling_next size remaining counted cleared
      have left :
          volume.blocks.values.drop (iterator.taken + 1) = rest := by
        rw [← List.tail_drop, remaining]
        rfl
      simp only [deleteBlocks_cons]
      split
      · rename_i last
        split
        · split
          · refine ⟨_, (released.withLock _).park ?_⟩
            exact handling
          · rename_i missing
            have gone := released.file_missing wellFormed missing
            exact induction ((released.withLock _).withLock _) size left
              handling.counted (handling.cleared_taken gone)
        · refine ⟨_, (released.withLock _).park ?_⟩
          exact handling
      · rename_i inUse
        rw [count] at inUse
        exact induction released size left handling.counted
          (cleared_of_counted remaining counted cleared inUse)

/-! ## One step of one task -/

/-- A deletion whose block is gone goes on with the next one. -/
theorem Deleting.continueDelete
    (wellFormed : before.backend.WellFormed)
    (deleting :
      Deleting before volumeId volume (some taskId) dropped loop)
    {iterator : BlockIterator} {blockId : String}
    (handling :
      Handling before volume dropped loop.controller.files iterator
        blockId)
    (gone : loop.controller.files.get? blockId = none) :
    ∃ more,
      Deleting before volumeId volume none more
        (loop.continueDelete taskId volumeId iterator) := by
  rw [EventLoop.continueDelete, deleting.object]
  simp only [handling.size, ne_eq, not_true_eq_false, if_false]
  exact deleting.deleteBlocks wellFormed handling.size rfl
    handling.counted (handling.cleared_taken gone)

/-- A deletion removes the data file of its block. -/
theorem Deleting.removeFile
    (deleting : Deleting before volumeId volume none dropped loop)
    {iterator : BlockIterator} {blockId : String}
    (scheduled :
      loop.tasks.get? taskId =
        some (.delete volumeId (.removingData iterator blockId)))
    (handling :
      Handling before volume dropped loop.controller.files iterator
        blockId) :
    Deleting before volumeId volume none dropped
      ((loop.withBackend
        (loop.controller.backend.removeFile blockId)).setDelete taskId
          volumeId (.removingMetadata iterator blockId)) := by
  have files :
      ∀ other,
        (loop.controller.files.erase blockId).get? other =
          if other = blockId then none
          else loop.controller.files.get? other :=
    Dict.get?_erase loop.controller.files blockId
  have fewer :
      ∀ other,
        loop.controller.files.get? other = none →
          (loop.controller.files.erase blockId).get? other = none := by
    intro other missing
    rw [files, missing, ite_self]
  have gone :
      (loop.controller.files.erase blockId).get? blockId = none :=
    (files blockId).trans (if_pos rfl)
  refine
    ⟨deleting.table, deleting.held, ?_, deleting.object, ?_, ?_, ?_⟩
  · intro other
    by_cases same : other = blockId
    · subst same
      right
      refine ⟨handling.referenced, gone, ?_⟩
      rcases deleting.stored other with ⟨_, metadata⟩ | ⟨_, _, metadata⟩
      · exact Or.inr metadata
      · exact metadata
    · have kept := (files other).trans (if_neg same)
      rcases deleting.stored other with
        ⟨file, metadata⟩ | ⟨held, file, metadata⟩
      · exact Or.inl ⟨kept.trans file, metadata⟩
      · exact Or.inr ⟨held, kept.trans file, metadata⟩
  · intro absent
    rcases deleting.removed absent with ⟨counted, cleared⟩
    exact ⟨counted, cleared.mono fewer⟩
  · intro other task _ found
    simp only [setDelete, Dict.get?_set] at found
    split at found
    · cases found
      exact ⟨_, rfl,
        handling.mono (fun _ => Nat.le_refl _) fewer, gone⟩
    · rcases deleting.tasks other task (by simp) found with
        ⟨point, same, sound⟩
      exact ⟨point, same,
        sound.mono (fun _ => Nat.le_refl _) fewer (fun absent => absent)⟩
  · intro other missing metadata
    by_cases same : other = blockId
    · subst same
      exact ⟨taskId, iterator, by simp, Dict.get?_set_self _ _ _⟩
    · have kept := (files other).trans (if_neg same)
      rcases
        deleting.halves other (kept.symm.trans missing) metadata with
        ⟨owner, ownIterator, _, found⟩
      refine ⟨owner, ownIterator, by simp, ?_⟩
      have apart : owner ≠ taskId := by
        intro same
        rw [same, scheduled] at found
        cases found
      exact (Dict.get?_set_ne _ _ apart).trans found

/-- A deletion removes the metadata file of its block. -/
theorem Deleting.removeMetadata
    (deleting : Deleting before volumeId volume none dropped loop)
    {iterator : BlockIterator} {blockId : String}
    (scheduled :
      loop.tasks.get? taskId =
        some (.delete volumeId (.removingMetadata iterator blockId)))
    (handling :
      Handling before volume dropped loop.controller.files iterator
        blockId)
    (gone : loop.controller.files.get? blockId = none) :
    Deleting before volumeId volume (some taskId) dropped
      (loop.withBackend
        (loop.controller.backend.removeMetadata
          blockId).recordDeleted) := by
  have metadata :
      ∀ other,
        (loop.controller.backend.metadata.erase blockId).get? other =
          if other = blockId then none
          else loop.controller.backend.metadata.get? other :=
    Dict.get?_erase loop.controller.backend.metadata blockId
  refine
    ⟨deleting.table, deleting.held, ?_, deleting.object,
      deleting.removed, ?_, ?_⟩
  · intro other
    by_cases same : other = blockId
    · subst same
      exact Or.inr
        ⟨handling.referenced, gone,
          Or.inl ((metadata other).trans (if_pos rfl))⟩
    · have kept := (metadata other).trans (if_neg same)
      rcases deleting.stored other with
        ⟨file, same⟩ | ⟨held, file, none | same⟩
      · exact Or.inl ⟨file, kept.trans same⟩
      · exact Or.inr ⟨held, file, Or.inl (kept.trans none)⟩
      · exact Or.inr ⟨held, file, Or.inr (kept.trans same)⟩
  · intro other task _ found
    exact deleting.tasks other task (by simp) found
  · intro other missing present
    by_cases same : other = blockId
    · subst same
      exact absurd ((metadata other).trans (if_pos rfl)) present
    · have kept := (metadata other).trans (if_neg same)
      have still :
          loop.controller.backend.metadata.get? other ≠ none :=
        fun absent => present (kept.trans absent)
      rcases deleting.halves other missing still with
        ⟨owner, ownIterator, _, found⟩
      refine ⟨owner, ownIterator, ?_, found⟩
      intro running
      cases running
      rw [scheduled] at found
      cases found
      exact same rfl

/-- A deletion runs to its next wait. -/
theorem Deleting.resumeDelete
    (wellFormed : before.backend.WellFormed)
    (deleting : Deleting before volumeId volume none dropped loop)
    {point : DeletePoint}
    (scheduled :
      loop.tasks.get? taskId = some (.delete volumeId point)) :
    ∃ more,
      Deleting before volumeId volume none more
        (loop.resumeDelete taskId volumeId point) := by
  rcases deleting.tasks taskId _ (by simp) scheduled with
    ⟨_, same, sound⟩
  cases same
  cases point with
  | notStarted =>
      have running := deleting.resume scheduled (by simp)
      have object := deleting.object
      simp only [volumeObject] at object
      simp only [EventLoop.resumeDelete]
      split
      · rename_i absent
        exact ⟨dropped, running.park absent⟩
      · rename_i current live
        rw [live] at object
        cases object
        apply running.deleteBlocks wellFormed rfl rfl
        · intro fingerprint
          simp
        · rintro blockId ⟨passed, reference, rest, equal, _⟩
          simp at equal
  | waiting iterator blockId =>
      have running := deleting.resume scheduled (by simp)
      simp only [EventLoop.resumeDelete]
      split
      · split
        · exact ⟨dropped, running.park sound⟩
        · rename_i missing
          exact (running.withLock _).continueDelete wellFormed sound
            (running.file_missing wellFormed missing)
      · exact ⟨dropped, deleting⟩
  | readingMetadata iterator blockId =>
      have running := deleting.resume scheduled (by simp)
      simp only [EventLoop.resumeDelete]
      split
      · rename_i missing
        exact (running.withLock _).continueDelete wellFormed sound
          (running.file_missing wellFormed missing)
      · rename_i info found
        have single := running.metadata_single wellFormed found
        rw [if_pos (Nat.le_of_eq single)]
        exact ⟨dropped, running.park sound⟩
  | removingData iterator blockId =>
      simp only [EventLoop.resumeDelete]
      split
      · rename_i missing
        have running := deleting.resume scheduled (by simp)
        exact (running.withLock _).continueDelete wellFormed sound missing
      · exact ⟨dropped, deleting.removeFile scheduled sound⟩
  | removingMetadata iterator blockId =>
      simp only [EventLoop.resumeDelete]
      split
      · rename_i missing
        have running :=
          deleting.resume scheduled (by
            intro other otherBlock same
            cases same
            exact missing)
        exact (running.withLock _).continueDelete wellFormed sound.1
          sound.2
      · have running :=
          deleting.removeMetadata scheduled sound.1 sound.2
        exact (running.withLock _).continueDelete wellFormed sound.1
          sound.2
  | updatingMetadata => exact sound.elim
  | returned => exact ⟨dropped, deleting⟩

/-- Whatever task runs, the deletions stay under way. -/
theorem Deleting.step
    (platform : Platform) (wellFormed : before.backend.WellFormed)
    (deleting : Deleting before volumeId volume none dropped loop)
    (taskId : Nat) :
    ∃ more,
      Deleting before volumeId volume none more
        (loop.step platform taskId) := by
  rw [EventLoop.step]
  split
  · exact ⟨dropped, deleting⟩
  · rename_i found
    rcases deleting.tasks taskId _ (by simp) found with ⟨_, same, _⟩
    cases same
  · rename_i target point found
    rcases deleting.tasks taskId _ (by simp) found with ⟨_, same, _⟩
    cases same
    exact deleting.resumeDelete wellFormed found

end Deletes

/-! ## Requests that never wait -/

/-- Releasing a block without a file only drops its reference. -/
theorem releaseBlock_without_file
    (loop : EventLoop) (block : VolumeBlock)
    (missing :
      (loop.dereference block.fingerprint).1 = 0 →
        loop.controller.backend.metadata.get? block.blockId = none) :
    loop.controller.releaseBlock block =
      (loop.dereference block.fingerprint).2.controller := by
  by_cases last :
      (loop.controller.purity.deduplication.dereferenceBlock
        block.fingerprint).1 = 0
  · simp [releaseBlock, PurityEngine.delete, last,
      FileBackend.deleteBlock, FileBackend.getBlockInfo, missing last,
      EventLoop.dereference]
  · simp [releaseBlock, PurityEngine.delete, last,
      EventLoop.dereference]

/-- A walk that finds no file to remove does not wait. -/
theorem deleteBlocks_without_files
    (taskId : Nat) (volumeId : String)
    {loop : EventLoop} {blocks : List VolumeBlock}
    (iterator : BlockIterator)
    (free : loop.lock = {})
    (wellFormed : loop.controller.backend.WellFormed)
    (nothing :
      ∀ blockId,
        Discarded loop.controller.references
            (blocks.map VolumeBlock.reference) blockId →
          loop.controller.files.get? blockId = none) :
    loop.deleteBlocks taskId volumeId iterator blocks =
      { loop with
        controller :=
          loop.controller.releaseBlocks blocks }.completeDelete taskId
        volumeId := by
  induction blocks generalizing loop iterator with
  | nil => rfl
  | cons block rest induction =>
      have released :
          (loop.dereference block.fingerprint).2.controller.references =
            release loop.controller.references block.reference.2 :=
        dereferenceBlock_references loop.controller.purity.deduplication
          block.fingerprint
      have later :
          ∀ blockId,
            Discarded
                (loop.dereference
                  block.fingerprint).2.controller.references
                (rest.map VolumeBlock.reference) blockId →
              loop.controller.files.get? blockId = none := by
        intro blockId discarded
        rw [released] at discarded
        apply nothing
        exact (discarded_cons_iff _ _ _ _).mpr (Or.inr discarded)
      have missing :
          (loop.dereference block.fingerprint).1 = 0 →
            loop.controller.backend.metadata.get? block.blockId =
              none := by
        intro last
        rw [dereference_count] at last
        apply (wellFormed.paired block.blockId).mp
        apply nothing
        apply (discarded_cons_iff _ _ _ _).mpr
        exact Or.inl ⟨rfl, Nat.le_of_sub_eq_zero last⟩
      have step :=
        @induction (loop.dereference block.fingerprint).2
          { iterator with taken := iterator.taken + 1 } free wellFormed
          later
      simp only [deleteBlocks_cons]
      rw [releaseBlocks, releaseBlock_without_file loop block missing]
      by_cases last : (loop.dereference block.fingerprint).1 = 0
      · rw [if_pos last, free, FifoLock.acquire_free, if_pos rfl,
          missing last]
        simp only [unlock, FifoLock.release_alone]
        rw [← free]
        exact step
      · rw [if_neg last]
        exact step

/-- No request has changed anything yet, or one has done it all at once. -/
structure Settled (before : StorageController) (volumeId : String)
    (loop : EventLoop) : Prop where
  tasks :
    ∀ taskId task,
      loop.tasks.get? taskId = some task →
        task = .delete volumeId .notStarted ∨
          ∃ answer, task = .delete volumeId (.returned answer)
  controller :
    (loop.controller = before ∧ loop.lock = {} ∧
        ∀ taskId answer,
          loop.tasks.get? taskId ≠
            some (.delete volumeId (.returned answer))) ∨
      loop.controller = (before.deleteVolume volumeId).2

section Settles

variable
    {before : StorageController}
    {volumeId : String}
    {loop : EventLoop}

/-- A returning request leaves the others as they were. -/
theorem Settled.setDelete
    (settled : Settled before volumeId loop)
    (taskId : Nat) (answer : Except PyException Bool) :
    ∀ other task,
      (loop.setDelete taskId volumeId (.returned answer)).tasks.get?
          other = some task →
        task = .delete volumeId .notStarted ∨
          ∃ answer, task = .delete volumeId (.returned answer) := by
  intro other task found
  simp only [EventLoop.setDelete, Dict.get?_set] at found
  split at found
  · cases found
    exact Or.inr ⟨answer, rfl⟩
  · exact settled.tasks other task found

/-- The first request to run deletes the volume without waiting. -/
theorem Settled.start
    (wellFormed : before.backend.WellFormed)
    (nothing :
      ∀ blockId,
        Discards before volumeId blockId →
          before.files.get? blockId = none)
    (settled : Settled before volumeId loop) (taskId : Nat) :
    Settled before volumeId
      (loop.resumeDelete taskId volumeId .notStarted) := by
  simp only [EventLoop.resumeDelete]
  rcases settled.controller with ⟨same, free, _⟩ | done
  · split
    · rename_i absent
      refine ⟨settled.setDelete taskId _, Or.inr ?_⟩
      rw [same] at absent
      simp [EventLoop.setDelete, deleteVolume, absent, same]
    · rename_i volume live
      rw [same] at live
      have noFile :
          ∀ blockId,
            Discarded loop.controller.references
                (volume.blocks.values.map VolumeBlock.reference)
                blockId →
              loop.controller.files.get? blockId = none := by
        intro blockId discarded
        rw [same] at discarded ⊢
        exact nothing blockId ⟨volume, live, discarded⟩
      rw [deleteBlocks_without_files taskId volumeId _ free
        (same ▸ wellFormed) noFile]
      refine ⟨settled.setDelete taskId _, Or.inr ?_⟩
      simp [EventLoop.completeDelete, EventLoop.setDelete, deleteVolume,
        live, same]
  · have gone :
        loop.controller.volumeManager.getVolume volumeId = none := by
      have volumes :=
        (deleteVolume_spec wellFormed volumeId).2.2.2 volumeId
      rw [if_pos rfl, ← done] at volumes
      exact volumes
    rw [gone]
    exact ⟨settled.setDelete taskId _, Or.inr done⟩

theorem Settled.step
    (platform : Platform) (wellFormed : before.backend.WellFormed)
    (nothing :
      ∀ blockId,
        Discards before volumeId blockId →
          before.files.get? blockId = none)
    (settled : Settled before volumeId loop) (taskId : Nat) :
    Settled before volumeId (loop.step platform taskId) := by
  rw [EventLoop.step]
  split
  · exact settled
  · rename_i found
    rcases settled.tasks taskId _ found with same | ⟨_, same⟩ <;>
      cases same
  · rename_i target point found
    rcases settled.tasks taskId _ found with same | ⟨answer, same⟩
    · cases same
      exact settled.start wellFormed nothing taskId
    · cases same
      exact settled

end Settles

/-! ## Two requests and one -/

/-- The dedupe table and the files are those of the other controller. -/
structure SameStore (first second : StorageController) : Prop where
  table :
    ∀ fingerprint,
      first.table.get? fingerprint = second.table.get? fingerprint
  files :
    ∀ blockId, first.files.get? blockId = second.files.get? blockId
  metadata :
    ∀ blockId,
      first.backend.metadata.get? blockId =
        second.backend.metadata.get? blockId

/-- Two requests to delete the volume, where they are. -/
def deletions (volumeId : String) (first second : DeletePoint) :
    Dict Nat Task :=
  (Dict.empty.set 0 (.delete volumeId first)).set 1
    (.delete volumeId second)

/-- Two requests to delete the volume reach the controller. -/
def twoDeletions (controller : StorageController) (volumeId : String) :
    EventLoop where
  controller := controller
  tasks := deletions volumeId .notStarted .notStarted

/-- Both requests have returned. -/
def BothReturned (volumeId : String) (loop : EventLoop) : Prop :=
  ∃ first second,
    loop.tasks = deletions volumeId (.returned first) (.returned second)

theorem get?_deletions
    {volumeId : String} {first second : DeletePoint} {taskId : Nat}
    {task : Task}
    (found : (deletions volumeId first second).get? taskId = some task) :
    task = .delete volumeId first ∨ task = .delete volumeId second := by
  simp only [deletions, Dict.get?_set, Dict.get?_empty] at found
  split at found
  · cases found
    exact Or.inr rfl
  · split at found
    · cases found
      exact Or.inl rfl
    · cases found

section TwoDeletions

variable
    {platform : Platform}
    {before : StorageController}
    {volumeId : String}
    {volume : Volume}
    {dropped : String → Nat}
    {loop : EventLoop}

/-- A deletion takes the metadata of a block away or leaves it. -/
theorem releaseBlocks_metadata
    (wellFormed : before.backend.WellFormed)
    (blocks : List VolumeBlock) (blockId : String) :
    (before.releaseBlocks blocks).backend.metadata.get? blockId = none ∨
      (before.releaseBlocks blocks).backend.metadata.get? blockId =
        before.backend.metadata.get? blockId := by
  induction blocks generalizing before with
  | nil => exact Or.inr rfl
  | cons block rest induction =>
      have one :
          (before.releaseBlock block).backend.metadata.get? blockId =
              none ∨
            (before.releaseBlock block).backend.metadata.get? blockId =
              before.backend.metadata.get? blockId := by
        simp only [releaseBlock, PurityEngine.delete]
        split
        · rw [(deleteBlock_get? wellFormed block.blockId blockId).2]
          split
          · exact Or.inl rfl
          · exact Or.inr rfl
        · exact Or.inr rfl
      rcases induction (releaseBlock_spec wellFormed block).2.1 with
        gone | kept
      · exact Or.inl gone
      · rw [releaseBlocks, kept]
        exact one

theorem deleteVolume_metadata
    (wellFormed : before.backend.WellFormed) (blockId : String) :
    (before.deleteVolume volumeId).2.backend.metadata.get? blockId =
        none ∨
      (before.deleteVolume volumeId).2.backend.metadata.get? blockId =
        before.backend.metadata.get? blockId := by
  cases live : before.volumeManager.getVolume volumeId with
  | none =>
      right
      simp [StorageController.deleteVolume, live]
  | some volume =>
      simp only [StorageController.deleteVolume, live]
      exact releaseBlocks_metadata wellFormed volume.blocks.values blockId

/-- Requests start with the volume as it is. -/
theorem deleting_twoDeletions
    (wellFormed : before.backend.WellFormed)
    (found : before.volumes.get? volumeId = some volume) :
    Deleting before volumeId volume none (fun _ => 0)
      (twoDeletions before volumeId) where
  table := by
    intro fingerprint
    change before.table.get? fingerprint = _
    simp [DedupEntry.without]
  held := fun _ _ => rfl
  stored := fun _ => Or.inl ⟨rfl, rfl⟩
  object := by
    have live : before.volumeManager.getVolume volumeId = some volume :=
      found
    simp [volumeObject, twoDeletions, live]
  removed := by
    intro gone
    rw [twoDeletions, found] at gone
    cases gone
  tasks := by
    intro taskId task _ scheduled
    rcases get?_deletions scheduled with same | same <;>
      exact ⟨_, same, trivial⟩
  halves := by
    intro blockId noFile metadata
    exact absurd ((wellFormed.paired blockId).mp noFile) metadata

theorem settled_twoDeletions :
    Settled before volumeId (twoDeletions before volumeId) where
  tasks := by
    intro taskId task scheduled
    rcases get?_deletions scheduled with same | same <;>
      exact Or.inl same
  controller := by
    refine Or.inl ⟨rfl, rfl, ?_⟩
    intro taskId answer scheduled
    rcases get?_deletions scheduled with same | same <;> cases same

/-- Counts that one request uses up are used up by more of them. -/
theorem Deleting.table_drained
    (found : before.volumes.get? volumeId = some volume)
    (deleting : Deleting before volumeId volume none dropped loop)
    (counted :
      ∀ fingerprint,
        keyCount volume.references fingerprint ≤ dropped fingerprint)
    (owned :
      ∀ reference ∈ volume.references,
        before.references reference.2 ≤
          keyCount volume.references reference.2)
    (fingerprint : String) :
    loop.controller.table.get? fingerprint =
      (before.deleteVolume volumeId).2.table.get? fingerprint := by
  rw [deleting.table, deleteVolume_get? found]
  cases entryFound : before.table.get? fingerprint with
  | none => rfl
  | some entry =>
      rw [Option.bind_some, Option.bind_some]
      by_cases free : keyCount volume.references fingerprint = 0
      · rw [deleting.held fingerprint free, free]
      · rcases List.countP_pos_iff.mp (Nat.pos_of_ne_zero free) with
          ⟨reference, member, key⟩
        have same : reference.2 = fingerprint := by simpa using key
        have drained := owned reference member
        have entryCount :
            before.references fingerprint = entry.referenceCount :=
          references_of_get? entryFound
        have more := counted fingerprint
        rw [same, entryCount] at drained
        rw [DedupEntry.without, DedupEntry.without, if_neg free,
          if_neg (by omega), if_pos drained, if_pos (by omega)]

/-- The files left by both requests are those left by one. -/
theorem Deleting.sameFiles
    (wellFormed : before.backend.WellFormed)
    (found : before.volumes.get? volumeId = some volume)
    (deleting : Deleting before volumeId volume none dropped loop)
    (cleared :
      ∀ blockId,
        Discarded before.references volume.references blockId →
          loop.controller.files.get? blockId = none)
    (owned :
      ∀ reference ∈ volume.references,
        before.files.get? reference.1 ≠ none →
          Discarded before.references volume.references reference.1)
    (blockId : String) :
    loop.controller.files.get? blockId =
      (before.deleteVolume volumeId).2.files.get? blockId := by
  rcases deleteVolume_spec wellFormed volumeId with
    ⟨_, removed, kept, _⟩
  by_cases discarded :
      Discarded before.references volume.references blockId
  · rw [cleared blockId discarded,
      removed blockId ⟨volume, found, discarded⟩]
  · have stays : ¬ Discards before volumeId blockId := by
      rintro ⟨other, live, late⟩
      rw [found] at live
      cases live
      exact discarded late
    rw [kept blockId stays]
    rcases deleting.stored blockId with
      ⟨same, _⟩ | ⟨⟨fingerprint, member⟩, noFile, _⟩
    · exact same
    · rw [noFile]
      by_contra stored
      exact discarded (owned _ member (Ne.symm stored))

/-- When all requests have returned, the store is that of a single one. -/
theorem Deleting.sameStore
    (wellFormed : before.backend.WellFormed)
    (found : before.volumes.get? volumeId = some volume)
    (deleting : Deleting before volumeId volume none dropped loop)
    (returned : BothReturned volumeId loop)
    (owned :
      ∀ reference ∈ volume.references,
        before.references reference.2 ≤
            keyCount volume.references reference.2 ∧
          (before.files.get? reference.1 ≠ none →
            Discarded before.references volume.references
              reference.1)) :
    SameStore loop.controller (before.deleteVolume volumeId).2 := by
  rcases returned with ⟨first, second, tasks⟩
  have gone : loop.controller.volumes.get? volumeId = none := by
    have last :
        loop.tasks.get? 1 = some (.delete volumeId (.returned second)) := by
      rw [tasks]
      exact Dict.get?_set_self _ _ _
    rcases deleting.tasks 1 _ (by simp) last with ⟨point, same, sound⟩
    cases same
    exact sound
  rcases deleting.removed gone with ⟨counted, cleared⟩
  have whole :
      ∀ blockId,
        loop.controller.files.get? blockId = none →
          loop.controller.backend.metadata.get? blockId = none := by
    intro blockId noFile
    by_contra metadata
    rcases deleting.halves blockId noFile metadata with
      ⟨taskId, iterator, _, scheduled⟩
    rw [tasks] at scheduled
    rcases get?_deletions scheduled with same | same <;> cases same
  have singleFormed := (deleteVolume_spec wellFormed volumeId).1
  have files :
      ∀ blockId,
        loop.controller.files.get? blockId =
          (before.deleteVolume volumeId).2.files.get? blockId :=
    deleting.sameFiles wellFormed found cleared
      (fun reference member => (owned reference member).2)
  refine
    ⟨deleting.table_drained found counted
        (fun reference member => (owned reference member).1),
      files, ?_⟩
  intro blockId
  cases file : loop.controller.files.get? blockId with
  | none =>
      have single :=
        (singleFormed.paired blockId).mp
          ((files blockId).symm.trans file)
      rw [whole blockId file, single]
  | some data =>
      have present :
          (before.deleteVolume volumeId).2.backend.metadata.get? blockId ≠
            none := by
        intro absent
        have noFile := (singleFormed.paired blockId).mpr absent
        have same := (files blockId).trans noFile
        rw [file] at same
        cases same
      rcases deleteVolume_metadata wellFormed blockId with none | single
      · exact absurd none present
      · rcases deleting.stored blockId with ⟨_, same⟩ | ⟨_, noFile, _⟩
        · rw [single]
          exact same
        · rw [file] at noFile
          cases noFile

/-- A single request spares the blocks of other volumes. -/
theorem deleteVolume_spares
    (wellFormed : before.backend.WellFormed)
    {blockId : String}
    (stays :
      before.files.get? blockId ≠ none →
        ¬ Discards before volumeId blockId) :
    (before.deleteVolume volumeId).2.files.get? blockId =
      before.files.get? blockId := by
  rcases deleteVolume_spec wellFormed volumeId with ⟨_, removed, kept, _⟩
  by_cases discards : Discards before volumeId blockId
  · have noFile : before.files.get? blockId = none := by
      by_contra stored
      exact stays stored discards
    rw [removed blockId discards, noFile]
  · exact kept blockId discards

/-- All requests that return leave the store of a single one. -/
theorem twoDeletions_sameStore
    (wellFormed : before.backend.WellFormed)
    (undisturbed : Undisturbed before volumeId)
    {schedule : List Nat}
    (returned :
      BothReturned volumeId
        (run (EventLoop.step platform) (twoDeletions before volumeId)
          schedule)) :
    SameStore
      (run (EventLoop.step platform) (twoDeletions before volumeId)
        schedule).controller
      (before.deleteVolume volumeId).2 := by
  have settles :
      (∀ blockId,
          Discards before volumeId blockId →
            before.files.get? blockId = none) →
        SameStore
          (run (EventLoop.step platform) (twoDeletions before volumeId)
            schedule).controller
          (before.deleteVolume volumeId).2 := by
    intro nothing
    have keeps :
        ∀ loop taskId,
          Settled before volumeId loop →
            Settled before volumeId (EventLoop.step platform loop taskId) :=
      fun _ taskId settled =>
        settled.step platform wellFormed nothing taskId
    have settled :=
      run_invariant_of_step keeps schedule settled_twoDeletions
    rcases returned with ⟨first, second, tasks⟩
    rcases settled.controller with ⟨_, _, unfinished⟩ | done
    · exact absurd (tasks ▸ Dict.get?_set_self _ _ _)
        (unfinished 1 second)
    · rw [done]
      exact ⟨fun _ => rfl, fun _ => rfl, fun _ => rfl⟩
  cases found : before.volumes.get? volumeId with
  | none =>
      apply settles
      rintro blockId ⟨volume, live, _⟩
      rw [found] at live
      cases live
  | some volume =>
      rcases (undisturbed volume found).1 with nothing | owned
      · apply settles
        rintro blockId ⟨other, live, discarded⟩
        rw [found] at live
        cases live
        exact nothing blockId discarded
      · have keeps :
            ∀ loop taskId,
              (∃ dropped,
                  Deleting before volumeId volume none dropped loop) →
                ∃ dropped,
                  Deleting before volumeId volume none dropped
                    (EventLoop.step platform loop taskId) := by
          rintro loop taskId ⟨dropped, deleting⟩
          exact deleting.step platform wellFormed taskId
        have underWay :=
          run_invariant_of_step keeps schedule
            ⟨_, deleting_twoDeletions wellFormed found⟩
        rcases underWay with ⟨dropped, deleting⟩
        exact deleting.sameStore wellFormed found returned owned

/--
Two concurrent requests to delete a volume leave the dedupe table and the files
that one request leaves, and remove no block of another volume, if deleting the
volume twice does no more than deleting it once.
-/
theorem concurrent_deletes_agree
    (lawful : platform.Lawful) (calls : List Call) (volumeId : String)
    (undisturbed : Undisturbed (reached platform calls) volumeId)
    (schedule : List Nat)
    (returned :
      BothReturned volumeId
        (run (EventLoop.step platform)
          (twoDeletions (reached platform calls) volumeId) schedule)) :
    SameStore
        (run (EventLoop.step platform)
          (twoDeletions (reached platform calls) volumeId)
          schedule).controller
        ((reached platform calls).deleteVolume volumeId).2 ∧
      ∀ other offset block,
        other ≠ volumeId →
          (reached platform calls).mapped other offset = some block →
            (run (EventLoop.step platform)
                (twoDeletions (reached platform calls) volumeId)
                schedule).controller.files.get? block.blockId =
              (reached platform calls).files.get? block.blockId := by
  have wellFormed := (reached_sound lawful calls).wellFormed
  have same := twoDeletions_sameStore wellFormed undisturbed returned
  refine ⟨same, ?_⟩
  intro other offset block apart mapped
  rw [same.files block.blockId]
  apply deleteVolume_spares wellFormed
  rintro stored ⟨volume, live, discarded⟩
  exact (undisturbed volume live).2 other offset block apart mapped stored
    discarded

end TwoDeletions

/--
A volume with two blocks, one of them at two offsets, and another volume with a
block of its own.
-/
def ownBlocks : List Call :=
  [createGibibyte "first", createGibibyte "second", .write "0" 0 [1, 2],
    .write "0" 4096 [3, 4], .write "0" 8192 [1, 2], .write "1" 0 [5, 6]]

theorem undisturbed_ownBlocks :
    Undisturbed (reached storingPlatform ownBlocks) "0" := by
  have apart :
      ∀ volume ∈ (reached storingPlatform ownBlocks).volumes.get? "0",
        ∀ item ∈ (reached storingPlatform ownBlocks).volumes.items,
          item.1 ≠ "0" →
            ∀ placed ∈ item.2.blocks.items,
              placed.2.blockId ∉
                (drain (reached storingPlatform ownBlocks).references
                  volume.references).2 := by
    decide +kernel
  have owned :
      ∀ volume ∈ (reached storingPlatform ownBlocks).volumes.get? "0",
        ∀ reference ∈ volume.references,
          (reached storingPlatform ownBlocks).references reference.2 ≤
              keyCount volume.references reference.2 ∧
            reference.1 ∈
              (drain (reached storingPlatform ownBlocks).references
                volume.references).2 := by
    decide +kernel
  intro volume found
  refine ⟨Or.inr ?_, ?_⟩
  · intro reference member
    rcases owned volume found reference member with ⟨counted, drained⟩
    exact ⟨counted, fun _ => (mem_drain_iff _ _ _).mp drained⟩
  · intro other offset block different mapped _ discarded
    cases live :
      (reached storingPlatform ownBlocks).volumes.get? other with
    | none =>
        rw [mapped_of_absent live] at mapped
        cases mapped
    | some otherVolume =>
        rw [mapped_of_volume live] at mapped
        apply
          apart volume found _ (Dict.get?_eq_some_iff.mp live) different _
            (Dict.get?_eq_some_iff.mp mapped)
        exact (mem_drain_iff _ _ _).mpr discarded

/-- The requests take turns. -/
def alternating : List Nat :=
  (List.replicate 8 [0, 1]).flatten

theorem concurrent_deletes_agree_alternating :
    SameStore
      (run (EventLoop.step storingPlatform)
        (twoDeletions (reached storingPlatform ownBlocks) "0")
        alternating).controller
      ((reached storingPlatform ownBlocks).deleteVolume "0").2 :=
  (concurrent_deletes_agree storingPlatform_lawful ownBlocks "0"
    undisturbed_ownBlocks alternating
    ⟨.ok true, .ok false, by decide +kernel⟩).1

/-- Two volumes share a block, and the first has another one. -/
def sharedBlock : List Call :=
  [createGibibyte "first", createGibibyte "second",
    .write "0" 0 [1, 2], .write "0" 4096 [3, 4], .write "1" 0 [3, 4]]

/--
Both requests release the shared block, and it is removed although the other
volume maps it.  A single request keeps it.
-/
theorem concurrent_deletes_disagree :
    storingPlatform.Lawful ∧
      BothReturned "0"
        (run (EventLoop.step storingPlatform)
          (twoDeletions (reached storingPlatform sharedBlock) "0")
          [0, 1, 0, 0, 0, 1, 1, 1, 1]) ∧
      ∃ block ∈ (reached storingPlatform sharedBlock).mapped "1" 0,
        ((reached storingPlatform sharedBlock).deleteVolume
            "0").2.files.get? block.blockId ≠ none ∧
          (run (EventLoop.step storingPlatform)
            (twoDeletions (reached storingPlatform sharedBlock) "0")
            [0, 1, 0, 0, 0, 1, 1, 1, 1]).controller.files.get?
              block.blockId = none := by
  refine ⟨storingPlatform_lawful, ⟨.ok true, .ok false, ?_⟩, ?_⟩
  · decide +kernel
  · decide +kernel

end StorageAppliance.Core
