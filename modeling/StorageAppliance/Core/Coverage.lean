import StorageAppliance.Core.LiveReferences

/-!
# No premature deletion

Deleting a volume releases its references in order and removes the file of a
block when the count of its fingerprint reaches zero.  Live volumes keep their
blocks as long as every counted fingerprint has at least as many references as
live mappings.

A replaced pattern breaks the count: the mapping carries the fingerprint of the
marker while the count is kept under the fingerprint of the raw block.  Such a
mapping is harmless until the bytes of the marker are written as data, because
then its fingerprint is counted from one again.  `CarriedOnce` is the condition
on a write that rules this out, and `Covered` the invariant of the runs that
meet it.
-/

namespace StorageAppliance.Core

open StorageAppliance.Python
open StorageAppliance.Library
open StorageAppliance.Storage
open StorageAppliance.Purity
open StorageController

/-- The block stands for the fingerprint, in a mapping or in the table. -/
inductive Owns (platform : Platform) (controller : StorageController)
    (live : List (String × String)) (blockId fingerprint : String) :
    Prop where
  | mapping (member : (blockId, fingerprint) ∈ live)
  | entry {content : Bytes} {entry : DedupEntry}
      (varied : ¬ Constant content)
      (equal : fingerprint = platform.sha256Hex content)
      (found : controller.table.get? fingerprint = some entry)
      (sameBlock : entry.blockId = blockId)

/-- The references are covered by files and by counts. -/
structure Covered (platform : Platform) (controller : StorageController)
    (live : List (String × String)) : Prop where
  present :
    ∀ blockId fingerprint,
      Owns platform controller live blockId fingerprint →
        controller.files.get? blockId ≠ none
  separate :
    ∀ blockId first second,
      Owns platform controller live blockId first →
        Owns platform controller live blockId second → first = second
  counted :
    ∀ fingerprint entry,
      controller.table.get? fingerprint = some entry →
        keyCount live fingerprint ≤ entry.referenceCount
  single :
    ∀ blockId fingerprint,
      controller.table.get? fingerprint = none →
        live.count (blockId, fingerprint) ≤ 1

/--
Unless the fingerprint of the written data is counted already, at most one
live block carries it after the write.
-/
def CarriedOnce (platform : Platform) (controller : StorageController) :
    Call → Prop
  | .write volumeId offset data =>
      Accepts platform controller volumeId offset data →
        controller.table.get? (platform.sha256Hex data) = none →
          keyCount controller.live (platform.sha256Hex data) ≤
            if Fits controller volumeId offset data then
              keyCount (controller.displaced volumeId offset)
                (platform.sha256Hex data)
            else
              1
  | _ => True

section Coverage

variable
    {platform : Platform}
    {controller : StorageController}
    {live : List (String × String)}

theorem Owns.subset
    {fewer : List (String × String)} (within : fewer ⊆ live)
    {blockId fingerprint : String}
    (owns : Owns platform controller fewer blockId fingerprint) :
    Owns platform controller live blockId fingerprint := by
  cases owns with
  | mapping member => exact .mapping (within member)
  | entry varied equal found sameBlock =>
      exact .entry varied equal found sameBlock

/-- Fewer references are covered as well. -/
theorem Covered.mono
    (covered : Covered platform controller live)
    {fewer : List (String × String)} (within : fewer.Subperm live) :
    Covered platform controller fewer where
  present := by
    intro blockId fingerprint owns
    exact covered.present blockId fingerprint (owns.subset within.subset)
  separate := by
    intro blockId first second ownsFirst ownsSecond
    exact covered.separate blockId first second
      (ownsFirst.subset within.subset) (ownsSecond.subset within.subset)
  counted := by
    intro fingerprint entry found
    exact Nat.le_trans (keyCount_le_of_subperm within fingerprint)
      (covered.counted fingerprint entry found)
  single := by
    intro blockId fingerprint absent
    exact Nat.le_trans (within.count_le _)
      (covered.single blockId fingerprint absent)

theorem covered_new (platform : Platform) :
    Covered platform (StorageController.new {}) [] where
  present := by
    intro blockId fingerprint owns
    cases owns with
    | mapping member => cases member
    | entry _ _ found => cases found
  separate := by
    intro blockId first second owns _
    cases owns with
    | mapping member => cases member
    | entry _ _ found => cases found
  counted := by
    intro fingerprint entry found
    cases found
  single := by
    intro blockId fingerprint _
    exact Nat.zero_le 1

/-! ## Taking a reference -/

section Duplicates

variable
    {encoded : Bytes}
    {entry : DedupEntry}
    {engine : PurityEngine}

/-- A duplicate raises the count of its fingerprint. -/
theorem table_duplicate
    (found :
      controller.table.get? (platform.sha256Hex encoded) = some entry)
    (counted :
      engine.deduplication =
        (controller.purity.deduplication.registerBlock platform encoded
          entry.blockId).2)
    (fingerprint : String) :
    { controller with purity := engine }.table.get? fingerprint =
      if fingerprint = platform.sha256Hex encoded then
        some { entry with referenceCount := entry.referenceCount + 1 }
      else
        controller.table.get? fingerprint := by
  simp only [StorageController.table, counted, registerBlock_get?]
  split
  · rename_i same
    rw [same, show _ = some entry from found]
    rfl
  · rfl

/-- A duplicate is owned by the block that was there before. -/
theorem Owns.duplicate
    (varied : ¬ Constant encoded)
    (found :
      controller.table.get? (platform.sha256Hex encoded) = some entry)
    (counted :
      engine.deduplication =
        (controller.purity.deduplication.registerBlock platform encoded
          entry.blockId).2)
    {blockId fingerprint : String}
    (owns :
      Owns platform { controller with purity := engine }
        ((entry.blockId, platform.sha256Hex encoded) :: live) blockId
        fingerprint) :
    Owns platform controller live blockId fingerprint := by
  cases owns with
  | mapping member =>
      rcases List.mem_cons.mp member with new | old
      · cases new
        exact .entry varied rfl found rfl
      · exact .mapping old
  | entry otherVaried equal otherFound sameBlock =>
      rw [table_duplicate found counted] at otherFound
      split at otherFound
      · rename_i same
        cases otherFound
        subst same
        exact .entry varied rfl found sameBlock
      · exact .entry otherVaried equal otherFound sameBlock

theorem Covered.duplicate
    (covered : Covered platform controller live)
    (varied : ¬ Constant encoded)
    (found :
      controller.table.get? (platform.sha256Hex encoded) = some entry)
    (counted :
      engine.deduplication =
        (controller.purity.deduplication.registerBlock platform encoded
          entry.blockId).2) :
    Covered platform { controller with purity := engine }
      ((entry.blockId, platform.sha256Hex encoded) :: live) := by
  constructor
  · intro blockId fingerprint owns
    exact covered.present blockId fingerprint
      (owns.duplicate varied found counted)
  · intro blockId first second ownsFirst ownsSecond
    exact covered.separate blockId first second
      (ownsFirst.duplicate varied found counted)
      (ownsSecond.duplicate varied found counted)
  · intro fingerprint other otherFound
    rw [table_duplicate found counted] at otherFound
    rw [keyCount_cons]
    split at otherFound
    · rename_i same
      cases otherFound
      rw [same, if_pos rfl]
      exact Nat.add_le_add_right (covered.counted _ entry found) 1
    · rename_i apart
      rw [if_neg (Ne.symm apart)]
      exact covered.counted fingerprint other otherFound
  · intro blockId fingerprint absent
    rw [table_duplicate found counted] at absent
    split at absent
    · cases absent
    · rename_i apart
      have other :
          (entry.blockId, platform.sha256Hex encoded) ≠
            (blockId, fingerprint) := by
        intro same
        cases same
        exact apart rfl
      rw [List.count_cons_of_ne other]
      exact covered.single blockId fingerprint absent

end Duplicates

section Storing

variable
    {after : StorageController}
    {data encoded : Bytes}
    {uuid blockId fingerprint : String}
    {newLive : List (String × String)}

/-- A stored block is owned by its own fingerprint only. -/
theorem Owns.stored
    (lawful : platform.Lawful) (encodes : Encodes data encoded)
    (table :
      ∀ fingerprint,
        after.table.get? fingerprint =
          (controller.purity.deduplication.registerBlock platform data
            uuid).2.dedupeTable.get? fingerprint)
    (within :
      newLive ⊆ (uuid, platform.sha256Hex encoded) :: live)
    (owns : Owns platform after newLive blockId fingerprint) :
    Owns platform controller live blockId fingerprint ∨
      (blockId = uuid ∧ fingerprint = platform.sha256Hex encoded) := by
  cases owns with
  | mapping member =>
      rcases List.mem_cons.mp (within member) with new | old
      · cases new
        exact Or.inr ⟨rfl, rfl⟩
      · exact Or.inl (.mapping old)
  | @entry content entry varied equal found sameBlock =>
      rw [table] at found
      rcases registerBlock_cases found with
        ⟨old, oldFound, oldBlock⟩ | ⟨_, new, newBlock⟩
      · exact Or.inl
          (.entry varied equal oldFound (oldBlock.symm.trans sameBlock))
      · have sameContent : content = data :=
          lawful.sha256Hex_injective (equal.symm.trans new)
        rw [sameContent] at varied
        rw [encodes.eq_of_not_constant varied]
        exact Or.inr ⟨sameBlock.symm.trans newBlock, new⟩

theorem Covered.counted_stored
    (covered : Covered platform controller live)
    (absent : controller.table.get? (platform.sha256Hex encoded) = none)
    (table :
      ∀ fingerprint,
        after.table.get? fingerprint =
          (controller.purity.deduplication.registerBlock platform data
            uuid).2.dedupeTable.get? fingerprint)
    (within :
      newLive.Subperm ((uuid, platform.sha256Hex encoded) :: live))
    (once :
      controller.table.get? (platform.sha256Hex data) = none →
        keyCount newLive (platform.sha256Hex data) ≤ 1)
    {entry : DedupEntry}
    (found : after.table.get? fingerprint = some entry) :
    keyCount newLive fingerprint ≤ entry.referenceCount := by
  rw [table, registerBlock_get?] at found
  have bounded := keyCount_le_of_subperm within fingerprint
  rw [keyCount_cons] at bounded
  cases old : controller.table.get? fingerprint with
  | none =>
      rw [show controller.purity.deduplication.dedupeTable.get?
        fingerprint = none from old] at found
      split at found
      · rename_i same
        cases found
        rw [same]
        exact once (same ▸ old)
      · cases found
  | some oldEntry =>
      rw [show controller.purity.deduplication.dedupeTable.get?
        fingerprint = some oldEntry from old] at found
      have notNew : platform.sha256Hex encoded ≠ fingerprint := by
        rintro rfl
        rw [old] at absent
        cases absent
      rw [if_neg notNew] at bounded
      have enough := covered.counted fingerprint oldEntry old
      split at found
      · cases found
        simp only [registeredEntry]
        omega
      · cases found
        omega

theorem Covered.single_stored
    (covered : Covered platform controller live)
    (fresh :
      ∀ fingerprint, ¬ Owns platform controller live uuid fingerprint)
    (table :
      ∀ fingerprint,
        after.table.get? fingerprint =
          (controller.purity.deduplication.registerBlock platform data
            uuid).2.dedupeTable.get? fingerprint)
    (within :
      newLive.Subperm ((uuid, platform.sha256Hex encoded) :: live))
    (missing : after.table.get? fingerprint = none) :
    newLive.count (blockId, fingerprint) ≤ 1 := by
  have oldMissing : controller.table.get? fingerprint = none := by
    rw [table, registerBlock_get?] at missing
    split at missing
    · cases missing
    · exact missing
  have bounded := within.count_le (blockId, fingerprint)
  by_cases new :
      (uuid, platform.sha256Hex encoded) = (blockId, fingerprint)
  · have none : live.count (blockId, fingerprint) = 0 := by
      apply List.count_eq_zero.mpr
      intro member
      rw [← new] at member
      exact fresh _ (.mapping member)
    rw [new, List.count_cons_self, none] at bounded
    exact bounded
  · rw [List.count_cons_of_ne new] at bounded
    exact Nat.le_trans bounded
      (covered.single blockId fingerprint oldMissing)

end Storing

theorem Covered.stored
    (lawful : platform.Lawful) (sound : Sound platform controller)
    (covered : Covered platform controller live)
    {data encoded stored : Bytes} (encodes : Encodes data encoded)
    (absent : controller.table.get? (platform.sha256Hex encoded) = none)
    {engine : PurityEngine}
    (counted :
      engine.deduplication =
        (controller.purity.deduplication.registerBlock platform data
          (controller.nextUuid platform)).2)
    {newLive : List (String × String)}
    (within :
      newLive.Subperm
        ((controller.nextUuid platform, platform.sha256Hex encoded) ::
          live))
    (once :
      controller.table.get? (platform.sha256Hex data) = none →
        keyCount newLive (platform.sha256Hex data) ≤ 1) :
    Covered platform
      { controller.drawUuid with
        purity := engine
        backend :=
          (controller.backend.writeBlock platform
            (controller.nextUuid platform) stored).2 }
      newLive := by
  generalize after_eq :
    { controller.drawUuid with
      purity := engine
      backend :=
        (controller.backend.writeBlock platform
          (controller.nextUuid platform) stored).2 } = after
  have table :
      ∀ fingerprint,
        after.table.get? fingerprint =
          (controller.purity.deduplication.registerBlock platform data
            (controller.nextUuid platform)).2.dedupeTable.get?
              fingerprint := by
    intro fingerprint
    rw [← after_eq, ← counted]
  have files :
      ∀ blockId,
        after.files.get? blockId =
          if blockId = controller.nextUuid platform then some stored
          else controller.files.get? blockId := by
    intro blockId
    rw [← after_eq]
    exact writeBlock_files platform stored
      (sound.next_fresh_metadata lawful) blockId
  have fresh :
      ∀ fingerprint,
        ¬ Owns platform controller live (controller.nextUuid platform)
          fingerprint := by
    intro fingerprint owns
    exact covered.present _ fingerprint owns (sound.next_fresh lawful)
  have owned :
      ∀ blockId fingerprint,
        Owns platform after newLive blockId fingerprint →
          Owns platform controller live blockId fingerprint ∨
            (blockId = controller.nextUuid platform ∧
              fingerprint = platform.sha256Hex encoded) := by
    intro blockId fingerprint owns
    exact owns.stored lawful encodes table within.subset
  constructor
  · intro blockId fingerprint owns
    rw [files]
    split
    · simp
    · rename_i apart
      rcases owned blockId fingerprint owns with old | ⟨same, _⟩
      · exact covered.present blockId fingerprint old
      · exact (apart same).elim
  · intro blockId first second ownsFirst ownsSecond
    rcases owned blockId first ownsFirst with
      oldFirst | ⟨newFirst, firstEqual⟩
    · rcases owned blockId second ownsSecond with
        oldSecond | ⟨newSecond, _⟩
      · exact covered.separate blockId first second oldFirst oldSecond
      · exact (fresh first (newSecond ▸ oldFirst)).elim
    · rcases owned blockId second ownsSecond with
        oldSecond | ⟨_, secondEqual⟩
      · exact (fresh second (newFirst ▸ oldSecond)).elim
      · exact firstEqual.trans secondEqual.symm
  · intro fingerprint entry found
    exact covered.counted_stored absent table within once found
  · intro blockId fingerprint missing
    exact covered.single_stored fresh table within missing

/-- Coverage depends on the table and the files alone. -/
theorem Covered.congr
    (covered : Covered platform controller live)
    {after : StorageController}
    (sameTable : after.table = controller.table)
    (sameFiles : after.files = controller.files) :
    Covered platform after live := by
  have owned :
      ∀ blockId fingerprint,
        Owns platform after live blockId fingerprint →
          Owns platform controller live blockId fingerprint := by
    intro blockId fingerprint owns
    cases owns with
    | mapping member => exact .mapping member
    | entry varied equal found sameBlock =>
        rw [sameTable] at found
        exact .entry varied equal found sameBlock
  constructor
  · intro blockId fingerprint owns
    rw [sameFiles]
    exact covered.present blockId fingerprint (owned _ _ owns)
  · intro blockId first second ownsFirst ownsSecond
    exact covered.separate blockId first second (owned _ _ ownsFirst)
      (owned _ _ ownsSecond)
  · rw [sameTable]
    exact covered.counted
  · rw [sameTable]
    exact covered.single

/-- What a write adds to the live references, and how often at most. -/
theorem live_write
    {volumeId : String} {volume : Volume}
    (found : controller.volumes.get? volumeId = some volume)
    {middle : StorageController}
    (sameVolumes : middle.volumes = controller.volumes)
    (offset : ℤ) (data : Bytes) (reduction : ReductionResult) :
    (middle.recordWrite volumeId offset data reduction).2.live.Subperm
        ((reduction.blockId, reduction.dedupeResult.fingerprint) ::
          controller.live) ∧
      ∀ fingerprint,
        keyCount controller.live fingerprint ≤
            (if Fits controller volumeId offset data then
              keyCount (controller.displaced volumeId offset) fingerprint
            else
              1) →
          keyCount
              (middle.recordWrite volumeId offset data reduction).2.live
              fingerprint ≤ 1 := by
  by_cases fits : Fits controller volumeId offset data
  · rcases live_recordWrite sameVolumes found fits reduction with
      ⟨rest, old, new⟩
    constructor
    · have inside : rest.Subperm controller.live :=
        ((List.sublist_append_right _ rest).subperm).trans old.symm.subperm
      exact new.subperm.trans ((List.subperm_cons _).mpr inside)
    · intro fingerprint few
      rw [if_pos fits, keyCount_perm old, keyCount_append] at few
      rw [keyCount_perm new, keyCount_cons]
      split <;> omega
  · rw [live_recordWrite_exceeds sameVolumes found fits]
    constructor
    · exact (List.sublist_cons_self _ _).subperm
    · intro fingerprint few
      rwa [if_neg fits] at few

theorem Covered.write
    (lawful : platform.Lawful) (sound : Sound platform controller)
    (covered : Covered platform controller controller.live)
    {volumeId : String} {offset : ℤ} {data : Bytes}
    (once :
      CarriedOnce platform controller (.write volumeId offset data)) :
    Covered platform (controller.write platform volumeId offset data).2
      (controller.write platform volumeId offset data).2.live := by
  have written :=
    write_cases lawful sound.settings sound.standard volumeId offset data
  generalize
    (controller.write platform volumeId offset data).1 = answer,
    (controller.write platform volumeId offset data).2 = after
    at written
  cases written with
  | unknown => exact covered
  | misaligned => exact covered
  | refused _ _ _ uncounted =>
      apply covered.congr
      · simp only [StorageController.table, uncounted]
      · rfl
  | @accepted volume reduction middle found aligned notRefused referenced =>
      have accepts :
          Accepts platform controller volumeId offset data :=
        ⟨by simp [found], aligned, notRefused⟩
      have few := once accepts
      have lives :=
        live_write found referenced.volumes offset data reduction
      generalize
        newLive_eq :
          (middle.recordWrite volumeId offset data reduction).2.live =
            newLive at lives ⊢
      have recorded : Covered platform middle newLive := by
        cases referenced with
        | duplicate encodes entryFound sameBlock recorded counted =>
            rw [sameBlock, recorded] at lives
            exact (covered.duplicate encodes.not_constant entryFound
              counted).mono lives.1
        | stored encodes absent sameBlock recorded _ counted =>
            rw [sameBlock, recorded] at lives
            exact covered.stored lawful sound encodes absent counted
              lives.1 fun missing => lives.2 _ (few missing)
      rw [recordWrite_frame]
      exact recorded.congr rfl rfl

/-! ## Deleting a volume -/

/-- What a deletion leaves standing stood before and is not discarded. -/
theorem Covered.owns_kept
    (covered : Covered platform controller live)
    {references rest : List (String × String)}
    (split : live.Perm (references ++ rest))
    {after : StorageController}
    (table :
      ∀ fingerprint,
        after.table.get? fingerprint =
          (controller.table.get? fingerprint).bind fun entry =>
            DedupEntry.without entry (keyCount references fingerprint))
    {blockId fingerprint : String}
    (owns : Owns platform after rest blockId fingerprint) :
    Owns platform controller live blockId fingerprint ∧
      ¬ Discarded controller.references references blockId := by
  have before : Owns platform controller live blockId fingerprint := by
    cases owns with
    | mapping member =>
        exact .mapping (split.symm.subset (List.mem_append_right _ member))
    | @entry content left varied equal found sameBlock =>
        rw [table] at found
        rcases Option.bind_eq_some_iff.mp found with
          ⟨old, oldFound, kept⟩
        have same := (DedupEntry.without_eq_some kept).1
        exact .entry varied equal oldFound (same.symm.trans sameBlock)
  refine ⟨before, fun discarded => ?_⟩
  rcases discarded.mem with ⟨key, held, usedUp⟩
  have inLive : (blockId, key) ∈ live :=
    split.symm.subset (List.mem_append_left _ held)
  have sameKey :=
    covered.separate blockId key fingerprint (.mapping inLive) before
  subst sameKey
  have some : 0 < keyCount references key := keyCount_pos_of_mem held
  have total : keyCount live key =
      keyCount references key + keyCount rest key := by
    rw [keyCount_perm split, keyCount_append]
  cases tracked : controller.table.get? key with
  | none =>
      cases owns with
      | mapping member =>
          have twice : 2 ≤ live.count (blockId, key) := by
            rw [split.count_eq, List.count_append]
            have first := List.count_pos_iff.mpr held
            have second := List.count_pos_iff.mpr member
            omega
          have once := covered.single blockId key tracked
          omega
      | entry _ _ found =>
          rw [table, tracked] at found
          cases found
  | some entry =>
      have counted := covered.counted key entry tracked
      have count : controller.references key = entry.referenceCount :=
        references_of_get? tracked
      cases owns with
      | mapping member =>
          have more : 0 < keyCount rest key := keyCount_pos_of_mem member
          omega
      | entry _ _ found =>
          rw [table, tracked] at found
          have left := (DedupEntry.without_eq_some found).2.2 some
          omega

theorem Covered.deleteVolume
    (wellFormed : controller.backend.WellFormed)
    (covered : Covered platform controller controller.live)
    (volumeId : String) :
    Covered platform (controller.deleteVolume volumeId).2
      (controller.deleteVolume volumeId).2.live := by
  cases found : controller.volumes.get? volumeId with
  | none =>
      have absent :
          controller.volumeManager.getVolume volumeId = none := found
      simpa [StorageController.deleteVolume, absent] using covered
  | some volume =>
      have table := deleteVolume_get? found
      have split := live_deleteVolume found
      have files := (deleteVolume_spec wellFormed volumeId).2.2.1
      have discards :
          ∀ blockId,
            Discards controller volumeId blockId →
              Discarded controller.references volume.references
                blockId := by
        rintro blockId ⟨other, otherFound, discarded⟩
        rw [found] at otherFound
        cases otherFound
        exact discarded
      generalize
        (controller.deleteVolume volumeId).2 = after
        at table split files ⊢
      constructor
      · intro blockId fingerprint owns
        have kept := covered.owns_kept split table owns
        rw [files blockId fun gone => kept.2 (discards blockId gone)]
        exact covered.present blockId fingerprint kept.1
      · intro blockId first second ownsFirst ownsSecond
        exact covered.separate blockId first second
          (covered.owns_kept split table ownsFirst).1
          (covered.owns_kept split table ownsSecond).1
      · intro fingerprint entry entryFound
        rw [table] at entryFound
        rcases Option.bind_eq_some_iff.mp entryFound with
          ⟨old, oldFound, kept⟩
        have enough := covered.counted fingerprint old oldFound
        have left := (DedupEntry.without_eq_some kept).2.1
        rw [keyCount_perm split, keyCount_append] at enough
        omega
      · intro blockId fingerprint missing
        have bounded :
            after.live.count (blockId, fingerprint) ≤
              controller.live.count (blockId, fingerprint) := by
          rw [split.count_eq, List.count_append]
          omega
        rw [table] at missing
        cases tracked : controller.table.get? fingerprint with
        | none =>
            exact Nat.le_trans bounded
              (covered.single blockId fingerprint tracked)
        | some entry =>
            rw [tracked, Option.bind_some] at missing
            have drained := DedupEntry.without_eq_none missing
            have enough := covered.counted fingerprint entry tracked
            rw [keyCount_perm split, keyCount_append] at enough
            have none : keyCount after.live fingerprint = 0 := by omega
            have absent : (blockId, fingerprint) ∉ after.live := by
              intro member
              have positive := keyCount_pos_of_mem member
              simp only at positive
              omega
            rw [List.count_eq_zero.mpr absent]
            exact Nat.zero_le 1

/-! ## Whole runs -/

/-- A managing call that carries once keeps the coverage. -/
theorem Covered.step
    (lawful : platform.Lawful) (sound : Sound platform controller)
    (covered : Covered platform controller controller.live)
    {call : Call} (manages : call.Manages)
    (once : CarriedOnce platform controller call) :
    Covered platform (controller.step platform call)
      (controller.step platform call).live := by
  cases call with
  | createVolume name sizeGb description tags =>
      have perm :=
        live_createVolume lawful sound name sizeGb description tags
      exact (covered.mono perm.subperm).congr rfl rfl
  | deleteVolume volumeId =>
      exact covered.deleteVolume sound.wellFormed volumeId
  | write volumeId offset data => exact covered.write lawful sound once
  | _ => exact manages.elim

/--
In every run of creations, writes and deletions whose writes carry once, every
block that a live volume maps is stored.
-/
theorem mapped_block_stored
    (lawful : platform.Lawful) {calls : List Call}
    (manages : ∀ call ∈ calls, call.Manages)
    (once :
      AllSteps (StorageController.step platform) (CarriedOnce platform)
        (StorageController.new {}) calls)
    {volumeId : String} {volume : Volume}
    (found :
      (reached platform calls).volumes.get? volumeId = some volume)
    {offset : ℤ} {block : VolumeBlock}
    (mapped : volume.blocks.get? offset = some block) :
    ∃ stored,
      (reached platform calls).files.get? block.blockId = some stored := by
  have keeps :
      ∀ (state : StorageController) (call : Call),
        Sound platform state ∧ Covered platform state state.live →
          call.Manages ∧ CarriedOnce platform state call →
            Sound platform (state.step platform call) ∧
              Covered platform (state.step platform call)
                (state.step platform call).live :=
    fun _ call both meets =>
      ⟨both.1.step lawful call,
        both.2.step lawful both.1 meets.1 meets.2⟩
  have start :
      Sound platform (StorageController.new {}) ∧
        Covered platform (StorageController.new {})
          (StorageController.new {}).live :=
    ⟨sound_new platform, covered_new platform⟩
  have covered :=
    (run_invariant keeps start (once.and_forall manages)).2
  have inLive : block.reference ∈ (reached platform calls).live := by
    apply mem_live_iff.mpr
    exact ⟨volumeId, offset, block,
      (mapped_of_volume found offset).trans mapped, rfl⟩
  have present :=
    covered.present block.blockId block.fingerprint (.mapping inLive)
  exact Option.ne_none_iff_exists'.mp present

end Coverage

/-- Two volumes share a block, and one of them is deleted. -/
def sharedRun : List Call :=
  [createGibibyte "first", createGibibyte "second",
    .write "0" 0 [1, 2], .write "1" 0 [1, 2], .deleteVolume "0"]

theorem mapped_block_stored_shared :
    ∃ volume ∈ (reached storingPlatform sharedRun).volumes.get? "1",
      ∃ block ∈ volume.blocks.get? 0,
        ∃ stored,
          (reached storingPlatform sharedRun).files.get? block.blockId =
            some stored := by
  have mapped :
      ∃ volume ∈ (reached storingPlatform sharedRun).volumes.get? "1",
        ∃ block ∈ volume.blocks.get? 0, block.blockId = "2" := by
    decide +kernel
  rcases mapped with ⟨volume, found, block, held, _⟩
  refine ⟨volume, found, block, held, ?_⟩
  apply mapped_block_stored storingPlatform_lawful _ _ found held
  · simp [sharedRun, createGibibyte, Call.Manages]
  · refine ⟨trivial, trivial, ?_, ?_, trivial, trivial⟩
    · intro _ _
      decide +kernel
    · intro _ absent
      revert absent
      decide +kernel

/--
A block of zeros, then the bytes of its marker written twice as data: deleting
the first two volumes removes the block of the third.
-/
def markerRun : List Call :=
  [createGibibyte "first", createGibibyte "second", createGibibyte "third",
    .write "0" 0 (List.replicate 16 0), .write "1" 0 zeroBlockMarker,
    .write "2" 0 zeroBlockMarker, .deleteVolume "0", .deleteVolume "1"]

theorem mapped_block_missing :
    storingPlatform.Lawful ∧ (∀ call ∈ markerRun, call.Manages) ∧
      ∃ volume ∈ (reached storingPlatform markerRun).volumes.get? "2",
        ∃ block ∈ volume.blocks.get? 0,
          (reached storingPlatform markerRun).files.get? block.blockId =
            none := by
  refine ⟨storingPlatform_lawful, ?_, ?_⟩
  · simp [markerRun, createGibibyte, Call.Manages]
  · decide +kernel

end StorageAppliance.Core
