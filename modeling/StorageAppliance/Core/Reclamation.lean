import StorageAppliance.Core.LiveReferences

/-!
# Full reclamation

Blocks are reclaimed if every reference that is taken is dropped again under
the same fingerprint.  Three kinds of writes take a reference that no deletion
ever drops: overwriting a mapped offset forgets the old mapping without
releasing it, a write past the end of the volume raises after the reference is
taken, and a pattern that is replaced for the first time is counted under the
fingerprint of its raw bytes.

`Reclaims` excludes these writes, and in the runs without them the counts are
`Balanced`: they are exactly the numbers of live mappings.
-/

namespace StorageAppliance.Core

open StorageAppliance.Python
open StorageAppliance.Library
open StorageAppliance.Storage
open StorageAppliance.Purity
open StorageController

/-- The counts are the numbers of references, and every block is counted. -/
structure Balanced (controller : StorageController)
    (live : List (String × String)) : Prop where
  counted :
    ∀ fingerprint,
      controller.references fingerprint = keyCount live fingerprint
  positive :
    ∀ fingerprint entry,
      controller.table.get? fingerprint = some entry →
        0 < entry.referenceCount
  registered :
    ∀ reference ∈ live,
      ∃ entry,
        controller.table.get? reference.2 = some entry ∧
          entry.blockId = reference.1
  filed :
    ∀ blockId,
      controller.files.get? blockId ≠ none →
        ∃ fingerprint entry,
          controller.table.get? fingerprint = some entry ∧
            entry.blockId = blockId

/--
A write that takes a reference goes to an unmapped offset, ends within the
volume, and replaces a pattern only if its marker is in the table already.
-/
def Reclaims (platform : Platform) (controller : StorageController) :
    Call → Prop
  | .write volumeId offset data =>
      Accepts platform controller volumeId offset data →
        controller.mapped volumeId offset = none ∧
          Fits controller volumeId offset data ∧
          (Constant data →
            ∃ encoded,
              Encodes data encoded ∧
                controller.table.get? (platform.sha256Hex encoded) ≠
                  none)
  | _ => True

section Reclamation

variable
    {platform : Platform}
    {controller : StorageController}
    {live : List (String × String)}

theorem balanced_new : Balanced (StorageController.new {}) [] where
  counted := by
    intro fingerprint
    rfl
  positive := by
    intro fingerprint entry found
    cases found
  registered := by
    intro reference member
    cases member
  filed := by
    intro blockId present
    exact (present rfl).elim

/-- The order of the references does not matter. -/
theorem Balanced.perm
    (balanced : Balanced controller live)
    {reordered : List (String × String)} (perm : reordered.Perm live) :
    Balanced controller reordered where
  counted := by
    intro fingerprint
    rw [keyCount_perm perm]
    exact balanced.counted fingerprint
  positive := balanced.positive
  registered := by
    intro reference member
    exact balanced.registered reference (perm.subset member)
  filed := balanced.filed

/-- Balance depends on the table and the files alone. -/
theorem Balanced.congr
    (balanced : Balanced controller live)
    {after : StorageController}
    (sameDedupe :
      after.purity.deduplication = controller.purity.deduplication)
    (sameFiles : after.files = controller.files) :
    Balanced after live := by
  constructor
  · rw [StorageController.references, sameDedupe]
    exact balanced.counted
  · rw [StorageController.table, sameDedupe]
    exact balanced.positive
  · rw [StorageController.table, sameDedupe]
    exact balanced.registered
  · rw [StorageController.table, sameDedupe, sameFiles]
    exact balanced.filed

/-! ## Taking a reference -/

/-- A reference that is counted under its own fingerprint keeps the balance. -/
theorem Balanced.register
    (balanced : Balanced controller live)
    {encoded : Bytes} {blockId : String} {after : StorageController}
    (counted :
      after.purity.deduplication =
        (controller.purity.deduplication.registerBlock platform encoded
          blockId).2)
    (registered :
      ∃ entry,
        after.table.get? (platform.sha256Hex encoded) = some entry ∧
          entry.blockId = blockId)
    (filed :
      ∀ other,
        after.files.get? other ≠ none →
          other = blockId ∨ controller.files.get? other ≠ none) :
    Balanced after ((blockId, platform.sha256Hex encoded) :: live) := by
  have kept :
      ∀ fingerprint entry,
        controller.table.get? fingerprint = some entry →
          ∃ counted,
            after.table.get? fingerprint = some counted ∧
              counted.blockId = entry.blockId := by
    intro fingerprint entry found
    rw [StorageController.table, counted]
    exact registerBlock_kept found platform encoded blockId
  constructor
  · intro fingerprint
    rw [StorageController.references, counted, registerBlock_references,
      keyCount_cons, ← balanced.counted fingerprint]
    simp only [eq_comm]
  · rw [StorageController.table, counted]
    exact registerBlock_positive balanced.positive
  · intro reference member
    rcases List.mem_cons.mp member with rfl | old
    · exact registered
    · rcases balanced.registered reference old with
        ⟨entry, found, sameBlock⟩
      rcases kept reference.2 entry found with ⟨left, leftFound, same⟩
      exact ⟨left, leftFound, same.trans sameBlock⟩
  · intro other present
    rcases filed other present with rfl | old
    · rcases registered with ⟨entry, found, sameBlock⟩
      exact ⟨_, entry, found, sameBlock⟩
    · rcases balanced.filed other old with
        ⟨fingerprint, entry, found, sameBlock⟩
      rcases kept fingerprint entry found with ⟨left, leftFound, same⟩
      exact ⟨fingerprint, left, leftFound, same.trans sameBlock⟩

theorem Balanced.referenced
    (lawful : platform.Lawful) (sound : Sound platform controller)
    (balanced : Balanced controller live)
    {data : Bytes} {result : ReductionResult} {after : StorageController}
    (referenced : Referenced platform controller data result after)
    (known :
      Constant data →
        ∃ encoded,
          Encodes data encoded ∧
            controller.table.get? (platform.sha256Hex encoded) ≠ none) :
    Balanced after
      ((result.blockId, result.dedupeResult.fingerprint) :: live) := by
  cases referenced with
  | @duplicate encoded entry _ engine _ found sameBlock recorded counted =>
      rw [sameBlock, recorded]
      apply balanced.register counted
      · rw [StorageController.table, counted]
        exact registerBlock_kept found platform encoded entry.blockId
      · intro other present
        exact Or.inr present
  | @stored encoded stored _ engine encodes absent sameBlock recorded _
      counted =>
      have varied : ¬ Constant data := by
        intro constant
        rcases known constant with ⟨marker, markerEncodes, present⟩
        rw [markerEncodes.unique encodes] at present
        exact present absent
      have same := encodes.eq_of_not_constant varied
      subst same
      rw [sameBlock, recorded]
      apply balanced.register counted
      · rw [StorageController.table, counted]
        exact registerBlock_new absent _
      · intro other present
        have fresh := sound.next_fresh_metadata lawful
        have files := writeBlock_files platform stored fresh other
        by_cases new : other = controller.nextUuid platform
        · exact Or.inl new
        · rw [if_neg new] at files
          exact Or.inr (files ▸ present)

theorem Balanced.write
    (lawful : platform.Lawful) (sound : Sound platform controller)
    (balanced : Balanced controller controller.live)
    {volumeId : String} {offset : ℤ} {data : Bytes}
    (reclaims :
      Reclaims platform controller (.write volumeId offset data)) :
    Balanced (controller.write platform volumeId offset data).2
      (controller.write platform volumeId offset data).2.live := by
  have written :=
    write_cases lawful sound.settings sound.standard volumeId offset data
  generalize
    (controller.write platform volumeId offset data).1 = answer,
    (controller.write platform volumeId offset data).2 = after
    at written
  cases written with
  | unknown => exact balanced
  | misaligned => exact balanced
  | refused _ _ _ uncounted => exact balanced.congr uncounted rfl
  | @accepted volume reduction middle found aligned notRefused referenced =>
      rcases reclaims ⟨by simp [found], aligned, notRefused⟩ with
        ⟨unmapped, fits, known⟩
      rcases
        live_recordWrite referenced.volumes found fits reduction with
        ⟨rest, old, new⟩
      rw [displaced, unmapped] at old
      have added := new.trans (old.symm.cons _)
      have middleBalanced :=
        balanced.referenced lawful sound referenced known
      rw [recordWrite_frame] at added ⊢
      exact (middleBalanced.perm added).congr rfl rfl

/-! ## Deleting a volume -/

section Releasing

variable
    {after : StorageController}
    {references rest : List (String × String)}

theorem Balanced.positive_released
    (balanced : Balanced controller live)
    (table :
      ∀ fingerprint,
        after.table.get? fingerprint =
          (controller.table.get? fingerprint).bind fun entry =>
            DedupEntry.without entry (keyCount references fingerprint))
    {fingerprint : String} {entry : DedupEntry}
    (found : after.table.get? fingerprint = some entry) :
    0 < entry.referenceCount := by
  rw [table] at found
  rcases Option.bind_eq_some_iff.mp found with ⟨old, oldFound, kept⟩
  have positive := balanced.positive fingerprint old oldFound
  have dropped := DedupEntry.without_eq_some kept
  by_cases some : 0 < keyCount references fingerprint
  · have more := dropped.2.2 some
    omega
  · omega

/-- A reference that is left keeps its entry. -/
theorem Balanced.registered_released
    (balanced : Balanced controller live)
    (split : live.Perm (references ++ rest))
    (table :
      ∀ fingerprint,
        after.table.get? fingerprint =
          (controller.table.get? fingerprint).bind fun entry =>
            DedupEntry.without entry (keyCount references fingerprint))
    {reference : String × String} (member : reference ∈ rest) :
    ∃ entry,
      after.table.get? reference.2 = some entry ∧
        entry.blockId = reference.1 := by
  have before : reference ∈ live :=
    split.symm.subset (List.mem_append_right _ member)
  rcases balanced.registered reference before with
    ⟨entry, entryFound, sameBlock⟩
  have count :
      entry.referenceCount =
        keyCount references reference.2 + keyCount rest reference.2 := by
    rw [← keyCount_append, ← keyCount_perm split,
      ← balanced.counted reference.2]
    exact (references_of_get? entryFound).symm
  have more := keyCount_pos_of_mem member
  cases left : after.table.get? reference.2 with
  | none =>
      rw [table, entryFound] at left
      have drained := DedupEntry.without_eq_none left
      omega
  | some leftEntry =>
      rw [table, entryFound] at left
      have same := (DedupEntry.without_eq_some left).1
      exact ⟨leftEntry, rfl, same.trans sameBlock⟩

/-- The block of an entry that is dropped is discarded with it. -/
theorem Balanced.discarded_released
    (balanced : Balanced controller live)
    (split : live.Perm (references ++ rest))
    (table :
      ∀ fingerprint,
        after.table.get? fingerprint =
          (controller.table.get? fingerprint).bind fun entry =>
            DedupEntry.without entry (keyCount references fingerprint))
    {fingerprint : String} {entry : DedupEntry}
    (found : controller.table.get? fingerprint = some entry)
    (dropped : after.table.get? fingerprint = none) :
    Discarded controller.references references entry.blockId := by
  rw [table, found] at dropped
  have drained := DedupEntry.without_eq_none dropped
  have positive := balanced.positive fingerprint entry found
  have count := references_of_get? found
  have sameBlocks :
      ∀ reference ∈ references,
        reference.2 = fingerprint → reference.1 = entry.blockId := by
    intro reference member sameKey
    have inLive : reference ∈ live :=
      split.symm.subset (List.mem_append_left _ member)
    rcases balanced.registered reference inLive with
      ⟨other, otherFound, otherBlock⟩
    rw [sameKey, found] at otherFound
    cases otherFound
    exact otherBlock.symm
  apply discarded_of_drained sameBlocks
  · omega
  · rw [StorageController.references, count]
    exact drained

end Releasing

theorem Balanced.deleteVolume
    (wellFormed : controller.backend.WellFormed)
    (balanced : Balanced controller controller.live)
    (volumeId : String) :
    Balanced (controller.deleteVolume volumeId).2
      (controller.deleteVolume volumeId).2.live := by
  cases found : controller.volumes.get? volumeId with
  | none =>
      have absent :
          controller.volumeManager.getVolume volumeId = none := found
      simpa [StorageController.deleteVolume, absent] using balanced
  | some volume =>
      have table := deleteVolume_get? found
      have split := live_deleteVolume found
      have spec := deleteVolume_spec wellFormed volumeId
      have counts := deleteVolume_references wellFormed found
      generalize
        (controller.deleteVolume volumeId).2 = after
        at table split spec counts ⊢
      constructor
      · intro fingerprint
        rw [counts, balanced.counted, keyCount_perm split,
          keyCount_append]
        exact Nat.add_sub_cancel_left _ _
      · intro fingerprint left leftFound
        exact balanced.positive_released table leftFound
      · intro reference member
        exact balanced.registered_released split table member
      · intro blockId present
        have kept : ¬ Discards controller volumeId blockId := by
          intro discarded
          exact present (spec.2.1 blockId discarded)
        have before : controller.files.get? blockId ≠ none := by
          rw [← spec.2.2.1 blockId kept]
          exact present
        rcases balanced.filed blockId before with
          ⟨fingerprint, entry, entryFound, rfl⟩
        cases left : after.table.get? fingerprint with
        | some leftEntry =>
            refine ⟨fingerprint, leftEntry, left, ?_⟩
            rw [table, entryFound] at left
            exact (DedupEntry.without_eq_some left).1
        | none =>
            have discarded :=
              balanced.discarded_released split table entryFound left
            exact (kept ⟨volume, found, discarded⟩).elim

/-! ## Whole runs -/

theorem Balanced.step
    (lawful : platform.Lawful) (sound : Sound platform controller)
    (balanced : Balanced controller controller.live)
    {call : Call} (manages : call.Manages)
    (reclaims : Reclaims platform controller call) :
    Balanced (controller.step platform call)
      (controller.step platform call).live := by
  cases call with
  | createVolume name sizeGb description tags =>
      have perm :=
        live_createVolume lawful sound name sizeGb description tags
      exact (balanced.perm perm).congr rfl rfl
  | deleteVolume volumeId =>
      exact balanced.deleteVolume sound.wellFormed volumeId
  | write volumeId offset data => exact balanced.write lawful sound reclaims
  | _ => exact manages.elim

theorem balanced_reached
    (lawful : platform.Lawful) {calls : List Call}
    (manages : ∀ call ∈ calls, call.Manages)
    (reclaims :
      AllSteps (StorageController.step platform) (Reclaims platform)
        (StorageController.new {}) calls) :
    Balanced (reached platform calls) (reached platform calls).live := by
  have keeps :
      ∀ (state : StorageController) (call : Call),
        Sound platform state ∧ Balanced state state.live →
          call.Manages ∧ Reclaims platform state call →
            Sound platform (state.step platform call) ∧
              Balanced (state.step platform call)
                (state.step platform call).live :=
    fun _ call both meets =>
      ⟨both.1.step lawful call,
        both.2.step lawful both.1 meets.1 meets.2⟩
  have start :
      Sound platform (StorageController.new {}) ∧
        Balanced (StorageController.new {})
          (StorageController.new {}).live :=
    ⟨sound_new platform, balanced_new⟩
  exact (run_invariant keeps start (reclaims.and_forall manages)).2

/-- In a balanced controller every entry has a live mapping to its block. -/
theorem Balanced.mapped_of_entry
    (balanced : Balanced controller controller.live)
    {fingerprint : String} {entry : DedupEntry}
    (found : controller.table.get? fingerprint = some entry) :
    ∃ volumeId offset block,
      controller.mapped volumeId offset = some block ∧
        block.blockId = entry.blockId := by
  have positive := balanced.positive fingerprint entry found
  have count : controller.references fingerprint = entry.referenceCount :=
    references_of_get? found
  rw [← count, balanced.counted] at positive
  rcases List.countP_pos_iff.mp positive with ⟨reference, member, same⟩
  have sameKey : reference.2 = fingerprint := by simpa using same
  rcases balanced.registered reference member with
    ⟨other, otherFound, otherBlock⟩
  rw [sameKey, found] at otherFound
  cases otherFound
  rcases mem_live_iff.mp member with
    ⟨volumeId, offset, block, mapped, rfl⟩
  exact ⟨volumeId, offset, block, mapped, otherBlock.symm⟩

/--
In every run of creations, writes and deletions whose writes reclaim, every
stored block is mapped by a live volume; once no volume is left, neither the
backend nor the dedupe table holds anything.
-/
theorem stored_block_mapped
    (lawful : platform.Lawful) {calls : List Call}
    (manages : ∀ call ∈ calls, call.Manages)
    (reclaims :
      AllSteps (StorageController.step platform) (Reclaims platform)
        (StorageController.new {}) calls) :
    (∀ blockId,
        (reached platform calls).files.get? blockId ≠ none →
          ∃ volumeId volume offset block,
            (reached platform calls).volumes.get? volumeId =
                some volume ∧
              volume.blocks.get? offset = some block ∧
              block.blockId = blockId) ∧
      ((∀ volumeId,
          (reached platform calls).volumes.get? volumeId = none) →
        (∀ blockId,
            (reached platform calls).files.get? blockId = none ∧
              (reached platform calls).backend.metadata.get? blockId =
                none) ∧
          ∀ fingerprint,
            (reached platform calls).table.get? fingerprint = none) := by
  have balanced := balanced_reached lawful manages reclaims
  have sound := reached_sound lawful calls
  generalize reached platform calls = controller at balanced sound ⊢
  have mapped :
      ∀ fingerprint entry,
        controller.table.get? fingerprint = some entry →
          ∃ volumeId volume offset block,
            controller.volumes.get? volumeId = some volume ∧
              volume.blocks.get? offset = some block ∧
              block.blockId = entry.blockId := by
    intro fingerprint entry found
    rcases balanced.mapped_of_entry found with
      ⟨volumeId, offset, block, mapped, sameBlock⟩
    cases live : controller.volumes.get? volumeId with
    | none =>
        rw [mapped_of_absent live] at mapped
        cases mapped
    | some volume =>
        rw [mapped_of_volume live] at mapped
        exact ⟨volumeId, volume, offset, block, live, mapped, sameBlock⟩
  constructor
  · intro blockId present
    rcases balanced.filed blockId present with
      ⟨fingerprint, entry, found, rfl⟩
    exact mapped fingerprint entry found
  · intro noVolume
    have noEntry :
        ∀ fingerprint, controller.table.get? fingerprint = none := by
      intro fingerprint
      by_contra present
      rcases Option.ne_none_iff_exists'.mp present with ⟨entry, found⟩
      rcases mapped fingerprint entry found with
        ⟨volumeId, volume, _, _, live, _⟩
      rw [noVolume] at live
      cases live
    refine ⟨?_, noEntry⟩
    intro blockId
    have noFile : controller.files.get? blockId = none := by
      by_contra present
      rcases balanced.filed blockId present with
        ⟨fingerprint, entry, found, _⟩
      rw [noEntry] at found
      cases found
    exact ⟨noFile, (sound.wellFormed.paired blockId).mp noFile⟩

end Reclamation

/-- Two volumes share a block, and both are deleted. -/
def reclaimedRun : List Call :=
  [createGibibyte "first", createGibibyte "second",
    .write "0" 0 [1, 2], .write "1" 0 [1, 2], .deleteVolume "0",
    .deleteVolume "1"]

theorem stored_block_mapped_shared :
    (reached storingPlatform reclaimedRun).files.get? "2" = none ∧
      ∀ fingerprint,
        (reached storingPlatform reclaimedRun).table.get? fingerprint =
          none := by
  have varied : ¬ Constant [1, 2] :=
    not_constant_of_two_bytes 0 1 1 2 rfl rfl (by decide)
  have manages : ∀ call ∈ reclaimedRun, call.Manages := by
    simp [reclaimedRun, createGibibyte, Call.Manages]
  have reclaims :
      AllSteps (StorageController.step storingPlatform)
        (Reclaims storingPlatform) (StorageController.new {})
        reclaimedRun := by
    refine ⟨trivial, trivial, ?_, ?_, trivial, trivial, trivial⟩
    · intro _
      exact ⟨by decide +kernel, by decide +kernel,
        fun constant => (varied constant).elim⟩
    · intro _
      exact ⟨by decide +kernel, by decide +kernel,
        fun constant => (varied constant).elim⟩
  have reclaimed :=
    stored_block_mapped storingPlatform_lawful manages reclaims
  have noVolume :
      (reached storingPlatform reclaimedRun).volumes = Dict.empty := by
    decide +kernel
  have empty := reclaimed.2 (by simp [noVolume])
  exact ⟨(empty.1 "2").1, empty.2⟩

/-- One offset is written twice before the volume is deleted. -/
def overwrittenRun : List Call :=
  [createGibibyte "first", .write "0" 0 [1, 2], .write "0" 0 [3, 4],
    .deleteVolume "0"]

theorem stored_block_unmapped :
    storingPlatform.Lawful ∧ (∀ call ∈ overwrittenRun, call.Manages) ∧
      (reached storingPlatform overwrittenRun).volumes = Dict.empty ∧
      (reached storingPlatform overwrittenRun).files.get? "1" ≠ none ∧
      (reached storingPlatform overwrittenRun).table.get?
          (storingPlatform.sha256Hex [1, 2]) ≠ none := by
  refine ⟨storingPlatform_lawful, ?_, ?_, ?_, ?_⟩
  · simp [overwrittenRun, createGibibyte, Call.Manages]
  · decide +kernel
  · decide +kernel
  · decide +kernel

end StorageAppliance.Core
