import StorageAppliance.Core.Frames

/-!
# Reading back what was written

Under the default settings, in a controller that only creates volumes and
writes, a block of the default size reads back exactly unless its own bytes
start with the pattern prefix.

The invariant is `Backed`: the block of every entry of the dedupe table
unwraps to the data the entry was registered for.  The one exception is the raw
data of a replaced pattern: it is registered as well, but it never stands for a
block, so no write finds its entry.
-/

namespace StorageAppliance.Core

open StorageAppliance.Python
open StorageAppliance.Library
open StorageAppliance.Storage
open StorageAppliance.Purity
open StorageController

/-- The file of the block unwraps to the content. -/
def Stores (platform : Platform) (controller : StorageController)
    (blockId : String) (content : Bytes) : Prop :=
  ∃ stored,
    controller.files.get? blockId = some stored ∧
      PurityEngine.unwrap platform stored = .ok content

/-- Every entry of the dedupe table has a block with its data. -/
def Backed (platform : Platform) (controller : StorageController) : Prop :=
  ∀ fingerprint entry,
    controller.table.get? fingerprint = some entry →
      ∃ content,
        fingerprint = platform.sha256Hex content ∧
          (¬ Constant content →
            Stores platform controller entry.blockId content)

/-- The volume maps a block with the content at the offset. -/
def Holds (platform : Platform) (controller : StorageController)
    (volumeId : String) (offset : ℤ) (content : Bytes) : Prop :=
  ∃ block,
    controller.mapped volumeId offset = some block ∧
      Stores platform controller block.blockId content

/-- The calls that create volumes or write. -/
def StorageController.Call.CreatesOrWrites : Call → Prop
  | .createVolume _ _ _ _ => True
  | .write _ _ _ => True
  | _ => False

theorem backed_new (platform : Platform) :
    Backed platform (StorageController.new {}) := by
  intro fingerprint entry found
  cases found

section RoundTrip

variable
    {platform : Platform}
    {controller : StorageController}

theorem Stores.drawn
    (sound : Sound platform controller)
    {blockId : String} {content : Bytes}
    (stores : Stores platform controller blockId content) :
    Drawn platform controller.uuidsDrawn blockId := by
  rcases stores with ⟨stored, file, _⟩
  exact sound.filesDrawn blockId stored file

/-- A file that is kept keeps its content. -/
theorem Stores.of_files
    {after : StorageController} {blockId : String} {content : Bytes}
    (same : after.files.get? blockId = controller.files.get? blockId)
    (stores : Stores platform controller blockId content) :
    Stores platform after blockId content := by
  rcases stores with ⟨stored, file, unwraps⟩
  exact ⟨stored, same.trans file, unwraps⟩

/-- The volume of a mapping is live, so its identifier is drawn. -/
theorem drawn_of_mapped
    (sound : Sound platform controller)
    {volumeId : String} {offset : ℤ} {block : VolumeBlock}
    (mapped : controller.mapped volumeId offset = some block) :
    Drawn platform controller.uuidsDrawn volumeId := by
  cases found : controller.volumes.get? volumeId with
  | none =>
      rw [mapped_of_absent found] at mapped
      cases mapped
  | some volume => exact (sound.registered volumeId volume found).drawn

/-! ## One call -/

/-- A reference is taken to a block with the content of the encoded data. -/
theorem Referenced.stores
    (lawful : platform.Lawful) (sound : Sound platform controller)
    (backed : Backed platform controller)
    {data : Bytes} {result : ReductionResult} {after : StorageController}
    (referenced : Referenced platform controller data result after) :
    ∃ encoded,
      Encodes data encoded ∧
        Stores platform after result.blockId encoded := by
  cases referenced with
  | @duplicate encoded entry _ _ encodes found sameBlock =>
      refine ⟨encoded, encodes, ?_⟩
      rcases backed _ entry found with ⟨content, equal, stores⟩
      have sameContent := lawful.sha256Hex_injective equal
      subst sameContent
      rw [sameBlock]
      exact stores encodes.not_constant
  | @stored encoded stored _ _ encodes _ sameBlock _ unwraps =>
      refine ⟨encoded, encodes, stored, ?_, unwraps⟩
      have fresh := sound.next_fresh_metadata lawful
      rw [sameBlock]
      exact (writeBlock_files platform stored fresh _).trans (if_pos rfl)

/-- Taking a reference keeps every entry backed. -/
theorem Backed.referenced
    (lawful : platform.Lawful) (sound : Sound platform controller)
    (backed : Backed platform controller)
    {data : Bytes} {result : ReductionResult} {after : StorageController}
    (referenced : Referenced platform controller data result after) :
    Backed platform after := by
  have keep :
      ∀ fingerprint entry,
        controller.table.get? fingerprint = some entry →
          ∃ content,
            fingerprint = platform.sha256Hex content ∧
              (¬ Constant content →
                Stores platform after entry.blockId content) := by
    intro fingerprint entry found
    rcases backed fingerprint entry found with ⟨content, equal, stores⟩
    refine ⟨content, equal, fun varied => ?_⟩
    have drawn := (stores varied).drawn sound
    exact (stores varied).of_files (referenced.files lawful sound drawn)
  have stores := referenced.stores lawful sound backed
  cases referenced with
  | @duplicate encoded entry _ _ _ found _ _ counted =>
      intro fingerprint other otherFound
      simp only [StorageController.table, counted] at otherFound
      rcases registerBlock_cases otherFound with
        ⟨old, oldFound, sameBlock⟩ | ⟨absent, rfl, _⟩
      · rw [sameBlock]
        exact keep fingerprint old oldFound
      · rw [show _ = some entry from found] at absent
        cases absent
  | @stored encoded stored _ _ _ _ sameBlock _ _ counted =>
      intro fingerprint other otherFound
      simp only [StorageController.table, counted] at otherFound
      rcases registerBlock_cases otherFound with
        ⟨old, oldFound, oldBlock⟩ | ⟨_, equal, newBlock⟩
      · rw [oldBlock]
        exact keep fingerprint old oldFound
      · refine ⟨data, equal, fun varied => ?_⟩
        rcases stores with ⟨content, encodes, contentStores⟩
        rw [sameBlock, encodes.eq_of_not_constant varied] at contentStores
        rw [newBlock]
        exact contentStores

/-- Recording a write changes neither files nor entries. -/
theorem Backed.recordWrite
    (backed : Backed platform controller)
    (volumeId : String) (offset : ℤ) (data : Bytes)
    (reduction : ReductionResult) :
    Backed platform
      (controller.recordWrite volumeId offset data reduction).2 := by
  rw [recordWrite_frame]
  exact backed

/-- Creating volumes and writing keep every entry backed. -/
theorem Backed.step
    (lawful : platform.Lawful) (sound : Sound platform controller)
    (backed : Backed platform controller)
    {call : Call} (allowed : call.CreatesOrWrites) :
    Backed platform (controller.step platform call) := by
  cases call with
  | createVolume => exact backed
  | write volumeId offset data =>
      have written :=
        write_cases lawful sound.settings sound.standard volumeId offset
          data
      change Backed platform
        (controller.write platform volumeId offset data).2
      generalize
        (controller.write platform volumeId offset data).1 = answer,
        (controller.write platform volumeId offset data).2 = after
        at written
      cases written with
      | unknown => exact backed
      | misaligned => exact backed
      | refused _ _ _ uncounted =>
          intro fingerprint entry found
          simp only [StorageController.table, uncounted] at found
          exact backed fingerprint entry found
      | accepted _ _ _ referenced =>
          exact (backed.referenced lawful sound referenced).recordWrite
            volumeId offset data _
  | _ => exact allowed.elim

/-- A call that writes elsewhere keeps what a volume holds. -/
theorem Holds.step
    (lawful : platform.Lawful) (sound : Sound platform controller)
    {volumeId : String} {offset : ℤ} {content : Bytes}
    (holds : Holds platform controller volumeId offset content)
    {call : Call} (allowed : call.CreatesOrWrites)
    (apart : ¬ call.Remaps volumeId offset) :
    Holds platform (controller.step platform call) volumeId offset
      content := by
  rcases holds with ⟨block, mapped, stores⟩
  have kept : ¬ DiscardedBy controller call block.blockId := by
    cases call <;> first | exact id | exact allowed.elim
  refine ⟨block, ?_, ?_⟩
  · rw [mapped_step lawful sound (drawn_of_mapped sound mapped) apart]
    exact mapped
  · exact stores.of_files
      (files_step_kept lawful sound (stores.drawn sound) kept)

/-- A write that succeeds leaves the volume holding its data. -/
theorem write_holds
    (lawful : platform.Lawful) (sound : Sound platform controller)
    (backed : Backed platform controller)
    {volumeId : String} {offset : ℤ} {data : Bytes} {result : WriteResult}
    (succeeded :
      (controller.write platform volumeId offset data).1 =
        .ok (some result)) :
    ∃ encoded,
      Encodes data encoded ∧
        Holds platform (controller.write platform volumeId offset data).2
          volumeId offset encoded := by
  have written :=
    write_cases lawful sound.settings sound.standard volumeId offset data
  rw [succeeded] at written
  generalize answered :
    (Except.ok (some result) : Except PyException (Option WriteResult)) =
      answer at written
  generalize
    (controller.write platform volumeId offset data).2 = after at written
  cases written with
  | unknown => simp at answered
  | misaligned => simp at answered
  | refused => simp at answered
  | @accepted volume reduction middle found _ _ referenced =>
      rcases referenced.stores lawful sound backed with
        ⟨encoded, encodes, stores⟩
      have middleFound : middle.volumes.get? volumeId = some volume := by
        rw [referenced.volumes]
        exact found
      have recorded :=
        recordWrite_volumes middleFound offset data reduction
      rw [recordWrite_answer middleFound] at answered
      split at answered
      · cases answered
      · rename_i fits
        rw [if_neg fits] at recorded
        have newFound :
            (middle.recordWrite volumeId offset data
                reduction).2.volumes.get? volumeId =
              some (VolumeManager.mapBlock volume offset reduction.blockId
                reduction.dedupeResult.fingerprint data.length
                reduction.storedSize) := by
          rw [recorded]
          exact Dict.get?_set_self _ _ _
        have mapped :
            (middle.recordWrite volumeId offset data
                reduction).2.mapped volumeId offset =
              some ⟨offset, reduction.blockId,
                reduction.dedupeResult.fingerprint, data.length⟩ := by
          rw [mapped_of_volume newFound]
          exact Dict.get?_set_self _ _ _
        refine ⟨encoded, encodes, _, mapped, ?_⟩
        apply stores.of_files
        rw [recordWrite_frame]

/-! ## Whole runs -/

/-- What a volume holds is what it reads. -/
theorem Holds.readData
    {volumeId : String} {offset : ℤ} {content : Bytes}
    (holds : Holds platform controller volumeId offset content) :
    controller.readData platform volumeId offset =
      (controller.purity.expand content).map some := by
  rcases holds with ⟨block, mapped, stored, file, unwraps⟩
  rw [readData_mapped platform mapped, retrieve_of_file file unwraps]

/-- A controller that only created volumes and wrote is backed. -/
theorem backed_reached
    (lawful : platform.Lawful) {calls : List Call}
    (allowed : ∀ call ∈ calls, call.CreatesOrWrites) :
    Backed platform (reached platform calls) := by
  have keeps :
      ∀ (state : StorageController) (call : Call),
        Sound platform state ∧ Backed platform state →
          call.CreatesOrWrites →
            Sound platform (state.step platform call) ∧
              Backed platform (state.step platform call) :=
    fun _ call both allowed =>
      ⟨both.1.step lawful call, both.2.step lawful both.1 allowed⟩
  have start :
      Sound platform (StorageController.new {}) ∧
        Backed platform (StorageController.new {}) :=
    ⟨sound_new platform, backed_new platform⟩
  exact (run_invariant_of_allowed keeps start allowed).2

/-- Calls that write elsewhere keep what a volume holds. -/
theorem Holds.steps
    (lawful : platform.Lawful) (sound : Sound platform controller)
    {volumeId : String} {offset : ℤ} {content : Bytes}
    (holds : Holds platform controller volumeId offset content)
    {calls : List Call}
    (allowed :
      ∀ call ∈ calls,
        call.CreatesOrWrites ∧ ¬ call.Remaps volumeId offset) :
    Holds platform (run (StorageController.step platform) controller calls)
      volumeId offset content := by
  have keeps :
      ∀ (state : StorageController) (call : Call),
        Sound platform state ∧
            Holds platform state volumeId offset content →
          call.CreatesOrWrites ∧ ¬ call.Remaps volumeId offset →
            Sound platform (state.step platform call) ∧
              Holds platform (state.step platform call) volumeId offset
                content :=
    fun _ call both allowed =>
      ⟨both.1.step lawful call,
        both.2.step lawful both.1 allowed.1 allowed.2⟩
  exact (run_invariant_of_allowed keeps ⟨sound, holds⟩ allowed).2

/--
A block of the default size, written after any sequence of creations and
writes, reads back exactly until it is overwritten, unless it starts with the
pattern prefix.
-/
theorem readData_written_iff
    (lawful : platform.Lawful) {before later : List Call}
    (created : ∀ call ∈ before, call.CreatesOrWrites)
    {volumeId : String} {offset : ℤ} {data : Bytes} {result : WriteResult}
    (blockSized : data.length = 4096)
    (succeeded :
      ((reached platform before).write platform volumeId offset data).1 =
        .ok (some result))
    (elsewhere :
      ∀ call ∈ later,
        call.CreatesOrWrites ∧ ¬ call.Remaps volumeId offset) :
    (reached platform
          (before ++ .write volumeId offset data :: later)).readData
        platform volumeId offset = .ok (some data) ↔
      ¬ patternBlockPrefix <+: data := by
  have sound := reached_sound lawful before
  have backed := backed_reached lawful created
  rcases write_holds lawful sound backed succeeded with
    ⟨encoded, encodes, written⟩
  have holds :=
    written.steps lawful (sound.write lawful volumeId offset data) elsewhere
  have after :
      reached platform (before ++ .write volumeId offset data :: later) =
        run (StorageController.step platform)
          ((reached platform before).write platform volumeId offset data).2
          later := by
    rw [reached, run_append]
    rfl
  have standard :=
    (reached_sound lawful
      (before ++ .write volumeId offset data :: later)).standard
  rw [← after] at holds
  rw [holds.readData]
  have expanded := expand_encoded_iff standard encodes blockSized
  rw [← expanded]
  cases PurityEngine.expand _ encoded <;> simp [Except.map]

end RoundTrip

/-- Bytes in which no four consecutive ones repeat. -/
def variedBytes (count : Nat) : Bytes :=
  (List.range count).map fun index => UInt8.ofNat (index ^ 3 / 16)

/-- A block of the default size that starts with the pattern prefix. -/
def prefixedBlock : Bytes :=
  patternBlockPrefix ++ variedBytes 4082 ++ [0, 0, 0, 0]

theorem exists_of_isSome {Result : Type}
    {answer : Except PyException (Option Result)}
    (succeeded : answer.map Option.isSome = .ok true) :
    ∃ result, answer = .ok (some result) := by
  cases answer with
  | error exception => cases succeeded
  | ok result =>
      cases result with
      | none => cases succeeded
      | some result => exact ⟨result, rfl⟩

theorem readData_varied_block :
    (∃ result,
        ((reached storingPlatform [createGibibyte "first"]).write
          storingPlatform "0" 0 (variedBytes 4096)).1 = .ok (some result)) ∧
      (reached storingPlatform
            ([createGibibyte "first"] ++
              .write "0" 0 (variedBytes 4096) ::
              [.write "0" 4096 (variedBytes 4096)])).readData
          storingPlatform "0" 0 = .ok (some (variedBytes 4096)) := by
  have succeeded :
      ∃ result,
        ((reached storingPlatform [createGibibyte "first"]).write
          storingPlatform "0" 0 (variedBytes 4096)).1 = .ok (some result) := by
    apply exists_of_isSome
    decide +kernel
  refine ⟨succeeded, ?_⟩
  rcases succeeded with ⟨result, written⟩
  apply
    (readData_written_iff storingPlatform_lawful
      (by simp [createGibibyte, Call.CreatesOrWrites])
      (by simp [variedBytes]) written
      (by simp [Call.CreatesOrWrites, Call.Remaps])).mpr
  decide +kernel

/-- A block that starts with the pattern prefix reads back as nothing. -/
theorem readData_prefixed_block :
    storingPlatform.Lawful ∧ prefixedBlock.length = 4096 ∧
      (∃ result,
        ((reached storingPlatform [createGibibyte "first"]).write
          storingPlatform "0" 0 prefixedBlock).1 = .ok (some result)) ∧
      (reached storingPlatform
            [createGibibyte "first", .write "0" 0 prefixedBlock]).readData
          storingPlatform "0" 0 = .ok (some []) ∧
      (reached storingPlatform
            [createGibibyte "first", .write "0" 0 prefixedBlock]).readData
          storingPlatform "0" 0 ≠ .ok (some prefixedBlock) := by
  have answer :
      (reached storingPlatform
            [createGibibyte "first", .write "0" 0 prefixedBlock]).readData
          storingPlatform "0" 0 = .ok (some []) := by
    decide +kernel
  refine ⟨storingPlatform_lawful, ?_, ?_, answer, ?_⟩
  · simp [prefixedBlock, variedBytes, patternBlockPrefix]
  · apply exists_of_isSome
    decide +kernel
  · rw [answer]
    simp [prefixedBlock]

end StorageAppliance.Core
