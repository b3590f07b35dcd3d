import StorageAppliance.Purity.Pipeline
import StorageAppliance.Library.Run

/-!
# Round trips under any settings

Three settings switch the write path and none of them switches the read path,
which recognises a header by its first byte.  With compression on every block
that is no marker has a header of its own.  With compression off a block is
stored as it is, and if its own first bytes look like a header it is read back
without them.

The invariant of the runs says of each entry of the table which content it
stands for and what its file holds.
-/

namespace StorageAppliance.Purity

open StorageAppliance.Python
open StorageAppliance.Library
open StorageAppliance.Storage
open StorageAppliance.Core
open PurityEngine

/-- Storing a block and retrieving it by the returned identifier returns it. -/
def EngineRun.ReadsBack (platform : Platform) (self : EngineRun)
    (data : Bytes) : Prop :=
  ∃ result,
    (self.reduceAndStore platform data).1 = .ok result ∧
      ((self.step platform data).engine.retrieve platform
        (self.step platform data).backend result.blockId).1 = .ok data

/--
The block does not look like one with a header, or what it has for a payload
happens to decompress to the block itself.
-/
def ReadsRaw (platform : Platform) (data : Bytes) : Prop :=
  CompressionEngine.hasHeader data = false ∨
    (data.head? = some 1 ∧
      platform.lz4Decompress (data.drop 5) = some data) ∨
    (data.head? = some 2 ∧
      platform.zstdDecompress (data.drop 5) = some data)

/-! ## Reading one file -/

theorem codecResult_eq_ok_iff (output : Option Bytes) (data : Bytes) :
    CompressionEngine.codecResult output = .ok data ↔
      output = some data := by
  cases output with
  | none => simp [CompressionEngine.codecResult]
  | some bytes => simp [CompressionEngine.codecResult]

/-- A block stored as it is unwraps to itself exactly if it reads raw. -/
theorem unwrap_self_iff (platform : Platform) (data : Bytes) :
    unwrap platform data = .ok data ↔ ReadsRaw platform data := by
  rw [unwrap, ReadsRaw]
  cases headed : CompressionEngine.hasHeader data with
  | false => simp
  | true =>
      cases data with
      | nil => simp [CompressionEngine.hasHeader] at headed
      | cons byte rest =>
          rw [CompressionEngine.hasHeader, Bool.and_eq_true,
            decide_eq_true_eq] at headed
          have long : ¬ (byte :: rest).length < headerSize :=
            Nat.not_lt.mpr headed.1
          have shorter : (byte :: rest).drop 5 ≠ byte :: rest := by
            intro same
            have lengths := congrArg List.length same
            rw [List.length_drop] at lengths
            simp only [List.length_cons, headerSize] at lengths long
            omega
          simp only [if_true, CompressionEngine.decompress, if_neg long,
            Bool.true_eq_false, false_or, List.head?_cons,
            Option.some.injEq]
          by_cases none : byte = 0
          · subst none
            simpa [byteToAlgorithm] using shorter
          · by_cases lz4 : byte = 1
            · subst lz4
              simp [byteToAlgorithm, codecResult_eq_ok_iff]
            · by_cases zstd : byte = 2
              · subst zstd
                simp [byteToAlgorithm, codecResult_eq_ok_iff]
              · simp [byteToAlgorithm, none, lz4, zstd] at headed

/-- Bytes that expand to a block that is not constant are that block. -/
theorem expand_eq_ok_iff
    (engine : PurityEngine) {stored data : Bytes}
    (varied : ¬ Constant data)
    (plain : PatternRemoval.isEncoded data = false) :
    engine.expand stored = .ok data ↔ stored = data := by
  constructor
  · intro expanded
    rw [expand] at expanded
    split at expanded
    · rw [PatternRemoval.decode] at expanded
      split at expanded
      · simp only [Except.ok.injEq] at expanded
        exact (varied ⟨0, _, expanded.symm⟩).elim
      · split at expanded
        · split at expanded
          · simp at expanded
          · simp only [Except.ok.injEq] at expanded
            exact (varied ⟨_, _, expanded.symm⟩).elim
        · simpa using expanded
    · simpa using expanded
  · rintro rfl
    rw [expand, plain]
    rfl

/-- What `retrieve` makes of the file of a block. -/
theorem retrieve_eq_ok_iff
    (platform : Platform) (engine : PurityEngine) {backend : FileBackend}
    {blockId : String} {stored data : Bytes}
    (file : backend.files.get? blockId = some stored)
    (varied : ¬ Constant data)
    (plain : PatternRemoval.isEncoded data = false) :
    (engine.retrieve platform backend blockId).1 = .ok data ↔
      unwrap platform stored = .ok data := by
  simp only [retrieve, FileBackend.readBlock, file]
  cases unwrapped : unwrap platform stored with
  | error exception => simp
  | ok bytes =>
      simp only [Except.ok.injEq]
      exact expand_eq_ok_iff engine varied plain

/-- The stored form of a block unwraps to it if it has a header or reads raw. -/
theorem unwrap_storedForm_iff
    {platform : Platform} (lossless : platform.LosslessCodecs)
    (engine : PurityEngine) {data : Bytes} (varied : ¬ Constant data) :
    unwrap platform (storedForm platform engine data) = .ok data ↔
      Compresses engine ∨ ReadsRaw platform data := by
  have notReplaced : ¬ Replaces engine.settings data :=
    fun replaced => varied replaced.2
  by_cases compresses : Compresses engine
  · have stored :
        storedForm platform engine data =
          engine.compression.frame platform data :=
      if_pos ⟨notReplaced, compresses⟩
    rw [stored, unwrap, if_pos (hasHeader_frame platform _ data),
      decompress_frame lossless engine.compression compresses.2 data]
    exact iff_of_true rfl (Or.inl compresses)
  · have stored : storedForm platform engine data = data := by
      rw [storedForm, if_neg fun framed => compresses framed.2,
        encodedForm, if_neg notReplaced]
    rw [stored, unwrap_self_iff]
    simp [compresses]

/-! ## What the table stands for -/

/--
An engine reached under some settings: its backend holds blocks under drawn
identifiers, and each entry of its table is the fingerprint of a content whose
stored form its block holds, unless that content is constant.
-/
structure EngineRun.Sound (platform : Platform) (settings : Settings)
    (state : EngineRun) : Prop where
  configuration : SameConfiguration (PurityEngine.new settings) state.engine
  wellFormed : state.backend.WellFormed
  drawn :
    ∀ blockId stored,
      state.backend.files.get? blockId = some stored →
        ∃ index < state.uuidsDrawn, platform.uuid4 index = blockId
  entries :
    ∀ fingerprint entry,
      state.engine.deduplication.dedupeTable.get? fingerprint =
          some entry →
        ∃ content,
          fingerprint = platform.sha256Hex content ∧
            (¬ Constant content →
              state.backend.files.get? entry.blockId =
                some (storedForm platform (PurityEngine.new settings)
                  content))

section Runs

variable
    {platform : Platform}
    {settings : Settings}
    {state : EngineRun}

theorem sound_engineRun_new (platform : Platform) (settings : Settings) :
    (EngineRun.new settings).Sound platform settings where
  configuration := SameConfiguration.refl _
  wellFormed := wellFormed_empty
  drawn := by
    intro blockId stored found
    simp [EngineRun.new] at found
  entries := by
    intro fingerprint entry found
    simp [EngineRun.new, PurityEngine.new] at found

/-- The identifier drawn next has no files yet. -/
theorem EngineRun.Sound.fresh
    (injective : Function.Injective platform.uuid4)
    (sound : state.Sound platform settings) :
    state.backend.files.get? (platform.uuid4 state.uuidsDrawn) = none ∧
      state.backend.metadata.get? (platform.uuid4 state.uuidsDrawn) =
        none := by
  have noFile :
      state.backend.files.get? (platform.uuid4 state.uuidsDrawn) =
        none := by
    cases found :
        state.backend.files.get? (platform.uuid4 state.uuidsDrawn) with
    | none => rfl
    | some stored =>
        rcases sound.drawn _ stored found with ⟨index, earlier, same⟩
        have drawnAgain := injective same
        omega
  exact ⟨noFile, (sound.wellFormed.paired _).mp noFile⟩

/-- Every call keeps the engine sound. -/
theorem EngineRun.Sound.step
    (injective : Function.Injective platform.uuid4)
    (sound : state.Sound platform settings) (data : Bytes) :
    (state.step platform data).Sound platform settings := by
  have stored := state.step_stored platform data
  have counted :
      (state.step platform data).uuidsDrawn =
        state.uuidsDrawn +
          EngineRun.drawnBy (state.reduceAndStore platform data).1 :=
    rfl
  generalize (state.reduceAndStore platform data).1 = answer
    at stored counted
  generalize state.step platform data = after at *
  rcases after with ⟨engine, backend, uuidsDrawn⟩
  dsimp only at stored counted
  have stillDrawn :
      ∀ blockId,
        (∃ index < state.uuidsDrawn, platform.uuid4 index = blockId) →
          ∃ index < uuidsDrawn, platform.uuid4 index = blockId := by
    rintro blockId ⟨index, earlier, same⟩
    exact ⟨index, by omega, same⟩
  cases stored with
  | refused _ configuration uncounted =>
      refine
        ⟨sound.configuration.trans configuration, sound.wellFormed, ?_, ?_⟩
      · exact fun blockId bytes found =>
          stillDrawn blockId (sound.drawn blockId bytes found)
      · rw [uncounted]
        exact sound.entries
  | shared _ found _ _ configuration registered =>
      refine
        ⟨sound.configuration.trans configuration, sound.wellFormed, ?_, ?_⟩
      · exact fun blockId bytes found =>
          stillDrawn blockId (sound.drawn blockId bytes found)
      · intro fingerprint entry present
        rw [registered] at present
        rcases registerBlock_cases present with
          ⟨old, oldFound, sameBlock⟩ | ⟨absent, rfl, _⟩
        · rw [sameBlock]
          exact sound.entries fingerprint old oldFound
        · rw [get?_of_sharedEntry found] at absent
          simp at absent
  | new _ _ _ flag configuration registered =>
      rcases sound.fresh injective with ⟨noFile, noMetadata⟩
      have files :=
        writeBlock_files platform
          (storedForm platform state.engine data) noMetadata
      have drawnOne : uuidsDrawn = state.uuidsDrawn + 1 := by
        rw [counted, EngineRun.drawnBy, flag]
        rfl
      refine
        ⟨sound.configuration.trans configuration,
          sound.wellFormed.write platform _ noMetadata, ?_, ?_⟩
      · intro blockId bytes present
        dsimp only at present
        rw [files] at present
        split at present
        · rename_i same
          exact
            ⟨state.uuidsDrawn, drawnOne ▸ Nat.lt_succ_self _, same.symm⟩
        · exact stillDrawn blockId (sound.drawn blockId bytes present)
      · intro fingerprint entry present
        dsimp only at present ⊢
        rw [registered] at present
        rw [files]
        rcases registerBlock_cases present with
          ⟨old, oldFound, sameBlock⟩ | ⟨_, sameFingerprint, sameBlock⟩
        · rcases sound.entries fingerprint old oldFound with
            ⟨content, sameFingerprint, holds⟩
          refine ⟨content, sameFingerprint, fun varied => ?_⟩
          rw [sameBlock, holds varied]
          apply if_neg
          intro overwritten
          rw [← overwritten, holds varied] at noFile
          simp at noFile
        · refine ⟨data, sameFingerprint, fun _ => ?_⟩
          rw [if_pos sameBlock,
            sound.configuration.storedForm platform data]

/-- The block a call returns holds the stored form of its data. -/
theorem EngineRun.Sound.stored
    (lawful : platform.Lawful)
    (sound : state.Sound platform settings) {data : Bytes}
    (varied : ¬ Constant data) (short : data.length < 256 ^ 4) :
    ∃ result,
      (state.reduceAndStore platform data).1 = .ok result ∧
        (state.step platform data).backend.files.get? result.blockId =
          some (storedForm platform (PurityEngine.new settings) data) := by
  have stored := state.step_stored platform data
  have encoded : encodedForm state.engine.settings data = data :=
    if_neg fun replaced => varied replaced.2
  generalize (state.reduceAndStore platform data).1 = answer at stored ⊢
  generalize state.step platform data = after at *
  rcases after with ⟨engine, backend, uuidsDrawn⟩
  dsimp only at stored ⊢
  cases stored with
  | refused refuses =>
      rcases refuses with ⟨_, tooLong⟩ | ⟨_, _, long⟩
      · exact (varied tooLong.constant).elim
      · exact (long short).elim
  | @shared entry result _ _ found block =>
      have present := get?_of_sharedEntry found
      rcases sound.entries _ entry present with
        ⟨content, sameFingerprint, holds⟩
      rw [encoded] at sameFingerprint
      have same := lawful.sha256Hex_injective sameFingerprint
      subst same
      exact ⟨result, rfl, by rw [block, holds varied]⟩
  | @new result _ _ _ block =>
      have noMetadata := (sound.fresh lawful.uuid4_injective).2
      refine ⟨result, rfl, ?_⟩
      rw [writeBlock_files platform _ noMetadata, block, if_pos rfl,
        sound.configuration.storedForm platform data]

theorem EngineRun.Sound.readsBack_iff
    (lawful : platform.Lawful)
    (sound : state.Sound platform settings) {data : Bytes}
    (varied : ¬ Constant data)
    (plain : PatternRemoval.isEncoded data = false)
    (short : data.length < 256 ^ 4) :
    state.ReadsBack platform data ↔
      (settings.compressionEnabled = true ∧
          settings.compressionAlgorithm ≠ .none) ∨
        ReadsRaw platform data := by
  rcases sound.stored lawful varied short with ⟨result, answer, file⟩
  have read :=
    retrieve_eq_ok_iff platform (state.step platform data).engine file
      varied plain
  rw [unwrap_storedForm_iff lawful.losslessCodecs _ varied] at read
  rw [ReadsBack, answer]
  constructor
  · rintro ⟨returned, same, readBack⟩
    cases same
    exact read.mp readBack
  · intro meets
    exact ⟨result, rfl, read.mpr meets⟩

end Runs

/-! ## Every settings combination -/

/--
Under any settings, after any calls under them, a block that is neither constant
nor looks like a marker and is shorter than 2^32 is read back exactly if
compression is on or the block reads raw.
-/
theorem readsBack_after_iff
    {platform : Platform} (lawful : platform.Lawful)
    (settings : Settings) (earlier : List Bytes) {data : Bytes}
    (varied : ¬ Constant data)
    (notPrefixed : ¬ patternBlockPrefix <+: data)
    (notMarker : data ≠ zeroBlockMarker)
    (short : data.length < 256 ^ 4) :
    (run (EngineRun.step platform) (EngineRun.new settings)
        earlier).ReadsBack platform data ↔
      (settings.compressionEnabled = true ∧
          settings.compressionAlgorithm ≠ .none) ∨
        ReadsRaw platform data := by
  have sound :
      (run (EngineRun.step platform) (EngineRun.new settings)
        earlier).Sound platform settings :=
    run_invariant_of_step
      (fun _ block sound => sound.step lawful.uuid4_injective block)
      earlier (sound_engineRun_new platform settings)
  have plain : PatternRemoval.isEncoded data = false := by
    rw [Bool.eq_false_iff, ne_eq, isEncoded_iff]
    exact fun marked => marked.elim notMarker notPrefixed
  exact sound.readsBack_iff lawful varied plain short

/-- A short text after another one, with compression off. -/
theorem readsBack_after_iff_text :
    (run (EngineRun.step storingPlatform)
        (EngineRun.new { compressionEnabled := false })
        [[0x61, 0x62]]).ReadsBack storingPlatform [0x63, 0x64] := by
  apply
    (readsBack_after_iff storingPlatform_lawful
      { compressionEnabled := false } [[0x61, 0x62]]
      (by decide) (by decide) (by decide) (by decide)).mpr
  exact Or.inr (Or.inl rfl)

/-- Raw bytes that begin like a header lose their first five bytes. -/
theorem not_readsBack_headerLike :
    ¬ (EngineRun.new { compressionEnabled := false }).ReadsBack
        storingPlatform [0, 1, 2, 3, 4, 5] := by
  rw [(sound_engineRun_new storingPlatform _).readsBack_iff
    storingPlatform_lawful (by decide) (by decide) (by decide)]
  rintro (⟨enabled, _⟩ | noHeader | ⟨lz4, _⟩ | ⟨zstd, _⟩)
  · exact Bool.false_ne_true enabled
  · exact absurd noHeader (by decide)
  · exact absurd lz4 (by decide)
  · exact absurd zstd (by decide)

end StorageAppliance.Purity
