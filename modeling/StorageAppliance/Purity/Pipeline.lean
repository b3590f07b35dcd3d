import StorageAppliance.Purity.Engine

/-!
# The pipeline under any settings

What the pipeline does with a block depends on its settings, on the
configuration of its stages and on the table of fingerprints.  `encodedForm` is
what stands for a block after stage one, `storedForm` is what a new block is
stored as, and `Refuses` says that the length of a block fits no marker or
header.  `Processed` is the inversion of `reduce` in these terms, with every
counter it moves.
-/

namespace StorageAppliance.Purity

open StorageAppliance.Python
open StorageAppliance.Library
open StorageAppliance.Storage
open StorageAppliance.Core
open PurityEngine

/-! ## What the stages do with a block -/

/-- Stage one replaces the block by a marker. -/
def Replaces (settings : Settings) (data : Bytes) : Prop :=
  settings.patternRemovalEnabled = true ∧ Constant data

instance decidableReplaces (settings : Settings) (data : Bytes) :
    Decidable (Replaces settings data) :=
  inferInstanceAs (Decidable (_ ∧ _))

/-- The marker of a constant block. -/
def markerOf : Bytes → Bytes
  | [] => zeroBlockMarker
  | byte :: rest =>
      if byte = 0 then
        zeroBlockMarker
      else
        patternMarker byte (rest.length + 1)

/-- The bytes that stand for a block after stage one. -/
def encodedForm (settings : Settings) (data : Bytes) : Bytes :=
  if Replaces settings data then markerOf data else data

/-- Stage three is switched on and has a codec. -/
def Compresses (engine : PurityEngine) : Prop :=
  engine.settings.compressionEnabled = true ∧
    engine.compression.algorithm ≠ .none

instance decidableCompresses (engine : PurityEngine) :
    Decidable (Compresses engine) :=
  inferInstanceAs (Decidable (_ ∧ _))

/-- A new block gets a header from stage three. -/
def Frames (engine : PurityEngine) (data : Bytes) : Prop :=
  ¬ Replaces engine.settings data ∧ Compresses engine

instance decidableFrames (engine : PurityEngine) (data : Bytes) :
    Decidable (Frames engine data) :=
  inferInstanceAs (Decidable (_ ∧ _))

/-- The entry of what stands for a block, if the engine looks for one. -/
def sharedEntry (platform : Platform) (engine : PurityEngine)
    (data : Bytes) : Option DedupEntry :=
  if engine.settings.dedupeEnabled then
    engine.deduplication.dedupeTable.get?
      (platform.sha256Hex (encodedForm engine.settings data))
  else
    none

/-- The bytes a new block is stored as. -/
def storedForm (platform : Platform) (engine : PurityEngine)
    (data : Bytes) : Bytes :=
  if Frames engine data then
    engine.compression.frame platform data
  else
    encodedForm engine.settings data

/-- The length of the block fits neither its marker nor its header. -/
def Refuses (platform : Platform) (engine : PurityEngine)
    (data : Bytes) : Prop :=
  (engine.settings.patternRemovalEnabled = true ∧ TooLongPattern data) ∨
    (Frames engine data ∧ sharedEntry platform engine data = none ∧
      ¬ data.length < 256 ^ 4)

/-- What stage one counts as saved. -/
def patternSaved (settings : Settings) (data : Bytes) : ℤ :=
  if Replaces settings data then
    data.length - (encodedForm settings data).length
  else
    0

/-- What stage three counts as saved on a new block. -/
def compressionSaved (platform : Platform) (engine : PurityEngine)
    (data : Bytes) : ℤ :=
  let result := engine.compression.frameResult platform data
  if Frames engine data ∧ result.wasCompressed = true then
    result.originalSize - result.compressedSize
  else
    0

/-- The exception of a length that does not fit in four bytes. -/
def lengthOverflow : PyException :=
  .overflowError "int too big to convert"

/-- The parts of an engine that the pipeline never changes. -/
structure SameConfiguration (before after : PurityEngine) : Prop where
  settings : after.settings = before.settings
  minBlockSize :
    after.patternRemoval.minBlockSize = before.patternRemoval.minBlockSize
  algorithm :
    after.compression.algorithm = before.compression.algorithm
  level : after.compression.level = before.compression.level
  minCompressionRatio :
    after.compression.minCompressionRatio =
      before.compression.minCompressionRatio

theorem SameConfiguration.refl (engine : PurityEngine) :
    SameConfiguration engine engine :=
  ⟨rfl, rfl, rfl, rfl, rfl⟩

theorem SameConfiguration.trans
    {before middle after : PurityEngine}
    (first : SameConfiguration before middle)
    (second : SameConfiguration middle after) :
    SameConfiguration before after where
  settings := second.settings.trans first.settings
  minBlockSize := second.minBlockSize.trans first.minBlockSize
  algorithm := second.algorithm.trans first.algorithm
  level := second.level.trans first.level
  minCompressionRatio :=
    second.minCompressionRatio.trans first.minCompressionRatio

theorem frames_congr
    {before after : PurityEngine}
    (settings : after.settings = before.settings)
    (algorithm :
      after.compression.algorithm = before.compression.algorithm)
    (data : Bytes) :
    Frames after data ↔ Frames before data := by
  rw [Frames, Frames, Compresses, Compresses, settings, algorithm]

theorem compressionSaved_congr
    {before after : PurityEngine}
    (settings : after.settings = before.settings)
    (compression : after.compression = before.compression)
    (platform : Platform) (data : Bytes) :
    compressionSaved platform after data =
      compressionSaved platform before data := by
  have sameFrames :=
    frames_congr settings
      (congrArg CompressionEngine.algorithm compression) data
  rw [compressionSaved, compressionSaved, compression]
  exact if_congr (and_congr_left fun _ => sameFrames) rfl rfl

/-- What a block is stored as depends on the configuration only. -/
theorem SameConfiguration.storedForm
    {before after : PurityEngine} (same : SameConfiguration before after)
    (platform : Platform) (data : Bytes) :
    storedForm platform after data = storedForm platform before data := by
  have sameCompression :
      after.compression =
        { before.compression with stats := after.compression.stats } := by
    dsimp only
    rw [← same.algorithm, ← same.level, ← same.minCompressionRatio]
  have sameFrame :
      after.compression.frame platform data =
        before.compression.frame platform data := by
    rw [sameCompression]
    rfl
  have sameFrames :=
    frames_congr same.settings same.algorithm data
  have sameEncoded :
      encodedForm after.settings data =
        encodedForm before.settings data := by
    rw [same.settings]
  exact if_congr sameFrames sameFrame sameEncoded

/-! ## Stage one -/

/-- A constant block has its marker unless it is too long for one. -/
theorem encode_markerOf
    (self : PatternRemoval) {data : Bytes} (constant : Constant data)
    (short : ¬ TooLongPattern data) :
    (self.encode data).1 = .ok (markerOf data, true) := by
  rcases constant with ⟨byte, count, rfl⟩
  cases count with
  | zero => exact encode_zeros self 0
  | succ count =>
      by_cases zero : byte = 0
      · subst zero
        rw [encode_zeros, List.replicate_succ, markerOf, if_pos rfl]
      · have fits : count + 1 < 256 ^ 4 := by
          by_contra long
          exact short ⟨byte, count + 1, zero, long, rfl⟩
        rw [encode_repeated self zero fits, List.replicate_succ,
          markerOf, if_neg zero, List.length_replicate]

theorem encode_tooLong
    (self : PatternRemoval) {data : Bytes}
    (tooLong : TooLongPattern data) :
    (self.encode data).1 = .error lengthOverflow := by
  rcases tooLong with ⟨byte, count, nonzero, long, rfl⟩
  cases count with
  | zero => exact (long (by decide)).elim
  | succ count => exact encode_repeated_long self nonzero long

theorem TooLongPattern.constant
    {data : Bytes} (tooLong : TooLongPattern data) :
    Constant data := by
  rcases tooLong with ⟨byte, count, _, _, rfl⟩
  exact ⟨byte, count, rfl⟩

theorem TooLongPattern.long
    {data : Bytes} (tooLong : TooLongPattern data) :
    ¬ data.length < 256 ^ 4 := by
  rcases tooLong with ⟨byte, count, _, long, rfl⟩
  rwa [List.length_replicate]

/-- A block that is refused is too long for four bytes. -/
theorem Refuses.long
    {platform : Platform} {engine : PurityEngine} {data : Bytes}
    (refuses : Refuses platform engine data) :
    ¬ data.length < 256 ^ 4 := by
  rcases refuses with ⟨_, tooLong⟩ | ⟨_, _, long⟩
  · exact tooLong.long
  · exact long

/-- A replaced block goes through `encode`, any other through unchanged. -/
theorem removePatterns_eq (self : PurityEngine) (data : Bytes) :
    self.removePatterns data =
      let stats :=
        { self.stats with
          totalBytesIn := self.stats.totalBytesIn + data.length }
      let analyzed := (self.patternRemoval.analyze data).2
      if Replaces self.settings data then
        match analyzed.encode data with
        | (.error exception, encoder) =>
            (.error exception,
              { self with patternRemoval := encoder, stats := stats })
        | (.ok (encoded, wasReduced), encoder) =>
            (.ok (encoded, wasReduced),
              { self with
                patternRemoval := encoder
                stats :=
                  if wasReduced then
                    { stats with
                      patternBytesSaved :=
                        stats.patternBytesSaved +
                          (data.length - encoded.length : ℤ) }
                  else
                    stats })
      else
        (.ok (data, false),
          { self with patternRemoval := analyzed, stats := stats }) := by
  have guards :
      (self.settings.patternRemovalEnabled &&
          ((PatternRemoval.analyzeBlock data).isZeroBlock ||
            (PatternRemoval.analyzeBlock data).isRepeatedPattern)) = true ↔
        Replaces self.settings data := by
    rw [Bool.and_eq_true, Replaces, ← isRepeatedPattern_iff_constant]
    apply and_congr_right
    intro _
    by_cases constant : Constant data
    · have repeated := (isRepeatedPattern_iff_constant data).mpr constant
      simp [repeated]
    · have other := analyzeBlock_other constant
      simp [other.1, other.2]
  by_cases replaced : Replaces self.settings data
  · simp only [removePatterns, PatternRemoval.analyze]
    apply (if_pos (guards.mpr replaced)).trans
    exact (if_pos replaced).symm
  · simp only [removePatterns, PatternRemoval.analyze]
    rw [if_neg (fun enabled => replaced (guards.mp enabled)),
      if_neg replaced]

/-- Stage one changes no configuration. -/
theorem removePatterns_configuration
    (self : PurityEngine) (data : Bytes) :
    SameConfiguration self (self.removePatterns data).2 := by
  rcases removePatterns_frame self data with
    ⟨_, settings, compression, minBlockSize⟩
  constructor
  · exact settings
  · exact minBlockSize
  · rw [compression]
  · rw [compression]
  · rw [compression]

theorem removePatterns_tooLong
    {self : PurityEngine} {data : Bytes}
    (enabled : self.settings.patternRemovalEnabled = true)
    (tooLong : TooLongPattern data) :
    (self.removePatterns data).1 = .error lengthOverflow ∧
      (self.removePatterns data).2.stats =
        { self.stats with
          totalBytesIn := self.stats.totalBytesIn + data.length } := by
  have failed :=
    encode_tooLong (self.patternRemoval.analyze data).2 tooLong
  rw [removePatterns_eq]
  dsimp only
  rw [if_pos ⟨enabled, tooLong.constant⟩]
  split <;> rename_i equal <;> rw [equal] at failed
  · cases failed
    exact ⟨rfl, rfl⟩
  · simp at failed

theorem removePatterns_accepted
    {self : PurityEngine} {data : Bytes}
    (accepted :
      ¬ (self.settings.patternRemovalEnabled = true ∧
        TooLongPattern data)) :
    (self.removePatterns data).1 =
        .ok (encodedForm self.settings data,
          decide (Replaces self.settings data)) ∧
      (self.removePatterns data).2.stats =
        { self.stats with
          totalBytesIn := self.stats.totalBytesIn + data.length
          patternBytesSaved :=
            self.stats.patternBytesSaved +
              patternSaved self.settings data } := by
  rw [removePatterns_eq, encodedForm, patternSaved, encodedForm]
  by_cases replaced : Replaces self.settings data
  · have encoded :=
      encode_markerOf (self.patternRemoval.analyze data).2 replaced.2
        fun tooLong => accepted ⟨replaced.1, tooLong⟩
    simp only [if_pos replaced, decide_eq_true replaced]
    split <;> rename_i equal <;> rw [equal] at encoded
    · simp at encoded
    · simp only [Except.ok.injEq, Prod.mk.injEq] at encoded
      rcases encoded with ⟨rfl, rfl⟩
      exact ⟨rfl, rfl⟩
  · simp only [if_neg replaced, decide_eq_false replaced, Int.add_zero,
      and_self]

/-! ## Stage three -/

theorem compress_configuration
    (platform : Platform) (self : CompressionEngine) (data : Bytes) :
    (self.compress platform data).2.level = self.level ∧
      (self.compress platform data).2.minCompressionRatio =
        self.minCompressionRatio := by
  simp only [CompressionEngine.compress]
  split
  · exact ⟨rfl, rfl⟩
  · split <;> exact ⟨rfl, rfl⟩

/-- Stage three changes no configuration. -/
theorem compressNew_configuration
    (platform : Platform) (self : PurityEngine)
    (encoded : Bytes) (wasPatternReduced : Bool) :
    SameConfiguration self
      (self.compressNew platform encoded wasPatternReduced).2 := by
  have kept := compress_configuration platform self.compression encoded
  rcases compressNew_frame platform self encoded wasPatternReduced with
    ⟨_, settings, patternRemoval, algorithm⟩
  refine ⟨settings, by rw [patternRemoval], algorithm, ?_, ?_⟩
  all_goals
    simp only [compressNew]
    split
    · split <;> rename_i equal <;> rw [equal] at kept
      · first | exact kept.1 | exact kept.2
      · first | exact kept.1 | exact kept.2
    · rfl

theorem compressNew_unframed
    (platform : Platform) {self : PurityEngine} {data : Bytes}
    (unframed : ¬ Frames self data) :
    ∃ result,
      (self.compressNew platform (encodedForm self.settings data)
          (decide (Replaces self.settings data))).1 =
        .ok (encodedForm self.settings data, result) ∧
      (self.compressNew platform (encodedForm self.settings data)
          (decide (Replaces self.settings data))).2.stats =
        self.stats := by
  by_cases runs :
      (self.settings.compressionEnabled &&
        !decide (Replaces self.settings data)) = true
  · rw [Bool.and_eq_true, Bool.not_eq_true', decide_eq_false_iff_not]
      at runs
    have unset : self.compression.algorithm = .none := by
      by_contra configured
      exact unframed ⟨runs.2, runs.1, configured⟩
    have unchanged :=
      compress_none platform unset (encodedForm self.settings data)
    refine ⟨some (CompressionEngine.uncompressedResult
      (encodedForm self.settings data)), ?_⟩
    simp only [compressNew]
    rw [if_pos (by simp [runs.1, runs.2])]
    split <;> rename_i equal <;> rw [equal] at unchanged
    · simp at unchanged
    · simp only [Except.ok.injEq, Prod.mk.injEq] at unchanged
      rcases unchanged with ⟨rfl, rfl⟩
      exact ⟨rfl, rfl⟩
  · refine ⟨none, ?_⟩
    simp only [compressNew]
    rw [if_neg runs]
    exact ⟨rfl, rfl⟩

theorem compressNew_framed
    (platform : Platform) {self : PurityEngine} {data : Bytes}
    (framed : Frames self data) (short : data.length < 256 ^ 4) :
    ∃ result,
      (self.compressNew platform data false).1 =
        .ok (self.compression.frame platform data, result) ∧
      (self.compressNew platform data false).2.stats =
        { self.stats with
          compressionBytesSaved :=
            self.stats.compressionBytesSaved +
              compressionSaved platform self data } := by
  have stored :=
    compress_framed platform self.compression framed.2.2 short
  refine ⟨some (self.compression.frameResult platform data), ?_⟩
  simp only [compressNew]
  rw [if_pos (by simp [framed.2.1])]
  split <;> rename_i equal <;> rw [equal] at stored
  · simp at stored
  · simp only [Except.ok.injEq, Prod.mk.injEq] at stored
    rcases stored with ⟨rfl, rfl⟩
    refine ⟨rfl, ?_⟩
    simp only [compressionSaved, framed, true_and]
    split
    · rfl
    · simp

theorem compressNew_overflows
    (platform : Platform) {self : PurityEngine} {data : Bytes}
    (framed : Frames self data) (long : ¬ data.length < 256 ^ 4) :
    (self.compressNew platform data false).1 = .error lengthOverflow ∧
      (self.compressNew platform data false).2.stats = self.stats := by
  have refused :=
    compress_long platform self.compression framed.2.2 long
  simp only [compressNew]
  rw [if_pos (by simp [framed.2.1])]
  split <;> rename_i equal <;> rw [equal] at refused
  · cases refused
    exact ⟨rfl, rfl⟩
  · simp at refused

/-- Stage three stores the form of the block, or its length overflows. -/
theorem compressNew_spec
    (platform : Platform) (self : PurityEngine) (data : Bytes) :
    let output :=
      self.compressNew platform (encodedForm self.settings data)
        (decide (Replaces self.settings data))
    (Frames self data ∧ ¬ data.length < 256 ^ 4 ∧
        output.1 = .error lengthOverflow ∧
        output.2.stats = self.stats) ∨
      (¬ (Frames self data ∧ ¬ data.length < 256 ^ 4) ∧
        ∃ result,
          output.1 = .ok (storedForm platform self data, result) ∧
            output.2.stats =
              { self.stats with
                compressionBytesSaved :=
                  self.stats.compressionBytesSaved +
                    compressionSaved platform self data }) := by
  dsimp only
  by_cases framed : Frames self data
  · have plain : encodedForm self.settings data = data :=
      if_neg framed.1
    have stored :
        storedForm platform self data =
          self.compression.frame platform data :=
      if_pos framed
    rw [plain, decide_eq_false framed.1, stored]
    by_cases short : data.length < 256 ^ 4
    · exact Or.inr
        ⟨fun overflows => overflows.2 short,
          compressNew_framed platform framed short⟩
    · exact Or.inl
        ⟨framed, short, compressNew_overflows platform framed short⟩
  · have stored :
        storedForm platform self data = encodedForm self.settings data :=
      if_neg framed
    have nothing : compressionSaved platform self data = 0 :=
      if_neg fun saved => framed saved.1
    rw [stored, nothing, Int.add_zero]
    exact Or.inr
      ⟨fun overflows => framed overflows.1,
        compressNew_unframed platform framed⟩

/-! ## The pipeline before the backend -/

/-- Everything `reduce` can do with a block. -/
inductive Processed (platform : Platform) (before : PurityEngine)
    (data : Bytes) : Reduction → PurityEngine → Prop where
  | refused {after : PurityEngine}
      (refuses : Refuses platform before data)
      (configuration : SameConfiguration before after)
      (uncounted : after.deduplication = before.deduplication)
      (stats :
        after.stats =
          { before.stats with
            totalBytesIn := before.stats.totalBytesIn + data.length }) :
      Processed platform before data (.failed lengthOverflow) after
  | shared {entry : DedupEntry} {result : ReductionResult}
      {after : PurityEngine}
      (accepted : ¬ Refuses platform before data)
      (found : sharedEntry platform before data = some entry)
      (block : result.blockId = entry.blockId)
      (recorded :
        result.dedupeResult.fingerprint =
          platform.sha256Hex (encodedForm before.settings data))
      (size : result.storedSize = 0)
      (flag : result.wasDeduplicated = true)
      (configuration : SameConfiguration before after)
      (counted :
        after.deduplication =
          (before.deduplication.registerBlock platform
            (encodedForm before.settings data) entry.blockId).2)
      (stats :
        after.stats =
          { before.stats with
            totalBytesIn := before.stats.totalBytesIn + data.length
            patternBytesSaved :=
              before.stats.patternBytesSaved +
                patternSaved before.settings data
            dedupeBytesSaved :=
              before.stats.dedupeBytesSaved +
                (encodedForm before.settings data).length }) :
      Processed platform before data (.duplicate result) after
  | new {pending : PendingStore} {after : PurityEngine}
      (accepted : ¬ Refuses platform before data)
      (unshared : sharedEntry platform before data = none)
      (sameData : pending.data = data)
      (form : pending.currentData = storedForm platform before data)
      (recorded :
        pending.dedupeResult.fingerprint =
          platform.sha256Hex (encodedForm before.settings data))
      (configuration : SameConfiguration before after)
      (uncounted : after.deduplication = before.deduplication)
      (stats :
        after.stats =
          { before.stats with
            totalBytesIn := before.stats.totalBytesIn + data.length
            patternBytesSaved :=
              before.stats.patternBytesSaved +
                patternSaved before.settings data
            compressionBytesSaved :=
              before.stats.compressionBytesSaved +
                compressionSaved platform before data }) :
      Processed platform before data (.store pending) after

section Pipeline

variable
    {platform : Platform}
    {engine : PurityEngine}

/-- `reduce` once stage one has let the block through. -/
theorem reduce_eq
    {data encoded : Bytes} {replaced : Bool}
    (encodes : (engine.removePatterns data).1 = .ok (encoded, replaced)) :
    engine.reduce platform data =
      let middle := (engine.removePatterns data).2
      let dedupeResult :=
        middle.deduplication.checkDuplicate platform encoded
      if middle.settings.dedupeEnabled && dedupeResult.isDuplicate then
        (.duplicate
            (middle.shareDuplicate platform data encoded replaced
              dedupeResult).1,
          (middle.shareDuplicate platform data encoded replaced
            dedupeResult).2)
      else
        match middle.compressNew platform encoded replaced with
        | (.error exception, compressed) => (.failed exception, compressed)
        | (.ok (stored, compressionResult), compressed) =>
            (.store
              { data := data
                currentData := stored
                patternResult := PatternRemoval.analyzeBlock data
                dedupeResult := dedupeResult
                compressionResult := compressionResult
                wasPatternReduced := replaced },
              compressed) := by
  rw [reduce]
  split <;> rename_i equal <;> rw [equal] at encodes ⊢
  · simp at encodes
  · simp only [Except.ok.injEq, Prod.mk.injEq] at encodes
    rcases encodes with ⟨rfl, rfl⟩
    rfl

theorem isDuplicate_iff_sharedEntry (data : Bytes) :
    (engine.settings.dedupeEnabled &&
        (engine.deduplication.checkDuplicate platform
          (encodedForm engine.settings data)).isDuplicate) = true ↔
      ∃ entry, sharedEntry platform engine data = some entry := by
  rw [Bool.and_eq_true, sharedEntry]
  cases found :
      engine.deduplication.dedupeTable.get?
        (platform.sha256Hex (encodedForm engine.settings data)) with
  | none =>
      have unseen := checkDuplicate_of_absent found
      simp [unseen]
  | some entry =>
      have seen := checkDuplicate_of_get? found
      simp [seen.1]

theorem get?_of_sharedEntry
    {data : Bytes} {entry : DedupEntry}
    (found : sharedEntry platform engine data = some entry) :
    engine.deduplication.dedupeTable.get?
        (platform.sha256Hex (encodedForm engine.settings data)) =
      some entry := by
  rw [sharedEntry] at found
  split at found
  · exact found
  · simp at found

theorem processed_tooLong
    {data : Bytes}
    (tooLong :
      engine.settings.patternRemovalEnabled = true ∧
        TooLongPattern data) :
    Processed platform engine data
      (engine.reduce platform data).1 (engine.reduce platform data).2 := by
  have configuration := removePatterns_configuration engine data
  have deduplication := (removePatterns_frame engine data).1
  rcases removePatterns_tooLong tooLong.1 tooLong.2 with ⟨failed, stats⟩
  rw [reduce]
  split <;> rename_i equal <;>
    rw [equal] at failed stats configuration deduplication
  · cases failed
    exact .refused (Or.inl tooLong) configuration deduplication stats
  · simp at failed

/-- What stage one leaves of the engine when it lets a block through. -/
structure PatternsRemoved (before : PurityEngine) (data : Bytes)
    (after : PurityEngine) : Prop where
  configuration : SameConfiguration before after
  deduplication : after.deduplication = before.deduplication
  compression : after.compression = before.compression
  stats :
    after.stats =
      { before.stats with
        totalBytesIn := before.stats.totalBytesIn + data.length
        patternBytesSaved :=
          before.stats.patternBytesSaved +
            patternSaved before.settings data }

/-- Stage one leaves the engine with the same duplicates. -/
theorem PatternsRemoved.sharedEntry_eq
    {middle : PurityEngine} {data : Bytes}
    (removed : PatternsRemoved engine data middle) :
    sharedEntry platform middle data =
      sharedEntry platform engine data := by
  rw [sharedEntry, sharedEntry, removed.configuration.settings,
    removed.deduplication]

theorem PatternsRemoved.processed_shared
    {middle : PurityEngine} {data : Bytes} {entry : DedupEntry}
    (removed : PatternsRemoved engine data middle)
    (accepted :
      ¬ (engine.settings.patternRemovalEnabled = true ∧
        TooLongPattern data))
    (found : sharedEntry platform engine data = some entry)
    (replaced : Bool) :
    let encoded := encodedForm engine.settings data
    let shared :=
      middle.shareDuplicate platform data encoded replaced
        (middle.deduplication.checkDuplicate platform encoded)
    Processed platform engine data (.duplicate shared.1) shared.2 := by
  have inTable := checkDuplicate_of_get? (get?_of_sharedEntry found)
  refine .shared ?_ found ?_ ?_ rfl rfl ?_ ?_ ?_
  · rintro (refused | ⟨_, absent, _⟩)
    · exact accepted refused
    · rw [found] at absent
      simp at absent
  · simp [shareDuplicate, removed.deduplication, inTable.2]
  · exact checkDuplicate_fingerprint platform _ _
  · exact removed.configuration.trans ⟨rfl, rfl, rfl, rfl, rfl⟩
  · simp [shareDuplicate, removed.deduplication, inTable.2]
  · simp only [shareDuplicate, removed.stats]

theorem PatternsRemoved.processed_new
    {middle : PurityEngine} {data : Bytes}
    (removed : PatternsRemoved engine data middle)
    (accepted :
      ¬ (engine.settings.patternRemovalEnabled = true ∧
        TooLongPattern data))
    (unshared : sharedEntry platform engine data = none) :
    let encoded := encodedForm engine.settings data
    let replaced := decide (Replaces engine.settings data)
    let output : Reduction × PurityEngine :=
      match middle.compressNew platform encoded replaced with
      | (.error exception, compressed) => (.failed exception, compressed)
      | (.ok (stored, compressionResult), compressed) =>
          (.store
            { data := data
              currentData := stored
              patternResult := PatternRemoval.analyzeBlock data
              dedupeResult :=
                middle.deduplication.checkDuplicate platform encoded
              compressionResult := compressionResult
              wasPatternReduced := replaced },
            compressed)
    Processed platform engine data output.1 output.2 := by
  dsimp only
  have sameOne := removed.configuration
  have samePipeline :=
    compressNew_frame platform middle (encodedForm engine.settings data)
      (decide (Replaces engine.settings data))
  have sameThree :=
    compressNew_configuration platform middle
      (encodedForm engine.settings data)
      (decide (Replaces engine.settings data))
  have middleFrames :=
    frames_congr sameOne.settings sameOne.algorithm data
  have sameSaved :=
    compressionSaved_congr sameOne.settings removed.compression platform
      data
  have sameForm := sameOne.storedForm platform data
  have spec := compressNew_spec platform middle data
  rw [middleFrames, sameForm, sameSaved, sameOne.settings, removed.stats]
    at spec
  rcases spec with
    ⟨framed, long, failed, stats⟩ | ⟨fits, result, succeeded, stats⟩
  · split <;> rename_i equal <;>
      rw [equal] at failed stats samePipeline sameThree
    · cases failed
      have nothing : patternSaved engine.settings data = 0 :=
        if_neg framed.1
      rw [nothing, Int.add_zero] at stats
      exact .refused (Or.inr ⟨framed, unshared, long⟩)
        (sameOne.trans sameThree)
        (samePipeline.1.trans removed.deduplication) stats
    · simp at failed
  · split <;> rename_i equal <;>
      rw [equal] at succeeded stats samePipeline sameThree
    · simp at succeeded
    · simp only [Except.ok.injEq, Prod.mk.injEq] at succeeded
      rcases succeeded with ⟨rfl, rfl⟩
      refine .new ?_ unshared rfl rfl
        (checkDuplicate_fingerprint platform _ _)
        (sameOne.trans sameThree)
        (samePipeline.1.trans removed.deduplication) stats
      rintro (refused | ⟨framed, _, long⟩)
      · exact accepted refused
      · exact fits ⟨framed, long⟩

/-- Inversion of `reduce` under any settings. -/
theorem reduce_processed
    (platform : Platform) (engine : PurityEngine) (data : Bytes) :
    Processed platform engine data
      (engine.reduce platform data).1 (engine.reduce platform data).2 := by
  by_cases tooLong :
      engine.settings.patternRemovalEnabled = true ∧ TooLongPattern data
  · exact processed_tooLong tooLong
  · rcases removePatterns_accepted tooLong with ⟨encodes, stats⟩
    have removed :
        PatternsRemoved engine data (engine.removePatterns data).2 :=
      { configuration := removePatterns_configuration engine data
        deduplication := (removePatterns_frame engine data).1
        compression := (removePatterns_frame engine data).2.2.1
        stats := stats }
    rw [reduce_eq encodes]
    dsimp only
    generalize (engine.removePatterns data).2 = middle at *
    have seen := @isDuplicate_iff_sharedEntry platform middle data
    rw [removed.sharedEntry_eq, removed.configuration.settings] at seen
    rw [removed.configuration.settings]
    cases found : sharedEntry platform engine data with
    | some entry =>
        rw [if_pos (seen.mpr ⟨entry, found⟩)]
        exact removed.processed_shared tooLong found _
    | none =>
        rw [if_neg fun duplicate => by
          rcases seen.mp duplicate with ⟨entry, present⟩
          rw [found] at present
          simp at present]
        exact removed.processed_new tooLong found

/-- A refused block is exactly one on which the pipeline fails. -/
theorem Processed.failed_iff
    {data : Bytes} {reduction : Reduction} {after : PurityEngine}
    (processed : Processed platform engine data reduction after) :
    (∃ exception, reduction = .failed exception) ↔
      Refuses platform engine data := by
  cases processed with
  | refused refuses => simp [refuses]
  | shared accepted => simp [accepted]
  | new accepted => simp [accepted]

end Pipeline

/-! ## The pipeline with the backend -/

/-- Everything `reduce_and_store` can do with a block. -/
inductive Stored (platform : Platform) (before : PurityEngine)
    (backend : FileBackend) (blockId : String) (data : Bytes) :
    Except PyException ReductionResult → PurityEngine → FileBackend →
      Prop where
  | refused {after : PurityEngine}
      (refuses : Refuses platform before data)
      (configuration : SameConfiguration before after)
      (uncounted : after.deduplication = before.deduplication)
      (stats :
        after.stats =
          { before.stats with
            totalBytesIn := before.stats.totalBytesIn + data.length }) :
      Stored platform before backend blockId data (.error lengthOverflow)
        after backend
  | shared {entry : DedupEntry} {result : ReductionResult}
      {after : PurityEngine}
      (accepted : ¬ Refuses platform before data)
      (found : sharedEntry platform before data = some entry)
      (block : result.blockId = entry.blockId)
      (flag : result.wasDeduplicated = true)
      (configuration : SameConfiguration before after)
      (counted :
        after.deduplication =
          (before.deduplication.registerBlock platform
            (encodedForm before.settings data) entry.blockId).2)
      (stats :
        after.stats =
          { before.stats with
            totalBytesIn := before.stats.totalBytesIn + data.length
            patternBytesSaved :=
              before.stats.patternBytesSaved +
                patternSaved before.settings data
            dedupeBytesSaved :=
              before.stats.dedupeBytesSaved +
                (encodedForm before.settings data).length }) :
      Stored platform before backend blockId data (.ok result) after
        backend
  | new {result : ReductionResult} {after : PurityEngine}
      (accepted : ¬ Refuses platform before data)
      (unshared : sharedEntry platform before data = none)
      (block : result.blockId = blockId)
      (flag : result.wasDeduplicated = false)
      (configuration : SameConfiguration before after)
      (counted :
        after.deduplication =
          (before.deduplication.registerBlock platform data blockId).2)
      (stats :
        after.stats =
          { before.stats with
            totalBytesIn := before.stats.totalBytesIn + data.length
            totalBytesStored :=
              before.stats.totalBytesStored +
                (storedForm platform before data).length
            patternBytesSaved :=
              before.stats.patternBytesSaved +
                patternSaved before.settings data
            compressionBytesSaved :=
              before.stats.compressionBytesSaved +
                compressionSaved platform before data }) :
      Stored platform before backend blockId data (.ok result) after
        (backend.writeBlock platform blockId
          (storedForm platform before data)).2

/-- Inversion of `reduce_and_store` under any settings. -/
theorem reduceAndStore_stored
    (platform : Platform) (engine : PurityEngine) (backend : FileBackend)
    (blockId : String) (data : Bytes) :
    Stored platform engine backend blockId data
      (engine.reduceAndStore platform backend blockId data).1
      (engine.reduceAndStore platform backend blockId data).2.1
      (engine.reduceAndStore platform backend blockId data).2.2 := by
  have processed := reduce_processed platform engine data
  rw [reduceAndStore]
  generalize engine.reduce platform data = reduced at processed
  rcases reduced with ⟨reduction, after⟩
  cases processed with
  | refused refuses configuration uncounted stats =>
      exact .refused refuses configuration uncounted stats
  | shared accepted found block _ _ flag configuration counted stats =>
      exact .shared accepted found block flag configuration counted stats
  | @new pending _ accepted unshared sameData form _ configuration
      uncounted stats =>
      dsimp only at configuration uncounted stats ⊢
      rw [form]
      refine .new accepted unshared rfl rfl ?_ ?_ ?_
      · exact configuration.trans ⟨rfl, rfl, rfl, rfl, rfl⟩
      · simp only [finishStore, sameData, uncounted]
      · simp only [finishStore, form, stats]

/-! ## Successive calls -/

/-- An engine with its backend and the number of identifiers drawn so far. -/
structure EngineRun where
  engine : PurityEngine
  backend : FileBackend := {}
  uuidsDrawn : Nat := 0
deriving DecidableEq

namespace EngineRun

/-- An engine built from settings over an empty backend. -/
def new (settings : Settings) : EngineRun where
  engine := PurityEngine.new settings

/-- The identifiers a call draws: one for a block that is stored. -/
def drawnBy : Except PyException ReductionResult → Nat
  | .ok result => if result.wasDeduplicated then 0 else 1
  | .error _ => 0

/-- Call `reduce_and_store`. -/
def reduceAndStore (platform : Platform) (self : EngineRun)
    (data : Bytes) : Except PyException ReductionResult × EngineRun :=
  let (answer, engine, backend) :=
    self.engine.reduceAndStore platform self.backend
      (platform.uuid4 self.uuidsDrawn) data
  (answer,
    { engine := engine
      backend := backend
      uuidsDrawn := self.uuidsDrawn + drawnBy answer })

/-- What a call leaves behind. -/
def step (platform : Platform) (self : EngineRun) (data : Bytes) :
    EngineRun :=
  (self.reduceAndStore platform data).2

theorem step_stored
    (platform : Platform) (self : EngineRun) (data : Bytes) :
    Stored platform self.engine self.backend
      (platform.uuid4 self.uuidsDrawn) data
      (self.reduceAndStore platform data).1
      (self.step platform data).engine
      (self.step platform data).backend :=
  reduceAndStore_stored platform self.engine self.backend
    (platform.uuid4 self.uuidsDrawn) data

end EngineRun

end StorageAppliance.Purity
