import StorageAppliance.Core.Config
import StorageAppliance.Purity.PatternRemoval
import StorageAppliance.Purity.Deduplication
import StorageAppliance.Storage.FileBackend

/-!
# Data reduction engine

The pipeline of `purity/engine.py`: pattern removal, then deduplication, then
compression.  `reduceAndStore` is cut where the source waits for the backend,
into `reduce` before the wait and `finishStore` after it, so that the
interleavings of two requests can be stated over the same definitions.

The cut shows the bookkeeping of the source.  A block is looked up under the
fingerprint of its *encoded* form and the caller records that fingerprint; a
duplicate is counted under the same fingerprint, but a new block is counted
under the fingerprint of its *raw* data.  The two differ exactly for constant
blocks.
-/

namespace StorageAppliance.Purity

open StorageAppliance.Python
open StorageAppliance.Library
open StorageAppliance.Storage
open StorageAppliance.Core

/-- Result of the full data reduction pipeline. -/
structure ReductionResult where
  blockId : String
  originalSize : Nat
  storedSize : Nat
  reductionRatio : ℚ
  patternResult : PatternResult
  dedupeResult : DedupResult
  compressionResult : Option CompressionResult
  wasPatternReduced : Bool
  wasDeduplicated : Bool
  wasCompressed : Bool
deriving DecidableEq

/-- Overall data reduction statistics. -/
structure ReductionStats where
  totalBytesIn : ℤ := 0
  totalBytesStored : ℤ := 0
  patternBytesSaved : ℤ := 0
  dedupeBytesSaved : ℤ := 0
  compressionBytesSaved : ℤ := 0
deriving DecidableEq

/-- The engine: its settings, its stages and its statistics. -/
structure PurityEngine where
  settings : Settings
  patternRemoval : PatternRemoval
  deduplication : DeduplicationEngine := {}
  compression : CompressionEngine
  stats : ReductionStats := {}
deriving DecidableEq

/-- What is known about a new block while the backend stores it. -/
structure PendingStore where
  data : Bytes
  currentData : Bytes
  patternResult : PatternResult
  dedupeResult : DedupResult
  compressionResult : Option CompressionResult
  wasPatternReduced : Bool
deriving DecidableEq

/-- How far `reduce_and_store` gets before it waits for the backend. -/
inductive Reduction where
  | failed (exception : PyException)
  | duplicate (result : ReductionResult)
  | store (pending : PendingStore)
deriving DecidableEq

namespace PurityEngine

/-- The engine built from settings. -/
def new (settings : Settings) : PurityEngine where
  settings := settings
  patternRemoval := { minBlockSize := settings.defaultBlockSize }
  compression :=
    { algorithm := settings.compressionAlgorithm
      level := settings.compressionLevel }

/-- Stage one: count the incoming bytes and replace a pattern by its marker. -/
def removePatterns (self : PurityEngine) (data : Bytes) :
    Except PyException (Bytes × Bool) × PurityEngine :=
  let stats :=
    { self.stats with totalBytesIn := self.stats.totalBytesIn + data.length }
  let (result, analyzed) := self.patternRemoval.analyze data
  if self.settings.patternRemovalEnabled &&
      (result.isZeroBlock || result.isRepeatedPattern) then
    match analyzed.encode data with
    | (.error exception, encoder) =>
        (.error exception,
          { self with patternRemoval := encoder, stats := stats })
    | (.ok (encoded, wasReduced), encoder) =>
        let saved :=
          if wasReduced then
            { stats with
              patternBytesSaved :=
                stats.patternBytesSaved + (data.length - encoded.length : ℤ) }
          else
            stats
        (.ok (encoded, wasReduced),
          { self with patternRemoval := encoder, stats := saved })
  else
    (.ok (data, false),
      { self with patternRemoval := analyzed, stats := stats })

/-- Stage three: compress a new block that is not a marker. -/
def compressNew (platform : Platform) (self : PurityEngine)
    (encoded : Bytes) (wasPatternReduced : Bool) :
    Except PyException (Bytes × Option CompressionResult) × PurityEngine :=
  if self.settings.compressionEnabled && !wasPatternReduced then
    match self.compression.compress platform encoded with
    | (.error exception, compressor) =>
        (.error exception, { self with compression := compressor })
    | (.ok (compressed, result), compressor) =>
        let saved :=
          if result.wasCompressed then
            { self.stats with
              compressionBytesSaved :=
                self.stats.compressionBytesSaved +
                  (result.originalSize - result.compressedSize : ℤ) }
          else
            self.stats
        (.ok (compressed, some result),
          { self with compression := compressor, stats := saved })
  else
    (.ok (encoded, none), self)

/-- The ratio reported for a block. -/
def reportedRatio (originalSize effectiveStored : Nat) : ℚ :=
  if 0 < effectiveStored then
    originalSize / effectiveStored
  else if 0 < originalSize then
    originalSize
  else
    1

/-- A block that is already stored: take a reference to it. -/
def shareDuplicate (platform : Platform) (self : PurityEngine)
    (data encoded : Bytes) (wasPatternReduced : Bool)
    (dedupeResult : DedupResult) : ReductionResult × PurityEngine :=
  let blockId := dedupeResult.existingBlockId.getD ""
  let registered :=
    (self.deduplication.registerBlock platform encoded blockId).2
  ({ blockId := blockId
     originalSize := data.length
     storedSize := 0
     reductionRatio := reportedRatio data.length 0
     patternResult := PatternRemoval.analyzeBlock data
     dedupeResult := dedupeResult
     compressionResult := none
     wasPatternReduced := wasPatternReduced
     wasDeduplicated := true
     wasCompressed := false },
    { self with
      deduplication := registered
      stats :=
        { self.stats with
          dedupeBytesSaved :=
            self.stats.dedupeBytesSaved + encoded.length } })

/-- `reduce_and_store` up to the wait for the backend. -/
def reduce (platform : Platform) (self : PurityEngine) (data : Bytes) :
    Reduction × PurityEngine :=
  match self.removePatterns data with
  | (.error exception, engine) => (.failed exception, engine)
  | (.ok (encoded, wasPatternReduced), engine) =>
      let dedupeResult := engine.deduplication.checkDuplicate platform encoded
      if engine.settings.dedupeEnabled && dedupeResult.isDuplicate then
        let (result, shared) :=
          engine.shareDuplicate platform data encoded wasPatternReduced
            dedupeResult
        (.duplicate result, shared)
      else
        match engine.compressNew platform encoded wasPatternReduced with
        | (.error exception, compressed) => (.failed exception, compressed)
        | (.ok (stored, compressionResult), compressed) =>
            (.store
              { data := data
                currentData := stored
                patternResult := PatternRemoval.analyzeBlock data
                dedupeResult := dedupeResult
                compressionResult := compressionResult
                wasPatternReduced := wasPatternReduced },
              compressed)

/-- `reduce_and_store` from the return of the backend on. -/
def finishStore (platform : Platform) (self : PurityEngine)
    (pending : PendingStore) (blockId : String) :
    ReductionResult × PurityEngine :=
  let storedSize := pending.currentData.length
  ({ blockId := blockId
     originalSize := pending.data.length
     storedSize := storedSize
     reductionRatio := reportedRatio pending.data.length storedSize
     patternResult := pending.patternResult
     dedupeResult := pending.dedupeResult
     compressionResult := pending.compressionResult
     wasPatternReduced := pending.wasPatternReduced
     wasDeduplicated := false
     wasCompressed :=
       (pending.compressionResult.map
         CompressionResult.wasCompressed).getD false },
    { self with
      deduplication :=
        (self.deduplication.registerBlock platform pending.data blockId).2
      stats :=
        { self.stats with
          totalBytesStored := self.stats.totalBytesStored + storedSize } })

/-- Apply the pipeline and store; `blockId` is what `uuid4` would return. -/
def reduceAndStore (platform : Platform) (self : PurityEngine)
    (backend : FileBackend) (blockId : String) (data : Bytes) :
    Except PyException ReductionResult × PurityEngine × FileBackend :=
  match self.reduce platform data with
  | (.failed exception, engine) => (.error exception, engine, backend)
  | (.duplicate result, engine) => (.ok result, engine, backend)
  | (.store pending, engine) =>
      let written :=
        (backend.writeBlock platform blockId pending.currentData).2
      let (result, finished) := engine.finishStore platform pending blockId
      (.ok result, finished, written)

/-- Undo compression if the stored bytes have a header. -/
def unwrap (platform : Platform) (stored : Bytes) :
    Except PyException Bytes :=
  if CompressionEngine.hasHeader stored then
    CompressionEngine.decompress platform stored
  else
    .ok stored

/-- Expand a marker if the bytes look like one. -/
def expand (self : PurityEngine) (data : Bytes) : Except PyException Bytes :=
  if PatternRemoval.isEncoded data then
    self.patternRemoval.decode data none
  else
    .ok data

/-- Read a block and undo the reduction. -/
def retrieve (platform : Platform) (self : PurityEngine)
    (backend : FileBackend) (blockId : String) :
    Except PyException Bytes × FileBackend :=
  match backend.readBlock blockId with
  | (.error exception, read) => (.error exception, read)
  | (.ok stored, read) =>
      match unwrap platform stored with
      | .error exception => (.error exception, read)
      | .ok data => (self.expand data, read)

/-- Drop a reference, and delete the block with the last one. -/
def delete (self : PurityEngine) (backend : FileBackend)
    (blockId fingerprint : String) : Bool × PurityEngine × FileBackend :=
  let (refCount, deduplication) :=
    self.deduplication.dereferenceBlock fingerprint
  let engine := { self with deduplication := deduplication }
  if refCount = 0 then
    let (deleted, removed) := backend.deleteBlock blockId
    (deleted, engine, removed)
  else
    (false, engine, backend)

end PurityEngine

open PurityEngine

/-! ## Engines with the default settings -/

/-- The parts of an engine that its settings fix, at their defaults. -/
structure PurityEngine.Standard (engine : PurityEngine) : Prop where
  settings : engine.settings = {}
  minBlockSize : engine.patternRemoval.minBlockSize = 4096
  algorithm : engine.compression.algorithm = .lz4

theorem standard_new : (PurityEngine.new {}).Standard :=
  ⟨rfl, rfl, rfl⟩

theorem encode_minBlockSize (self : PatternRemoval) (data : Bytes) :
    (self.encode data).2.minBlockSize = self.minBlockSize := by
  rw [PatternRemoval.encode]
  split
  rename_i result analyzed equal
  have sameSize : analyzed.minBlockSize = self.minBlockSize :=
    (congrArg (fun outcome => outcome.2.minBlockSize) equal).symm
  split
  · exact sameSize
  · split
    · split <;> exact sameSize
    · exact sameSize

theorem compress_algorithm
    (platform : Platform) (self : CompressionEngine) (data : Bytes) :
    (self.compress platform data).2.algorithm = self.algorithm := by
  simp only [CompressionEngine.compress]
  split
  · rfl
  · split <;> rfl

/-! ## Stage one -/

/-- The bytes that stand for a block after pattern removal. -/
inductive Encodes : Bytes → Bytes → Prop where
  | varied {data : Bytes} (notConstant : ¬ Constant data) :
      Encodes data data
  | zeros (count : Nat) :
      Encodes (List.replicate count 0) zeroBlockMarker
  | repeated {byte : UInt8} {count : Nat}
      (nonzero : byte ≠ 0) (short : count + 1 < 256 ^ 4) :
      Encodes (List.replicate (count + 1) byte)
        (patternMarker byte (count + 1))

/-- What stands for a block is never constant. -/
theorem Encodes.not_constant
    {data encoded : Bytes} (encodes : Encodes data encoded) :
    ¬ Constant encoded := by
  cases encodes with
  | varied notConstant => exact notConstant
  | zeros => exact zeroBlockMarker_not_constant
  | repeated =>
      exact not_constant_of_prefix
        (patternBlockPrefix_prefix_patternMarker _ _)

/-- Only a constant block is replaced. -/
theorem Encodes.eq_of_not_constant
    {data encoded : Bytes} (encodes : Encodes data encoded)
    (notConstant : ¬ Constant data) :
    encoded = data := by
  cases encodes with
  | varied => rfl
  | zeros count => exact (notConstant ⟨0, count, rfl⟩).elim
  | repeated => exact (notConstant ⟨_, _, rfl⟩).elim

/-- A block is encoded in one way. -/
theorem Encodes.unique
    {data first second : Bytes}
    (encodesFirst : Encodes data first)
    (encodesSecond : Encodes data second) :
    first = second := by
  cases encodesFirst with
  | varied notConstant =>
      exact (encodesSecond.eq_of_not_constant notConstant).symm
  | zeros count =>
      generalize equal : List.replicate count (0 : UInt8) = data
        at encodesSecond
      cases encodesSecond with
      | varied notConstant =>
          exact (notConstant ⟨0, count, equal.symm⟩).elim
      | zeros => rfl
      | repeated nonzero =>
          rw [List.replicate_inj] at equal
          rcases equal.2 with none | zero
          · omega
          · exact (nonzero zero.symm).elim
  | @repeated byte count nonzero =>
      generalize equal : List.replicate (count + 1) byte = data
        at encodesSecond
      cases encodesSecond with
      | varied notConstant =>
          exact (notConstant ⟨byte, count + 1, equal.symm⟩).elim
      | zeros =>
          rw [List.replicate_inj] at equal
          rcases equal.2 with none | zero
          · omega
          · exact (nonzero zero).elim
      | repeated =>
          rw [List.replicate_inj] at equal
          rcases equal with ⟨sameCount, none | sameByte⟩
          · omega
          · rw [sameCount, sameByte]

/-- A repeated nonzero byte whose length does not fit in four bytes. -/
def TooLongPattern (data : Bytes) : Prop :=
  ∃ byte count,
    byte ≠ 0 ∧ ¬ count < 256 ^ 4 ∧ data = List.replicate count byte

theorem Encodes.not_tooLongPattern
    {data encoded : Bytes} (encodes : Encodes data encoded) :
    ¬ TooLongPattern data := by
  rintro ⟨byte, count, nonzero, long, equal⟩
  cases encodes with
  | varied notConstant => exact notConstant ⟨byte, count, equal⟩
  | zeros zeroCount =>
      rw [List.replicate_inj] at equal
      rcases equal.2 with zero | same
      · omega
      · exact nonzero same.symm
  | repeated _ short =>
      rw [List.replicate_inj] at equal
      omega

/-- Stage one leaves everything but its own counters alone. -/
theorem removePatterns_frame (self : PurityEngine) (data : Bytes) :
    (self.removePatterns data).2.deduplication = self.deduplication ∧
      (self.removePatterns data).2.settings = self.settings ∧
      (self.removePatterns data).2.compression = self.compression ∧
      (self.removePatterns data).2.patternRemoval.minBlockSize =
        self.patternRemoval.minBlockSize := by
  have sameSize :=
    encode_minBlockSize (self.patternRemoval.analyze data).2 data
  simp only [removePatterns]
  split
  · split
    · rename_i equal
      rw [equal] at sameSize
      exact ⟨rfl, rfl, rfl, sameSize⟩
    · rename_i equal
      rw [equal] at sameSize
      exact ⟨rfl, rfl, rfl, sameSize⟩
  · exact ⟨rfl, rfl, rfl, rfl⟩

theorem removePatterns_varied
    (self : PurityEngine) {data : Bytes} (varied : ¬ Constant data) :
    (self.removePatterns data).1 = .ok (data, false) := by
  have plain := analyzeBlock_other varied
  simp [removePatterns, PatternRemoval.analyze, plain.1, plain.2]

/-- With the default settings a constant block goes through `encode`. -/
theorem removePatterns_constant
    {self : PurityEngine} (standard : self.Standard)
    {data : Bytes} (constant : Constant data) :
    (self.removePatterns data).1 =
      ((self.patternRemoval.analyze data).2.encode data).1 := by
  have repeated := (isRepeatedPattern_iff_constant data).mpr constant
  have enabled : self.settings.patternRemovalEnabled = true := by
    rw [standard.settings]
  simp only [removePatterns]
  rw [if_pos (by simp [PatternRemoval.analyze, repeated, enabled])]
  split <;> rename_i equal <;> rw [equal]

/-- Stage one encodes a block, or refuses a pattern that is too long. -/
theorem removePatterns_cases
    {self : PurityEngine} (standard : self.Standard) (data : Bytes) :
    (∃ exception,
        (self.removePatterns data).1 = .error exception ∧
          TooLongPattern data) ∨
      ∃ encoded,
        (self.removePatterns data).1 =
            .ok (encoded, decide (Constant data)) ∧
          Encodes data encoded := by
  by_cases constant : Constant data
  · rw [removePatterns_constant standard constant]
    simp only [constant, decide_true]
    rcases constant with ⟨byte, count, rfl⟩
    by_cases zero : byte = 0
    · subst zero
      exact Or.inr ⟨_, encode_zeros _ count, .zeros count⟩
    · cases count with
      | zero => exact Or.inr ⟨_, encode_zeros _ 0, .zeros 0⟩
      | succ count =>
          by_cases short : count + 1 < 256 ^ 4
          · exact Or.inr
              ⟨_, encode_repeated _ zero short, .repeated zero short⟩
          · exact Or.inl
              ⟨_, encode_repeated_long _ zero short,
                byte, count + 1, zero, short, rfl⟩
  · simp only [constant, decide_false]
    exact Or.inr
      ⟨data, removePatterns_varied self constant, .varied constant⟩

/-! ## Stage three -/

theorem compressNew_frame
    (platform : Platform) (self : PurityEngine)
    (encoded : Bytes) (wasPatternReduced : Bool) :
    (self.compressNew platform encoded wasPatternReduced).2.deduplication =
        self.deduplication ∧
      (self.compressNew platform encoded wasPatternReduced).2.settings =
        self.settings ∧
      (self.compressNew platform encoded wasPatternReduced).2.patternRemoval =
        self.patternRemoval ∧
      (self.compressNew platform encoded
          wasPatternReduced).2.compression.algorithm =
        self.compression.algorithm := by
  have sameAlgorithm :=
    compress_algorithm platform self.compression encoded
  simp only [compressNew]
  split
  · split
    · rename_i equal
      rw [equal] at sameAlgorithm
      exact ⟨rfl, rfl, rfl, sameAlgorithm⟩
    · rename_i equal
      rw [equal] at sameAlgorithm
      exact ⟨rfl, rfl, rfl, sameAlgorithm⟩
  · exact ⟨rfl, rfl, rfl, rfl⟩

/-- A marker has no header, so it is read back as it is stored. -/
theorem unwrap_marker
    (platform : Platform) {encoded : Bytes}
    (marker : encoded = zeroBlockMarker ∨ patternBlockPrefix <+: encoded) :
    unwrap platform encoded = .ok encoded := by
  have noHeader : CompressionEngine.hasHeader encoded = false := by
    rcases marker with rfl | ⟨rest, rfl⟩
    · rfl
    · simp [patternBlockPrefix, CompressionEngine.hasHeader,
        byteToAlgorithm]
  simp [unwrap, noHeader]

/-- What stage three stores unwraps to what it was given. -/
theorem compressNew_cases
    {platform : Platform} (lawful : platform.Lawful)
    {self : PurityEngine} (standard : self.Standard)
    {data encoded : Bytes} (encodes : Encodes data encoded) :
    (∃ exception,
        (self.compressNew platform encoded
            (decide (Constant data))).1 = .error exception ∧
          ¬ Constant data ∧ ¬ data.length < 256 ^ 4) ∨
      ∃ stored result,
        (self.compressNew platform encoded
            (decide (Constant data))).1 = .ok (stored, result) ∧
          unwrap platform stored = .ok encoded ∧
          (¬ Constant data → data.length < 256 ^ 4) := by
  by_cases constant : Constant data
  · refine Or.inr
      ⟨encoded, none, ?_, ?_, fun varied => (varied constant).elim⟩
    · simp [compressNew, constant]
    · apply unwrap_marker
      cases encodes with
      | varied notConstant => exact (notConstant constant).elim
      | zeros => exact Or.inl rfl
      | repeated =>
          exact Or.inr (patternBlockPrefix_prefix_patternMarker _ _)
  · have sameData := encodes.eq_of_not_constant constant
    subst sameData
    have enabled : self.settings.compressionEnabled = true := by
      rw [standard.settings]
    have configured :
        self.compression.algorithm ≠ .none := by
      rw [standard.algorithm]
      decide
    by_cases short : encoded.length < 256 ^ 4
    · have stored :=
        compress_framed platform self.compression configured short
      have inverse :=
        decompress_frame lawful.losslessCodecs self.compression configured
          encoded
      refine Or.inr
        ⟨self.compression.frame platform encoded,
          some (self.compression.frameResult platform encoded), ?_, ?_,
          fun _ => short⟩
      · simp only [compressNew]
        rw [if_pos (by simp [enabled, constant])]
        split <;> rename_i equal <;> rw [equal] at stored
        · simp at stored
        · simp only [Except.ok.injEq, Prod.mk.injEq] at stored
          rw [stored.1, stored.2]
      · rw [unwrap, if_pos (hasHeader_frame _ _ _), inverse]
    · have refused :=
        compress_long platform self.compression configured short
      refine Or.inl
        ⟨.overflowError "int too big to convert", ?_, constant, short⟩
      simp only [compressNew]
      rw [if_pos (by simp [enabled, constant])]
      split <;> rename_i equal <;> rw [equal] at refused
      · simp only [Except.error.injEq] at refused
        rw [refused]
      · simp at refused

/-! ## The pipeline before the backend -/

/--
The blocks the pipeline refuses: their length does not fit in the four bytes
that a marker or a header has for it.
-/
def Refused (platform : Platform) (engine : PurityEngine)
    (data : Bytes) : Prop :=
  TooLongPattern data ∨
    (¬ Constant data ∧ ¬ data.length < 256 ^ 4 ∧
      engine.deduplication.dedupeTable.get? (platform.sha256Hex data) =
        none)

/-- Everything `reduce` can do with a block. -/
inductive Reduced (platform : Platform) (before : PurityEngine)
    (data : Bytes) : Reduction → PurityEngine → Prop where
  | failed (exception : PyException) {after : PurityEngine}
      (refused : Refused platform before data)
      (uncounted : after.deduplication = before.deduplication) :
      Reduced platform before data (.failed exception) after
  | duplicate {encoded : Bytes} {entry : DedupEntry}
      {result : ReductionResult} {after : PurityEngine}
      (encodes : Encodes data encoded)
      (found :
        before.deduplication.dedupeTable.get?
          (platform.sha256Hex encoded) = some entry)
      (sameBlock : result.blockId = entry.blockId)
      (recorded :
        result.dedupeResult.fingerprint = platform.sha256Hex encoded)
      (shared : result.wasDeduplicated = true)
      (counted :
        after.deduplication =
          (before.deduplication.registerBlock platform encoded
            entry.blockId).2) :
      Reduced platform before data (.duplicate result) after
  | store {encoded : Bytes} {pending : PendingStore}
      {after : PurityEngine}
      (encodes : Encodes data encoded)
      (absent :
        before.deduplication.dedupeTable.get?
          (platform.sha256Hex encoded) = none)
      (short : ¬ Constant data → data.length < 256 ^ 4)
      (sameData : pending.data = data)
      (recorded :
        pending.dedupeResult.fingerprint = platform.sha256Hex encoded)
      (unwraps : unwrap platform pending.currentData = .ok encoded)
      (uncounted : after.deduplication = before.deduplication) :
      Reduced platform before data (.store pending) after

section Pipeline

variable
    {platform : Platform}
    {engine : PurityEngine}

theorem shareDuplicate_standard
    (standard : engine.Standard) (data encoded : Bytes)
    (wasPatternReduced : Bool) (dedupeResult : DedupResult) :
    (engine.shareDuplicate platform data encoded wasPatternReduced
      dedupeResult).2.Standard :=
  ⟨standard.settings, standard.minBlockSize, standard.algorithm⟩

theorem finishStore_standard
    (standard : engine.Standard) (pending : PendingStore)
    (blockId : String) :
    (engine.finishStore platform pending blockId).2.Standard :=
  ⟨standard.settings, standard.minBlockSize, standard.algorithm⟩

/-- The pipeline never touches its settings. -/
theorem reduce_standard
    (standard : engine.Standard) (data : Bytes) :
    (engine.reduce platform data).2.Standard := by
  have stageOne := removePatterns_frame engine data
  rw [reduce]
  split
  · rename_i encoder equal
    rw [equal] at stageOne
    exact
      ⟨stageOne.2.1.trans standard.settings,
        stageOne.2.2.2.trans standard.minBlockSize,
        (congrArg CompressionEngine.algorithm stageOne.2.2.1).trans
          standard.algorithm⟩
  · rename_i encoded wasPatternReduced encoder equal
    rw [equal] at stageOne
    have encoderStandard : encoder.Standard :=
      ⟨stageOne.2.1.trans standard.settings,
        stageOne.2.2.2.trans standard.minBlockSize,
        (congrArg CompressionEngine.algorithm stageOne.2.2.1).trans
          standard.algorithm⟩
    dsimp only
    split
    · exact shareDuplicate_standard encoderStandard data encoded
        wasPatternReduced
        (encoder.deduplication.checkDuplicate platform encoded)
    · have stageThree :=
        compressNew_frame platform encoder encoded wasPatternReduced
      have compressorStandard :
          (encoder.compressNew platform encoded
            wasPatternReduced).2.Standard :=
        ⟨stageThree.2.1.trans encoderStandard.settings,
          (congrArg PatternRemoval.minBlockSize stageThree.2.2.1).trans
            encoderStandard.minBlockSize,
          stageThree.2.2.2.trans encoderStandard.algorithm⟩
      split <;> rename_i equalThree <;>
        rw [equalThree] at compressorStandard <;>
        exact compressorStandard

/-- Inversion of `reduce` under the default settings. -/
theorem reduce_cases
    (lawful : platform.Lawful) (standard : engine.Standard)
    (data : Bytes) :
    Reduced platform engine data
      (engine.reduce platform data).1 (engine.reduce platform data).2 := by
  have stageOne := removePatterns_frame engine data
  rcases removePatterns_cases standard data with
    ⟨exception, failed, tooLong⟩ | ⟨encoded, succeeded, encodes⟩
  · rw [reduce]
    split <;> rename_i equal <;> rw [equal] at failed stageOne
    · exact .failed _ (Or.inl tooLong) stageOne.1
    · simp at failed
  · rw [reduce]
    split <;> rename_i equal <;> rw [equal] at succeeded stageOne
    · simp at succeeded
    · rename_i reducedData wasPatternReduced encoder
      simp only [Except.ok.injEq, Prod.mk.injEq] at succeeded
      rcases succeeded with ⟨rfl, rfl⟩
      have dedupeEnabled : encoder.settings.dedupeEnabled = true := by
        rw [stageOne.2.1, standard.settings]
      have encoderStandard : encoder.Standard :=
        ⟨stageOne.2.1.trans standard.settings,
          stageOne.2.2.2.trans standard.minBlockSize,
          (congrArg CompressionEngine.algorithm stageOne.2.2.1).trans
            standard.algorithm⟩
      have sameDedupe : encoder.deduplication = engine.deduplication :=
        stageOne.1
      cases found :
          engine.deduplication.dedupeTable.get?
            (platform.sha256Hex reducedData) with
      | some entry =>
          have duplicated :=
            checkDuplicate_of_get? found
          rw [← sameDedupe] at duplicated
          rw [if_pos (by simp [dedupeEnabled, duplicated.1])]
          refine .duplicate encodes found ?_ ?_ rfl ?_
          · simp [shareDuplicate, duplicated.2]
          · exact checkDuplicate_fingerprint platform _ reducedData
          · rw [← sameDedupe]
            simp [shareDuplicate, duplicated.2]
      | none =>
          have unseen :=
            checkDuplicate_of_absent found
          rw [← sameDedupe] at unseen
          rw [if_neg (by simp [unseen])]
          have stageThree :=
            compressNew_frame platform encoder reducedData
              (decide (Constant data))
          rcases compressNew_cases lawful encoderStandard encodes with
            ⟨exception, failed, varied, long⟩ |
            ⟨stored, result, succeeded, unwraps, short⟩
          · split <;> rename_i equalThree <;>
              rw [equalThree] at failed stageThree
            · have sameData := encodes.eq_of_not_constant varied
              subst sameData
              exact .failed _ (Or.inr ⟨varied, long, found⟩)
                (stageThree.1.trans sameDedupe)
            · simp at failed
          · split <;> rename_i equalThree <;>
              rw [equalThree] at succeeded stageThree
            · simp at succeeded
            · simp only [Except.ok.injEq, Prod.mk.injEq] at succeeded
              rcases succeeded with ⟨rfl, rfl⟩
              exact .store encodes found short rfl
                (checkDuplicate_fingerprint platform _ reducedData)
                unwraps (stageThree.1.trans sameDedupe)

/-- A refused block is exactly one on which the pipeline fails. -/
theorem Reduced.failed_iff
    {data : Bytes} {reduction : Reduction} {after : PurityEngine}
    (reduced : Reduced platform engine data reduction after) :
    (∃ exception, reduction = .failed exception) ↔
      Refused platform engine data := by
  cases reduced with
  | failed exception refused => simp [refused]
  | duplicate encodes found =>
      simp only [reduceCtorEq, exists_false, false_iff]
      rintro (tooLong | ⟨varied, _, absent⟩)
      · exact encodes.not_tooLongPattern tooLong
      · have sameData := encodes.eq_of_not_constant varied
        subst sameData
        rw [found] at absent
        simp at absent
  | store encodes absent short =>
      simp only [reduceCtorEq, exists_false, false_iff]
      rintro (tooLong | ⟨varied, long, _⟩)
      · exact encodes.not_tooLongPattern tooLong
      · exact long (short varied)

end Pipeline

/-! ## Reading back -/

/-- What `retrieve` returns for a file that unwraps to known bytes. -/
theorem retrieve_of_file
    {platform : Platform} {engine : PurityEngine} {backend : FileBackend}
    {blockId : String} {stored encoded : Bytes}
    (file : backend.files.get? blockId = some stored)
    (unwraps : unwrap platform stored = .ok encoded) :
    (engine.retrieve platform backend blockId).1 =
      engine.expand encoded := by
  simp [retrieve, FileBackend.readBlock, file, unwraps]

theorem retrieve_missing
    (platform : Platform) (engine : PurityEngine) {backend : FileBackend}
    {blockId : String}
    (missing : backend.files.get? blockId = none) :
    (engine.retrieve platform backend blockId).1 =
      .error (.keyError ("Block not found: " ++ blockId)) := by
  simp [retrieve, FileBackend.readBlock, missing]

/-- `retrieve` depends on the backend only through the file of the block. -/
theorem retrieve_congr
    (platform : Platform) {engine other : PurityEngine}
    {backend changed : FileBackend} {blockId : String}
    (sameSize :
      other.patternRemoval.minBlockSize =
        engine.patternRemoval.minBlockSize)
    (sameFile :
      changed.files.get? blockId = backend.files.get? blockId) :
    (other.retrieve platform changed blockId).1 =
      (engine.retrieve platform backend blockId).1 := by
  have sameExpand : ∀ data, other.expand data = engine.expand data := by
    intro data
    have sameZeros :
        other.patternRemoval.zeroBlockSize none =
          engine.patternRemoval.zeroBlockSize none := sameSize
    simp only [expand, PatternRemoval.decode, sameZeros]
  simp only [retrieve, FileBackend.readBlock, sameFile]
  cases backend.files.get? blockId with
  | none => rfl
  | some stored =>
      cases unwrapped : unwrap platform stored with
      | error exception => simp [unwrapped]
      | ok data => simp [unwrapped, sameExpand]

/--
A block of the default size is expanded to itself exactly when its own bytes
do not start with the pattern prefix.
-/
theorem expand_encoded_iff
    {engine : PurityEngine} (standard : engine.Standard)
    {data encoded : Bytes} (encodes : Encodes data encoded)
    (blockSized : data.length = 4096) :
    engine.expand encoded = .ok data ↔ ¬ patternBlockPrefix <+: data := by
  cases encodes with
  | varied notConstant =>
      constructor
      · intro expanded starts
        have looksEncoded : PatternRemoval.isEncoded data = true :=
          (isEncoded_iff data).mpr (Or.inr starts)
        rw [expand, if_pos looksEncoded] at expanded
        exact decode_prefix_ne _ starts expanded
      · intro notPrefix
        have notMarker : data ≠ zeroBlockMarker := by
          rintro rfl
          simp [zeroBlockMarker] at blockSized
        have plain : ¬ PatternRemoval.isEncoded data = true := by
          rw [isEncoded_iff]
          simp [notMarker, notPrefix]
        rw [expand, if_neg plain]
  | zeros count =>
      have notPrefix :
          ¬ patternBlockPrefix <+: List.replicate count (0 : UInt8) :=
        fun starts => not_constant_of_prefix starts ⟨0, count, rfl⟩
      have looksEncoded :
          PatternRemoval.isEncoded zeroBlockMarker = true :=
        (isEncoded_iff _).mpr (Or.inl rfl)
      rw [List.length_replicate] at blockSized
      subst blockSized
      rw [expand, if_pos looksEncoded, decode_zeroBlockMarker,
        standard.minBlockSize]
      exact iff_of_true rfl notPrefix
  | @repeated byte count nonzero short =>
      have notPrefix :
          ¬ patternBlockPrefix <+: List.replicate (count + 1) byte :=
        fun starts => not_constant_of_prefix starts ⟨byte, _, rfl⟩
      have looksEncoded :
          PatternRemoval.isEncoded (patternMarker byte (count + 1)) =
            true :=
        (isEncoded_iff _).mpr
          (Or.inr (patternBlockPrefix_prefix_patternMarker _ _))
      rw [expand, if_pos looksEncoded, decode_patternMarker _ _ short]
      exact iff_of_true rfl notPrefix

end StorageAppliance.Purity
