import StorageAppliance.Python

/-!
# Compression

The third stage of data reduction (`purity/compression.py`).  Compressed data
carries a five byte header: one byte for the algorithm and four for the
original size.  Data that does not shrink enough is stored unchanged behind a
header that says so.

Ratios are rationals, so `ratio < min_compression_ratio` is the exact
comparison.  The codecs are the platform's.
-/

namespace StorageAppliance.Purity

open StorageAppliance.Python
open StorageAppliance.Library

/-- Supported compression algorithms. -/
inductive CompressionAlgorithm where
  | none
  | lz4
  | zstd
deriving DecidableEq, Repr

/-- Result of a compression. -/
structure CompressionResult where
  originalSize : Nat
  compressedSize : Nat
  algorithm : CompressionAlgorithm
  compressionRatio : ℚ
  wasCompressed : Bool
deriving DecidableEq

/-- One byte for the algorithm and four for the original size. -/
def headerSize : Nat :=
  5

/-- The header byte of an algorithm. -/
def algorithmByte : CompressionAlgorithm → UInt8
  | .none => 0
  | .lz4 => 1
  | .zstd => 2

/-- The algorithm of a header byte. -/
def byteToAlgorithm (byte : UInt8) : Option CompressionAlgorithm :=
  if byte = 0 then some .none
  else if byte = 1 then some .lz4
  else if byte = 2 then some .zstd
  else none

@[simp]
theorem byteToAlgorithm_algorithmByte (algorithm : CompressionAlgorithm) :
    byteToAlgorithm (algorithmByte algorithm) = some algorithm := by
  cases algorithm <;> rfl

/-- The counters kept by the stage. -/
structure CompressionStats where
  blocksCompressed : Nat := 0
  blocksSkipped : Nat := 0
  bytesBefore : Nat := 0
  bytesAfter : Nat := 0
deriving DecidableEq

/-- The stage: its algorithm, its thresholds and its counters. -/
structure CompressionEngine where
  algorithm : CompressionAlgorithm := .lz4
  level : ℤ := 1
  minCompressionRatio : ℚ := 11 / 10
  stats : CompressionStats := {}
deriving DecidableEq

/-- The engine for deep compression, whose default level is 9. -/
def deepCompressionEngine (level : ℤ) : CompressionEngine where
  algorithm := .zstd
  level := level
  minCompressionRatio := 21 / 20

namespace CompressionEngine

variable (platform : Platform)

/-- The output of the configured codec. -/
def codecCompress (self : CompressionEngine) (data : Bytes) : Bytes :=
  if self.algorithm = .lz4 then
    platform.lz4Compress data
  else
    platform.zstdCompress self.level data

/-- The original size divided by the compressed size. -/
def codecRatio (self : CompressionEngine) (data : Bytes) : ℚ :=
  if 0 < (self.codecCompress platform data).length then
    data.length / (self.codecCompress platform data).length
  else
    1

/-- The header of a block, refused when the size needs more than four bytes. -/
def header (algorithm : CompressionAlgorithm) (originalSize : Nat) :
    Except PyException Bytes :=
  match toBytes 4 originalSize with
  | .error exception => .error exception
  | .ok size => .ok (algorithmByte algorithm :: size)

/-- Put a header in front of a payload. -/
def withHeader (algorithm : CompressionAlgorithm) (originalSize : Nat)
    (payload : Bytes) (result : CompressionResult) :
    Except PyException (Bytes × CompressionResult) :=
  match header algorithm originalSize with
  | .error exception => .error exception
  | .ok bytes => .ok (bytes ++ payload, result)

/-- The result reported for data that is stored as it is. -/
def uncompressedResult (data : Bytes) : CompressionResult where
  originalSize := data.length
  compressedSize := data.length
  algorithm := .none
  compressionRatio := 1
  wasCompressed := false

/-- The result reported for data that is stored compressed. -/
def compressedResult (self : CompressionEngine) (data : Bytes) :
    CompressionResult where
  originalSize := data.length
  compressedSize := (self.codecCompress platform data).length
  algorithm := self.algorithm
  compressionRatio := self.codecRatio platform data
  wasCompressed := true

/-- Compress data with the configured algorithm. -/
def compress (self : CompressionEngine) (data : Bytes) :
    Except PyException (Bytes × CompressionResult) × CompressionEngine :=
  let stats :=
    { self.stats with bytesBefore := self.stats.bytesBefore + data.length }
  if self.algorithm = .none then
    (.ok (data, uncompressedResult data), { self with stats := stats })
  else
    let compressed := self.codecCompress platform data
    if self.codecRatio platform data < self.minCompressionRatio then
      (withHeader .none data.length data (uncompressedResult data),
        { self with
          stats :=
            { stats with
              blocksSkipped := stats.blocksSkipped + 1
              bytesAfter := stats.bytesAfter + data.length } })
    else
      (withHeader self.algorithm data.length compressed
          (self.compressedResult platform data),
        { self with
          stats :=
            { stats with
              blocksCompressed := stats.blocksCompressed + 1
              bytesAfter := stats.bytesAfter + compressed.length } })

/-- The codec's answer, with its refusal as an exception. -/
def codecResult : Option Bytes → Except PyException Bytes
  | some data => .ok data
  | none => .error .codecError

/-- Undo `compress`, taking the algorithm from the header. -/
def decompress (data : Bytes) : Except PyException Bytes :=
  match data with
  | byte :: _ =>
      if data.length < headerSize then
        .ok data
      else
        let payload := data.drop 5
        match (byteToAlgorithm byte).getD .none with
        | .none => .ok payload
        | .lz4 => codecResult (platform.lz4Decompress payload)
        | .zstd => codecResult (platform.zstdDecompress payload)
  | [] => .ok data

/-- Whether data has a header of a real compression. -/
def isCompressed (data : Bytes) : Bool :=
  match data with
  | byte :: _ =>
      headerSize ≤ data.length &&
        (byteToAlgorithm byte).getD .none != .none
  | [] => false

/-- Whether data has any compression header, including the one for none. -/
def hasHeader (data : Bytes) : Bool :=
  match data with
  | byte :: _ =>
      headerSize ≤ data.length && (byteToAlgorithm byte).isSome
  | [] => false

end CompressionEngine

open CompressionEngine

/-! ## What a header says -/

/-- A header followed by its payload. -/
def framed (algorithm : CompressionAlgorithm) (originalSize : Nat)
    (payload : Bytes) : Bytes :=
  algorithmByte algorithm :: toBigEndian 4 originalSize ++ payload

theorem withHeader_eq
    (algorithm : CompressionAlgorithm) {originalSize : Nat}
    (short : originalSize < 256 ^ 4)
    (payload : Bytes) (result : CompressionResult) :
    withHeader algorithm originalSize payload result =
      .ok (framed algorithm originalSize payload, result) := by
  have sizeBytes :
      toBytes 4 originalSize = .ok (toBigEndian 4 originalSize) :=
    if_pos short
  simp [withHeader, header, sizeBytes, framed]

theorem withHeader_long
    (algorithm : CompressionAlgorithm) {originalSize : Nat}
    (long : ¬ originalSize < 256 ^ 4)
    (payload : Bytes) (result : CompressionResult) :
    withHeader algorithm originalSize payload result =
      .error (.overflowError "int too big to convert") := by
  have refused :
      toBytes 4 originalSize =
        .error (.overflowError "int too big to convert") :=
    if_neg long
  simp [withHeader, header, refused]

theorem hasHeader_framed
    (algorithm : CompressionAlgorithm) (originalSize : Nat)
    (payload : Bytes) :
    hasHeader (framed algorithm originalSize payload) = true := by
  simp only [framed, List.cons_append, hasHeader, headerSize,
    byteToAlgorithm_algorithmByte, Option.isSome_some, Bool.and_true,
    decide_eq_true_eq, List.length_cons, List.length_append,
    length_toBigEndian]
  omega

theorem decompress_framed
    (platform : Platform) (algorithm : CompressionAlgorithm)
    (originalSize : Nat) (payload : Bytes) :
    decompress platform (framed algorithm originalSize payload) =
      match algorithm with
      | .none => .ok payload
      | .lz4 => codecResult (platform.lz4Decompress payload)
      | .zstd => codecResult (platform.zstdDecompress payload) := by
  have long :
      ¬ (framed algorithm originalSize payload).length < headerSize := by
    simp only [framed, headerSize, List.cons_append, List.length_cons,
      List.length_append, length_toBigEndian]
    omega
  have dropped :
      (framed algorithm originalSize payload).drop 5 = payload := by
    simp [framed]
  simp only [framed, List.cons_append] at long dropped ⊢
  simp only [decompress, if_neg long, dropped,
    byteToAlgorithm_algorithmByte, Option.getD_some]

theorem isCompressed_framed
    (algorithm : CompressionAlgorithm) (originalSize : Nat)
    (payload : Bytes) :
    isCompressed (framed algorithm originalSize payload) =
      (algorithm != .none) := by
  have long :
      headerSize ≤ (framed algorithm originalSize payload).length := by
    simp only [framed, headerSize, List.cons_append, List.length_cons,
      List.length_append, length_toBigEndian]
    omega
  simp only [framed, List.cons_append] at long ⊢
  simp only [isCompressed, long, decide_true, Bool.true_and,
    byteToAlgorithm_algorithmByte, Option.getD_some]

/-- The bytes an engine makes of data that fits its header. -/
def CompressionEngine.frame (platform : Platform)
    (self : CompressionEngine) (data : Bytes) : Bytes :=
  if self.codecRatio platform data < self.minCompressionRatio then
    framed .none data.length data
  else
    framed self.algorithm data.length (self.codecCompress platform data)

/-- The result an engine reports with them. -/
def CompressionEngine.frameResult (platform : Platform)
    (self : CompressionEngine) (data : Bytes) : CompressionResult :=
  if self.codecRatio platform data < self.minCompressionRatio then
    uncompressedResult data
  else
    self.compressedResult platform data

theorem compress_none
    (platform : Platform)
    {self : CompressionEngine} (unset : self.algorithm = .none)
    (data : Bytes) :
    (self.compress platform data).1 =
      .ok (data, uncompressedResult data) := by
  simp only [compress, if_pos unset]

theorem compress_framed
    (platform : Platform)
    (self : CompressionEngine) (configured : self.algorithm ≠ .none)
    {data : Bytes} (short : data.length < 256 ^ 4) :
    (self.compress platform data).1 =
      .ok (self.frame platform data, self.frameResult platform data) := by
  by_cases small :
      self.codecRatio platform data < self.minCompressionRatio
  · simp only [compress, frame, frameResult, if_neg configured,
      if_pos small]
    exact withHeader_eq .none short data _
  · simp only [compress, frame, frameResult, if_neg configured,
      if_neg small]
    exact withHeader_eq self.algorithm short _ _

theorem hasHeader_frame
    (platform : Platform) (self : CompressionEngine) (data : Bytes) :
    hasHeader (self.frame platform data) = true := by
  rw [frame]
  split
  · exact hasHeader_framed _ _ _
  · exact hasHeader_framed _ _ _

/-- The platform's codec turns the stored form back into the data. -/
theorem decompress_frame
    {platform : Platform} (lossless : platform.LosslessCodecs)
    (self : CompressionEngine) (configured : self.algorithm ≠ .none)
    (data : Bytes) :
    decompress platform (self.frame platform data) = .ok data := by
  rw [frame]
  split
  · exact decompress_framed platform .none data.length data
  · rw [decompress_framed]
    cases algorithm : self.algorithm with
    | none => exact (configured algorithm).elim
    | lz4 =>
        simp [codecCompress, algorithm, lossless.lz4_inverse, codecResult]
    | zstd =>
        simp [codecCompress, algorithm, lossless.zstd_inverse, codecResult]

/-- The reported flag is the one the header carries. -/
theorem isCompressed_frame
    (platform : Platform)
    (self : CompressionEngine) (configured : self.algorithm ≠ .none)
    (data : Bytes) :
    isCompressed (self.frame platform data) =
      (self.frameResult platform data).wasCompressed := by
  rw [frame, frameResult]
  split
  · exact isCompressed_framed .none data.length data
  · rw [isCompressed_framed]
    simpa [compressedResult] using configured

/-! ## Any engine reads what any other wrote -/

/--
Whatever the algorithm, the level and the threshold of the engine that wrote
the data, its output has a header, is read back and says whether it is
compressed.  The reading functions take no engine: the source calls them on one,
and none of its settings enters into them.
-/
theorem compress_selfDescribing
    (platform : Platform) (lossless : platform.LosslessCodecs)
    (writer : CompressionEngine) (configured : writer.algorithm ≠ .none)
    (data : Bytes) (short : data.length < 256 ^ 4) :
    ∃ output result,
      (writer.compress platform data).1 = .ok (output, result) ∧
        hasHeader output = true ∧
        decompress platform output = .ok data ∧
        result.wasCompressed = isCompressed output :=
  ⟨writer.frame platform data, writer.frameResult platform data,
    compress_framed platform writer configured short,
    hasHeader_frame platform writer data,
    decompress_frame lossless writer configured data,
    (isCompressed_frame platform writer configured data).symm⟩

/-- The deep engine on a block that itself looks like one with a header. -/
theorem compress_selfDescribing_deep :
    [0, 1, 2, 3, 4, 5].length < 256 ^ 4 ∧
      ∃ output result,
        ((deepCompressionEngine 9).compress storingPlatform
            [0, 1, 2, 3, 4, 5]).1 = .ok (output, result) ∧
          hasHeader output = true ∧
          decompress storingPlatform output = .ok [0, 1, 2, 3, 4, 5] ∧
          result.wasCompressed = isCompressed output :=
  ⟨by decide,
    compress_selfDescribing storingPlatform
      storingPlatform_lawful.losslessCodecs (deepCompressionEngine 9)
      (by decide) [0, 1, 2, 3, 4, 5] (by decide)⟩

theorem compress_long
    (platform : Platform)
    (self : CompressionEngine) (configured : self.algorithm ≠ .none)
    {data : Bytes} (long : ¬ data.length < 256 ^ 4) :
    (self.compress platform data).1 =
      .error (.overflowError "int too big to convert") := by
  by_cases small :
      self.codecRatio platform data < self.minCompressionRatio
  · simp only [compress, if_neg configured, if_pos small]
    exact withHeader_long .none long data _
  · simp only [compress, if_neg configured, if_neg small]
    exact withHeader_long self.algorithm long _ _

end StorageAppliance.Purity
