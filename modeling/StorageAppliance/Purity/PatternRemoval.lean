import StorageAppliance.Python
import Mathlib.Data.List.Dedup
import Mathlib.Data.Rat.Defs

/-!
# Pattern removal

The first stage of data reduction (`purity/pattern_removal.py`).  A block of
zeros is replaced by a fixed marker, and a block that repeats one byte by a
prefix, the byte and the length.  Both are in-band: `decode` recognises them by
looking at the stored bytes, so a block whose own content looks like a marker
is expanded as if it had been encoded.

The ratios of the source are floating point numbers; here they are rationals.
-/

namespace StorageAppliance.Purity

open StorageAppliance.Python
open StorageAppliance.Library

/-- Result of pattern analysis. -/
structure PatternResult where
  isZeroBlock : Bool
  isRepeatedPattern : Bool
  patternByte : Option UInt8
  uniqueBytesRatio : ℚ
deriving DecidableEq

/-- The bytes of `__ZERO_BLOCK__`. -/
def zeroBlockMarker : Bytes :=
  [0x5f, 0x5f, 0x5a, 0x45, 0x52, 0x4f, 0x5f, 0x42, 0x4c, 0x4f, 0x43, 0x4b,
    0x5f, 0x5f]

/-- The bytes of `__PATTERN:`. -/
def patternBlockPrefix : Bytes :=
  [0x5f, 0x5f, 0x50, 0x41, 0x54, 0x54, 0x45, 0x52, 0x4e, 0x3a]

/-- The counters kept by the stage. -/
structure PatternStats where
  blocksAnalyzed : Nat := 0
  zeroBlocksFound : Nat := 0
  patternBlocksFound : Nat := 0
  bytesSaved : ℤ := 0
deriving DecidableEq

/-- The stage: its block size and its counters. -/
structure PatternRemoval where
  minBlockSize : Nat := 4096
  stats : PatternStats := {}
deriving DecidableEq

namespace PatternRemoval

/-- What `analyze` reports about a block. -/
def analyzeBlock : Bytes → PatternResult
  | [] => ⟨true, true, some 0, 0⟩
  | first :: rest =>
      if (first :: rest).all (· == 0) then
        ⟨true, true, some 0, 0⟩
      else if (first :: rest).all (· == first) then
        ⟨false, true, some first, 0⟩
      else
        ⟨false, false, none, (first :: rest).dedup.length / 256⟩

/-- How `analyze` counts a block; an empty block is not counted. -/
def analyzeStats (stats : PatternStats) : Bytes → PatternStats
  | [] => stats
  | first :: rest =>
      let counted :=
        { stats with blocksAnalyzed := stats.blocksAnalyzed + 1 }
      if (first :: rest).all (· == 0) then
        { counted with zeroBlocksFound := stats.zeroBlocksFound + 1 }
      else if (first :: rest).all (· == first) then
        { counted with patternBlocksFound := stats.patternBlocksFound + 1 }
      else
        counted

/-- Analyze a block of data for patterns. -/
def analyze (self : PatternRemoval) (data : Bytes) :
    PatternResult × PatternRemoval :=
  (analyzeBlock data, { self with stats := analyzeStats self.stats data })

/-- Account for a block replaced by a marker. -/
def recordSaved (self : PatternRemoval) (data encoded : Bytes) :
    PatternRemoval :=
  { self with
    stats :=
      { self.stats with
        bytesSaved :=
          self.stats.bytesSaved + (data.length - encoded.length : ℤ) } }

/-- Replace a pattern by its marker, reporting whether it did. -/
def encode (self : PatternRemoval) (data : Bytes) :
    Except PyException (Bytes × Bool) × PatternRemoval :=
  let (result, analyzed) := self.analyze data
  if result.isZeroBlock then
    (.ok (zeroBlockMarker, true),
      analyzed.recordSaved data zeroBlockMarker)
  else
    match result.isRepeatedPattern, result.patternByte with
    | true, some byte =>
        match toBytes 4 data.length with
        | .error exception => (.error exception, analyzed)
        | .ok size =>
            let encoded := patternBlockPrefix ++ [byte] ++ size
            (.ok (encoded, true), analyzed.recordSaved data encoded)
    | _, _ => (.ok (data, false), analyzed)

/-- `original_size or self.min_block_size`. -/
def zeroBlockSize (self : PatternRemoval) : Option Nat → Nat
  | some (size + 1) => size + 1
  | _ => self.minBlockSize

/-- Expand a marker back to the block it stands for. -/
def decode (self : PatternRemoval) (data : Bytes)
    (originalSize : Option Nat) : Except PyException Bytes :=
  if data = zeroBlockMarker then
    .ok (List.replicate (self.zeroBlockSize originalSize) 0)
  else if patternBlockPrefix.isPrefixOf data then
    match data[patternBlockPrefix.length]? with
    | none => .error (.indexError "index out of range")
    | some patternByte =>
        let size := ofBigEndian (data.drop (data.length - 4))
        .ok (List.replicate size patternByte)
  else
    .ok data

/-- Whether data looks like a marker. -/
def isEncoded (data : Bytes) : Bool :=
  data == zeroBlockMarker || patternBlockPrefix.isPrefixOf data

end PatternRemoval

open PatternRemoval

/-! ## Constant blocks -/

/-- A block all of whose bytes are equal; the empty block is one. -/
def Constant (data : Bytes) : Prop :=
  ∃ byte count, data = List.replicate count byte

/-- The marker that stands for a block of `count` bytes `byte`. -/
def patternMarker (byte : UInt8) (count : Nat) : Bytes :=
  patternBlockPrefix ++ [byte] ++ toBigEndian 4 count

theorem all_beq_iff_replicate (byte : UInt8) (data : Bytes) :
    data.all (· == byte) = true ↔
      data = List.replicate data.length byte := by
  rw [List.eq_replicate_iff]
  simp

theorem analyzeBlock_zeros (count : Nat) :
    analyzeBlock (List.replicate count 0) = ⟨true, true, some 0, 0⟩ := by
  cases count with
  | zero => rfl
  | succ count =>
      have zeros :
          (List.replicate (count + 1) (0 : UInt8)).all (· == 0) = true :=
        (all_beq_iff_replicate 0 _).mpr (by simp)
      rw [List.replicate_succ] at zeros ⊢
      rw [analyzeBlock, if_pos zeros]

theorem analyzeBlock_repeated
    {byte : UInt8} (nonzero : byte ≠ 0) (count : Nat) :
    analyzeBlock (List.replicate (count + 1) byte) =
      ⟨false, true, some byte, 0⟩ := by
  have notZeros :
      ¬ (List.replicate (count + 1) byte).all (· == 0) = true := by
    simp [nonzero]
  have repeated :
      (List.replicate (count + 1) byte).all (· == byte) = true :=
    (all_beq_iff_replicate byte _).mpr (by simp)
  rw [List.replicate_succ] at notZeros repeated ⊢
  rw [analyzeBlock, if_neg notZeros, if_pos repeated]

theorem analyzeBlock_other
    {data : Bytes} (varied : ¬ Constant data) :
    (analyzeBlock data).isZeroBlock = false ∧
      (analyzeBlock data).isRepeatedPattern = false := by
  cases data with
  | nil => exact (varied ⟨0, 0, rfl⟩).elim
  | cons first rest =>
      have notAll :
          ∀ byte, ¬ (first :: rest).all (· == byte) = true := by
        intro byte same
        exact varied
          ⟨byte, _, (all_beq_iff_replicate byte _).mp same⟩
      rw [analyzeBlock, if_neg (notAll 0), if_neg (notAll first)]
      exact ⟨rfl, rfl⟩

/-- A block is replaced by a marker only if it is constant. -/
theorem isRepeatedPattern_iff_constant (data : Bytes) :
    (analyzeBlock data).isRepeatedPattern = true ↔ Constant data := by
  constructor
  · intro repeated
    by_contra varied
    rw [(analyzeBlock_other varied).2] at repeated
    exact Bool.false_ne_true repeated
  · rintro ⟨byte, count, rfl⟩
    by_cases zero : byte = 0
    · rw [zero, analyzeBlock_zeros]
    · cases count with
      | zero => rfl
      | succ count => rw [analyzeBlock_repeated zero]

instance decidableConstant (data : Bytes) : Decidable (Constant data) :=
  decidable_of_iff _ (isRepeatedPattern_iff_constant data)

/-! ## What `encode` stores -/

theorem encode_zeros (self : PatternRemoval) (count : Nat) :
    (self.encode (List.replicate count 0)).1 =
      .ok (zeroBlockMarker, true) := by
  simp [encode, analyze, analyzeBlock_zeros]

theorem encode_repeated
    (self : PatternRemoval) {byte : UInt8} (nonzero : byte ≠ 0)
    {count : Nat} (short : count + 1 < 256 ^ 4) :
    (self.encode (List.replicate (count + 1) byte)).1 =
      .ok (patternMarker byte (count + 1), true) := by
  have encodedSize :
      toBytes 4 (count + 1) = .ok (toBigEndian 4 (count + 1)) :=
    if_pos short
  simp [encode, analyze, analyzeBlock_repeated nonzero, encodedSize,
    patternMarker]

theorem encode_repeated_long
    (self : PatternRemoval) {byte : UInt8} (nonzero : byte ≠ 0)
    {count : Nat} (long : ¬ count + 1 < 256 ^ 4) :
    (self.encode (List.replicate (count + 1) byte)).1 =
      .error (.overflowError "int too big to convert") := by
  have refusedSize :
      toBytes 4 (count + 1) =
        .error (.overflowError "int too big to convert") :=
    if_neg long
  simp [encode, analyze, analyzeBlock_repeated nonzero, refusedSize]

/-- The markers are themselves not constant. -/
theorem not_constant_of_two_bytes
    {data : Bytes} (left right : Nat) (first second : UInt8)
    (atLeft : data[left]? = some first)
    (atRight : data[right]? = some second)
    (apart : first ≠ second) :
    ¬ Constant data := by
  rintro ⟨byte, count, rfl⟩
  rw [List.getElem?_replicate] at atLeft atRight
  simp only [Option.ite_none_right_eq_some, Option.some.injEq] at atLeft atRight
  exact apart (atLeft.2.symm.trans atRight.2)

theorem zeroBlockMarker_not_constant : ¬ Constant zeroBlockMarker :=
  not_constant_of_two_bytes 0 2 0x5f 0x5a rfl rfl (by decide)

theorem not_constant_of_prefix
    {data : Bytes} (starts : patternBlockPrefix <+: data) :
    ¬ Constant data := by
  rcases starts with ⟨rest, rfl⟩
  exact not_constant_of_two_bytes 0 2 0x5f 0x50 rfl rfl (by decide)

theorem patternBlockPrefix_prefix_patternMarker
    (byte : UInt8) (count : Nat) :
    patternBlockPrefix <+: patternMarker byte count := by
  rw [patternMarker, List.append_assoc]
  exact List.prefix_append _ _

/-! ## Reading markers back -/

theorem decode_zeroBlockMarker (self : PatternRemoval) :
    self.decode zeroBlockMarker none =
      .ok (List.replicate self.minBlockSize 0) := by
  simp [decode, zeroBlockSize]

theorem not_prefix_zeroBlockMarker :
    ¬ patternBlockPrefix <+: zeroBlockMarker := by
  decide

theorem ne_zeroBlockMarker_of_prefix
    {data : Bytes} (starts : patternBlockPrefix <+: data) :
    data ≠ zeroBlockMarker := by
  rintro rfl
  exact not_prefix_zeroBlockMarker starts

theorem decode_patternMarker
    (self : PatternRemoval) (byte : UInt8)
    {count : Nat} (short : count < 256 ^ 4) :
    self.decode (patternMarker byte count) none =
      .ok (List.replicate count byte) := by
  have starts := patternBlockPrefix_prefix_patternMarker byte count
  have notZero := ne_zeroBlockMarker_of_prefix starts
  have atByte :
      (patternMarker byte count)[patternBlockPrefix.length]? =
        some byte := by
    simp [patternMarker, patternBlockPrefix]
  have sizeBytes :
      (patternMarker byte count).drop
          ((patternMarker byte count).length - 4) =
        toBigEndian 4 count := by
    simp [patternMarker, patternBlockPrefix]
  rw [decode, if_neg notZero,
    if_pos (List.isPrefixOf_iff_prefix.mpr starts), atByte]
  simp [sizeBytes, ofBigEndian_toBigEndian short]

/-- What starts with the prefix is never returned as it is. -/
theorem decode_prefix_ne
    (self : PatternRemoval) {data : Bytes}
    (starts : patternBlockPrefix <+: data) :
    self.decode data none ≠ .ok data := by
  have notZero := ne_zeroBlockMarker_of_prefix starts
  intro same
  rw [decode, if_neg notZero,
    if_pos (List.isPrefixOf_iff_prefix.mpr starts)] at same
  split at same
  · simp at same
  · simp only [Except.ok.injEq] at same
    exact not_constant_of_prefix starts ⟨_, _, same.symm⟩

theorem isEncoded_iff (data : Bytes) :
    isEncoded data = true ↔
      data = zeroBlockMarker ∨ patternBlockPrefix <+: data := by
  simp [isEncoded]

/-! ## Round trips -/

/--
A block is read back as it was, and if it is stored as it is, it does not look
like a marker.
-/
def RoundTrips (self : PatternRemoval) (data : Bytes) : Prop :=
  ∃ encoded reduced,
    (self.encode data).1 = .ok (encoded, reduced) ∧
      self.decode encoded none = .ok data ∧
      (reduced = false → isEncoded data = false)

/-- The block repeats a byte other than zero. -/
def Repeated (data : Bytes) : Prop :=
  ∃ byte count, byte ≠ 0 ∧ data = List.replicate (count + 1) byte

/-- Zeros are read back as a block of the default size. -/
theorem roundTrips_zeros_iff (self : PatternRemoval) (count : Nat) :
    RoundTrips self (List.replicate count 0) ↔
      count = self.minBlockSize := by
  constructor
  · rintro ⟨encoded, reduced, stored, read, _⟩
    rw [encode_zeros] at stored
    cases stored
    rw [decode_zeroBlockMarker, Except.ok.injEq] at read
    have lengths := congrArg List.length read
    rw [List.length_replicate, List.length_replicate] at lengths
    exact lengths.symm
  · rintro rfl
    refine ⟨zeroBlockMarker, true, encode_zeros self _, ?_, ?_⟩
    · exact decode_zeroBlockMarker self
    · intro stored
      cases stored

/-- Other constant blocks are read back if the marker can hold their size. -/
theorem roundTrips_repeated_iff
    (self : PatternRemoval) {byte : UInt8} (nonzero : byte ≠ 0)
    (count : Nat) :
    RoundTrips self (List.replicate (count + 1) byte) ↔
      count + 1 < 256 ^ 4 := by
  constructor
  · rintro ⟨encoded, reduced, stored, _⟩
    by_contra long
    rw [encode_repeated_long self nonzero long] at stored
    cases stored
  · intro short
    refine
      ⟨patternMarker byte (count + 1), true,
        encode_repeated self nonzero short, ?_, ?_⟩
    · exact decode_patternMarker self byte short
    · intro stored
      cases stored

theorem encode_other
    (self : PatternRemoval) {data : Bytes} (varied : ¬ Constant data) :
    (self.encode data).1 = .ok (data, false) := by
  rcases analyzeBlock_other varied with ⟨notZero, notRepeated⟩
  simp [encode, analyze, notZero, notRepeated]

theorem decode_other
    (self : PatternRemoval) {data : Bytes}
    (plain : isEncoded data = false) :
    self.decode data none = .ok data := by
  have unmarked :
      ¬ (data = zeroBlockMarker ∨ patternBlockPrefix <+: data) := by
    rw [← isEncoded_iff, plain]
    exact Bool.false_ne_true
  rw [not_or] at unmarked
  rw [decode, if_neg unmarked.1,
    if_neg fun starts =>
      unmarked.2 (List.isPrefixOf_iff_prefix.mp starts)]

/-- A block that is not constant is read back unless it looks like a marker. -/
theorem roundTrips_other_iff
    (self : PatternRemoval) {data : Bytes} (varied : ¬ Constant data) :
    RoundTrips self data ↔ isEncoded data = false := by
  constructor
  · rintro ⟨encoded, reduced, stored, _, plain⟩
    rw [encode_other self varied] at stored
    cases stored
    exact plain rfl
  · intro plain
    exact
      ⟨data, false, encode_other self varied, decode_other self plain,
        fun _ => plain⟩

theorem not_constant_of_isEncoded
    {data : Bytes} (marked : isEncoded data = true) : ¬ Constant data := by
  rcases (isEncoded_iff data).mp marked with rfl | starts
  · exact zeroBlockMarker_not_constant
  · exact not_constant_of_prefix starts

/-- Every constant block is a block of zeros or a repeated one. -/
theorem constant_cases {data : Bytes} (constant : Constant data) :
    (∃ count, data = List.replicate count 0) ∨ Repeated data := by
  rcases constant with ⟨byte, count, rfl⟩
  by_cases zero : byte = 0
  · exact Or.inl ⟨count, by rw [zero]⟩
  · cases count with
    | zero => exact Or.inl ⟨0, rfl⟩
    | succ count => exact Or.inr ⟨byte, count, zero, rfl⟩

theorem not_zeros_of_repeated
    {data : Bytes} (repeated : Repeated data) (count : Nat) :
    data ≠ List.replicate count 0 := by
  rcases repeated with ⟨byte, length, nonzero, rfl⟩
  intro same
  have member : byte ∈ List.replicate count (0 : UInt8) := by
    rw [← same]
    simp
  exact nonzero (List.eq_of_mem_replicate member)

/--
The codec reads a block back exactly if it is no block of zeros of another than
the default size, no repeated byte of 4 GiB or more, and no look-alike of a
marker.
-/
theorem decode_encode_iff (self : PatternRemoval) (data : Bytes) :
    RoundTrips self data ↔
      (∀ count, data = List.replicate count 0 →
          count = self.minBlockSize) ∧
        (Repeated data → data.length < 256 ^ 4) ∧
        isEncoded data = false := by
  by_cases constant : Constant data
  · have plain : isEncoded data = false := by
      by_contra marked
      rw [Bool.not_eq_false] at marked
      exact not_constant_of_isEncoded marked constant
    rcases constant_cases constant with ⟨count, rfl⟩ | repeated
    · rw [roundTrips_zeros_iff]
      constructor
      · rintro rfl
        refine ⟨?_, ?_, plain⟩
        · intro other same
          have lengths := congrArg List.length same
          simpa using lengths.symm
        · intro repeated
          exact absurd rfl (not_zeros_of_repeated repeated _)
      · intro fits
        exact fits.1 count rfl
    · rcases repeated with ⟨byte, count, nonzero, rfl⟩
      rw [roundTrips_repeated_iff self nonzero]
      have repeated : Repeated (List.replicate (count + 1) byte) :=
        ⟨byte, count, nonzero, rfl⟩
      constructor
      · intro short
        refine ⟨?_, fun _ => by simpa using short, plain⟩
        intro other same
        exact absurd same (not_zeros_of_repeated repeated other)
      · intro fits
        simpa using fits.2.1 repeated
  · rw [roundTrips_other_iff self constant]
    constructor
    · intro plain
      refine ⟨?_, ?_, plain⟩
      · rintro count rfl
        exact absurd ⟨0, count, rfl⟩ constant
      · rintro ⟨byte, count, _, rfl⟩
        exact absurd ⟨byte, count + 1, rfl⟩ constant
    · intro fits
      exact fits.2.2

/--
A single zero is read back as a whole block, and the marker of zeros, stored as
it is, looks like one.
-/
theorem marker_ambiguous :
    ¬ RoundTrips {} [0] ∧ ¬ RoundTrips {} zeroBlockMarker := by
  constructor
  · intro roundTrips
    have size := (roundTrips_zeros_iff {} 1).mp roundTrips
    exact absurd size (by decide)
  · intro roundTrips
    have plain :=
      (roundTrips_other_iff {} zeroBlockMarker_not_constant).mp
        roundTrips
    exact absurd plain (by decide)

end StorageAppliance.Purity
