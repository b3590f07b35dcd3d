import Mathlib.Logic.Function.Basic
import Mathlib.Data.Rat.Floor
import StorageAppliance.Library.BigEndian

/-!
# What the Python services take from their platform

Byte strings are lists of bytes and integers are unbounded.  Exceptions are
values, and a method that can raise returns an `Except` together with the
object it leaves behind, because Python keeps every update made before the
raise.

Four things are not in the repository: the SHA-256 digest, the random source
behind `uuid4`, and the LZ4 and Zstandard codecs.  They are the fields of a
`Platform`, and `Platform.Lawful` names what the services rely on.  The n-th
identifier drawn by the process is `uuid4 n`.
-/

namespace StorageAppliance.Python

open StorageAppliance.Library

/-- A Python byte string. -/
abbrev Bytes :=
  List UInt8

/-- The exceptions raised by the modelled code, with their messages. -/
inductive PyException where
  | valueError (message : String)
  | keyError (message : String)
  | indexError (message : String)
  | overflowError (message : String)
  | osError (message : String)
  | runtimeError (message : String)
  | zeroDivisionError (message : String)
  | codecError
deriving DecidableEq, Repr

/-- `int(number)`, which truncates toward zero. -/
def truncate (number : ℚ) : ℤ :=
  if 0 ≤ number then ⌊number⌋ else ⌈number⌉

/-- The integer nearest to a number, the even one of two. -/
def roundHalfEven (number : ℚ) : ℤ :=
  if number - ⌊number⌋ < 1 / 2 then
    ⌊number⌋
  else if 1 / 2 < number - ⌊number⌋ then
    ⌊number⌋ + 1
  else if ⌊number⌋ % 2 = 0 then
    ⌊number⌋
  else
    ⌊number⌋ + 1

/--
The floating point number nearest to an integer, which keeps 53 bits of it.
Dividing it by a power of two is then exact.
-/
def nearestDouble (number : ℤ) : ℤ :=
  let unit : ℤ := 2 ^ (Nat.log2 number.natAbs - 52)
  roundHalfEven (number / unit) * unit

theorem roundHalfEven_nonneg {number : ℚ} (nonneg : 0 ≤ number) :
    0 ≤ roundHalfEven number := by
  have floorNonneg : 0 ≤ ⌊number⌋ := Int.floor_nonneg.mpr nonneg
  rw [roundHalfEven]
  split_ifs <;> omega

theorem nearestDouble_nonneg {number : ℤ} (nonneg : 0 ≤ number) :
    0 ≤ nearestDouble number := by
  rw [nearestDouble]
  apply mul_nonneg
  · apply roundHalfEven_nonneg
    positivity
  · positivity

/-- `number.to_bytes(width, "big")`. -/
def toBytes (width number : Nat) : Except PyException Bytes :=
  if number < 256 ^ width then
    .ok (toBigEndian width number)
  else
    .error (.overflowError "int too big to convert")

/-- `data.hex()`, two digits for each byte. -/
def hex (data : Bytes) : String :=
  String.ofList (data.flatMap fun byte =>
    [Nat.digitChar (byte.toNat / 16), Nat.digitChar (byte.toNat % 16)])

/-- The services used by the program whose code is elsewhere. -/
structure Platform where
  sha256Hex : Bytes → String
  uuid4 : Nat → String
  lz4Compress : Bytes → Bytes
  lz4Decompress : Bytes → Option Bytes
  zstdCompress : ℤ → Bytes → Bytes
  zstdDecompress : Bytes → Option Bytes

/--
What the program relies on: digests identify their data, drawn identifiers
never repeat, and each codec inverts itself.
-/
structure Platform.Lawful (platform : Platform) : Prop where
  sha256Hex_injective : Function.Injective platform.sha256Hex
  uuid4_injective : Function.Injective platform.uuid4
  lz4_inverse :
    ∀ data,
      platform.lz4Decompress (platform.lz4Compress data) = some data
  zstd_inverse :
    ∀ level data,
      platform.zstdDecompress (platform.zstdCompress level data) =
        some data

/-- The part of it that the reading of compressed data relies on. -/
structure Platform.LosslessCodecs (platform : Platform) : Prop where
  lz4_inverse :
    ∀ data,
      platform.lz4Decompress (platform.lz4Compress data) = some data
  zstd_inverse :
    ∀ level data,
      platform.zstdDecompress (platform.zstdCompress level data) =
        some data

theorem Platform.Lawful.losslessCodecs
    {platform : Platform} (lawful : platform.Lawful) :
    platform.LosslessCodecs :=
  ⟨lawful.lz4_inverse, lawful.zstd_inverse⟩

/-! ## A platform for concrete runs -/

/-- The frame header that LZ4 puts in front of a block it cannot shrink. -/
def storedFrameHeader (length : Nat) : Bytes :=
  [0x04, 0x22, 0x4d, 0x18, 0x68, 0x40] ++
    (toBigEndian 8 length).reverse ++ [0] ++
    (toBigEndian 4 (length + 2 ^ 31)).reverse

theorem length_storedFrameHeader (length : Nat) :
    (storedFrameHeader length).length = 19 := by
  simp [storedFrameHeader]

/--
A platform that numbers its identifiers, uses a block as its own digest and
stores data in frames, as the codecs do with data that does not shrink.
-/
def storingPlatform : Platform where
  sha256Hex data :=
    String.ofList (data.map fun byte => Char.ofNat byte.toNat)
  uuid4 index := toString index
  lz4Compress data :=
    storedFrameHeader data.length ++ (data ++ [0, 0, 0, 0])
  lz4Decompress frame :=
    if 23 ≤ frame.length then
      some ((frame.drop 19).take (frame.length - 23))
    else
      none
  zstdCompress _ data := [0x28, 0xb5, 0x2f, 0xfd] ++ data
  zstdDecompress frame := some (frame.drop 4)

theorem storingPlatform_lawful : storingPlatform.Lawful where
  sha256Hex_injective := by
    intro left right equal
    simp only [storingPlatform, String.ofList_inj] at equal
    refine List.map_injective_iff.mpr ?_ equal
    intro first second same
    have valid : ∀ byte : UInt8, byte.toNat.isValidChar := fun byte =>
      Or.inl (Nat.lt_trans byte.toNat_lt (by decide))
    have number :
        ∀ byte : UInt8, (Char.ofNat byte.toNat).toNat = byte.toNat := by
      intro byte
      rw [Char.ofNat, dif_pos (valid byte)]
      rfl
    have numbers := congrArg Char.toNat same
    rw [number, number] at numbers
    exact UInt8.toNat_inj.mp numbers
  uuid4_injective := by
    intro left right equal
    have digits : Nat.toDigits 10 left = Nat.toDigits 10 right := by
      rw [← Nat.toList_repr, ← Nat.toList_repr]
      exact congrArg String.toList equal
    rw [← Nat.ofDigitChars_ten_toDigits (n := left), digits,
      Nat.ofDigitChars_ten_toDigits]
  lz4_inverse := by
    intro data
    have header := length_storedFrameHeader data.length
    have payload :
        (storedFrameHeader data.length ++ (data ++ [0, 0, 0, 0])).length -
          23 = data.length := by
      simp only [List.length_append, header, List.length_cons,
        List.length_nil]
      omega
    simp only [storingPlatform, payload]
    rw [if_pos (by simp only [List.length_append, header,
        List.length_cons, List.length_nil]; omega), List.drop_left' header,
      List.take_left]
  zstd_inverse := by
    intro level data
    rfl

end StorageAppliance.Python
