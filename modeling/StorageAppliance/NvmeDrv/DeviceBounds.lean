import Mathlib.Data.UInt
import Mathlib.Tactic.Ring
import StorageAppliance.NvmeDrv.Driver

/-!
# The bounds of the emulated device

A read or a write of the device computes its first byte modulo `2 ^ 64`, and so
the sum that it compares with the size of the device.  The number of bytes
never wraps.

A range that wraps past this check is either found in the device, or copied from
outside of it.
-/

namespace StorageAppliance.NvmeDrv

open StorageAppliance.Go
open StorageAppliance.Library

/-! ## Ranges without a modulus -/

/-- The product of two numbers of 32 bits is computed as it is. -/
theorem toNat_mul_toUInt64 (first second : UInt32) :
    (first.toUInt64 * second.toUInt64).toNat =
      first.toNat * second.toNat := by
  have fits : first.toNat * second.toNat < 2 ^ 32 * 2 ^ 32 :=
    Nat.mul_lt_mul'' first.toNat_lt second.toNat_lt
  rw [UInt64.toNat_mul, UInt32.toNat_toUInt64, UInt32.toNat_toUInt64]
  exact Nat.mod_eq_of_lt fits

section Ranges

variable
    (dev : NvmeEmuDevice)
    (lba : UInt64)
    (numBlocks : UInt32)

/-- The first byte of some blocks. -/
def firstByte : Nat :=
  lba.toNat * dev.blockSize.toNat

/-- The number of their bytes. -/
def byteCount : Nat :=
  numBlocks.toNat * dev.blockSize.toNat

/-- The blocks are in the device, and their bytes fit a buffer. -/
def InBounds (len : UInt64) : Prop :=
  numBlocks.toNat * dev.blockSize.toNat ≤ len.toNat ∧
    (lba.toNat + numBlocks.toNat) * dev.blockSize.toNat ≤
      dev.sizeBytes.toNat

/-- The range of the blocks is rejected, or does not wrap. -/
def Checked (len : UInt64) : Prop :=
  len.toNat < byteCount dev numBlocks ∨
    firstByte dev lba + byteCount dev numBlocks < 2 ^ 64 ∨
    dev.sizeBytes.toNat <
      (firstByte dev lba + byteCount dev numBlocks) % 2 ^ 64

theorem inBounds_iff (len : UInt64) :
    InBounds dev lba numBlocks len ↔
      byteCount dev numBlocks ≤ len.toNat ∧
        firstByte dev lba + byteCount dev numBlocks ≤
          dev.sizeBytes.toNat := by
  rw [InBounds, firstByte, byteCount, Nat.add_mul]

theorem toNat_offset :
    (lba * dev.blockSize.toUInt64).toNat = firstByte dev lba % 2 ^ 64 := by
  rw [UInt64.toNat_mul, UInt32.toNat_toUInt64]
  rfl

/-- The number of bytes is computed as it is. -/
theorem toNat_length :
    (numBlocks.toUInt64 * dev.blockSize.toUInt64).toNat =
      byteCount dev numBlocks :=
  toNat_mul_toUInt64 numBlocks dev.blockSize

end Ranges

/-! ## Outcomes -/

namespace Memory

variable
    {size other : Nat}
    {target : Memory size}
    {source : Memory other}
    {targetOffset sourceOffset length : Nat}

theorem memcpy_of_inside
    (inside :
      sourceOffset + length ≤ other ∧ targetOffset + length ≤ size) :
    ∃ copied,
      target.memcpy targetOffset source sourceOffset length = .ok copied ∧
        copied.bytes =
          target.bytes.take targetOffset ++
            source.load sourceOffset length ++
            target.bytes.drop (targetOffset + length) := by
  refine ⟨_, dif_pos inside, ?_⟩
  show
    target.bytes.take targetOffset ++ source.load sourceOffset length ++
        target.bytes.drop
          (targetOffset + (source.load sourceOffset length).length) =
      _
  rw [length_load inside.1]

/-- A copy that is defined stays inside both objects. -/
theorem inside_of_memcpy
    {copied : Memory size}
    (done :
      target.memcpy targetOffset source sourceOffset length = .ok copied) :
    sourceOffset + length ≤ other ∧ targetOffset + length ≤ size := by
  rw [memcpy] at done
  split at done
  · rename_i inside
    exact inside
  · cases done

end Memory

section Outcomes

variable
    {dev : NvmeEmuDevice}
    {lba : UInt64}
    {numBlocks : UInt32}
    {buffer : NvmeBuffer}

/-- The number of bytes is more than a buffer has. -/
theorem length_lt_iff (len : UInt64) :
    len < numBlocks.toUInt64 * dev.blockSize.toUInt64 ↔
      len.toNat < byteCount dev numBlocks := by
  rw [UInt64.lt_iff_toNat_lt, toNat_length]

/-- The end of the range, once it wrapped, is beyond the device. -/
theorem size_lt_iff :
    dev.sizeBytes <
        lba * dev.blockSize.toUInt64 +
          numBlocks.toUInt64 * dev.blockSize.toUInt64 ↔
      dev.sizeBytes.toNat <
        (firstByte dev lba + byteCount dev numBlocks) % 2 ^ 64 := by
  rw [UInt64.lt_iff_toNat_lt, UInt64.toNat_add, toNat_offset, toNat_length,
    Nat.mod_add_mod]

/-- What a read does, by the checks that it makes. -/
theorem nvmeEmuRead_eq :
    nvmeEmuRead dev lba numBlocks (some buffer) =
      if buffer.len.toNat < byteCount dev numBlocks then
        .ok (-2, some buffer)
      else if
          dev.sizeBytes.toNat <
            (firstByte dev lba + byteCount dev numBlocks) % 2 ^ 64 then
        .ok (-3, some buffer)
      else
        match
          buffer.memory.memcpy 0 dev.data (firstByte dev lba % 2 ^ 64)
            (byteCount dev numBlocks)
        with
        | .error fault => .error fault
        | .ok memory => .ok (0, some { buffer with memory := memory }) := by
  cases copied :
      buffer.memory.memcpy 0 dev.data (firstByte dev lba % 2 ^ 64)
        (byteCount dev numBlocks) with
  | error fault =>
      simp only [nvmeEmuRead, length_lt_iff, size_lt_iff, toNat_length]
      simp only [toNat_offset, copied]
  | ok memory =>
      simp only [nvmeEmuRead, length_lt_iff, size_lt_iff, toNat_length]
      simp only [toNat_offset, copied]

/-- What a write does, by the checks that it makes. -/
theorem nvmeEmuWrite_eq :
    nvmeEmuWrite dev lba numBlocks (some buffer) =
      if buffer.len.toNat < byteCount dev numBlocks then
        .ok (-2, dev)
      else if
          dev.sizeBytes.toNat <
            (firstByte dev lba + byteCount dev numBlocks) % 2 ^ 64 then
        .ok (-3, dev)
      else
        match
          dev.data.memcpy (firstByte dev lba % 2 ^ 64) buffer.memory 0
            (byteCount dev numBlocks)
        with
        | .error fault => .error fault
        | .ok data => .ok (0, { dev with data := data }) := by
  cases copied :
      dev.data.memcpy (firstByte dev lba % 2 ^ 64) buffer.memory 0
        (byteCount dev numBlocks) with
  | error fault =>
      simp only [nvmeEmuWrite, length_lt_iff, size_lt_iff, toNat_length]
      simp only [toNat_offset, copied]
  | ok data =>
      simp only [nvmeEmuWrite, length_lt_iff, size_lt_iff, toNat_length]
      simp only [toNat_offset, copied]

end Outcomes

/-! ## Exact reads and writes -/

section Exact

variable
    (dev : NvmeEmuDevice)
    (lba : UInt64)
    (numBlocks : UInt32)
    (buffer : NvmeBuffer)

/-- A read returns 0 if its blocks are in bounds, and then copies them. -/
def ReadsExactly : Prop :=
  ∃ code after,
    nvmeEmuRead dev lba numBlocks (some buffer) = .ok (code, some after) ∧
      (code = 0 ↔ InBounds dev lba numBlocks buffer.len) ∧
      (code = 0 →
        after.memory.bytes =
          dev.data.load (firstByte dev lba) (byteCount dev numBlocks) ++
            buffer.memory.bytes.drop (byteCount dev numBlocks))

/--
A write returns 0 if its blocks are in bounds, and then replaces them and
nothing else.
-/
def WritesExactly : Prop :=
  ∃ code after,
    nvmeEmuWrite dev lba numBlocks (some buffer) = .ok (code, after) ∧
      (code = 0 ↔ InBounds dev lba numBlocks buffer.len) ∧
      (code = 0 →
        after.data.bytes =
          dev.data.bytes.take (firstByte dev lba) ++
            buffer.memory.load 0 (byteCount dev numBlocks) ++
            dev.data.bytes.drop
              (firstByte dev lba + byteCount dev numBlocks))

variable
    {dev : NvmeEmuDevice}
    {lba : UInt64}
    {numBlocks : UInt32}
    {buffer : NvmeBuffer}

/-- A range that is checked and passes is in bounds. -/
theorem inBounds_of_checked
    (checked : Checked dev lba numBlocks buffer.len)
    (fits : ¬ buffer.len.toNat < byteCount dev numBlocks)
    (inside :
      ¬ dev.sizeBytes.toNat <
        (firstByte dev lba + byteCount dev numBlocks) % 2 ^ 64) :
    firstByte dev lba % 2 ^ 64 = firstByte dev lba ∧
      byteCount dev numBlocks ≤ buffer.len.toNat ∧
      firstByte dev lba + byteCount dev numBlocks ≤
        dev.sizeBytes.toNat := by
  have unwrapped :=
    (checked.resolve_left fits).resolve_right inside
  rw [Nat.mod_eq_of_lt unwrapped] at inside
  refine ⟨?_, by omega, by omega⟩
  exact Nat.mod_eq_of_lt (by omega)

/-- A range that passes is in bounds only if it does not wrap. -/
theorem checked_of_inBounds
    (bounded : InBounds dev lba numBlocks buffer.len) :
    Checked dev lba numBlocks buffer.len := by
  have size := dev.sizeBytes.toNat_lt
  have within := ((inBounds_iff dev lba numBlocks buffer.len).mp bounded).2
  exact Or.inr (Or.inl (by omega))

/-- A range that fails a check is not in bounds. -/
theorem not_inBounds_of_beyond
    (beyond :
      dev.sizeBytes.toNat <
        (firstByte dev lba + byteCount dev numBlocks) % 2 ^ 64) :
    ¬ InBounds dev lba numBlocks buffer.len := by
  rw [inBounds_iff]
  intro within
  have smaller :=
    Nat.mod_le (firstByte dev lba + byteCount dev numBlocks) (2 ^ 64)
  omega

theorem not_inBounds_of_short
    (short : buffer.len.toNat < byteCount dev numBlocks) :
    ¬ InBounds dev lba numBlocks buffer.len := by
  rw [inBounds_iff]
  intro within
  omega

theorem readsExactly_iff :
    ReadsExactly dev lba numBlocks buffer ↔
      Checked dev lba numBlocks buffer.len := by
  rw [ReadsExactly, nvmeEmuRead_eq]
  split
  · rename_i short
    refine iff_of_true ?_ (Or.inl short)
    refine ⟨-2, buffer, rfl, ?_, ?_⟩
    · exact iff_of_false (by decide) (not_inBounds_of_short short)
    · exact fun zero => absurd zero (by decide)
  · rename_i fits
    split
    · rename_i beyond
      refine iff_of_true ?_ (Or.inr (Or.inr beyond))
      refine ⟨-3, buffer, rfl, ?_, ?_⟩
      · exact iff_of_false (by decide) (not_inBounds_of_beyond beyond)
      · exact fun zero => absurd zero (by decide)
    · rename_i inside
      constructor
      · rintro ⟨code, after, read, zero, _⟩
        split at read
        · cases read
        · cases read
          exact checked_of_inBounds (zero.mp rfl)
      · intro checked
        rcases inBounds_of_checked checked fits inside with
          ⟨start, room, within⟩
        have ends : 0 + byteCount dev numBlocks ≤ buffer.len.toNat := by
          rw [Nat.zero_add]
          exact room
        rcases
          @Memory.memcpy_of_inside _ _ buffer.memory dev.data _ _ _
            ⟨within, ends⟩ with
          ⟨copied, done, bytes⟩
        rw [start, done]
        refine ⟨0, _, rfl, ?_, ?_⟩
        · exact iff_of_true rfl ((inBounds_iff _ _ _ _).mpr ⟨room, within⟩)
        · intro zero
          show copied.bytes = _
          rw [bytes, List.take_zero, List.nil_append, Nat.zero_add]

theorem writesExactly_iff :
    WritesExactly dev lba numBlocks buffer ↔
      Checked dev lba numBlocks buffer.len := by
  rw [WritesExactly, nvmeEmuWrite_eq]
  split
  · rename_i short
    refine iff_of_true ?_ (Or.inl short)
    refine ⟨-2, dev, rfl, ?_, ?_⟩
    · exact iff_of_false (by decide) (not_inBounds_of_short short)
    · exact fun zero => absurd zero (by decide)
  · rename_i fits
    split
    · rename_i beyond
      refine iff_of_true ?_ (Or.inr (Or.inr beyond))
      refine ⟨-3, dev, rfl, ?_, ?_⟩
      · exact iff_of_false (by decide) (not_inBounds_of_beyond beyond)
      · exact fun zero => absurd zero (by decide)
    · rename_i inside
      constructor
      · rintro ⟨code, after, written, zero, _⟩
        split at written
        · cases written
        · cases written
          exact checked_of_inBounds (zero.mp rfl)
      · intro checked
        rcases inBounds_of_checked checked fits inside with
          ⟨start, room, within⟩
        have ends : 0 + byteCount dev numBlocks ≤ buffer.len.toNat := by
          rw [Nat.zero_add]
          exact room
        rcases
          @Memory.memcpy_of_inside _ _ dev.data buffer.memory _ _ _
            ⟨ends, within⟩ with
          ⟨copied, done, bytes⟩
        rw [start, done]
        refine ⟨0, _, rfl, ?_, ?_⟩
        · exact iff_of_true rfl ((inBounds_iff _ _ _ _).mpr ⟨room, within⟩)
        · intro zero
          exact bytes

/--
Reads and writes of the device are exact unless their range wraps and passes the
check.
-/
theorem device_exact_iff :
    (ReadsExactly dev lba numBlocks buffer ↔
        Checked dev lba numBlocks buffer.len) ∧
      (WritesExactly dev lba numBlocks buffer ↔
        Checked dev lba numBlocks buffer.len) :=
  ⟨readsExactly_iff, writesExactly_iff⟩

end Exact

/-- A device of one block of 16 bytes. -/
def smallDevice : NvmeEmuDevice where
  sizeBytes := 16
  blockSize := 16
  data := Memory.zeroed 16

/-- A buffer for one block. -/
def smallBuffer : NvmeBuffer where
  len := 16
  memory := Memory.zeroed 16

/--
Block `2 ^ 60` of this device is taken for its first one, and block `2 ^ 60 - 1`
is copied from and to a place outside of it.
-/
theorem far_blocks_not_exact :
    (¬ ReadsExactly smallDevice (2 ^ 60) 1 smallBuffer) ∧
      (¬ WritesExactly smallDevice (2 ^ 60) 1 smallBuffer) ∧
      nvmeEmuRead smallDevice (2 ^ 60 - 1) 1 (some smallBuffer) =
        .error .outOfBounds ∧
      nvmeEmuWrite smallDevice (2 ^ 60 - 1) 1 (some smallBuffer) =
        .error .outOfBounds := by
  have unchecked : ¬ Checked smallDevice (2 ^ 60) 1 smallBuffer.len := by
    rw [Checked, firstByte, byteCount]
    decide +kernel
  refine ⟨?_, ?_, ?_, ?_⟩
  · rw [readsExactly_iff]
    exact unchecked
  · rw [writesExactly_iff]
    exact unchecked
  · decide +kernel
  · decide +kernel

end StorageAppliance.NvmeDrv
