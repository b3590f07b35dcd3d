import Mathlib.Data.List.Basic
import Mathlib.Tactic.Ring

/-!
# Fixed-width little-endian numbers

The byte string of a given width that holds a natural number, least significant
byte first, and the number a byte string holds.  A number that fits the width is
read back exactly.
-/

namespace StorageAppliance.Library

/-- The `width` low-order bytes of a number, least significant byte first. -/
def toLittleEndian : Nat → Nat → List UInt8
  | 0, _ => []
  | width + 1, number =>
      UInt8.ofNat number :: toLittleEndian width (number / 256)

/-- The number whose little-endian bytes are given. -/
def ofLittleEndian (bytes : List UInt8) : Nat :=
  bytes.foldr (fun byte total => byte.toNat + 256 * total) 0

@[simp]
theorem length_toLittleEndian (width number : Nat) :
    (toLittleEndian width number).length = width := by
  induction width generalizing number with
  | zero => rfl
  | succ width induction => simp [toLittleEndian, induction]

/-- A number that fits the width is read back exactly. -/
theorem ofLittleEndian_toLittleEndian
    {width number : Nat} (fits : number < 256 ^ width) :
    ofLittleEndian (toLittleEndian width number) = number := by
  induction width generalizing number with
  | zero =>
      have zero : number = 0 := by simpa using fits
      subst zero
      rfl
  | succ width induction =>
      have highFits : number / 256 < 256 ^ width := by
        apply Nat.div_lt_of_lt_mul
        rw [pow_succ] at fits
        omega
      have lowByte : (UInt8.ofNat number).toNat = number % 256 := by
        simp
      change
        (UInt8.ofNat number).toNat +
            256 * ofLittleEndian (toLittleEndian width (number / 256)) =
          number
      rw [induction highFits, lowByte]
      omega

theorem ofLittleEndian_cons (byte : UInt8) (bytes : List UInt8) :
    ofLittleEndian (byte :: bytes) =
      byte.toNat + 256 * ofLittleEndian bytes :=
  rfl

/-- The number of a byte string fits its width. -/
theorem ofLittleEndian_lt (bytes : List UInt8) :
    ofLittleEndian bytes < 256 ^ bytes.length := by
  induction bytes with
  | nil => exact Nat.one_pos
  | cons byte bytes induction =>
      have bound := byte.toNat_lt
      rw [ofLittleEndian_cons, List.length_cons, pow_succ]
      omega

/-- A byte string is the only one of its width for its number. -/
theorem toLittleEndian_ofLittleEndian (bytes : List UInt8) :
    toLittleEndian bytes.length (ofLittleEndian bytes) = bytes := by
  induction bytes with
  | nil => rfl
  | cons byte bytes induction =>
      have bound := byte.toNat_lt
      have low : UInt8.ofNat (ofLittleEndian (byte :: bytes)) = byte := by
        rw [← UInt8.toNat_inj, UInt8.toNat_ofNat', ofLittleEndian_cons]
        omega
      have high :
          ofLittleEndian (byte :: bytes) / 256 = ofLittleEndian bytes := by
        rw [ofLittleEndian_cons]
        omega
      rw [List.length_cons, toLittleEndian, low, high, induction]

end StorageAppliance.Library
