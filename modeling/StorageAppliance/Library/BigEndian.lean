import Mathlib.Data.List.Basic
import Mathlib.Tactic.Ring

/-!
# Fixed-width big-endian numbers

The byte string of a given width that holds a natural number, most significant
byte first, and the number a byte string holds.  A number that fits the width
is read back exactly.
-/

namespace StorageAppliance.Library

/-- The `width` low-order bytes of a number, most significant byte first. -/
def toBigEndian : Nat → Nat → List UInt8
  | 0, _ => []
  | width + 1, number =>
      toBigEndian width (number / 256) ++ [UInt8.ofNat number]

/-- The number whose big-endian bytes are given. -/
def ofBigEndian (bytes : List UInt8) : Nat :=
  bytes.foldl (fun total byte => total * 256 + byte.toNat) 0

@[simp]
theorem length_toBigEndian (width number : Nat) :
    (toBigEndian width number).length = width := by
  induction width generalizing number with
  | zero => rfl
  | succ width induction => simp [toBigEndian, induction]

theorem ofBigEndian_concat (bytes : List UInt8) (byte : UInt8) :
    ofBigEndian (bytes ++ [byte]) =
      ofBigEndian bytes * 256 + byte.toNat := by
  simp [ofBigEndian]

/-- A number that fits the width is read back exactly. -/
theorem ofBigEndian_toBigEndian
    {width number : Nat} (fits : number < 256 ^ width) :
    ofBigEndian (toBigEndian width number) = number := by
  induction width generalizing number with
  | zero =>
      have zero : number = 0 := by simpa using fits
      subst zero
      rfl
  | succ width induction =>
      have highFits : number / 256 < 256 ^ width := by
        apply Nat.div_lt_of_lt_mul
        rw [pow_succ] at fits
        omega
      have lowByte : (UInt8.ofNat number).toNat = number % 256 := by
        simp
      rw [toBigEndian, ofBigEndian_concat, induction highFits, lowByte]
      omega

end StorageAppliance.Library
