import Mathlib.Data.Nat.Notation

/-!
# Numbers given out by a counter of 16 bits

A counter that starts at some base gives the taker with number `n` the ticket
`base + n`, modulo `2 ^ 16`.  Two takers hold the same ticket exactly if a
multiple of `2 ^ 16` takers separates them.
-/

namespace StorageAppliance.Library

/-- The ticket of the taker with a number. -/
def ticket (base : UInt16) (number : ℕ) : UInt16 :=
  base + UInt16.ofNat number

@[simp]
theorem ticket_zero (base : UInt16) : ticket base 0 = base :=
  UInt16.add_zero base

/-- The counter is incremented for each taker. -/
theorem ticket_succ (base : UInt16) (number : ℕ) :
    ticket base (number + 1) = ticket base number + 1 := by
  show base + UInt16.ofNat (number + 1) = base + UInt16.ofNat number + 1
  rw [UInt16.ofNat_add, UInt16.add_assoc]
  rfl

theorem ticket_eq_ticket_iff
    {base : UInt16} {earlier later : ℕ}
    (ordered : earlier ≤ later) :
    ticket base later = ticket base earlier ↔
      (later - earlier) % 65536 = 0 := by
  unfold ticket
  rw [UInt16.add_right_inj, ← UInt16.toNat_inj, UInt16.toNat_ofNat',
    UInt16.toNat_ofNat']
  omega

/-- Fewer than `2 ^ 16` takers hold different tickets. -/
theorem ticket_ne_ticket
    {base : UInt16} {earlier later : ℕ}
    (before : earlier < later) (few : later < earlier + 65536) :
    ticket base later ≠ ticket base earlier := by
  intro same
  have apart := (ticket_eq_ticket_iff (Nat.le_of_lt before)).mp same
  omega

end StorageAppliance.Library
