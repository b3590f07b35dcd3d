import StorageAppliance.Library.SlotRing

/-!
# Rings with phases

A producer puts entries in a ring of slots and tags them with a phase, which is
one in its first round through the slots and then changes with every round.  The
consumer cannot see how many entries there are.  It looks at the slot that it
reads next, and takes the entry if the tag is the phase of its own round.

This is right as long as the producer is at most one round ahead
(`tag_ringMemory_iff`): the slot then has the next entry, or one of the round
before, or it is blank, and the last two have the other tag.
-/

namespace StorageAppliance.Library

universe u

variable
    {α : Type u}
    {size number : Nat}

/-! ## Phases -/

/-- The phase of the round in which an entry with a number is put. -/
def phaseTag (size number : Nat) : Nat :=
  (number / size + 1) % 2

theorem phaseTag_zero (size : Nat) : phaseTag size 0 = 1 := by
  rw [phaseTag, Nat.zero_div]

/-- The phase changes at the first slot. -/
theorem phaseTag_succ (size number : Nat) :
    phaseTag size (number + 1) =
      if (number + 1) % size = 0 then
        if phaseTag size number = 0 then 1 else 0
      else
        phaseTag size number := by
  rw [phaseTag, phaseTag, Nat.succ_div]
  by_cases wraps : size ∣ number + 1
  · rw [if_pos wraps, if_pos (Nat.mod_eq_zero_of_dvd wraps)]
    split
    · omega
    · omega
  · have inside : ¬ (number + 1) % size = 0 :=
      fun zero => wraps (Nat.dvd_of_mod_eq_zero zero)
    rw [if_neg wraps, if_neg inside, Nat.add_zero]

/-- The phase of the round before is the other one. -/
theorem phaseTag_sub (positive : 0 < size) (later : size ≤ number) :
    phaseTag size (number - size) ≠ phaseTag size number := by
  have round : number / size = (number - size) / size + 1 := by
    rw [← Nat.add_div_right _ positive, Nat.sub_add_cancel later]
  rw [phaseTag, phaseTag, round]
  omega

/-- The first slot in the first phase: an even number of rounds has passed. -/
theorem first_slot_iff (positive : 0 < size) :
    number % size = 0 ∧ phaseTag size number = 1 ↔ 2 * size ∣ number := by
  constructor
  · rintro ⟨first, phase⟩
    rcases Nat.dvd_of_mod_eq_zero first with ⟨rounds, rfl⟩
    rw [phaseTag, Nat.mul_div_cancel_left _ positive] at phase
    have even : 2 ∣ rounds := by
      omega
    rw [Nat.mul_comm 2 size]
    exact Nat.mul_dvd_mul_left size even
  · rintro ⟨rounds, rfl⟩
    have slots : 2 * size * rounds = size * (2 * rounds) := by
      rw [Nat.mul_comm 2 size, Nat.mul_assoc]
    rw [slots, phaseTag, Nat.mul_mod_right,
      Nat.mul_div_cancel_left _ positive]
    exact ⟨rfl, by omega⟩

/-! ## The memory of a ring -/

/-- The slots after some entries, where an unused slot is blank. -/
def ringMemory (blank : α) (size : Nat) (posted : List α) : List α :=
  ((SlotRing.new size).putAll posted).entries.map fun entry =>
    entry.getD blank

section Memory

variable
    {blank : α}
    {posted : List α}

theorem ringMemory_nil (blank : α) (size : Nat) :
    ringMemory blank size [] = List.replicate size blank := by
  show (List.replicate size none).map _ = _
  rw [List.map_replicate]
  rfl

/-- An entry is put in the slot of its number. -/
theorem ringMemory_concat (entry : α) :
    ringMemory blank size (posted ++ [entry]) =
      (ringMemory blank size posted).set (posted.length % size) entry := by
  rw [ringMemory, ringMemory, SlotRing.putAll_append_singleton,
    SlotRing.put, SlotRing.tail_putAll, List.map_set]
  rfl

/-- An entry is in its slot until the next round. -/
theorem ringMemory_posted
    (positive : 0 < size)
    (put : number < posted.length) (near : posted.length ≤ number + size) :
    (ringMemory blank size posted)[number % size]? = posted[number]? := by
  have slot :=
    SlotRing.entries_putAll posted (number + size) positive near (by omega)
  rw [Nat.add_mod_right, if_neg (by omega), Nat.add_sub_cancel,
    List.getElem?_eq_getElem put] at slot
  rw [ringMemory, List.getElem?_map, slot, List.getElem?_eq_getElem put]
  rfl

/-- Before an entry is put, its slot is as the round before left it. -/
theorem ringMemory_next (positive : 0 < size) :
    (ringMemory blank size posted)[posted.length % size]? =
      some
        (if posted.length < size then
          blank
        else
          posted[posted.length - size]?.getD blank) := by
  have slot :=
    SlotRing.entries_putAll posted posted.length positive le_rfl (by omega)
  rw [ringMemory, List.getElem?_map, slot]
  split <;> rfl

/-- The consumer sees its phase exactly if the entry that it waits for is there. -/
theorem tag_ringMemory_iff
    {tag : α → Nat} {entry : α}
    (positive : 0 < size) (unused : tag blank = 0)
    (tagged :
      ∀ number entry,
        posted[number]? = some entry → tag entry = phaseTag size number)
    (least : number ≤ posted.length)
    (near : posted.length ≤ number + size)
    (seen : (ringMemory blank size posted)[number % size]? = some entry) :
    tag entry = phaseTag size number ↔ number < posted.length := by
  by_cases put : number < posted.length
  · rw [ringMemory_posted positive put near] at seen
    exact iff_of_true (tagged number entry seen) put
  · have next : number = posted.length := Nat.le_antisymm least (by omega)
    refine iff_of_false ?_ put
    rw [next, ringMemory_next positive, Option.some.injEq] at seen
    rw [next]
    split at seen
    · rename_i first
      rw [← seen, unused, phaseTag, Nat.div_eq_of_lt first]
      decide
    · rename_i later
      have inside : posted.length - size < posted.length := by
        omega
      rw [List.getElem?_eq_getElem inside, Option.getD_some] at seen
      have before :=
        tagged (posted.length - size) entry
          (by rw [List.getElem?_eq_getElem inside, seen])
      rw [before]
      exact phaseTag_sub positive (Nat.le_of_not_lt later)

end Memory

end StorageAppliance.Library
