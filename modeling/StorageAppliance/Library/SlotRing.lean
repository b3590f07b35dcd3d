import Mathlib.Data.List.Induction
import Mathlib.Data.List.Perm.Subperm
import Mathlib.Data.Nat.ModEq

/-!
# Rings of entries

A ring has a number of slots.  An entry is put in the slot at the tail, and the
tail then moves to the next slot, which is the first one after the last.

An entry is therefore put in the slot whose number is the remainder of its own
number.  `entries_putAll` says what is in the slots that are used next: nothing
in the first round, and later the entry put there one round before.
-/

namespace StorageAppliance.Library

universe u

variable
    {α : Type u}

/-- A ring of slots. -/
structure SlotRing (α : Type u) where
  entries : List (Option α)
  head : Nat
  tail : Nat
  size : Nat
deriving DecidableEq

namespace SlotRing

/-- A ring without entries. -/
def new (size : Nat) : SlotRing α where
  entries := List.replicate size none
  head := 0
  tail := 0
  size := size

/-- Put an entry in the slot at the tail. -/
def put (self : SlotRing α) (entry : α) : SlotRing α :=
  { self with
    entries := self.entries.set self.tail (some entry)
    tail := (self.tail + 1) % self.size }

/-- Put entries in order. -/
def putAll (self : SlotRing α) (entries : List α) : SlotRing α :=
  entries.foldl put self

/-- A slot has an entry that the head has not passed. -/
def Unconsumed (self : SlotRing α) (slot : Nat) : Prop :=
  (∃ entry, self.entries[slot]? = some (some entry)) ∧ self.head ≤ slot

variable
    {size : Nat}
    (entries : List α)

theorem putAll_append_singleton (self : SlotRing α) (entry : α) :
    self.putAll (entries ++ [entry]) = (self.putAll entries).put entry := by
  rw [putAll, putAll, List.foldl_append]
  rfl

/-- Putting entries changes neither the head nor the slots there are. -/
theorem putAll_frame (self : SlotRing α) :
    (self.putAll entries).head = self.head ∧
      (self.putAll entries).size = self.size ∧
      (self.putAll entries).entries.length = self.entries.length := by
  induction entries generalizing self with
  | nil => exact ⟨rfl, rfl, rfl⟩
  | cons entry rest induction =>
      rcases induction (self.put entry) with ⟨head, size, length⟩
      exact ⟨head, size, length.trans List.length_set⟩

@[simp]
theorem head_putAll : ((new size).putAll entries).head = 0 :=
  (putAll_frame entries (new size)).1

@[simp]
theorem size_putAll : ((new size).putAll entries).size = size :=
  (putAll_frame entries (new size)).2.1

@[simp]
theorem length_entries_putAll :
    ((new size).putAll entries).entries.length = size :=
  (putAll_frame entries (new size)).2.2.trans List.length_replicate

/-- The tail is at the remainder of the number of entries. -/
@[simp]
theorem tail_putAll :
    ((new size).putAll entries).tail = entries.length % size := by
  induction entries using List.reverseRecOn with
  | nil =>
      show 0 = 0 % size
      exact (Nat.zero_mod size).symm
  | append_singleton rest entry induction =>
      rw [putAll_append_singleton]
      show
        (((new size).putAll rest).tail + 1) %
            ((new size).putAll rest).size =
          _
      rw [induction, size_putAll, Nat.mod_add_mod, List.length_append]
      rfl

/-- Numbers that are less than a round apart have different slots. -/
theorem slot_injective {first second : Nat}
    (ordered : first ≤ second) (near : second < first + size)
    (same : first % size = second % size) :
    first = second := by
  have divides : size ∣ second - first :=
    (Nat.modEq_iff_dvd' ordered).mp same
  have none : second - first = 0 :=
    Nat.eq_zero_of_dvd_of_lt divides (by omega)
  omega

/-- The number of slots from one entry to another that is less than a round later. -/
theorem distance {first second : Nat}
    (positive : 0 < size) (ordered : first ≤ second)
    (near : second < first + size) :
    (second % size + (size - first % size)) % size = second - first := by
  have bound : first % size < size := Nat.mod_lt _ positive
  have whole :
      second % size + (size - first % size) + first ≡
        second - first + first [MOD size] :=
    calc
      second % size + (size - first % size) + first
      _ ≡ second + (size - first % size) + first % size [MOD size] :=
        ((Nat.mod_modEq second size).add_right _).add
          (Nat.mod_modEq first size).symm
      _ = second + size := by
        omega
      _ ≡ second [MOD size] := Nat.add_modEq_right
      _ = second - first + first := (Nat.sub_add_cancel ordered).symm
  have same := Nat.ModEq.add_right_cancel' first whole
  rw [same, Nat.mod_eq_of_lt (by omega)]

/--
The slot that the entry with a number within the next round will be put in holds
the entry that was put one round before it.
-/
theorem entries_putAll (number : Nat)
    (positive : 0 < size)
    (next : entries.length ≤ number)
    (near : number < entries.length + size) :
    ((new size).putAll entries).entries[number % size]? =
      some (if number < size then none else entries[number - size]?) := by
  induction entries using List.reverseRecOn with
  | nil =>
      have inside : number < size := by
        simpa using near
      rw [if_pos inside]
      exact List.getElem?_replicate_of_lt (Nat.mod_lt number positive)
  | append_singleton rest entry induction =>
      rw [List.length_append, List.length_singleton] at next near
      rw [putAll_append_singleton]
      show
        (((new size).putAll rest).entries.set
              ((new size).putAll rest).tail (some entry))[number % size]? =
          _
      rw [tail_putAll]
      by_cases last : number = rest.length + size
      · have written : number % size = rest.length % size := by
          rw [last, Nat.add_mod_right]
        have later : ¬ number < size := by
          omega
        have latest : number - size = rest.length := by
          omega
        rw [written, List.getElem?_set_self, if_neg later, latest,
          List.getElem?_concat_length]
        rw [length_entries_putAll]
        exact Nat.mod_lt rest.length positive
      · have apart : rest.length % size ≠ number % size := by
          intro same
          have equal := slot_injective (by omega) (by omega) same
          omega
        rw [List.getElem?_set_ne apart,
          induction (by omega) (by omega)]
        by_cases inside : number < size
        · rw [if_pos inside, if_pos inside]
        · rw [if_neg inside, if_neg inside,
            List.getElem?_append_left (by omega)]

/-- The slot at the tail has an entry once all slots have been used. -/
theorem unconsumed_tail_iff (positive : 0 < size) :
    ((new size).putAll entries).Unconsumed
        ((new size).putAll entries).tail ↔
      size ≤ entries.length := by
  rw [Unconsumed, head_putAll, tail_putAll,
    entries_putAll entries entries.length positive le_rfl (by omega)]
  by_cases round : entries.length < size
  · simp [round]
  · have inside : entries.length - size < entries.length := by
      omega
    rw [if_neg round, List.getElem?_eq_getElem inside]
    simp [Nat.not_lt.mp round]

/-- There are at most as many different slots as the size. -/
theorem length_le_of_slots {slots : List Nat}
    (apart : slots.Nodup) (inside : ∀ slot ∈ slots, slot < size) :
    slots.length ≤ size := by
  have listed : slots ⊆ List.range size := by
    intro slot member
    exact List.mem_range.mpr (inside slot member)
  have shorter := (List.subperm_of_subset apart listed).length_le
  rwa [List.length_range] at shorter

end SlotRing

end StorageAppliance.Library
