import Mathlib.Data.List.Basic
import Mathlib.Logic.Function.Basic
import Mathlib.Tactic.SplitIfs
import StorageAppliance.Library.SlotRing

/-!
# Rings that refuse entries when they are full

A ring has a number of slots.  Entries are put in at the tail and taken out at
the head.  The ring is empty if the two are the same slot, and full if the tail
would reach the head: one slot always stays unused.

`contents` is the queue that a ring stands for.  Putting an entry in appends it
there, and taking one out removes the first.
-/

namespace StorageAppliance.Library

universe u

variable
    {α : Type u}

/-! ## Distances -/

/-- The number of slots from one to another. -/
def slotDistance (depth head tail : Nat) : Nat :=
  (tail + depth - head) % depth

section Distances

variable
    {depth head tail : Nat}

/-- The next slot is the first one after the last. -/
theorem succ_mod_eq (bound : tail < depth) :
    (tail + 1) % depth = if tail + 1 = depth then 0 else tail + 1 := by
  split
  · rename_i last
    rw [last, Nat.mod_self]
  · exact Nat.mod_eq_of_lt (by omega)

/-- A distance by the order of the two slots. -/
theorem slotDistance_eq (headBound : head < depth) (tailBound : tail < depth) :
    slotDistance depth head tail =
      if head ≤ tail then tail - head else tail + depth - head := by
  rw [slotDistance]
  split
  · have sum : tail + depth - head = tail - head + depth := by
      omega
    rw [sum, Nat.add_mod_right]
    exact Nat.mod_eq_of_lt (by omega)
  · exact Nat.mod_eq_of_lt (by omega)

theorem slotDistance_lt (headBound : head < depth) :
    slotDistance depth head tail < depth :=
  Nat.mod_lt _ (Nat.zero_lt_of_lt headBound)

/-- The end of a distance. -/
theorem add_slotDistance (headBound : head < depth) (tailBound : tail < depth) :
    (head + slotDistance depth head tail) % depth = tail := by
  have sum : head + (tail + depth - head) = tail + depth := by
    omega
  rw [slotDistance, Nat.add_mod_mod, sum, Nat.add_mod_right]
  exact Nat.mod_eq_of_lt tailBound

/-- Moving the second slot on makes a distance one larger. -/
theorem slotDistance_succ_tail
    (headBound : head < depth) (tailBound : tail < depth)
    (apart : (tail + 1) % depth ≠ head) :
    slotDistance depth head ((tail + 1) % depth) =
      slotDistance depth head tail + 1 := by
  have nextBound : (tail + 1) % depth < depth :=
    Nat.mod_lt _ (Nat.zero_lt_of_lt headBound)
  rw [slotDistance_eq headBound nextBound,
    slotDistance_eq headBound tailBound]
  rw [succ_mod_eq tailBound] at apart ⊢
  split_ifs at apart ⊢ <;> omega

/-- Moving the first slot on makes a distance one smaller. -/
theorem slotDistance_succ_head
    (headBound : head < depth) (tailBound : tail < depth)
    (apart : head ≠ tail) :
    slotDistance depth head tail =
      slotDistance depth ((head + 1) % depth) tail + 1 := by
  have nextBound : (head + 1) % depth < depth :=
    Nat.mod_lt _ (Nat.zero_lt_of_lt headBound)
  rw [slotDistance_eq headBound tailBound,
    slotDistance_eq nextBound tailBound, succ_mod_eq headBound]
  split_ifs <;> omega

/-- The next slot is the first one exactly at the largest distance. -/
theorem succ_mod_eq_iff (headBound : head < depth) (tailBound : tail < depth) :
    (tail + 1) % depth = head ↔
      slotDistance depth head tail + 1 = depth := by
  rw [slotDistance_eq headBound tailBound, succ_mod_eq tailBound]
  split_ifs <;> omega

end Distances

/-! ## Rings -/

/-- A ring, with its ends among its slots. -/
structure BoundedRing (α : Type u) where
  slots : Nat → α
  head : Nat
  tail : Nat
  depth : Nat
  head_lt : head < depth
  tail_lt : tail < depth

namespace BoundedRing

/-- The slot after another. -/
def next (ring : BoundedRing α) (slot : Nat) : Nat :=
  (slot + 1) % ring.depth

theorem next_lt (ring : BoundedRing α) (slot : Nat) :
    ring.next slot < ring.depth :=
  Nat.mod_lt _ (Nat.zero_lt_of_lt ring.head_lt)

/-- The tail would reach the head. -/
def IsFull (ring : BoundedRing α) : Prop :=
  ring.next ring.tail = ring.head

instance decidableIsFull (ring : BoundedRing α) : Decidable ring.IsFull :=
  inferInstanceAs (Decidable (ring.next ring.tail = ring.head))

/-- Put an entry in at the tail, unless the ring is full. -/
def push (ring : BoundedRing α) (entry : α) : Option (BoundedRing α) :=
  if ring.IsFull then
    none
  else
    some
      { ring with
        slots := Function.update ring.slots ring.tail entry
        tail := ring.next ring.tail
        tail_lt := ring.next_lt ring.tail }

/-- Take the entry at the head out, unless the ring is empty. -/
def pop (ring : BoundedRing α) : Option (α × BoundedRing α) :=
  if ring.head = ring.tail then
    none
  else
    some
      (ring.slots ring.head,
        { ring with
          head := ring.next ring.head
          head_lt := ring.next_lt ring.head })

/-- Empty a ring and give it another number of slots. -/
def reset (ring : BoundedRing α) (depth : Nat) (positive : 0 < depth) :
    BoundedRing α where
  slots := ring.slots
  head := 0
  tail := 0
  depth := depth
  head_lt := positive
  tail_lt := positive

/-- The number of entries. -/
def count (ring : BoundedRing α) : Nat :=
  slotDistance ring.depth ring.head ring.tail

/-- The entries in the order in which they are taken out. -/
def contents (ring : BoundedRing α) : List α :=
  (List.range ring.count).map fun place =>
    ring.slots ((ring.head + place) % ring.depth)

section Counts

variable
    (ring : BoundedRing α)

theorem length_contents : ring.contents.length = ring.count := by
  rw [contents, List.length_map, List.length_range]

/-- A ring is full when all slots but one have entries. -/
theorem isFull_iff : ring.IsFull ↔ ring.contents.length + 1 = ring.depth := by
  rw [length_contents]
  exact succ_mod_eq_iff ring.head_lt ring.tail_lt

/-- No entry is at the tail. -/
theorem slot_ne_tail {place : Nat} (bound : place < ring.count) :
    (ring.head + place) % ring.depth ≠ ring.tail := by
  have fewer : ring.count < ring.depth :=
    slotDistance_lt ring.head_lt
  have last := add_slotDistance ring.head_lt ring.tail_lt
  intro same
  have places :=
    SlotRing.slot_injective (Nat.add_le_add_left bound.le ring.head)
      (by omega) (same.trans last.symm)
  exact absurd (Nat.add_left_cancel places) bound.ne

end Counts

section Operations

variable
    {ring : BoundedRing α}

theorem contents_reset (depth : Nat) (positive : 0 < depth) :
    (ring.reset depth positive).contents = [] := by
  have none : (ring.reset depth positive).count = 0 :=
    slotDistance_eq positive positive
  rw [contents, none]
  rfl

theorem push_of_full (full : ring.IsFull) (entry : α) :
    ring.push entry = none :=
  if_pos full

/-- No operation but a reset changes the number of slots. -/
theorem depth_of_push
    {entry : α} {pushed : BoundedRing α}
    (done : ring.push entry = some pushed) : pushed.depth = ring.depth := by
  rw [push] at done
  split at done
  · cases done
  · cases done
    rfl

theorem depth_of_pop
    {entry : α} {popped : BoundedRing α}
    (taken : ring.pop = some (entry, popped)) :
    popped.depth = ring.depth := by
  rw [pop] at taken
  split at taken
  · cases taken
  · cases taken
    rfl

/-- An entry that is put in is the last one. -/
theorem push_of_room (room : ¬ ring.IsFull) (entry : α) :
    ∃ pushed,
      ring.push entry = some pushed ∧
        pushed.contents = ring.contents ++ [entry] := by
  refine ⟨_, if_neg room, ?_⟩
  have more :
      slotDistance ring.depth ring.head (ring.next ring.tail) =
        ring.count + 1 :=
    slotDistance_succ_tail ring.head_lt ring.tail_lt room
  have last : (ring.head + ring.count) % ring.depth = ring.tail :=
    add_slotDistance ring.head_lt ring.tail_lt
  rw [contents, contents, count, more, List.range_succ, List.map_append]
  congr 1
  · apply List.map_congr_left
    intro place member
    exact
      Function.update_of_ne (ring.slot_ne_tail (List.mem_range.mp member)) _
        _
  · show [Function.update ring.slots ring.tail entry _] = [entry]
    rw [last, Function.update_self]

/-- An entry is missing only where there are none. -/
theorem contents_of_pop_none (empty : ring.pop = none) :
    ring.contents = [] := by
  rw [pop] at empty
  split at empty
  · rename_i same
    have none : ring.count = 0 := by
      rw [count, same, slotDistance_eq ring.tail_lt ring.tail_lt,
        if_pos le_rfl, Nat.sub_self]
    rw [contents, none]
    rfl
  · cases empty

/-- The entry that is taken out is the first one. -/
theorem contents_of_pop
    {entry : α} {popped : BoundedRing α}
    (taken : ring.pop = some (entry, popped)) :
    ring.contents = entry :: popped.contents := by
  rw [pop] at taken
  split at taken
  · cases taken
  · rename_i apart
    cases taken
    have fewer :
        ring.count =
          slotDistance ring.depth (ring.next ring.head) ring.tail + 1 :=
      slotDistance_succ_head ring.head_lt ring.tail_lt apart
    rw [contents, fewer, List.range_succ_eq_map, List.map_cons,
      List.map_map, contents, count]
    congr 1
    · rw [Nat.add_zero, Nat.mod_eq_of_lt ring.head_lt]
    · apply List.map_congr_left
      intro place member
      show
        ring.slots ((ring.head + (place + 1)) % ring.depth) =
          ring.slots ((ring.next ring.head + place) % ring.depth)
      rw [next, Nat.mod_add_mod, Nat.add_assoc, Nat.add_comm 1 place]

end Operations

end BoundedRing

end StorageAppliance.Library
