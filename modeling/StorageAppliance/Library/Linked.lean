import Mathlib.Logic.Function.Basic

/-!
# Tables with back pointers

A table sends keys to slots, and every slot in use names its key.  The two are
linked when each is the inverse of the other.  Three changes keep them linked:
a free slot can be given to a new key, a key can give up its slot, and a key
can move to a free slot.
-/

namespace StorageAppliance.Library

universe u v

variable
    {Key : Type u}
    {Slot : Type v}

/-- A key has a slot exactly when the slot names the key. -/
def Linked (table : Key → Option Slot) (owner : Slot → Option Key) : Prop :=
  ∀ key slot, table key = some slot ↔ owner slot = some key

theorem linked_empty :
    Linked (fun _ : Key => (none : Option Slot)) fun _ => none := by
  intro key slot
  simp

variable
    {table : Key → Option Slot}
    {owner : Slot → Option Key}
    {key : Key}

/-- Two keys never share a slot. -/
theorem Linked.injective
    (linked : Linked table owner)
    {other : Key} {slot : Slot}
    (first : table key = some slot)
    (second : table other = some slot) :
    key = other := by
  have firstOwner := (linked key slot).mp first
  have secondOwner := (linked other slot).mp second
  exact Option.some.inj (firstOwner.symm.trans secondOwner)

variable
    [DecidableEq Key]
    [DecidableEq Slot]

/-- A key gives up its slot. -/
theorem Linked.unlink
    (linked : Linked table owner)
    {slot : Slot} (held : table key = some slot) :
    Linked (Function.update table key none)
      (Function.update owner slot none) := by
  intro other target
  by_cases sameKey : other = key
  · subst sameKey
    simp only [Function.update_self, reduceCtorEq, false_iff]
    by_cases sameSlot : target = slot
    · simp [sameSlot]
    · rw [Function.update_of_ne sameSlot]
      intro owned
      have both := (linked other target).mpr owned
      exact sameSlot (Option.some.inj (both.symm.trans held))
  · rw [Function.update_of_ne sameKey]
    by_cases sameSlot : target = slot
    · subst sameSlot
      simp only [Function.update_self, reduceCtorEq, iff_false]
      intro shared
      exact sameKey (linked.injective shared held)
    · rw [Function.update_of_ne sameSlot]
      exact linked other target

/-- A new key takes a free slot. -/
theorem Linked.link
    (linked : Linked table owner)
    {slot : Slot}
    (fresh : table key = none) (free : owner slot = none) :
    Linked (Function.update table key (some slot))
      (Function.update owner slot (some key)) := by
  intro other target
  by_cases sameKey : other = key
  · subst sameKey
    by_cases sameSlot : target = slot
    · simp [sameSlot]
    · have absent : owner target ≠ some other := by
        intro owned
        rw [(linked other target).mpr owned] at fresh
        cases fresh
      simp [Function.update_of_ne sameSlot, absent, Ne.symm sameSlot]
  · rw [Function.update_of_ne sameKey]
    by_cases sameSlot : target = slot
    · subst sameSlot
      have unmapped : table other ≠ some target := by
        intro mapped
        rw [(linked other target).mp mapped] at free
        cases free
      simp [unmapped, Ne.symm sameKey]
    · rw [Function.update_of_ne sameSlot]
      exact linked other target

/-- A key moves to a free slot. -/
theorem Linked.move
    (linked : Linked table owner)
    {source dest : Slot}
    (held : owner source = some key) (free : owner dest = none) :
    Linked (Function.update table key (some dest))
      (Function.update (Function.update owner source none) dest
        (some key)) := by
  have unlinked := linked.unlink ((linked key source).mpr held)
  have stillFree : Function.update owner source none dest = none := by
    by_cases same : dest = source
    · simp [same]
    · rw [Function.update_of_ne same]
      exact free
  have relinked :=
    unlinked.link (Function.update_self key none table) stillFree
  rw [Function.update_idem] at relinked
  exact relinked

end StorageAppliance.Library
