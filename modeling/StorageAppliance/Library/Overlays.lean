import Mathlib.Data.List.Basic

/-!
# Stores of values by address

A store gives each address a value.  A list of values can be laid over it from
an address on, and a window reads consecutive addresses.  `Holds` relates the
store to a list that has the values of its first addresses, and the rules say
that splicing the list overlays the store and that slicing it is a window.
-/

namespace StorageAppliance.Library

universe u

variable
    {Value : Type u}

/-- Values laid over a store from an address on. -/
def overlay (store : Nat → Value) (start : Nat) (values : List Value) :
    Nat → Value :=
  fun address =>
    if start ≤ address then
      values[address - start]?.getD (store address)
    else
      store address

/-- The values at consecutive addresses. -/
def window (store : Nat → Value) (start length : Nat) : List Value :=
  (List.range length).map fun index => store (start + index)

/-- The list has the values of the first addresses. -/
def Holds (values : List Value) (store : Nat → Value) : Prop :=
  ∀ address (inside : address < values.length),
    values[address] = store address

section Overlays

variable
    {store : Nat → Value}
    {start length : Nat}
    {values patch : List Value}

@[simp]
theorem length_window : (window store start length).length = length := by
  rw [window, List.length_map, List.length_range]

theorem getElem_window
    {index : Nat} (inside : index < (window store start length).length) :
    (window store start length)[index] = store (start + index) := by
  simp only [window, List.getElem_map, List.getElem_range]

/-- Inside the overlay there are the new values. -/
theorem overlay_inside
    {index : Nat} (inside : index < patch.length) :
    overlay store start patch (start + index) = patch[index] := by
  have offset : start + index - start = index :=
    Nat.add_sub_cancel_left start index
  rw [overlay, if_pos (Nat.le_add_right start index), offset,
    List.getElem?_eq_getElem inside, Option.getD_some]

/-- Outside of the overlay nothing changes. -/
theorem overlay_outside
    {address : Nat}
    (outside : address < start ∨ start + patch.length ≤ address) :
    overlay store start patch address = store address := by
  rw [overlay]
  split
  · rename_i above
    have beyond : patch.length ≤ address - start := by
      omega
    rw [List.getElem?_eq_none beyond, Option.getD_none]
  · rfl

/-- A slice of the list is a window on the store. -/
theorem Holds.slice
    (holds : Holds values store)
    (fits : start + length ≤ values.length) :
    (values.drop start).take length = window store start length := by
  apply List.ext_getElem
  · rw [List.length_take, List.length_drop, length_window]
    omega
  · intro index left _
    rw [List.length_take, List.length_drop] at left
    rw [List.getElem_take, List.getElem_drop, getElem_window]
    exact holds (start + index) (by omega)

/-- Splicing the list lays the values over the store. -/
theorem Holds.splice
    (holds : Holds values store)
    (fits : start + patch.length ≤ values.length) :
    Holds
      (values.take start ++ patch ++ values.drop (start + patch.length))
      (overlay store start patch) := by
  intro address inside
  have kept : (values.take start).length = start := by
    rw [List.length_take]
    omega
  rcases Nat.lt_or_ge address start with below | above
  · rw [overlay_outside (Or.inl below),
      List.getElem_append_left
        (by rw [List.length_append, kept]; omega),
      List.getElem_append_left (kept.symm ▸ below), List.getElem_take]
    exact holds address (by omega)
  · rcases Nat.lt_or_ge address (start + patch.length) with
      within | beyond
    · rcases Nat.exists_eq_add_of_le above with ⟨index, rfl⟩
      have place : index < patch.length := by
        omega
      rw [overlay_inside place,
        List.getElem_append_left
          (by rw [List.length_append, kept]; omega),
        List.getElem_append_right (by omega)]
      simp only [kept, Nat.add_sub_cancel_left]
    · rw [overlay_outside (Or.inr beyond),
        List.getElem_append_right
          (by rw [List.length_append, kept]; omega),
        List.getElem_drop]
      have place :
          start + patch.length +
              (address - (values.take start ++ patch).length) =
            address := by
        rw [List.length_append, kept]
        omega
      rw [List.length_append, List.length_append, List.length_drop,
        kept] at inside
      simp only [place]
      exact holds address (by omega)

/-- Values that are cut where the list ends are laid over the store as well. -/
theorem Holds.overwrite
    (holds : Holds values store)
    (inside : start ≤ values.length) :
    Holds
      (values.take start ++
        (patch.take (values.length - start) ++
          values.drop (start + patch.length)))
      (overlay store start patch) := by
  rcases Nat.le_total (start + patch.length) values.length with
    fits | beyond
  · have whole : patch.take (values.length - start) = patch :=
      List.take_of_length_le (by omega)
    rw [whole, ← List.append_assoc]
    exact holds.splice fits
  · have cut : (patch.take (values.length - start)).length =
        values.length - start := by
      rw [List.length_take]
      omega
    have fits :
        start + (patch.take (values.length - start)).length ≤
          values.length := by
      omega
    have spliced := holds.splice fits
    rw [cut, Nat.add_sub_cancel' inside, List.drop_length,
      List.append_nil] at spliced
    rw [List.drop_of_length_le beyond, List.append_nil]
    intro address within
    have below : address < values.length := by
      rw [List.length_append, List.length_take, cut] at within
      omega
    rw [spliced address within, overlay, overlay]
    split
    · rename_i above
      have short : address - start < values.length - start := by
        omega
      rw [List.getElem?_take_of_lt short]
    · rfl

end Overlays

end StorageAppliance.Library
