import StorageAppliance.Library.Dict

/-!
# Objects behind references

Objects that are created one after the other and never moved, so that the place
of an object in a list is a reference to it.  A registry is a dictionary of
references, and names its objects if every entry refers to an object whose name
is its key.  No two entries of such a registry refer to the same object.
-/

namespace StorageAppliance.Library

universe u v

/-! ## Properties of objects -/

section Objects

variable
    {Object : Type u}
    {objects : List Object}
    {property : Object → Prop}
    {ref : Nat}

/-- The object behind a reference has a property. -/
def HoldsAt
    (objects : List Object) (property : Object → Prop) (ref : Nat) : Prop :=
  ∃ object, objects[ref]? = some object ∧ property object

theorem holdsAt_iff_of_found
    {object : Object} (found : objects[ref]? = some object) :
    HoldsAt objects property ref ↔ property object := by
  constructor
  · rintro ⟨other, same, holds⟩
    cases found.symm.trans same
    exact holds
  · exact fun holds => ⟨object, found, holds⟩

theorem HoldsAt.lt_length (holds : HoldsAt objects property ref) :
    ref < objects.length := by
  rcases holds with ⟨object, found, _⟩
  exact (List.getElem?_eq_some_iff.mp found).1

/-- A created object is behind the next reference. -/
theorem holdsAt_concat_iff {object : Object} :
    HoldsAt (objects ++ [object]) property ref ↔
      HoldsAt objects property ref ∨
        ref = objects.length ∧ property object := by
  rcases Nat.lt_trichotomy ref objects.length with before | rfl | after
  · rw [HoldsAt, List.getElem?_append_left before]
    exact (or_iff_left fun last => Nat.ne_of_lt before last.1).symm
  · rw [holdsAt_iff_of_found List.getElem?_concat_length]
    constructor
    · exact fun holds => Or.inr ⟨rfl, holds⟩
    · rintro (holds | ⟨_, holds⟩)
      · exact absurd holds.lt_length (Nat.lt_irrefl _)
      · exact holds
  · apply iff_of_false
    · intro holds
      have inside := holds.lt_length
      rw [List.length_append, List.length_singleton] at inside
      exact absurd after (Nat.not_lt.mpr (Nat.le_of_lt_succ inside))
    · rintro (holds | ⟨last, _⟩)
      · exact Nat.lt_asymm after holds.lt_length
      · exact Nat.ne_of_gt after last

/-- An object that is changed is changed behind its reference. -/
theorem holdsAt_modify_self {change : Object → Object} :
    HoldsAt (objects.modify ref change) property ref ↔
      HoldsAt objects (fun object => property (change object)) ref := by
  rw [HoldsAt, List.getElem?_modify_eq]
  constructor
  · rintro ⟨object, found, holds⟩
    rcases Option.map_eq_some_iff.mp found with ⟨old, oldFound, rfl⟩
    exact ⟨old, oldFound, holds⟩
  · rintro ⟨old, found, holds⟩
    exact ⟨change old, Option.map_eq_some_iff.mpr ⟨old, found, rfl⟩, holds⟩

/-- The others are kept. -/
theorem holdsAt_modify_ne
    {change : Object → Object} {other : Nat} (apart : other ≠ ref) :
    HoldsAt (objects.modify ref change) property other ↔
      HoldsAt objects property other := by
  rw [HoldsAt, List.getElem?_modify_ne change objects apart.symm]
  rfl

/-- A property that a change keeps is kept behind every reference. -/
theorem holdsAt_modify_of_kept
    {change : Object → Object} {other : Nat}
    (kept : ∀ object, property (change object) ↔ property object) :
    HoldsAt (objects.modify ref change) property other ↔
      HoldsAt objects property other := by
  by_cases same : other = ref
  · rw [same, holdsAt_modify_self]
    simp only [kept]
  · exact holdsAt_modify_ne same

end Objects

/-! ## Registries -/

namespace Dict

variable
    {Key : Type v}
    [DecidableEq Key]
    {Object : Type u}
    {dict : Dict Key Nat}
    {objects : List Object}
    {name : Object → Key}

/-- Some entry is a reference. -/
def Refers (dict : Dict Key Nat) (ref : Nat) : Prop :=
  ∃ key, dict.get? key = some ref

/-- Every entry refers to an object that has its key for a name. -/
def Names
    (dict : Dict Key Nat) (objects : List Object) (name : Object → Key) :
    Prop :=
  ∀ key ref,
    dict.get? key = some ref →
      HoldsAt objects (fun object => name object = key) ref

theorem names_empty :
    (empty : Dict Key Nat).Names objects name := by
  rintro key ref ⟨⟩

namespace Names

variable
    {key : Key}
    {ref : Nat}

/-- No two entries refer to the same object. -/
theorem key_unique
    (names : dict.Names objects name) {first second : Key}
    (left : dict.get? first = some ref)
    (right : dict.get? second = some ref) : first = second := by
  rcases names first ref left with ⟨object, found, rfl⟩
  exact (holdsAt_iff_of_found found).mp (names second ref right)

theorem lt_length
    (names : dict.Names objects name) (refers : dict.Refers ref) :
    ref < objects.length := by
  rcases refers with ⟨key, found⟩
  exact (names key ref found).lt_length

/-- A created object is registered under its name. -/
theorem set_concat
    (names : dict.Names objects name) (object : Object) :
    (dict.set (name object) objects.length).Names (objects ++ [object])
      name := by
  intro key ref found
  rw [holdsAt_concat_iff]
  by_cases same : key = name object
  · rw [same, get?_set_self] at found
    cases found
    exact Or.inr ⟨rfl, same.symm⟩
  · rw [get?_set_ne dict _ same] at found
    exact Or.inl (names key ref found)

theorem erase (names : dict.Names objects name) (key : Key) :
    (dict.erase key).Names objects name := by
  intro other ref found
  exact names other ref (get?_of_erase found).2

theorem modify
    (names : dict.Names objects name) {change : Object → Object}
    (kept : ∀ object, name (change object) = name object) (ref : Nat) :
    dict.Names (objects.modify ref change) name := by
  intro key other found
  rw [holdsAt_modify_of_kept]
  · exact names key other found
  · intro object
    rw [kept]

/-- A new entry takes the place of the one with its key. -/
theorem refers_set_iff
    (names : dict.Names objects name) {created : Nat} :
    (dict.set key created).Refers ref ↔
      ref = created ∨ dict.Refers ref ∧ dict.get? key ≠ some ref := by
  constructor
  · rintro ⟨other, found⟩
    by_cases same : other = key
    · rw [same, get?_set_self] at found
      cases found
      exact Or.inl rfl
    · rw [get?_set_ne dict _ same] at found
      refine Or.inr ⟨⟨other, found⟩, ?_⟩
      exact fun atKey => same (names.key_unique found atKey)
  · rintro (rfl | ⟨⟨other, found⟩, apart⟩)
    · exact ⟨key, get?_set_self dict key ref⟩
    · refine ⟨other, ?_⟩
      rw [get?_set_ne dict]
      · exact found
      · rintro rfl
        exact apart found

theorem refers_erase_iff (names : dict.Names objects name) :
    (dict.erase key).Refers ref ↔
      dict.Refers ref ∧ dict.get? key ≠ some ref := by
  constructor
  · rintro ⟨other, found⟩
    rcases get?_of_erase found with ⟨apart, before⟩
    refine ⟨⟨other, before⟩, ?_⟩
    exact fun atKey => apart (names.key_unique before atKey)
  · rintro ⟨⟨other, found⟩, apart⟩
    refine ⟨other, ?_⟩
    rw [get?_erase_ne dict]
    · exact found
    · rintro rfl
      exact apart found

end Names

end Dict

end StorageAppliance.Library
