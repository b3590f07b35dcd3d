import Mathlib.Data.List.Perm.Basic
import Mathlib.Data.List.Nodup

/-!
# Insertion-ordered dictionaries

A finite map that remembers the order in which its keys were first inserted.
Writing to an existing key keeps the key's position, and writing to a new key
appends it.  The items carry the proof that no key occurs twice, so a lookup
is determined by membership and every operation returns a dictionary.

The lemmas are of two kinds.  The lookup equations say what `get?` returns
after each operation.  The permutation equations relate the list of values
before and after an operation, which is what counting arguments need.
-/

namespace StorageAppliance.Library

universe u v

/-- A finite map whose items are listed in order of first insertion. -/
structure Dict (Key : Type u) (Value : Type v) where
  items : List (Key × Value)
  nodupKeys : (items.map Prod.fst).Nodup
deriving DecidableEq

namespace Dict

variable
    {Key : Type u}
    {Value : Type v}

/-- The dictionary without items. -/
def empty : Dict Key Value where
  items := []
  nodupKeys := List.nodup_nil

instance : Inhabited (Dict Key Value) :=
  ⟨empty⟩

/-- The keys, in insertion order. -/
def keys (dict : Dict Key Value) : List Key :=
  dict.items.map Prod.fst

/-- The values, in insertion order of their keys. -/
def values (dict : Dict Key Value) : List Value :=
  dict.items.map Prod.snd

variable [DecidableEq Key]

/-- The value stored under a key. -/
def get? (dict : Dict Key Value) (key : Key) : Option Value :=
  (dict.items.find? fun item => item.1 = key).map Prod.snd

/-- Whether a key is present. -/
def contains (dict : Dict Key Value) (key : Key) : Bool :=
  (dict.get? key).isSome

@[simp]
theorem get?_empty (key : Key) :
    (empty : Dict Key Value).get? key = none :=
  rfl

/-- A lookup is exactly membership in the items. -/
theorem get?_eq_some_iff
    {dict : Dict Key Value} {key : Key} {value : Value} :
    dict.get? key = some value ↔ (key, value) ∈ dict.items := by
  constructor
  · intro found
    rcases Option.map_eq_some_iff.mp found with ⟨item, itemFound, rfl⟩
    have sameKey : item.1 = key := by
      simpa using List.find?_some itemFound
    subst sameKey
    exact List.mem_of_find?_eq_some itemFound
  · intro member
    rcases equal : dict.items.find? (fun item => item.1 = key) with
      _ | item
    · rw [List.find?_eq_none] at equal
      simpa using equal (key, value) member
    · have sameKey : item.1 = key := by
        simpa using List.find?_some equal
      have sameItem : item = (key, value) :=
        List.inj_on_of_nodup_map dict.nodupKeys
          (List.mem_of_find?_eq_some equal) member sameKey
      simp [get?, equal, sameItem]

theorem get?_eq_none_iff
    {dict : Dict Key Value} {key : Key} :
    dict.get? key = none ↔ ∀ value, (key, value) ∉ dict.items := by
  rw [Option.eq_none_iff_forall_ne_some]
  simp only [ne_eq, get?_eq_some_iff]

theorem mem_values_iff
    {dict : Dict Key Value} {value : Value} :
    value ∈ dict.values ↔ ∃ key, dict.get? key = some value := by
  simp [values, get?_eq_some_iff]

theorem mem_keys_iff
    {dict : Dict Key Value} {key : Key} :
    key ∈ dict.keys ↔ ∃ value, dict.get? key = some value := by
  simp [keys, get?_eq_some_iff]

/-! ## Writing a key -/

/-- Replace the value of a key in place, or append the key. -/
def setItems (key : Key) (value : Value) :
    List (Key × Value) → List (Key × Value)
  | [] => [(key, value)]
  | item :: rest =>
      if item.1 = key then
        (key, value) :: rest
      else
        item :: setItems key value rest

theorem setItems_keys
    (key : Key) (value : Value) (items : List (Key × Value)) :
    (setItems key value items).map Prod.fst =
      if key ∈ items.map Prod.fst then
        items.map Prod.fst
      else
        items.map Prod.fst ++ [key] := by
  induction items with
  | nil => simp [setItems]
  | cons item rest induction =>
      by_cases same : item.1 = key
      · simp [setItems, same]
      · have other : key ≠ item.1 := Ne.symm same
        simp only [setItems, same, if_false, List.map_cons, induction,
          List.mem_cons, other, false_or]
        split <;> rfl

/-- `dict[key] = value`. -/
def set (dict : Dict Key Value) (key : Key) (value : Value) :
    Dict Key Value where
  items := setItems key value dict.items
  nodupKeys := by
    rw [setItems_keys]
    split
    · exact dict.nodupKeys
    · rename_i absent
      exact List.nodup_append.mpr
        ⟨dict.nodupKeys, List.nodup_singleton key, by
          intro old oldMember new newMember
          rw [List.mem_singleton] at newMember
          subst newMember
          exact fun equal => absent (equal ▸ oldMember)⟩

theorem get?_setItems
    (key : Key) (value : Value) (other : Key)
    (items : List (Key × Value)) :
    ((setItems key value items).find? fun item => item.1 = other).map
        Prod.snd =
      if other = key then
        some value
      else
        (items.find? fun item => item.1 = other).map Prod.snd := by
  induction items with
  | nil =>
      by_cases same : other = key
      · simp [setItems, same]
      · simp [setItems, same, Ne.symm same]
  | cons item rest induction =>
      by_cases head : item.1 = key
      · by_cases same : other = key
        · simp [setItems, head, same]
        · have apart : key ≠ other := Ne.symm same
          simp [setItems, head, same, apart]
      · by_cases found : item.1 = other
        · subst found
          simp [setItems, head]
        · simp [setItems, head, found, induction]

theorem get?_set
    (dict : Dict Key Value) (key other : Key) (value : Value) :
    (dict.set key value).get? other =
      if other = key then some value else dict.get? other :=
  get?_setItems key value other dict.items

@[simp]
theorem get?_set_self
    (dict : Dict Key Value) (key : Key) (value : Value) :
    (dict.set key value).get? key = some value := by
  simp [get?_set]

theorem get?_set_ne
    (dict : Dict Key Value) {key other : Key} (value : Value)
    (apart : other ≠ key) :
    (dict.set key value).get? other = dict.get? other := by
  simp [get?_set, apart]

/-- A new key is appended. -/
theorem items_set_of_absent
    {dict : Dict Key Value} {key : Key} (value : Value)
    (absent : dict.get? key = none) :
    (dict.set key value).items = dict.items ++ [(key, value)] := by
  have appended :
      ∀ items : List (Key × Value),
        (∀ item ∈ items, item.1 ≠ key) →
          setItems key value items = items ++ [(key, value)] := by
    intro items others
    induction items with
    | nil => rfl
    | cons item rest induction =>
        have tail :=
          induction fun other member => others other (by simp [member])
        simp [setItems, others item (by simp), tail]
  apply appended
  rintro ⟨other, stored⟩ member rfl
  exact get?_eq_none_iff.mp absent stored member

/-- Writing to a key that is present keeps the number of items. -/
theorem length_items_set_of_present
    {dict : Dict Key Value} {key : Key} (value : Value)
    (present : dict.get? key ≠ none) :
    (dict.set key value).items.length = dict.items.length := by
  rcases Option.ne_none_iff_exists'.mp present with ⟨old, found⟩
  have listed : key ∈ dict.items.map Prod.fst :=
    List.mem_map.mpr ⟨(key, old), get?_eq_some_iff.mp found, rfl⟩
  have keys := setItems_keys key value dict.items
  rw [if_pos listed] at keys
  have lengths := congrArg List.length keys
  rwa [List.length_map, List.length_map] at lengths

theorem get?_of_set
    {dict : Dict Key Value} {key other : Key} {value found : Value}
    (present : (dict.set key value).get? other = some found) :
    other = key ∨ dict.get? other = some found := by
  rw [get?_set] at present
  split at present
  · rename_i same
    exact Or.inl same
  · exact Or.inr present

theorem setItems_setItems
    (key : Key) (first second : Value) (items : List (Key × Value)) :
    setItems key second (setItems key first items) =
      setItems key second items := by
  induction items with
  | nil => simp [setItems]
  | cons item rest induction =>
      by_cases same : item.1 = key
      · simp [setItems, same]
      · simp [setItems, same, induction]

/-- Of two writes to a key the second counts. -/
theorem set_set (dict : Dict Key Value) (key : Key) (first second : Value) :
    (dict.set key first).set key second = dict.set key second := by
  have sameItems := setItems_setItems key first second dict.items
  simp only [set, mk.injEq]
  exact sameItems

/-- As a function, a dictionary is updated at the key. -/
theorem get?_set_eq_update
    (dict : Dict Key Value) (key : Key) (value : Value) :
    (dict.set key value).get? =
      Function.update dict.get? key (some value) := by
  funext other
  rw [get?_set, Function.update_apply]

/-! ## Removing a key -/

/-- `del dict[key]`, or no change when the key is absent. -/
def erase (dict : Dict Key Value) (key : Key) : Dict Key Value where
  items := dict.items.filter fun item => item.1 ≠ key
  nodupKeys :=
    (List.Sublist.map Prod.fst List.filter_sublist).nodup dict.nodupKeys

theorem get?_erase
    (dict : Dict Key Value) (key other : Key) :
    (dict.erase key).get? other =
      if other = key then none else dict.get? other := by
  ext value
  simp only [get?_eq_some_iff, erase, List.mem_filter]
  by_cases same : other = key
  · simp [same]
  · simp [same, get?_eq_some_iff]

@[simp]
theorem get?_erase_self
    (dict : Dict Key Value) (key : Key) :
    (dict.erase key).get? key = none := by
  simp [get?_erase]

theorem get?_erase_ne
    (dict : Dict Key Value) {key other : Key}
    (apart : other ≠ key) :
    (dict.erase key).get? other = dict.get? other := by
  simp [get?_erase, apart]

/-- What is left after an erasure was there before. -/
theorem get?_of_erase
    {dict : Dict Key Value} {key other : Key} {value : Value}
    (found : (dict.erase key).get? other = some value) :
    other ≠ key ∧ dict.get? other = some value := by
  by_cases same : other = key
  · rw [same, get?_erase_self] at found
    cases found
  · rw [get?_erase_ne dict same] at found
    exact ⟨same, found⟩

/-- As a function, a dictionary loses the key. -/
theorem get?_erase_eq_update
    (dict : Dict Key Value) (key : Key) :
    (dict.erase key).get? = Function.update dict.get? key none := by
  funext other
  rw [get?_erase, Function.update_apply]

/-! ## Updating a present key -/

/-- Apply a function to the value of a key, or no change when it is absent. -/
def modify (dict : Dict Key Value) (key : Key) (update : Value → Value) :
    Dict Key Value where
  items := dict.items.map fun item =>
    if item.1 = key then (item.1, update item.2) else item
  nodupKeys := by
    have sameKeys :
        (dict.items.map fun item =>
            if item.1 = key then (item.1, update item.2) else item).map
              Prod.fst =
          dict.items.map Prod.fst := by
      rw [List.map_map]
      apply List.map_congr_left
      intro item _
      simp only [Function.comp_apply]
      split <;> rfl
    rw [sameKeys]
    exact dict.nodupKeys

theorem get?_modify
    (dict : Dict Key Value) (key other : Key) (update : Value → Value) :
    (dict.modify key update).get? other =
      if other = key then
        (dict.get? other).map update
      else
        dict.get? other := by
  ext value
  rw [get?_eq_some_iff]
  simp only [modify, List.mem_map]
  constructor
  · rintro ⟨item, member, equal⟩
    split at equal
    · rename_i atKey
      simp only [Prod.mk.injEq] at equal
      rcases equal with ⟨rfl, rfl⟩
      have found := get?_eq_some_iff.mpr member
      rw [if_pos atKey, found]
      rfl
    · rename_i offKey
      subst equal
      rw [if_neg offKey]
      exact get?_eq_some_iff.mpr member
  · intro found
    split at found
    · rename_i atKey
      rcases Option.map_eq_some_iff.mp found with ⟨old, oldFound, rfl⟩
      exact ⟨(other, old), get?_eq_some_iff.mp oldFound, by simp [atKey]⟩
    · rename_i offKey
      exact ⟨(other, value), get?_eq_some_iff.mp found, by simp [offKey]⟩

theorem get?_modify_self
    (dict : Dict Key Value) (key : Key) (update : Value → Value) :
    (dict.modify key update).get? key = (dict.get? key).map update := by
  simp [get?_modify]

theorem get?_modify_ne
    (dict : Dict Key Value) {key other : Key} (update : Value → Value)
    (apart : other ≠ key) :
    (dict.modify key update).get? other = dict.get? other := by
  simp [get?_modify, apart]

/-! ## Updating every key -/

/-- Apply a function to every value. -/
def mapValues (dict : Dict Key Value) (update : Key → Value → Value) :
    Dict Key Value where
  items := dict.items.map fun item => (item.1, update item.1 item.2)
  nodupKeys := by
    rw [List.map_map]
    exact dict.nodupKeys

theorem get?_mapValues
    (dict : Dict Key Value) (update : Key → Value → Value) (key : Key) :
    (dict.mapValues update).get? key = (dict.get? key).map (update key) := by
  ext value
  rw [get?_eq_some_iff, Option.map_eq_some_iff]
  simp only [mapValues, List.mem_map, get?_eq_some_iff]
  constructor
  · rintro ⟨item, member, equal⟩
    cases equal
    exact ⟨item.2, member, rfl⟩
  · rintro ⟨old, member, equal⟩
    exact ⟨(key, old), member, by rw [equal]⟩

/-! ## Values up to permutation -/

theorem filter_key_of_absent
    {key : Key} {items : List (Key × Value)}
    (absent : key ∉ items.map Prod.fst) :
    items.filter (fun item => item.1 ≠ key) = items := by
  apply List.filter_eq_self.mpr
  intro item member
  have apart : item.1 ≠ key := by
    intro same
    exact absent (List.mem_map.mpr ⟨item, member, same⟩)
  simpa using apart

/-- Removing a present key takes exactly its value away. -/
theorem values_perm_erase
    {dict : Dict Key Value} {key : Key} {value : Value}
    (found : dict.get? key = some value) :
    dict.values.Perm (value :: (dict.erase key).values) := by
  have split :
      ∀ items : List (Key × Value),
        (items.map Prod.fst).Nodup →
        (key, value) ∈ items →
        items.Perm
          ((key, value) :: items.filter fun item => item.1 ≠ key) := by
    intro items nodup member
    induction items with
    | nil => simp at member
    | cons item rest induction =>
        rw [List.map_cons, List.nodup_cons] at nodup
        rcases List.mem_cons.mp member with rfl | inRest
        · have kept := filter_key_of_absent nodup.1
          simp only [ne_eq, decide_not] at kept
          simp [kept]
        · have apart : item.1 ≠ key := by
            intro same
            exact nodup.1
              (List.mem_map.mpr ⟨(key, value), inRest, same.symm⟩)
          have tail := induction nodup.2 inRest
          have kept :
              (item :: rest).filter (fun item => item.1 ≠ key) =
                item :: rest.filter fun item => item.1 ≠ key := by
            simp [apart]
          rw [kept]
          exact (tail.cons item).trans (List.Perm.swap _ _ _)
  exact (split dict.items dict.nodupKeys
    (get?_eq_some_iff.mp found)).map Prod.snd

/-- Writing a key puts its value beside the values of the other keys. -/
theorem values_set_perm
    (dict : Dict Key Value) (key : Key) (value : Value) :
    (dict.set key value).values.Perm
      (value :: (dict.erase key).values) := by
  have erased : (dict.set key value).erase key = dict.erase key := by
    have filtered :
        ∀ items : List (Key × Value),
          (items.map Prod.fst).Nodup →
          (setItems key value items).filter (fun item => item.1 ≠ key) =
            items.filter fun item => item.1 ≠ key := by
      intro items nodup
      induction items with
      | nil => simp [setItems]
      | cons item rest induction =>
          rw [List.map_cons, List.nodup_cons] at nodup
          by_cases same : item.1 = key
          · simp [setItems, same]
          · have apart : decide (item.1 ≠ key) = true := by
              simpa using same
            simp only [setItems, same, if_false, List.filter_cons, apart,
              if_true, induction nodup.2]
    have sameItems := filtered dict.items dict.nodupKeys
    simp only [erase, set, mk.injEq]
    exact sameItems
  have taken :=
    values_perm_erase (get?_set_self dict key value)
  rwa [erased] at taken

/-- Writing an absent key adds its value to the values. -/
theorem values_set_perm_of_absent
    {dict : Dict Key Value} {key : Key} (value : Value)
    (absent : dict.get? key = none) :
    (dict.set key value).values.Perm (value :: dict.values) := by
  have kept : (dict.erase key).values = dict.values := by
    have noKey : key ∉ dict.items.map Prod.fst := by
      intro member
      rcases List.mem_map.mp member with ⟨item, itemMember, rfl⟩
      exact get?_eq_none_iff.mp absent item.2 itemMember
    exact congrArg (List.map Prod.snd) (filter_key_of_absent noKey)
  rw [← kept]
  exact values_set_perm dict key value

/-- Updating a present key changes how its value counts, and nothing else. -/
theorem countP_values_modify
    {dict : Dict Key Value} {key : Key} {value : Value}
    (found : dict.get? key = some value)
    (update : Value → Value) (counts : Value → Bool) :
    (dict.modify key update).values.countP counts +
        (if counts value then 1 else 0) =
      dict.values.countP counts +
        (if counts (update value) then 1 else 0) := by
  have modified :
      (dict.modify key update).get? key = some (update value) := by
    rw [get?_modify, if_pos rfl, found]
    rfl
  have others :
      (dict.modify key update).erase key = dict.erase key := by
    simp only [erase, modify, mk.injEq, List.filter_map]
    have sameKeys :
        dict.items.filter
            ((fun item => decide (item.1 ≠ key)) ∘ fun item =>
              if item.1 = key then (item.1, update item.2) else item) =
          dict.items.filter fun item => item.1 ≠ key := by
      apply List.filter_congr
      intro item _
      simp only [Function.comp_apply]
      split <;> rfl
    rw [sameKeys]
    apply (List.map_congr_left _).trans (List.map_id _)
    intro item member
    have apart : item.1 ≠ key := by
      simpa using (List.mem_filter.mp member).2
    exact if_neg apart
  have before := (values_perm_erase found).countP_eq counts
  have after := (values_perm_erase modified).countP_eq counts
  rw [others] at after
  rw [List.countP_cons] at before after
  omega

/-- A relation between the values of distinct keys holds along the values. -/
theorem pairwise_values
    {dict : Dict Key Value} {related : Value → Value → Prop}
    (relates :
      ∀ first second left right,
        dict.get? first = some left → dict.get? second = some right →
          first ≠ second → related left right) :
    dict.values.Pairwise related := by
  have distinct : dict.items.Pairwise fun left right => left.1 ≠ right.1 :=
    List.pairwise_map.mp dict.nodupKeys
  rw [values, List.pairwise_map]
  apply List.Pairwise.imp_of_mem _ distinct
  intro left right leftMember rightMember apart
  exact
    relates left.1 right.1 left.2 right.2
      (get?_eq_some_iff.mpr leftMember)
      (get?_eq_some_iff.mpr rightMember) apart

end Dict

end StorageAppliance.Library
