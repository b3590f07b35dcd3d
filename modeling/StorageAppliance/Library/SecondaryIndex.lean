import StorageAppliance.Library.Dict

/-!
# Secondary indexes

A table of records by identifier is kept together with an index, which lists for
each group the identifiers of the records in the group.  `Indexes` relates both
to one list, the live records in the order in which they were added.

Adding a record under a fresh identifier appends it to the list and removing a
record filters it out.  The table and the index follow, if the program appends
the identifier to the group of the record and erases it there.
-/

namespace StorageAppliance.Library

universe u v w

variable
    {Id : Type u}
    {Group : Type v}
    {Record : Type w}
    [DecidableEq Group]

/-- The identifiers of the records of a group, in order. -/
def members (idOf : Record → Id) (groupOf : Record → Group)
    (records : List Record) (group : Group) : List Id :=
  (records.filter fun record => groupOf record = group).map idOf

/-- The table holds the records in order, the index their identifiers. -/
structure Indexes (idOf : Record → Id) (groupOf : Record → Group)
    (records : List Record) (table : Dict Id Record)
    (index : Dict Group (List Id)) : Prop where
  table : table.items = records.map fun record => (idOf record, record)
  index :
    ∀ group,
      (index.get? group).getD [] = members idOf groupOf records group

section Rules

variable
    {idOf : Record → Id}
    {groupOf : Record → Group}
    {records : List Record}
    {table : Dict Id Record}
    {index : Dict Group (List Id)}

theorem indexes_empty :
    Indexes idOf groupOf [] Dict.empty Dict.empty where
  table := rfl
  index := by
    intro group
    rfl

/-! ## What the table and the index hold -/

theorem Indexes.values
    (indexes : Indexes idOf groupOf records table index) :
    table.values = records := by
  rw [Dict.values, indexes.table, List.map_map]
  exact List.map_id records

theorem Indexes.distinct
    (indexes : Indexes idOf groupOf records table index) :
    (records.map idOf).Nodup := by
  have keys := table.nodupKeys
  rw [indexes.table, List.map_map] at keys
  exact keys

theorem Indexes.members_nodup
    (indexes : Indexes idOf groupOf records table index)
    (group : Group) :
    (members idOf groupOf records group).Nodup := by
  have part :
      (members idOf groupOf records group).Sublist (records.map idOf) :=
    List.Sublist.map idOf List.filter_sublist
  exact List.Nodup.sublist part indexes.distinct

/-- A record is listed in its group. -/
theorem Indexes.mem_index
    (indexes : Indexes idOf groupOf records table index)
    {record : Record} (member : record ∈ records) :
    idOf record ∈ (index.get? (groupOf record)).getD [] := by
  rw [indexes.index, members, List.mem_map]
  exact ⟨record, List.mem_filter.mpr ⟨member, decide_eq_true rfl⟩, rfl⟩

theorem members_append
    (records : List Record) (record : Record) (group : Group) :
    members idOf groupOf (records ++ [record]) group =
      members idOf groupOf records group ++
        if groupOf record = group then [idOf record] else [] := by
  rw [members, List.filter_append, List.map_append, members]
  congr 1
  by_cases same : groupOf record = group
  · simp [same]
  · simp [same]

variable [DecidableEq Id]

/-- A lookup finds exactly the record with the identifier. -/
theorem Indexes.get?_eq_some_iff
    (indexes : Indexes idOf groupOf records table index)
    {identifier : Id} {record : Record} :
    table.get? identifier = some record ↔
      record ∈ records ∧ idOf record = identifier := by
  rw [Dict.get?_eq_some_iff, indexes.table, List.mem_map]
  constructor
  · rintro ⟨listed, member, equal⟩
    cases equal
    exact ⟨member, rfl⟩
  · rintro ⟨member, rfl⟩
    exact ⟨record, member, rfl⟩

theorem Indexes.get?_of_mem
    (indexes : Indexes idOf groupOf records table index)
    {record : Record} (member : record ∈ records) :
    table.get? (idOf record) = some record :=
  indexes.get?_eq_some_iff.mpr ⟨member, rfl⟩

/-- Looking up what the index lists gives the records of the group. -/
theorem Indexes.lookup
    (indexes : Indexes idOf groupOf records table index)
    (group : Group) :
    ((index.get? group).getD []).filterMap table.get? =
      records.filter fun record => groupOf record = group := by
  rw [indexes.index, members, List.filterMap_map]
  have found :
      ∀ listed : List Record,
        (∀ record ∈ listed, record ∈ records) →
          listed.filterMap (table.get? ∘ idOf) = listed := by
    intro listed live
    induction listed with
    | nil => rfl
    | cons record rest induction =>
        have first :
            (table.get? ∘ idOf) record = some record :=
          indexes.get?_of_mem (live record (by simp))
        rw [List.filterMap_cons_some first]
        congr 1
        exact induction fun other member => live other (by simp [member])
  apply found
  intro record member
  exact (List.mem_filter.mp member).1

/-! ## Adding and removing a record -/

/-- A record under a fresh identifier is added. -/
theorem Indexes.add
    (indexes : Indexes idOf groupOf records table index)
    {record : Record} (fresh : table.get? (idOf record) = none) :
    Indexes idOf groupOf (records ++ [record])
      (table.set (idOf record) record)
      (index.set (groupOf record)
        ((index.get? (groupOf record)).getD [] ++ [idOf record])) where
  table := by
    rw [Dict.items_set_of_absent record fresh, indexes.table,
      List.map_append]
    rfl
  index := by
    intro group
    rw [members_append, Dict.get?_set]
    by_cases same : group = groupOf record
    · subst same
      rw [if_pos rfl, if_pos rfl, indexes.index]
      rfl
    · rw [if_neg same, if_neg (Ne.symm same), indexes.index,
        List.append_nil]

/-- A record is removed. -/
theorem Indexes.remove
    (indexes : Indexes idOf groupOf records table index)
    {identifier : Id} {record : Record}
    (found : table.get? identifier = some record) :
    Indexes idOf groupOf
      (records.filter fun other => idOf other ≠ identifier)
      (table.erase identifier)
      (index.set (groupOf record)
        (((index.get? (groupOf record)).getD []).erase identifier)) where
  table := by
    show table.items.filter (fun item => item.1 ≠ identifier) = _
    rw [indexes.table, List.filter_map]
    rfl
  index := by
    intro group
    have swapped :
        members idOf groupOf
            (records.filter fun other => idOf other ≠ identifier) group =
          (members idOf groupOf records group).filter
            fun other => other ≠ identifier := by
      rw [members, members, List.filter_map, List.filter_filter,
        List.filter_filter]
      congr 1
      apply List.filter_congr
      intro other _
      exact Bool.and_comm _ _
    rw [swapped, Dict.get?_set]
    by_cases same : group = groupOf record
    · subst same
      rw [if_pos rfl, indexes.index, Option.getD_some,
        (indexes.members_nodup _).erase_eq_filter]
      apply List.filter_congr
      intro other _
      exact decide_not.symm
    · rw [if_neg same, indexes.index]
      symm
      rw [List.filter_eq_self]
      intro other member
      rcases List.mem_map.mp member with ⟨listed, inGroup, rfl⟩
      rcases List.mem_filter.mp inGroup with ⟨live, grouped⟩
      have apart : idOf listed ≠ identifier := by
        rintro rfl
        have twice := (indexes.get?_of_mem live).symm.trans found
        cases twice
        exact same (of_decide_eq_true grouped).symm
      exact decide_eq_true apart

end Rules

end StorageAppliance.Library
