import StorageAppliance.Library.DictSum
import StorageAppliance.Library.Run

/-!
# Records of entries by key

A dictionary keeps a record for each key, and an entry is absorbed by the record
of its key, or starts one.  After a run over a log, the record of a key is the
fold of the entries with that key; a sum over all records adds up the entries,
whatever their keys are.
-/

namespace StorageAppliance.Library

universe u v w

variable
    {Key : Type u}
    {Entry : Type v}
    {Record : Type w}

/-- The record of some entries, in order. -/
def absorbAll (absorb : Option Record → Entry → Record)
    (record : Option Record) (entries : List Entry) : Option Record :=
  entries.foldl (fun record entry => some (absorb record entry)) record

section Grouping

variable
    [DecidableEq Key]
    (keyOf : Entry → Key)
    (absorb : Option Record → Entry → Record)

/-- Let the record of its key absorb an entry. -/
def recordEntry (records : Dict Key Record) (entry : Entry) :
    Dict Key Record :=
  records.set (keyOf entry) (absorb (records.get? (keyOf entry)) entry)

variable
    {keyOf : Entry → Key}
    {absorb : Option Record → Entry → Record}
    {records : Dict Key Record}

/-- The record of a key has absorbed the entries with that key. -/
theorem get?_run_recordEntry (log : List Entry) (key : Key) :
    (run (recordEntry keyOf absorb) records log).get? key =
      absorbAll absorb (records.get? key)
        (log.filter fun entry => keyOf entry = key) := by
  induction log generalizing records with
  | nil => rfl
  | cons entry rest induction =>
      rw [run_cons, induction]
      by_cases same : keyOf entry = key
      · have kept :
            (entry :: rest).filter (fun entry => keyOf entry = key) =
              entry :: rest.filter fun entry => keyOf entry = key := by
          simp [same]
        rw [kept, absorbAll, absorbAll, List.foldl_cons, recordEntry, same,
          Dict.get?_set_self]
      · have dropped :
            (entry :: rest).filter (fun entry => keyOf entry = key) =
              rest.filter fun entry => keyOf entry = key := by
          simp [same]
        rw [dropped, recordEntry, Dict.get?_set_ne _ _ (Ne.symm same)]

/-- A sum over the records adds up what each entry is worth. -/
theorem sumBy_run_recordEntry
    {Weight : Type*} [AddCommGroup Weight]
    {weight : Record → Weight} {worth : Entry → Weight}
    (adds :
      ∀ record entry,
        weight (absorb record entry) =
          (record.map weight).getD 0 + worth entry)
    (log : List Entry) :
    (run (recordEntry keyOf absorb) records log).sumBy weight =
      records.sumBy weight + (log.map worth).sum := by
  induction log generalizing records with
  | nil => simp
  | cons entry rest induction =>
      rw [run_cons, induction, List.map_cons, List.sum_cons, ← add_assoc]
      congr 1
      rw [recordEntry]
      cases found : records.get? (keyOf entry) with
      | none =>
          rw [Dict.sumBy_set_of_absent _ found, adds]
          simp
      | some record =>
          rw [Dict.sumBy_set found, adds, Option.map_some,
            Option.getD_some]
          abel

end Grouping

end StorageAppliance.Library
