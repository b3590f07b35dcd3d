import StorageAppliance.Library.DictSum
import StorageAppliance.Library.OwnedBag
import StorageAppliance.Purity.Deduplication

/-!
# The table of fingerprints refines a bag

Registering a block acquires its fingerprint for the identifier it is registered
with, and dereferencing releases a fingerprint.  After any calls the table holds
exactly the fingerprints that are held, each with its count and with the
identifier that raised the count last, and its statistics describe the entries
that are present and the registrations that were made.

Nothing is assumed of the digest.  Two blocks with one fingerprint are one key
here as in the table.
-/

namespace StorageAppliance.Purity

open StorageAppliance.Python
open StorageAppliance.Library
open DeduplicationEngine

/-- The calls that change the table. -/
inductive DedupCall where
  | register (data : Bytes) (blockId : String)
  | dereference (fingerprint : String)
deriving DecidableEq

/-- What a call does to the bag. -/
def DedupCall.action (platform : Platform) :
    DedupCall → BagAction String String
  | .register data blockId =>
      .acquire (computeFingerprint platform data) blockId
  | .dereference fingerprint => .release fingerprint

/-- Whether a call registers a block. -/
def DedupCall.registers : DedupCall → Bool
  | .register _ _ => true
  | .dereference _ => false

/-- The table after a call. -/
def DeduplicationEngine.step (platform : Platform)
    (self : DeduplicationEngine) : DedupCall → DeduplicationEngine
  | .register data blockId => (self.registerBlock platform data blockId).2
  | .dereference fingerprint => (self.dereferenceBlock fingerprint).2

/-- Who an entry belongs to, and how often it is held. -/
def DedupEntry.holding (entry : DedupEntry) : String × Nat :=
  (entry.blockId, entry.referenceCount)

/-- The size an entry takes up. -/
def DedupEntry.bytes (entry : DedupEntry) : ℤ :=
  entry.size

/-- The table holds what the bag holds after the same calls. -/
structure RefinesBag (platform : Platform) (calls : List DedupCall)
    (table : DeduplicationEngine) : Prop where
  entries :
    ∀ fingerprint,
      Tracks (calls.map (DedupCall.action platform)) fingerprint
        ((table.dedupeTable.get? fingerprint).map DedupEntry.holding)
  bytes :
    table.stats.bytesAfterDedupe =
      table.dedupeTable.sumBy DedupEntry.bytes
  blocks :
    table.stats.totalBlocks =
      table.stats.uniqueBlocks + table.stats.duplicateBlocks
  registered :
    table.stats.totalBlocks = calls.countP DedupCall.registers

section Steps

variable
    {platform : Platform}
    {calls : List DedupCall}
    {table : DeduplicationEngine}

theorem refinesBag_empty (platform : Platform) :
    RefinesBag platform [] {} where
  entries := fun fingerprint => by
    rw [Dict.get?_empty]
    exact tracks_nil fingerprint
  bytes := rfl
  blocks := rfl
  registered := rfl

theorem registeredEntry_holding
    (fingerprint blockId : String) (size : Nat)
    (entry : Option DedupEntry) :
    (registeredEntry fingerprint blockId size entry).holding =
      acquired blockId (entry.map DedupEntry.holding) := by
  cases entry with
  | none => rfl
  | some old => rfl

theorem releasedEntry_holding (entry : Option DedupEntry) :
    (entry.bind fun old =>
        if old.referenceCount ≤ 1 then
          none
        else
          some { old with referenceCount := old.referenceCount - 1 }).map
          DedupEntry.holding =
      released (entry.map DedupEntry.holding) := by
  cases entry with
  | none => rfl
  | some old =>
      by_cases last : old.referenceCount ≤ 1
      · simp [released, DedupEntry.holding, last]
      · simp [released, DedupEntry.holding, last]

/-- Counting an entry anew does not change its size. -/
theorem sumBy_recount
    {entries : Dict String DedupEntry} {fingerprint : String}
    {entry : DedupEntry}
    (found : entries.get? fingerprint = some entry) (count : Nat) :
    (entries.set fingerprint
        { entry with referenceCount := count }).sumBy DedupEntry.bytes =
      entries.sumBy DedupEntry.bytes :=
  Dict.sumBy_set_of_eq found DedupEntry.bytes rfl

/-- How a registration counts, by whether the fingerprint is known. -/
theorem registerBlock_stats
    (platform : Platform) (self : DeduplicationEngine) (data : Bytes)
    (blockId : String) :
    let after := (self.registerBlock platform data blockId).2
    after.stats.totalBlocks = self.stats.totalBlocks + 1 ∧
      (self.stats.totalBlocks =
          self.stats.uniqueBlocks + self.stats.duplicateBlocks →
        after.stats.totalBlocks =
          after.stats.uniqueBlocks + after.stats.duplicateBlocks) ∧
      (self.stats.bytesAfterDedupe =
          self.dedupeTable.sumBy DedupEntry.bytes →
        after.stats.bytesAfterDedupe =
          after.dedupeTable.sumBy DedupEntry.bytes) := by
  dsimp only
  rw [registerBlock]
  split
  · rename_i entry found
    refine ⟨rfl, fun split => ?_, fun total => ?_⟩
    · dsimp only
      omega
    · exact total.trans (sumBy_recount found _).symm
  · rename_i absent
    refine ⟨rfl, fun split => ?_, fun total => ?_⟩
    · dsimp only
      omega
    · dsimp only
      rw [Dict.sumBy_set_of_absent _ absent, total]
      rfl

/-- A release counts no registration and removes what it discards. -/
theorem dereferenceBlock_stats
    (self : DeduplicationEngine) (fingerprint : String) :
    let after := (self.dereferenceBlock fingerprint).2
    after.stats.totalBlocks = self.stats.totalBlocks ∧
      after.stats.uniqueBlocks = self.stats.uniqueBlocks ∧
      after.stats.duplicateBlocks = self.stats.duplicateBlocks ∧
      (self.stats.bytesAfterDedupe =
          self.dedupeTable.sumBy DedupEntry.bytes →
        after.stats.bytesAfterDedupe =
          after.dedupeTable.sumBy DedupEntry.bytes) := by
  dsimp only
  rw [dereferenceBlock]
  split
  · exact ⟨rfl, rfl, rfl, id⟩
  · rename_i entry found
    split
    · refine ⟨rfl, rfl, rfl, fun total => ?_⟩
      dsimp only
      rw [Dict.sumBy_erase found, total]
      rfl
    · refine ⟨rfl, rfl, rfl, fun total => ?_⟩
      exact total.trans (sumBy_recount found _).symm

theorem RefinesBag.register
    (refines : RefinesBag platform calls table)
    (data : Bytes) (blockId : String) :
    RefinesBag platform (calls ++ [.register data blockId])
      (table.registerBlock platform data blockId).2 := by
  have stats := registerBlock_stats platform table data blockId
  constructor
  · intro fingerprint
    rw [registerBlock_get?, List.map_append]
    by_cases same : fingerprint = platform.sha256Hex data
    · subst same
      rw [if_pos rfl, Option.map_some, registeredEntry_holding]
      exact (refines.entries _).acquire blockId
    · rw [if_neg same]
      exact (refines.entries fingerprint).other (Ne.symm same)
  · exact stats.2.2 refines.bytes
  · exact stats.2.1 refines.blocks
  · rw [stats.1, refines.registered, List.countP_append]
    rfl

theorem RefinesBag.dereference
    (refines : RefinesBag platform calls table) (released : String) :
    RefinesBag platform (calls ++ [.dereference released])
      (table.dereferenceBlock released).2 := by
  have stats := dereferenceBlock_stats table released
  constructor
  · intro fingerprint
    rw [List.map_append]
    by_cases same : released = fingerprint
    · subst same
      rw [dereferenceBlock_get?_self, releasedEntry_holding]
      exact (refines.entries _).release
    · rw [dereferenceBlock_get?_ne table (Ne.symm same)]
      exact (refines.entries fingerprint).other same
  · exact stats.2.2.2 refines.bytes
  · rw [stats.1, stats.2.1, stats.2.2.1]
    exact refines.blocks
  · rw [stats.1, refines.registered, List.countP_append]
    rfl

/-- The table refines the bag after any calls on an empty one. -/
theorem refinesBag_run
    (platform : Platform) (calls : List DedupCall) :
    RefinesBag platform calls
      (run (DeduplicationEngine.step platform) {} calls) := by
  induction calls using List.reverseRecOn with
  | nil => exact refinesBag_empty platform
  | append_singleton calls call refines =>
      rw [run_append]
      cases call with
      | register data blockId => exact refines.register data blockId
      | dereference fingerprint => exact refines.dereference fingerprint

end Steps

/--
After any registrations and dereferences on an empty table: a fingerprint has an
entry exactly if it is held, the entry counts how often and names the identifier
that raised the count from zero last, and the statistics are the sizes of the
present entries and the number of registrations.
-/
theorem dedupeTable_refines_bag
    (platform : Platform) (calls : List DedupCall) :
    let table := run (DeduplicationEngine.step platform) {} calls
    let history := calls.map (DedupCall.action platform)
    (∀ fingerprint,
        ((table.dedupeTable.get? fingerprint).isSome ↔
            0 < bagCount history fingerprint) ∧
          ∀ entry,
            table.dedupeTable.get? fingerprint = some entry →
              entry.referenceCount = bagCount history fingerprint ∧
                ∀ blockId,
                  entry.blockId = blockId ↔
                    LastRaised history fingerprint blockId) ∧
      table.stats.bytesAfterDedupe =
        table.dedupeTable.sumBy (fun entry => (entry.size : ℤ)) ∧
      table.stats.totalBlocks =
        table.stats.uniqueBlocks + table.stats.duplicateBlocks ∧
      table.stats.totalBlocks = calls.countP DedupCall.registers := by
  have refines := refinesBag_run platform calls
  refine ⟨fun fingerprint => ?_, refines.bytes, refines.blocks,
    refines.registered⟩
  have tracks := refines.entries fingerprint
  cases found :
      (run (DeduplicationEngine.step platform) {}
        calls).dedupeTable.get? fingerprint with
  | none =>
      rw [found] at tracks
      have unheld :
          bagCount (calls.map (DedupCall.action platform)) fingerprint =
            0 := tracks
      simp [unheld]
  | some entry =>
      rw [found] at tracks
      rcases tracks with ⟨positive, counted, owned⟩
      constructor
      · rw [counted]
        exact iff_of_true rfl positive
      · intro other same
        cases same
        exact ⟨counted.symm, fun blockId => (owned blockId).symm⟩

end StorageAppliance.Purity
