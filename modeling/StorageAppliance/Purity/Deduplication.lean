import StorageAppliance.Python
import StorageAppliance.Library.Dict
import StorageAppliance.Library.RefCount

/-!
# Deduplication

The second stage of data reduction (`purity/deduplication.py`): a table from
fingerprints to the stored block and its number of references.

`DeduplicationEngine.references` reads the table as a count for every
fingerprint.  On counts, `dereferenceBlock` is exactly `release`, an absent
fingerprint being a fingerprint counted zero times.
-/

namespace StorageAppliance.Purity

open StorageAppliance.Python
open StorageAppliance.Library

/-- Entry in the deduplication table. -/
structure DedupEntry where
  fingerprint : String
  blockId : String
  size : Nat
  referenceCount : Nat := 1
deriving DecidableEq, Repr

/-- Result of a deduplication lookup. -/
structure DedupResult where
  isDuplicate : Bool
  fingerprint : String
  existingBlockId : Option String
  referenceCount : Nat
deriving DecidableEq, Repr

/-- Deduplication statistics. -/
structure DedupStats where
  totalBlocks : Nat := 0
  uniqueBlocks : Nat := 0
  duplicateBlocks : Nat := 0
  bytesBeforeDedupe : Nat := 0
  bytesAfterDedupe : ℤ := 0
deriving DecidableEq, Repr

/-- The deduplication table with its statistics. -/
structure DeduplicationEngine where
  dedupeTable : Dict String DedupEntry := Dict.empty
  stats : DedupStats := {}
deriving DecidableEq

namespace DeduplicationEngine

/-- SHA-256 fingerprint of a block. -/
def computeFingerprint (platform : Platform) (data : Bytes) : String :=
  platform.sha256Hex data

/-- Look a block up by its fingerprint. -/
def checkDuplicate (platform : Platform) (self : DeduplicationEngine)
    (data : Bytes) : DedupResult :=
  let fingerprint := computeFingerprint platform data
  match self.dedupeTable.get? fingerprint with
  | some entry =>
      { isDuplicate := true
        fingerprint := fingerprint
        existingBlockId := some entry.blockId
        referenceCount := entry.referenceCount }
  | none =>
      { isDuplicate := false
        fingerprint := fingerprint
        existingBlockId := none
        referenceCount := 0 }

/-- Take a reference to a block, creating its entry if there is none. -/
def registerBlock (platform : Platform) (self : DeduplicationEngine)
    (data : Bytes) (blockId : String) :
    (String × Bool) × DeduplicationEngine :=
  let fingerprint := computeFingerprint platform data
  let stats :=
    { self.stats with
      totalBlocks := self.stats.totalBlocks + 1
      bytesBeforeDedupe := self.stats.bytesBeforeDedupe + data.length }
  match self.dedupeTable.get? fingerprint with
  | some entry =>
      ((fingerprint, false),
        { dedupeTable :=
            self.dedupeTable.set fingerprint
              { entry with referenceCount := entry.referenceCount + 1 }
          stats :=
            { stats with duplicateBlocks := stats.duplicateBlocks + 1 } })
  | none =>
      ((fingerprint, true),
        { dedupeTable :=
            self.dedupeTable.set fingerprint
              { fingerprint := fingerprint
                blockId := blockId
                size := data.length
                referenceCount := 1 }
          stats :=
            { stats with
              uniqueBlocks := stats.uniqueBlocks + 1
              bytesAfterDedupe := stats.bytesAfterDedupe + data.length } })

/-- Drop a reference, returning the number of references left. -/
def dereferenceBlock (self : DeduplicationEngine) (fingerprint : String) :
    Nat × DeduplicationEngine :=
  match self.dedupeTable.get? fingerprint with
  | none => (0, self)
  | some entry =>
      if entry.referenceCount ≤ 1 then
        (0,
          { dedupeTable := self.dedupeTable.erase fingerprint
            stats :=
              { self.stats with
                bytesAfterDedupe :=
                  self.stats.bytesAfterDedupe - entry.size } })
      else
        (entry.referenceCount - 1,
          { self with
            dedupeTable :=
              self.dedupeTable.set fingerprint
                { entry with referenceCount := entry.referenceCount - 1 } })

/-- The number of references counted under a fingerprint. -/
def references (self : DeduplicationEngine) (fingerprint : String) : Nat :=
  match self.dedupeTable.get? fingerprint with
  | some entry => entry.referenceCount
  | none => 0

end DeduplicationEngine

open DeduplicationEngine

theorem references_of_get?
    {self : DeduplicationEngine} {fingerprint : String}
    {entry : DedupEntry}
    (found : self.dedupeTable.get? fingerprint = some entry) :
    self.references fingerprint = entry.referenceCount := by
  simp [references, found]

theorem references_of_absent
    {self : DeduplicationEngine} {fingerprint : String}
    (absent : self.dedupeTable.get? fingerprint = none) :
    self.references fingerprint = 0 := by
  simp [references, absent]

/-! ## Lookup -/

theorem checkDuplicate_fingerprint
    (platform : Platform) (self : DeduplicationEngine) (data : Bytes) :
    (self.checkDuplicate platform data).fingerprint =
      platform.sha256Hex data := by
  rw [checkDuplicate]
  split <;> rfl

theorem checkDuplicate_of_get?
    {platform : Platform} {self : DeduplicationEngine} {data : Bytes}
    {entry : DedupEntry}
    (found :
      self.dedupeTable.get? (platform.sha256Hex data) = some entry) :
    (self.checkDuplicate platform data).isDuplicate = true ∧
      (self.checkDuplicate platform data).existingBlockId =
        some entry.blockId := by
  simp [checkDuplicate, computeFingerprint, found]

theorem checkDuplicate_of_absent
    {platform : Platform} {self : DeduplicationEngine} {data : Bytes}
    (absent : self.dedupeTable.get? (platform.sha256Hex data) = none) :
    (self.checkDuplicate platform data).isDuplicate = false := by
  simp [checkDuplicate, computeFingerprint, absent]

/-! ## Taking a reference -/

/-- The entry a registration leaves under its fingerprint. -/
def registeredEntry (fingerprint blockId : String) (size : Nat) :
    Option DedupEntry → DedupEntry
  | some entry => { entry with referenceCount := entry.referenceCount + 1 }
  | none => ⟨fingerprint, blockId, size, 1⟩

theorem registerBlock_get?
    (platform : Platform) (self : DeduplicationEngine)
    (data : Bytes) (blockId fingerprint : String) :
    (self.registerBlock platform data blockId).2.dedupeTable.get?
        fingerprint =
      if fingerprint = platform.sha256Hex data then
        some (registeredEntry fingerprint blockId data.length
          (self.dedupeTable.get? fingerprint))
      else
        self.dedupeTable.get? fingerprint := by
  by_cases same : fingerprint = platform.sha256Hex data
  · subst same
    rw [registerBlock]
    split
    · rename_i entry found
      simp only [computeFingerprint] at found ⊢
      simp [registeredEntry, found]
    · rename_i absent
      simp only [computeFingerprint] at absent ⊢
      simp [registeredEntry, absent]
  · rw [registerBlock]
    split <;> simp [computeFingerprint, Dict.get?_set_ne _ _ same, same]

/-- An entry after a registration is an old one counted again, or new. -/
theorem registerBlock_cases
    {platform : Platform} {self : DeduplicationEngine}
    {data : Bytes} {blockId fingerprint : String} {entry : DedupEntry}
    (found :
      (self.registerBlock platform data blockId).2.dedupeTable.get?
        fingerprint = some entry) :
    (∃ old,
        self.dedupeTable.get? fingerprint = some old ∧
          entry.blockId = old.blockId) ∨
      (self.dedupeTable.get? fingerprint = none ∧
        fingerprint = platform.sha256Hex data ∧
        entry.blockId = blockId) := by
  rw [registerBlock_get?] at found
  split at found
  · rename_i same
    simp only [Option.some.injEq] at found
    subst found
    cases self.dedupeTable.get? fingerprint with
    | none => exact Or.inr ⟨rfl, same, rfl⟩
    | some old => exact Or.inl ⟨old, rfl, rfl⟩
  · exact Or.inl ⟨entry, found, rfl⟩

/-- A registration keeps the block of every entry. -/
theorem registerBlock_kept
    {self : DeduplicationEngine} {fingerprint : String}
    {entry : DedupEntry}
    (found : self.dedupeTable.get? fingerprint = some entry)
    (platform : Platform) (data : Bytes) (blockId : String) :
    ∃ counted,
      (self.registerBlock platform data blockId).2.dedupeTable.get?
          fingerprint = some counted ∧
        counted.blockId = entry.blockId := by
  rw [registerBlock_get?, found]
  split
  · exact ⟨_, rfl, rfl⟩
  · exact ⟨entry, rfl, rfl⟩

/-- A registration leaves an entry under the fingerprint of its data. -/
theorem registerBlock_new
    {platform : Platform} {self : DeduplicationEngine} {data : Bytes}
    (absent :
      self.dedupeTable.get? (platform.sha256Hex data) = none)
    (blockId : String) :
    ∃ counted,
      (self.registerBlock platform data blockId).2.dedupeTable.get?
          (platform.sha256Hex data) = some counted ∧
        counted.blockId = blockId := by
  rw [registerBlock_get?, if_pos rfl, absent]
  exact ⟨_, rfl, rfl⟩

/-- A registration counts at least one reference in every entry. -/
theorem registerBlock_positive
    {platform : Platform} {self : DeduplicationEngine} {data : Bytes}
    {blockId : String}
    (positive :
      ∀ fingerprint entry,
        self.dedupeTable.get? fingerprint = some entry →
          0 < entry.referenceCount) :
    ∀ fingerprint entry,
      (self.registerBlock platform data blockId).2.dedupeTable.get?
          fingerprint = some entry →
        0 < entry.referenceCount := by
  intro fingerprint entry found
  rw [registerBlock_get?] at found
  split at found
  · cases found
    cases self.dedupeTable.get? fingerprint with
    | none => exact Nat.zero_lt_one
    | some old => exact Nat.succ_pos _
  · exact positive fingerprint entry found

theorem registerBlock_references
    (platform : Platform) (self : DeduplicationEngine)
    (data : Bytes) (blockId fingerprint : String) :
    (self.registerBlock platform data blockId).2.references fingerprint =
      self.references fingerprint +
        if fingerprint = platform.sha256Hex data then 1 else 0 := by
  rw [references, registerBlock_get?]
  by_cases same : fingerprint = platform.sha256Hex data
  · subst same
    simp only [if_true, references]
    cases self.dedupeTable.get? (platform.sha256Hex data) <;>
      simp [registeredEntry]
  · simp [same, references]

/-! ## Dropping a reference -/

/-- The returned number is the released count. -/
theorem dereferenceBlock_fst
    (self : DeduplicationEngine) (fingerprint : String) :
    (self.dereferenceBlock fingerprint).1 =
      release self.references fingerprint fingerprint := by
  rw [release_apply, dereferenceBlock]
  simp only [if_true]
  split
  · rename_i absent
    simp [references_of_absent absent]
  · rename_i entry found
    rw [references_of_get? found]
    split
    · simp only
      omega
    · rfl

theorem dereferenceBlock_get?_ne
    (self : DeduplicationEngine) {fingerprint other : String}
    (apart : other ≠ fingerprint) :
    (self.dereferenceBlock fingerprint).2.dedupeTable.get? other =
      self.dedupeTable.get? other := by
  rw [dereferenceBlock]
  split
  · rfl
  · split
    · simp [Dict.get?_erase_ne _ apart]
    · simp [Dict.get?_set_ne _ _ apart]

/-- An entry survives a drop exactly when it has another reference. -/
theorem dereferenceBlock_get?_self
    (self : DeduplicationEngine) (fingerprint : String) :
    (self.dereferenceBlock fingerprint).2.dedupeTable.get? fingerprint =
      (self.dedupeTable.get? fingerprint).bind fun entry =>
        if entry.referenceCount ≤ 1 then
          none
        else
          some { entry with referenceCount := entry.referenceCount - 1 } := by
  rw [dereferenceBlock]
  split
  · rename_i absent
    simp [absent]
  · rename_i entry found
    simp only [found, Option.bind_some]
    split <;> simp

/-- On counts, dropping a reference is `release`. -/
theorem dereferenceBlock_references
    (self : DeduplicationEngine) (fingerprint : String) :
    (self.dereferenceBlock fingerprint).2.references =
      release self.references fingerprint := by
  funext other
  rw [release_apply]
  by_cases same : fingerprint = other
  · subst same
    simp only [references, dereferenceBlock_get?_self, if_true]
    cases self.dedupeTable.get? fingerprint with
    | none => rfl
    | some entry =>
        by_cases last : entry.referenceCount ≤ 1
        · simp only [Option.bind_some, if_pos last]
          omega
        · simp only [Option.bind_some, if_neg last]
  · rw [references, dereferenceBlock_get?_ne self (Ne.symm same)]
    simp [same, references]

end StorageAppliance.Purity
