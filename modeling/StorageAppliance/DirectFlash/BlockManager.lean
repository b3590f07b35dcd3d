import Mathlib.Data.List.MinMax
import Mathlib.Data.Prod.Lex
import Mathlib.Data.List.FinRange
import Mathlib.Data.Fintype.Basic
import Mathlib.Data.Fintype.Pi
import StorageAppliance.Python
import StorageAppliance.Library.Dict
import StorageAppliance.Library.Linked

/-!
# Flash block manager

Logical addresses are mapped to physical flash blocks
(`directflash/block_manager.py`).  The physical blocks are numbered below
`total`, which the source fixes when it builds the manager, so a physical
identifier is a `Fin total` and every lookup of a block succeeds.

The free pool is a Python set.  `min` over it returns the first block of lowest
erase count in the iteration order of the set, which the language leaves open:
the calls that allocate take a `rank` that orders the blocks.

The page size is left out, because no modelled function reads it.

`Coherent` is the invariant: the table and the back pointers of the valid blocks
are inverse to each other, and the pool holds free blocks only.  `contents` is
what the manager stores, as a map from logical addresses to data.
-/

namespace StorageAppliance.DirectFlash

open StorageAppliance.Python
open StorageAppliance.Library

/-- State of a flash block. -/
inductive BlockState where
  | free
  | valid
  | invalid
  | bad
deriving DecidableEq, Repr

/-- A physical flash block. -/
structure PhysicalBlock where
  state : BlockState := .free
  eraseCount : Nat := 0
  data : Bytes := []
  logicalAddress : Option ℤ := none
deriving DecidableEq

/-- Block manager statistics. -/
structure BlockManagerStats where
  totalBlocks : ℤ := 0
  freeBlocks : ℤ := 0
  validBlocks : ℤ := 0
  invalidBlocks : ℤ := 0
  badBlocks : ℤ := 0
  totalWrites : Nat := 0
  totalReads : Nat := 0
  totalErases : Nat := 0
deriving DecidableEq

/-- What `get_stats` reports. -/
structure BlockStats where
  counters : BlockManagerStats
  avgEraseCount : ℚ
  maxEraseCount : Nat
  minEraseCount : Nat
  utilization : ℚ
deriving DecidableEq

/-- The physical blocks, the logical-to-physical table and the free pool. -/
structure BlockManager (total : Nat) where
  blockSize : Nat
  maxEraseCount : Nat
  blocks : Fin total → PhysicalBlock
  l2pTable : Dict ℤ (Fin total) := Dict.empty
  freeBlocks : Finset (Fin total)
  stats : BlockManagerStats
deriving DecidableEq

namespace BlockManager

variable {total : Nat}

/-- The manager of erased flash. -/
def new (total blockSize maxEraseCount : Nat) : BlockManager total where
  blockSize := blockSize
  maxEraseCount := maxEraseCount
  blocks _ := {}
  freeBlocks := Finset.univ
  stats := { totalBlocks := total, freeBlocks := total }

/-- Change one physical block. -/
def modifyBlock (self : BlockManager total) (physicalId : Fin total)
    (change : PhysicalBlock → PhysicalBlock) : BlockManager total :=
  { self with
    blocks :=
      Function.update self.blocks physicalId
        (change (self.blocks physicalId)) }

/-- The free block with the lowest erase count. -/
def leastWorn (self : BlockManager total) (rank : Fin total → Nat) :
    Option (Fin total) :=
  ((List.finRange total).filter (· ∈ self.freeBlocks)).argmin
    fun physicalId =>
      toLex ((self.blocks physicalId).eraseCount, rank physicalId)

/-- Mark the block of a mapped address as stale. -/
def invalidate (self : BlockManager total) (physicalId : Fin total) :
    BlockManager total :=
  { self.modifyBlock physicalId fun block =>
      { block with state := .invalid, logicalAddress := none } with
    stats :=
      { self.stats with
        validBlocks := self.stats.validBlocks - 1
        invalidBlocks := self.stats.invalidBlocks + 1 } }

/-- Take a block from the pool and write it. -/
def program (self : BlockManager total) (physicalId : Fin total)
    (logicalAddress : ℤ) (data : Bytes) : BlockManager total :=
  { self.modifyBlock physicalId fun block =>
      { block with
        data := data
        state := .valid
        logicalAddress := some logicalAddress } with
    freeBlocks := self.freeBlocks.erase physicalId
    l2pTable := self.l2pTable.set logicalAddress physicalId
    stats :=
      { self.stats with
        freeBlocks := self.stats.freeBlocks - 1
        validBlocks := self.stats.validBlocks + 1
        totalWrites := self.stats.totalWrites + 1 } }

/--
Write data to a logical address.  The answer is the physical block, or `none`
for `(-1, False)`.
-/
def writeBlock (self : BlockManager total) (rank : Fin total → Nat)
    (logicalAddress : ℤ) (data : Bytes) :
    Except PyException (Option (Fin total)) × BlockManager total :=
  if data.length > self.blockSize then
    (.error (.valueError
      ("Data too large: " ++ toString data.length ++ " > " ++
        toString self.blockSize)), self)
  else
    let remapped :=
      match self.l2pTable.get? logicalAddress with
      | some oldPhysical => self.invalidate oldPhysical
      | none => self
    match remapped.leastWorn rank with
    | none => (.ok none, remapped)
    | some physicalId =>
        (.ok (some physicalId),
          remapped.program physicalId logicalAddress data)

/-- Read data from a logical address. -/
def readBlock (self : BlockManager total) (logicalAddress : ℤ) :
    Option Bytes × BlockManager total :=
  match self.l2pTable.get? logicalAddress with
  | none => (none, self)
  | some physicalId =>
      if (self.blocks physicalId).state ≠ .valid then
        (none, self)
      else
        (some (self.blocks physicalId).data,
          { self with
            stats :=
              { self.stats with
                totalReads := self.stats.totalReads + 1 } })

/-- Delete a logical block. -/
def deleteBlock (self : BlockManager total) (logicalAddress : ℤ) :
    Bool × BlockManager total :=
  match self.l2pTable.get? logicalAddress with
  | none => (false, self)
  | some physicalId =>
      (true,
        { self.invalidate physicalId with
          l2pTable := self.l2pTable.erase logicalAddress })

/-- Retire a block that has worn out. -/
def retire (self : BlockManager total) (physicalId : Fin total) :
    BlockManager total :=
  { self.modifyBlock physicalId fun block =>
      { block with
        eraseCount := block.eraseCount + 1
        state := .bad } with
    stats :=
      { self.stats with badBlocks := self.stats.badBlocks + 1 } }

/-- Make a block free again. -/
def reset (self : BlockManager total) (physicalId : Fin total) :
    BlockManager total :=
  { self.modifyBlock physicalId fun block =>
      { state := .free, eraseCount := block.eraseCount + 1 } with
    freeBlocks := insert physicalId self.freeBlocks
    stats :=
      { self.stats with
        freeBlocks := self.stats.freeBlocks + 1
        totalErases := self.stats.totalErases + 1 } }

/--
Erase a physical block, unless it is bad or wears out.  The source also means to
lower the number of invalid blocks, but tests the state it has just assigned.
-/
def eraseBlock (self : BlockManager total) (physicalId : Fin total) :
    Bool × BlockManager total :=
  let block := self.blocks physicalId
  if block.state = .bad then
    (false, self)
  else if block.eraseCount + 1 ≥ self.maxEraseCount then
    (false, self.retire physicalId)
  else
    (true, self.reset physicalId)

/-- All invalid blocks. -/
def getInvalidBlocks (self : BlockManager total) : List (Fin total) :=
  (List.finRange total).filter fun physicalId =>
    (self.blocks physicalId).state = .invalid

/-- The erase counts of the blocks that are still usable. -/
def usableEraseCounts (self : BlockManager total) : List Nat :=
  ((List.finRange total).filter fun physicalId =>
    (self.blocks physicalId).state ≠ .bad).map fun physicalId =>
      (self.blocks physicalId).eraseCount

/--
Block manager statistics.  The average of no blocks divides by zero, and the
least erase count of no usable blocks is the `min` of an empty sequence.
-/
def getStats (self : BlockManager total) : Except PyException BlockStats :=
  if total = 0 then
    .error (.zeroDivisionError "division by zero")
  else
    match self.usableEraseCounts.min? with
    | none => .error (.valueError "min() arg is an empty sequence")
    | some minEraseCount =>
        let eraseCounts :=
          (List.finRange total).map fun physicalId =>
            (self.blocks physicalId).eraseCount
        .ok
          { counters := self.stats
            avgEraseCount := (eraseCounts.sum : ℚ) / total
            maxEraseCount := eraseCounts.foldl max 0
            minEraseCount := minEraseCount
            utilization :=
              (self.stats.validBlocks : ℚ) / self.stats.totalBlocks }

end BlockManager

/-- The logical address whose data the block holds. -/
def PhysicalBlock.owner (block : PhysicalBlock) : Option ℤ :=
  if block.state = .valid then block.logicalAddress else none

open BlockManager

section Coherence

variable {total : Nat}

/-- The data stored under a logical address. -/
def BlockManager.contents (self : BlockManager total)
    (logicalAddress : ℤ) : Option Bytes :=
  (self.l2pTable.get? logicalAddress).map fun physicalId =>
    (self.blocks physicalId).data

/-- Table and back pointers agree, and the pool holds free blocks. -/
structure BlockManager.Coherent (manager : BlockManager total) :
    Prop where
  linked :
    Linked manager.l2pTable.get? (PhysicalBlock.owner ∘ manager.blocks)
  pool :
    ∀ physicalId ∈ manager.freeBlocks,
      (manager.blocks physicalId).state = .free

theorem owner_eq_none
    {block : PhysicalBlock} (unused : block.state ≠ .valid) :
    block.owner = none :=
  if_neg unused

theorem coherent_new (total blockSize maxEraseCount : Nat) :
    (BlockManager.new total blockSize maxEraseCount).Coherent where
  linked := linked_empty
  pool := fun _ _ => rfl

variable
    {self : BlockManager total}
    {physicalId : Fin total}

/-- A block whose address is mapped there is valid. -/
theorem BlockManager.Coherent.valid_of_mapped
    (coherent : self.Coherent) {logicalAddress : ℤ}
    (mapped : self.l2pTable.get? logicalAddress = some physicalId) :
    (self.blocks physicalId).state = .valid := by
  have owned := (coherent.linked logicalAddress physicalId).mp mapped
  by_contra unused
  rw [Function.comp_apply, owner_eq_none unused] at owned
  cases owned

/-- A block that no address is mapped to can change freely. -/
theorem BlockManager.Coherent.contents_update
    (coherent : self.Coherent)
    (unused : (self.blocks physicalId).owner = none)
    (block : PhysicalBlock) {logicalAddress : ℤ} {other : Fin total}
    (mapped : self.l2pTable.get? logicalAddress = some other) :
    Function.update self.blocks physicalId block other =
      self.blocks other := by
  apply Function.update_of_ne
  intro same
  have owned := (coherent.linked logicalAddress other).mp mapped
  rw [Function.comp_apply, same, unused] at owned
  cases owned

/-! ## Reading -/

theorem readBlock_fst
    (coherent : self.Coherent) (logicalAddress : ℤ) :
    (self.readBlock logicalAddress).1 = self.contents logicalAddress := by
  rw [readBlock, contents]
  split
  · rename_i unmapped
    rw [unmapped]
    rfl
  · rename_i physicalId mapped
    have valid := coherent.valid_of_mapped mapped
    rw [if_neg (not_not.mpr valid), mapped]
    rfl

/-- Reading changes counters only. -/
theorem readBlock_snd (self : BlockManager total) (logicalAddress : ℤ) :
    ∃ stats,
      (self.readBlock logicalAddress).2 = { self with stats := stats } := by
  rw [readBlock]
  split
  · exact ⟨self.stats, rfl⟩
  · split
    · exact ⟨self.stats, rfl⟩
    · exact ⟨_, rfl⟩

/-! ## Writing -/

theorem leastWorn_mem
    {rank : Fin total → Nat}
    (least : self.leastWorn rank = some physicalId) :
    physicalId ∈ self.freeBlocks := by
  have member := List.argmin_mem least
  simpa using (List.mem_filter.mp member).2

/-- No block is found only in an empty pool. -/
theorem leastWorn_eq_none_iff {rank : Fin total → Nat} :
    self.leastWorn rank = none ↔ self.freeBlocks = ∅ := by
  rw [leastWorn, List.argmin_eq_none, List.filter_eq_nil_iff,
    Finset.eq_empty_iff_forall_notMem]
  simp

/-- The manager in which a write looks for a free block. -/
def BlockManager.remap (self : BlockManager total)
    (logicalAddress : ℤ) : BlockManager total :=
  match self.l2pTable.get? logicalAddress with
  | some oldPhysical => self.invalidate oldPhysical
  | none => self

theorem freeBlocks_remap
    (self : BlockManager total) (logicalAddress : ℤ) :
    (self.remap logicalAddress).freeBlocks = self.freeBlocks := by
  rw [remap]
  split <;> rfl

/-- Data that fits is written to a block of the pool, if there is one. -/
theorem writeBlock_of_fits
    (rank : Fin total → Nat) (logicalAddress : ℤ) {data : Bytes}
    (fits : ¬ data.length > self.blockSize) :
    (self.freeBlocks = ∅ ∧
        self.writeBlock rank logicalAddress data =
          (.ok none, self.remap logicalAddress)) ∨
      ∃ physicalId ∈ self.freeBlocks,
        self.writeBlock rank logicalAddress data =
          (.ok (some physicalId),
            (self.remap logicalAddress).program physicalId
              logicalAddress data) := by
  have unfolded :
      self.writeBlock rank logicalAddress data =
        match (self.remap logicalAddress).leastWorn rank with
        | none => (.ok none, self.remap logicalAddress)
        | some physicalId =>
            (.ok (some physicalId),
              (self.remap logicalAddress).program physicalId
                logicalAddress data) := by
    rw [writeBlock, if_neg fits]
    rfl
  cases least : (self.remap logicalAddress).leastWorn rank with
  | none =>
      have empty := leastWorn_eq_none_iff.mp least
      rw [freeBlocks_remap] at empty
      exact Or.inl ⟨empty, by rw [unfolded, least]⟩
  | some physicalId =>
      have taken := leastWorn_mem least
      rw [freeBlocks_remap] at taken
      exact Or.inr ⟨physicalId, taken, by rw [unfolded, least]⟩

/-- A write to a new address does nothing or takes a block from the pool. -/
theorem writeBlock_cases
    (rank : Fin total → Nat) {logicalAddress : ℤ} (data : Bytes)
    (fresh : self.l2pTable.get? logicalAddress = none) :
    (∃ failure,
        self.writeBlock rank logicalAddress data =
          (.error failure, self)) ∨
      self.writeBlock rank logicalAddress data = (.ok none, self) ∨
      ∃ physicalId ∈ self.freeBlocks,
        self.writeBlock rank logicalAddress data =
          (.ok (some physicalId),
            self.program physicalId logicalAddress data) := by
  rw [writeBlock]
  split
  · exact Or.inl ⟨_, rfl⟩
  · simp only [fresh]
    cases least : self.leastWorn rank with
    | none => exact Or.inr (Or.inl rfl)
    | some physicalId =>
        exact Or.inr (Or.inr ⟨physicalId, leastWorn_mem least, rfl⟩)

theorem BlockManager.Coherent.program
    (coherent : self.Coherent)
    (taken : physicalId ∈ self.freeBlocks)
    {logicalAddress : ℤ} (data : Bytes)
    (fresh : self.l2pTable.get? logicalAddress = none) :
    (self.program physicalId logicalAddress data).Coherent where
  linked := by
    have free : (self.blocks physicalId).owner = none :=
      owner_eq_none (by simp [coherent.pool physicalId taken])
    have linked := coherent.linked.link fresh free
    simp only [BlockManager.program, modifyBlock, Function.comp_update,
      Dict.get?_set_eq_update]
    exact linked
  pool := by
    intro other member
    rcases Finset.mem_erase.mp member with ⟨apart, free⟩
    simp only [BlockManager.program, modifyBlock,
      Function.update_of_ne apart]
    exact coherent.pool other free

theorem BlockManager.Coherent.contents_program
    (coherent : self.Coherent)
    (taken : physicalId ∈ self.freeBlocks)
    (logicalAddress : ℤ) (data : Bytes) :
    (self.program physicalId logicalAddress data).contents =
      Function.update self.contents logicalAddress (some data) := by
  funext other
  have free : (self.blocks physicalId).owner = none :=
    owner_eq_none (by simp [coherent.pool physicalId taken])
  by_cases same : other = logicalAddress
  · subst same
    simp [contents, BlockManager.program, modifyBlock]
  · rw [Function.update_of_ne same, contents, contents]
    simp only [BlockManager.program, modifyBlock,
      Dict.get?_set_ne _ _ same]
    cases mapped : self.l2pTable.get? other with
    | none => rfl
    | some target =>
        simp only [Option.map_some]
        rw [coherent.contents_update free _ mapped]

/-! ## Deleting -/

theorem BlockManager.Coherent.deleteBlock
    (coherent : self.Coherent) (logicalAddress : ℤ) :
    (self.deleteBlock logicalAddress).2.Coherent := by
  rw [BlockManager.deleteBlock]
  split
  · exact coherent
  · rename_i physicalId mapped
    have valid := coherent.valid_of_mapped mapped
    constructor
    · have linked := coherent.linked.unlink mapped
      simp only [invalidate, modifyBlock, Function.comp_update,
        Dict.get?_erase_eq_update]
      exact linked
    · intro other member
      have apart : other ≠ physicalId := by
        intro same
        have free := coherent.pool other member
        rw [same, valid] at free
        cases free
      simp only [invalidate, modifyBlock, Function.update_of_ne apart]
      exact coherent.pool other member

theorem BlockManager.Coherent.contents_deleteBlock
    (coherent : self.Coherent) (logicalAddress : ℤ) :
    (self.deleteBlock logicalAddress).2.contents =
      Function.update self.contents logicalAddress none := by
  funext other
  rw [BlockManager.deleteBlock]
  split
  · rename_i unmapped
    by_cases same : other = logicalAddress
    · subst same
      simp [contents, unmapped]
    · rw [Function.update_of_ne same]
  · rename_i physicalId mapped
    by_cases same : other = logicalAddress
    · subst same
      simp [contents]
    · rw [Function.update_of_ne same, contents, contents]
      simp only [invalidate, modifyBlock, Dict.get?_erase_ne _ same]
      cases elsewhere : self.l2pTable.get? other with
      | none => rfl
      | some target =>
          have apart : target ≠ physicalId := by
            intro shared
            rw [shared] at elsewhere
            exact same (coherent.linked.injective elsewhere mapped)
          simp [Function.update_of_ne apart]

/-! ## Erasing -/

/-- An unused block that stays unused can be rewritten. -/
theorem BlockManager.Coherent.rewrite
    (coherent : self.Coherent)
    (unused : (self.blocks physicalId).owner = none)
    {block : PhysicalBlock} (stays : block.owner = none)
    {pool : Finset (Fin total)}
    (pooled :
      ∀ other ∈ pool,
        (other = physicalId ∧ block.state = .free) ∨
          (other ≠ physicalId ∧ other ∈ self.freeBlocks))
    (stats : BlockManagerStats) :
    BlockManager.Coherent
        { self with
          blocks := Function.update self.blocks physicalId block
          freeBlocks := pool
          stats := stats } ∧
      BlockManager.contents
          { self with
            blocks := Function.update self.blocks physicalId block
            freeBlocks := pool
            stats := stats } = self.contents := by
  refine ⟨⟨?_, ?_⟩, ?_⟩
  · have same :
        Function.update (PhysicalBlock.owner ∘ self.blocks) physicalId
          none = PhysicalBlock.owner ∘ self.blocks :=
      Function.update_eq_self_iff.mpr unused.symm
    simp only [Function.comp_update, stays, same]
    exact coherent.linked
  · intro other member
    rcases pooled other member with ⟨same, free⟩ | ⟨apart, free⟩
    · subst same
      simpa using free
    · simp only [Function.update_of_ne apart]
      exact coherent.pool other free
  · funext logicalAddress
    rw [contents, contents]
    cases mapped : self.l2pTable.get? logicalAddress with
    | none => rfl
    | some target =>
        simp only [Option.map_some]
        rw [coherent.contents_update unused block mapped]

/-- Erasing a stale block leaves the stored map alone. -/
theorem BlockManager.Coherent.eraseBlock
    (coherent : self.Coherent)
    (stale : (self.blocks physicalId).state = .invalid) :
    (self.eraseBlock physicalId).2.Coherent ∧
      (self.eraseBlock physicalId).2.contents = self.contents := by
  have unused : (self.blocks physicalId).owner = none :=
    owner_eq_none (by simp [stale])
  simp only [BlockManager.eraseBlock, stale, reduceCtorEq, if_false]
  split
  · apply coherent.rewrite unused
    · exact owner_eq_none (by simp)
    · intro other free
      refine Or.inr ⟨?_, free⟩
      intro same
      have state := coherent.pool other free
      rw [same, stale] at state
      cases state
  · apply coherent.rewrite unused
    · exact owner_eq_none (by simp)
    · intro other member
      by_cases same : other = physicalId
      · exact Or.inl ⟨same, rfl⟩
      · rcases Finset.mem_insert.mp member with equal | free
        · exact absurd equal same
        · exact Or.inr ⟨same, free⟩

end Coherence

end StorageAppliance.DirectFlash
