import Mathlib.Algebra.BigOperators.Group.Finset.Basic
import Mathlib.Algebra.Order.BigOperators.Group.Finset
import StorageAppliance.DirectFlash.BlockManager
import StorageAppliance.Library.Census

/-!
# Wear leveling

Data on the most worn valid block moves to the least worn free block while
their erase counts differ by more than the threshold
(`directflash/wear_leveling.py`).

Each move replaces a valid block by one with a lower erase count, so the wear of
the valid blocks, summed up, falls.  The loop of the source is a recursion on a
number of rounds, and a pass runs it for more rounds than that sum:
`levelLoop_candidates` says that the loop then ends by itself.

The write counts of `record_write` are left out, because no modelled function
reads them.
-/

namespace StorageAppliance.DirectFlash

open StorageAppliance.Python
open StorageAppliance.Library
open BlockManager

/-- The threshold, and how many blocks were moved. -/
structure WearLeveling where
  threshold : Nat
  blocksMoved : Nat := 0
deriving DecidableEq

/-- The blocks found so far in the search for candidates. -/
structure CandidateSearch (total : Nat) where
  mostWornValid : Option (Fin total × Nat) := none
  leastWornFree : Option (Fin total × Nat) := none
deriving DecidableEq

namespace WearLeveling

variable {total : Nat}

/-- Check if wear leveling is needed. -/
def shouldLevel (self : WearLeveling) (manager : BlockManager total) :
    Except PyException Bool :=
  match manager.getStats with
  | .error exception => .error exception
  | .ok stats =>
      .ok (decide
        ((stats.maxEraseCount : ℤ) - stats.minEraseCount >
          self.threshold))

/-- Look at one more block. -/
def inspect (manager : BlockManager total) (search : CandidateSearch total)
    (blockId : Fin total) : CandidateSearch total :=
  let block := manager.blocks blockId
  if block.state = .valid then
    match search.mostWornValid with
    | none =>
        { search with mostWornValid := some (blockId, block.eraseCount) }
    | some (_, maxErase) =>
        if block.eraseCount > maxErase then
          { search with mostWornValid := some (blockId, block.eraseCount) }
        else
          search
  else if block.state = .free then
    match search.leastWornFree with
    | none =>
        { search with leastWornFree := some (blockId, block.eraseCount) }
    | some (_, minErase) =>
        if block.eraseCount < minErase then
          { search with leastWornFree := some (blockId, block.eraseCount) }
        else
          search
  else
    search

/-- Find source and destination blocks for wear leveling. -/
def findCandidates (self : WearLeveling) (manager : BlockManager total) :
    Option (Fin total × Fin total) :=
  match (List.finRange total).foldl (inspect manager) {} with
  | ⟨some (mostWornValid, maxErase), some (leastWornFree, minErase)⟩ =>
      if (maxErase : ℤ) - minErase > self.threshold then
        some (mostWornValid, leastWornFree)
      else
        none
  | _ => none

/-- The manager after the data of one block has moved to another. -/
def moveData (manager : BlockManager total) (sourceId destId : Fin total) :
    BlockManager total :=
  let source := manager.blocks sourceId
  let copied :=
    manager.modifyBlock destId fun dest =>
      { dest with
        data := source.data
        state := .valid
        logicalAddress := source.logicalAddress }
  let moved :=
    copied.modifyBlock sourceId fun block =>
      { block with state := .invalid, logicalAddress := none }
  { moved with
    l2pTable :=
      match source.logicalAddress with
      | some logicalAddress => manager.l2pTable.set logicalAddress destId
      | none => manager.l2pTable
    freeBlocks := manager.freeBlocks.erase destId
    stats :=
      { manager.stats with
        freeBlocks := manager.stats.freeBlocks - 1
        invalidBlocks := manager.stats.invalidBlocks + 1 } }

/-- Move data from the source block to the destination block. -/
def levelBlock (self : WearLeveling) (manager : BlockManager total)
    (sourceId destId : Fin total) :
    Bool × WearLeveling × BlockManager total :=
  if (manager.blocks sourceId).state ≠ .valid ∨
      (manager.blocks destId).state ≠ .free then
    (false, self, manager)
  else
    (true, { self with blocksMoved := self.blocksMoved + 1 },
      moveData manager sourceId destId)

/-- Move blocks as long as there are candidates, for a number of rounds. -/
def levelLoop :
    Nat → WearLeveling → BlockManager total →
      Nat × WearLeveling × BlockManager total
  | 0, self, manager => (0, self, manager)
  | rounds + 1, self, manager =>
      match self.findCandidates manager with
      | none => (0, self, manager)
      | some (sourceId, destId) =>
          match self.levelBlock manager sourceId destId with
          | (false, leveled, unmoved) => (0, leveled, unmoved)
          | (true, leveled, moved) =>
              let (count, final) :=
                levelLoop rounds leveled (moved.eraseBlock sourceId).2
              (count + 1, final)

end WearLeveling

/-- The erase count of a valid block. -/
def PhysicalBlock.validWear (block : PhysicalBlock) : Nat :=
  if block.state = .valid then block.eraseCount else 0

/-- The erase counts of the valid blocks, summed up. -/
def BlockManager.validWear {total : Nat} (manager : BlockManager total) :
    Nat :=
  ∑ physicalId, (manager.blocks physicalId).validWear

namespace WearLeveling

variable {total : Nat}

/-- Run one pass of wear leveling. -/
def runLevelingPass (self : WearLeveling) (manager : BlockManager total) :
    Except PyException Nat × WearLeveling × BlockManager total :=
  match self.shouldLevel manager with
  | .error exception => (.error exception, self, manager)
  | .ok false => (.ok 0, self, manager)
  | .ok true =>
      let (moved, final) :=
        levelLoop (manager.validWear + 1) self manager
      (.ok moved, final)

end WearLeveling

open WearLeveling

section Leveling

variable
    {total : Nat}
    {self : WearLeveling}
    {manager : BlockManager total}
    {sourceId destId : Fin total}

/-! ## The candidates -/

/-- What the search has found are valid and free blocks with their counts. -/
structure SearchSound (manager : BlockManager total)
    (search : CandidateSearch total) : Prop where
  valid :
    ∀ blockId maxErase,
      search.mostWornValid = some (blockId, maxErase) →
        (manager.blocks blockId).state = .valid ∧
          (manager.blocks blockId).eraseCount = maxErase
  free :
    ∀ blockId minErase,
      search.leastWornFree = some (blockId, minErase) →
        (manager.blocks blockId).state = .free ∧
          (manager.blocks blockId).eraseCount = minErase

theorem SearchSound.withValid
    {search : CandidateSearch total}
    (sound : SearchSound manager search) {blockId : Fin total}
    (valid : (manager.blocks blockId).state = .valid) :
    SearchSound manager
      { search with
        mostWornValid :=
          some (blockId, (manager.blocks blockId).eraseCount) } where
  valid := by
    intro found maxErase equal
    cases equal
    exact ⟨valid, rfl⟩
  free := sound.free

theorem SearchSound.withFree
    {search : CandidateSearch total}
    (sound : SearchSound manager search) {blockId : Fin total}
    (free : (manager.blocks blockId).state = .free) :
    SearchSound manager
      { search with
        leastWornFree :=
          some (blockId, (manager.blocks blockId).eraseCount) } where
  valid := sound.valid
  free := by
    intro found minErase equal
    cases equal
    exact ⟨free, rfl⟩

theorem SearchSound.inspect
    {search : CandidateSearch total}
    (sound : SearchSound manager search) (blockId : Fin total) :
    SearchSound manager (inspect manager search blockId) := by
  simp only [WearLeveling.inspect]
  split
  · rename_i valid
    split
    · exact sound.withValid valid
    · split
      · exact sound.withValid valid
      · exact sound
  · split
    · rename_i free
      split
      · exact sound.withFree free
      · split
        · exact sound.withFree free
        · exact sound
    · exact sound

theorem searchSound_foldl
    {search : CandidateSearch total}
    (sound : SearchSound manager search) (blockIds : List (Fin total)) :
    SearchSound manager (blockIds.foldl (inspect manager) search) := by
  induction blockIds generalizing search with
  | nil => exact sound
  | cons blockId rest induction => exact induction (sound.inspect blockId)

/-- Candidates are a valid block and a less worn free block. -/
theorem findCandidates_spec
    (found : self.findCandidates manager = some (sourceId, destId)) :
    (manager.blocks sourceId).state = .valid ∧
      (manager.blocks destId).state = .free ∧
      (manager.blocks destId).eraseCount <
        (manager.blocks sourceId).eraseCount := by
  have sound :
      SearchSound manager
        ((List.finRange total).foldl (inspect manager) {}) :=
    searchSound_foldl ⟨by simp, by simp⟩ _
  rw [findCandidates] at found
  split at found
  · rename_i mostWorn maxErase leastWorn minErase searched
    rw [searched] at sound
    split at found
    · rename_i exceeds
      cases found
      rcases sound.valid _ _ rfl with ⟨valid, maxCount⟩
      rcases sound.free _ _ rfl with ⟨free, minCount⟩
      refine ⟨valid, free, ?_⟩
      rw [maxCount, minCount]
      omega
    · cases found
  · cases found

/-- Candidates are leveled. -/
theorem levelBlock_candidates
    (found : self.findCandidates manager = some (sourceId, destId)) :
    self.levelBlock manager sourceId destId =
      (true, { self with blocksMoved := self.blocksMoved + 1 },
        moveData manager sourceId destId) := by
  rcases findCandidates_spec found with ⟨valid, free, _⟩
  simp [levelBlock, valid, free]

/-! ## One move -/

theorem ne_of_valid_of_free
    (valid : (manager.blocks sourceId).state = .valid)
    (free : (manager.blocks destId).state = .free) :
    sourceId ≠ destId := by
  intro same
  rw [same, free] at valid
  cases valid

/-- Source and destination after a move. -/
theorem moveData_blocks
    (manager : BlockManager total) (apart : sourceId ≠ destId) :
    (moveData manager sourceId destId).blocks =
      Function.update
        (Function.update manager.blocks sourceId
          { manager.blocks sourceId with
            state := .invalid
            logicalAddress := none })
        destId
        { manager.blocks destId with
          data := (manager.blocks sourceId).data
          state := .valid
          logicalAddress := (manager.blocks sourceId).logicalAddress } := by
  simp only [moveData, modifyBlock, Function.update_of_ne apart]
  exact Function.update_comm (Ne.symm apart) _ _ _

/-- The address of a valid block moves with its data. -/
theorem moveData_linked
    (coherent : manager.Coherent) (apart : sourceId ≠ destId)
    (valid : (manager.blocks sourceId).state = .valid)
    (free : (manager.blocks destId).state = .free) :
    Linked (moveData manager sourceId destId).l2pTable.get?
      (PhysicalBlock.owner ∘
        (moveData manager sourceId destId).blocks) := by
  have unused : (PhysicalBlock.owner ∘ manager.blocks) destId = none :=
    owner_eq_none (by simp [free])
  have sourceOwner :
      (PhysicalBlock.owner ∘ manager.blocks) sourceId =
        (manager.blocks sourceId).logicalAddress :=
    if_pos valid
  rw [moveData_blocks manager apart, Function.comp_update, Function.comp_update]
  simp only [PhysicalBlock.owner, reduceCtorEq, if_false, if_true]
  cases address : (manager.blocks sourceId).logicalAddress with
  | none =>
      rw [address] at sourceOwner
      have sameSource :
          Function.update (PhysicalBlock.owner ∘ manager.blocks) sourceId
            none = PhysicalBlock.owner ∘ manager.blocks :=
        Function.update_eq_self_iff.mpr sourceOwner.symm
      have sameDest :
          Function.update (PhysicalBlock.owner ∘ manager.blocks) destId
            none = PhysicalBlock.owner ∘ manager.blocks :=
        Function.update_eq_self_iff.mpr unused.symm
      simp only [moveData, address]
      change
        Linked _
          (Function.update
            (Function.update (PhysicalBlock.owner ∘ manager.blocks)
              sourceId none) destId none)
      rw [sameSource, sameDest]
      exact coherent.linked
  | some logicalAddress =>
      rw [address] at sourceOwner
      simp only [moveData, address, Dict.get?_set_eq_update]
      exact coherent.linked.move sourceOwner unused

/-- Only the address of the moved block is mapped elsewhere. -/
theorem moveData_get?
    (coherent : manager.Coherent)
    (valid : (manager.blocks sourceId).state = .valid)
    (logicalAddress : ℤ) :
    (moveData manager sourceId destId).l2pTable.get? logicalAddress =
      if manager.l2pTable.get? logicalAddress = some sourceId then
        some destId
      else
        manager.l2pTable.get? logicalAddress := by
  have owner :
      (PhysicalBlock.owner ∘ manager.blocks) sourceId =
        (manager.blocks sourceId).logicalAddress :=
    if_pos valid
  have mapped := coherent.linked logicalAddress sourceId
  rw [owner] at mapped
  cases address : (manager.blocks sourceId).logicalAddress with
  | none =>
      rw [if_neg (by rw [mapped, address]; simp)]
      simp [moveData, address]
  | some current =>
      simp only [moveData, address, Dict.get?_set]
      rw [address, Option.some.injEq] at mapped
      by_cases same : logicalAddress = current
      · rw [if_pos same, if_pos (mapped.mpr same.symm)]
      · rw [if_neg same,
          if_neg fun held => same (mapped.mp held).symm]

/-- Moving a valid block to a free one keeps the stored map. -/
theorem moveData_coherent
    (coherent : manager.Coherent)
    (valid : (manager.blocks sourceId).state = .valid)
    (free : (manager.blocks destId).state = .free) :
    (moveData manager sourceId destId).Coherent ∧
      (moveData manager sourceId destId).contents = manager.contents := by
  have apart := ne_of_valid_of_free valid free
  have linked := moveData_linked coherent apart valid free
  have blocks := moveData_blocks manager apart
  refine ⟨⟨linked, ?_⟩, ?_⟩
  · intro other member
    rcases Finset.mem_erase.mp member with ⟨notDest, pooled⟩
    have notSource : other ≠ sourceId := by
      intro same
      have state := coherent.pool other pooled
      rw [same, valid] at state
      cases state
    rw [blocks, Function.update_of_ne notDest,
      Function.update_of_ne notSource]
    exact coherent.pool other pooled
  · funext logicalAddress
    rw [contents, contents, moveData_get? coherent valid, blocks]
    by_cases moved :
        manager.l2pTable.get? logicalAddress = some sourceId
    · rw [if_pos moved, moved]
      simp
    · rw [if_neg moved]
      cases mapped : manager.l2pTable.get? logicalAddress with
      | none => rfl
      | some target =>
          have notSource : target ≠ sourceId := by
            intro same
            exact moved (mapped.trans (congrArg some same))
          have notDest : target ≠ destId := by
            intro same
            have state := coherent.valid_of_mapped mapped
            rw [same, free] at state
            cases state
          simp only [Option.map_some, Function.update_of_ne notDest,
            Function.update_of_ne notSource]

/-- The source of a move is stale afterwards. -/
theorem moveData_source
    (manager : BlockManager total) (apart : sourceId ≠ destId) :
    ((moveData manager sourceId destId).blocks sourceId).state =
      .invalid := by
  rw [moveData_blocks manager apart, Function.update_of_ne apart,
    Function.update_self]

/-- A round moves a block and erases its source. -/
def WearLeveling.round (manager : BlockManager total)
    (sourceId destId : Fin total) : BlockManager total :=
  ((moveData manager sourceId destId).eraseBlock sourceId).2

theorem round_coherent
    (coherent : manager.Coherent)
    (found : self.findCandidates manager = some (sourceId, destId)) :
    (round manager sourceId destId).Coherent ∧
      (round manager sourceId destId).contents = manager.contents := by
  rcases findCandidates_spec found with ⟨valid, free, _⟩
  have apart := ne_of_valid_of_free valid free
  have moved := moveData_coherent coherent valid free
  have erased :=
    moved.1.eraseBlock (moveData_source manager apart)
  exact ⟨erased.1, erased.2.trans moved.2⟩

/-- Erasing takes a stale block to one that is not valid. -/
theorem eraseBlock_blocks
    {physicalId : Fin total}
    (stale : (manager.blocks physicalId).state = .invalid) :
    ∃ block : PhysicalBlock,
      block.state ≠ .valid ∧
        (manager.eraseBlock physicalId).2.blocks =
          Function.update manager.blocks physicalId block := by
  simp only [eraseBlock, stale, reduceCtorEq, if_false]
  split
  · exact ⟨_, by simp, rfl⟩
  · exact ⟨_, by simp, rfl⟩

/-- The blocks after a round. -/
theorem round_blocks
    (manager : BlockManager total) (apart : sourceId ≠ destId) :
    ∃ erased : PhysicalBlock,
      erased.state ≠ .valid ∧
        (round manager sourceId destId).blocks =
          Function.update
            (Function.update manager.blocks destId
              { manager.blocks destId with
                data := (manager.blocks sourceId).data
                state := .valid
                logicalAddress :=
                  (manager.blocks sourceId).logicalAddress })
            sourceId erased := by
  rcases eraseBlock_blocks (moveData_source manager apart) with
    ⟨erased, unused, blocks⟩
  refine ⟨erased, unused, ?_⟩
  rw [WearLeveling.round, blocks, moveData_blocks manager apart,
    Function.update_comm (Ne.symm apart), Function.update_idem,
    Function.update_comm (Ne.symm apart)]

/-- Each round lowers the wear of the valid blocks. -/
theorem round_validWear
    (found : self.findCandidates manager = some (sourceId, destId)) :
    (round manager sourceId destId).validWear < manager.validWear := by
  rcases findCandidates_spec found with ⟨valid, free, less⟩
  have apart := ne_of_valid_of_free valid free
  rcases round_blocks manager apart with ⟨erased, unused, blocks⟩
  have written :=
    Library.sum_update PhysicalBlock.validWear manager.blocks destId
      { manager.blocks destId with
        data := (manager.blocks sourceId).data
        state := .valid
        logicalAddress := (manager.blocks sourceId).logicalAddress }
  have freed :=
    Library.sum_update PhysicalBlock.validWear
      (Function.update manager.blocks destId
        { manager.blocks destId with
          data := (manager.blocks sourceId).data
          state := .valid
          logicalAddress := (manager.blocks sourceId).logicalAddress })
      sourceId erased
  have notValid : (manager.blocks destId).state ≠ .valid := by
    simp [free]
  rw [Function.update_of_ne apart] at freed
  simp only [PhysicalBlock.validWear, if_neg notValid, if_pos valid,
    if_neg unused, if_true] at written freed
  simp only [BlockManager.validWear, PhysicalBlock.validWear, blocks]
  omega

/-! ## The loop -/

theorem levelLoop_succ
    (rounds : Nat)
    (found : self.findCandidates manager = some (sourceId, destId)) :
    levelLoop (rounds + 1) self manager =
      ((levelLoop rounds
            { self with blocksMoved := self.blocksMoved + 1 }
            (round manager sourceId destId)).1 + 1,
        (levelLoop rounds
          { self with blocksMoved := self.blocksMoved + 1 }
          (round manager sourceId destId)).2) := by
  rw [levelLoop, found]
  simp only [levelBlock_candidates found]
  rfl

/-- With more rounds than the wear, the loop ends by itself. -/
theorem levelLoop_candidates
    {rounds : Nat} (enough : manager.validWear < rounds) :
    (levelLoop rounds self manager).2.1.findCandidates
      (levelLoop rounds self manager).2.2 = none := by
  induction rounds generalizing self manager with
  | zero => exact absurd enough (Nat.not_lt_zero _)
  | succ rounds induction =>
      cases found : self.findCandidates manager with
      | none => simp [levelLoop, found]
      | some candidates =>
          rcases candidates with ⟨sourceId, destId⟩
          have falls := round_validWear found
          rw [levelLoop_succ rounds found]
          exact induction (by omega)

/-- The stored map survives any number of rounds. -/
theorem levelLoop_coherent
    (rounds : Nat) (coherent : manager.Coherent) :
    (levelLoop rounds self manager).2.2.Coherent ∧
      (levelLoop rounds self manager).2.2.contents =
        manager.contents := by
  induction rounds generalizing self manager with
  | zero => exact ⟨coherent, rfl⟩
  | succ rounds induction =>
      cases found : self.findCandidates manager with
      | none =>
          simp only [levelLoop, found]
          exact ⟨coherent, trivial⟩
      | some candidates =>
          rcases candidates with ⟨sourceId, destId⟩
          rcases round_coherent coherent found with ⟨leveled, same⟩
          rw [levelLoop_succ rounds found, ← same]
          exact induction leveled

theorem runLevelingPass_coherent
    (self : WearLeveling) (coherent : manager.Coherent) :
    (self.runLevelingPass manager).2.2.Coherent ∧
      (self.runLevelingPass manager).2.2.contents = manager.contents := by
  rw [runLevelingPass]
  split
  · exact ⟨coherent, rfl⟩
  · exact ⟨coherent, rfl⟩
  · exact levelLoop_coherent _ coherent

end Leveling

end StorageAppliance.DirectFlash
