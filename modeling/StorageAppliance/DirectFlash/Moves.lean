import Mathlib.Logic.Relation
import StorageAppliance.DirectFlash.Simulator
import StorageAppliance.DirectFlash.Counters

/-!
# Elementary changes of the flash

Whatever the simulator is asked to do, it changes the blocks in one of five
ways: it writes a block of the pool under a new address, deletes an address,
erases a stale block, moves a valid block to a free one, or counts a read.
`execute_moves` says that every call is a sequence of these, so an invariant of
the flash has to be checked for the five only.

`Sound` collects what then holds in every state that the simulator reaches.  The
pool is exactly the set of free blocks, and of the four counters only the one of
the invalid blocks can be wrong.
-/

namespace StorageAppliance.DirectFlash

open StorageAppliance.Python
open StorageAppliance.Library
open BlockManager
open WearLeveling
open GarbageCollector
open DirectFlashSimulator

/-- One change of the flash. -/
inductive Move {total : Nat} (before : BlockManager total) :
    BlockManager total → Prop where
  | program (physicalId : Fin total) (logicalAddress : ℤ) (data : Bytes)
      (taken : physicalId ∈ before.freeBlocks)
      (fresh : before.l2pTable.get? logicalAddress = none) :
      Move before (before.program physicalId logicalAddress data)
  | delete (logicalAddress : ℤ) :
      Move before (before.deleteBlock logicalAddress).2
  | erase (physicalId : Fin total)
      (stale : before.states physicalId = .invalid) :
      Move before (before.eraseBlock physicalId).2
  | level (sourceId destId : Fin total)
      (valid : before.states sourceId = .valid)
      (free : before.states destId = .free) :
      Move before (moveData before sourceId destId)
  | read (logicalAddress : ℤ) :
      Move before (before.readBlock logicalAddress).2

/-- Any number of changes, one after another. -/
abbrev Moves {total : Nat} :
    BlockManager total → BlockManager total → Prop :=
  Relation.ReflTransGen Move

/-- An invariant of every change holds after any number of them. -/
theorem Moves.invariant
    {total : Nat} {invariant : BlockManager total → Prop}
    (keeps :
      ∀ before after,
        Move before after → invariant before → invariant after)
    {before after : BlockManager total}
    (moves : Moves before after) (start : invariant before) :
    invariant after := by
  induction moves with
  | refl => exact start
  | tail _ move induction => exact keeps _ _ move induction

section Calls

variable
    {total : Nat}
    {manager : BlockManager total}
    {simulator : DirectFlashSimulator total}

/-! ## Garbage collection -/

theorem reclaim_moves
    (collector : GarbageCollector) (blockId : Fin total) :
    Moves manager (collector.reclaim manager blockId).2.2 := by
  rw [reclaim]
  split
  · rename_i stale
    have erased := Move.erase blockId stale
    split <;> rename_i outcome <;> rw [outcome] at erased
    · exact Relation.ReflTransGen.single erased
    · exact Relation.ReflTransGen.single erased
  · exact Relation.ReflTransGen.refl

theorem collect_moves
    (collector : GarbageCollector) (reclaimed : Nat)
    (blockIds : List (Fin total)) :
    Moves manager (collector.collect manager reclaimed blockIds).2.2 := by
  induction blockIds generalizing collector manager reclaimed with
  | nil => exact Relation.ReflTransGen.refl
  | cons blockId rest induction =>
      have first :
          Moves manager (collector.reclaim manager blockId).2.2 :=
        reclaim_moves collector blockId
      simp only [collect]
      split
      · exact Relation.ReflTransGen.refl
      · split
        · exact first
        · split
          · exact first
          · exact first.trans (induction _ _)

theorem runGcCycle_moves (collector : GarbageCollector) :
    Moves manager (collector.runGcCycle manager).2.2 := by
  have collected :
      Moves manager
        ({ collector with state := .running }.collect manager 0
          manager.getInvalidBlocks).2.2 :=
    collect_moves _ _ _
  rw [runGcCycle]
  split
  · exact Relation.ReflTransGen.refl
  · split <;> rename_i outcome <;> rw [outcome] at collected
    · exact collected
    · exact collected

theorem backgroundCycle_moves (collector : GarbageCollector) :
    Moves manager (collector.backgroundCycle manager).2.2 := by
  rw [backgroundCycle]
  split
  · exact Relation.ReflTransGen.refl
  · split
    · exact Relation.ReflTransGen.refl
    · exact runGcCycle_moves collector
    · exact Relation.ReflTransGen.refl

/-! ## Wear leveling -/

theorem round_moves
    {leveling : WearLeveling} {sourceId destId : Fin total}
    (found :
      leveling.findCandidates manager = some (sourceId, destId)) :
    Moves manager (round manager sourceId destId) := by
  rcases findCandidates_spec found with ⟨valid, free, _⟩
  have apart := ne_of_valid_of_free valid free
  have moved : Move manager (moveData manager sourceId destId) :=
    Move.level sourceId destId valid free
  have erased :
      Move (moveData manager sourceId destId)
        (round manager sourceId destId) :=
    Move.erase sourceId (moveData_source manager apart)
  exact (Relation.ReflTransGen.single moved).tail erased

theorem levelLoop_moves (rounds : Nat) (leveling : WearLeveling) :
    Moves manager (levelLoop rounds leveling manager).2.2 := by
  induction rounds generalizing leveling manager with
  | zero => exact Relation.ReflTransGen.refl
  | succ rounds induction =>
      cases found : leveling.findCandidates manager with
      | none =>
          simp only [levelLoop, found]
          exact Relation.ReflTransGen.refl
      | some candidates =>
          rcases candidates with ⟨sourceId, destId⟩
          rw [levelLoop_succ rounds found]
          exact (round_moves found).trans (induction _)

theorem runLevelingPass_moves (leveling : WearLeveling) :
    Moves manager (leveling.runLevelingPass manager).2.2 := by
  rw [runLevelingPass]
  split
  · exact Relation.ReflTransGen.refl
  · exact Relation.ReflTransGen.refl
  · exact levelLoop_moves _ _

/-! ## Calls of the simulator -/

theorem finishWrite_moves (logicalAddress : ℤ) :
    Moves simulator.blockManager
      (simulator.finishWrite logicalAddress).2.blockManager := by
  have leveled :
      Moves simulator.blockManager
        simulator.forceWearLeveling.2.blockManager :=
    runLevelingPass_moves _
  rw [finishWrite]
  split
  · exact Relation.ReflTransGen.refl
  · exact Relation.ReflTransGen.refl
  · split <;> rename_i outcome <;> rw [outcome] at leveled
    · exact leveled
    · exact leveled

theorem retryWrite_moves
    (rank : Fin total → Nat) {logicalAddress : ℤ} (data : Bytes)
    (fresh :
      simulator.blockManager.l2pTable.get? logicalAddress = none) :
    Moves simulator.blockManager
      (simulator.retryWrite rank logicalAddress data).2.blockManager := by
  rcases writeBlock_cases rank data fresh with
    ⟨failure, failed⟩ | full | ⟨physicalId, taken, programmed⟩
  · rw [retryWrite, failed]
  · rw [retryWrite, full]
  · have first :=
      Move.program physicalId logicalAddress data taken fresh
    rw [retryWrite, programmed]
    exact
      Relation.ReflTransGen.head first
        (@finishWrite_moves _
          { simulator with
            blockManager :=
              simulator.blockManager.program physicalId logicalAddress
                data }
          logicalAddress)

/-- No call maps an address that was not mapped and is not written. -/
theorem forceGc_unmapped
    (coherent : simulator.blockManager.Coherent) {logicalAddress : ℤ}
    (fresh :
      simulator.blockManager.l2pTable.get? logicalAddress = none) :
    simulator.forceGc.2.blockManager.l2pTable.get? logicalAddress =
      none := by
  have kept :=
    (runGcCycle_coherent simulator.garbageCollector coherent).2
  have absent : simulator.blockManager.contents logicalAddress = none := by
    rw [contents, fresh]
    rfl
  rw [← kept, contents, Option.map_eq_none_iff] at absent
  exact absent

theorem write_moves
    (rank : Fin total → Nat) (data : Bytes)
    (coherent : simulator.blockManager.Coherent)
    (fresh :
      simulator.blockManager.l2pTable.get?
        simulator.nextLogicalAddress = none) :
    Moves simulator.blockManager
      (simulator.write rank data).2.blockManager := by
  simp only [DirectFlashSimulator.write]
  rcases writeBlock_cases rank data fresh with
    ⟨failure, failed⟩ | full | ⟨physicalId, taken, programmed⟩
  · rw [failed]
  · simp only [full]
    have collected :
        Moves simulator.blockManager
          ({ simulator with
              nextLogicalAddress :=
                simulator.nextLogicalAddress + 1 }
            |>.forceGc).2.blockManager :=
      runGcCycle_moves _
    have unmapped :=
      @forceGc_unmapped _
        { simulator with
          nextLogicalAddress := simulator.nextLogicalAddress + 1 }
        coherent _ fresh
    split
    · rename_i outcome
      rw [outcome] at collected
      exact collected
    · rename_i outcome
      rw [outcome] at collected unmapped
      exact collected.trans (retryWrite_moves rank data unmapped)
  · have first := Move.program physicalId _ data taken fresh
    rw [programmed]
    exact
      Relation.ReflTransGen.head first
        (@finishWrite_moves _
          { simulator with
            nextLogicalAddress := simulator.nextLogicalAddress + 1
            blockManager :=
              simulator.blockManager.program physicalId
                simulator.nextLogicalAddress data }
          simulator.nextLogicalAddress)

/-- The simulator after a call. -/
def DirectFlashSimulator.step (self : DirectFlashSimulator total)
    (call : Call total) : DirectFlashSimulator total :=
  (self.execute call).2

/-- Every call changes the blocks in elementary steps only. -/
theorem execute_moves
    {logical : LogicalMap} (tracks : Tracks simulator logical)
    (call : Call total) :
    Moves simulator.blockManager
      (simulator.step call).blockManager := by
  cases call with
  | initializeFlash =>
      simp only [DirectFlashSimulator.step, execute, initializeFlash]
      split <;> exact Relation.ReflTransGen.refl
  | shutdown => exact Relation.ReflTransGen.refl
  | write rank data =>
      exact write_moves rank data tracks.coherent
        (tracks.unmapped tracks.next_absent)
  | read logicalAddress =>
      exact Relation.ReflTransGen.single (Move.read logicalAddress)
  | delete logicalAddress =>
      exact Relation.ReflTransGen.single (Move.delete logicalAddress)
  | trim logicalAddress =>
      exact Relation.ReflTransGen.single (Move.delete logicalAddress)
  | forceGc => exact runGcCycle_moves _
  | backgroundGc => exact backgroundCycle_moves _
  | forceWearLeveling => exact runLevelingPass_moves _

end Calls

/-! ## What a change does to a block -/

/-- The life of a flash block, with its erase count. -/
inductive BlockStep (maxEraseCount : Nat) :
    PhysicalBlock → PhysicalBlock → Prop where
  | same (block : PhysicalBlock) : BlockStep maxEraseCount block block
  | written {before after : PhysicalBlock}
      (from_free : before.state = .free)
      (to_valid : after.state = .valid)
      (count : after.eraseCount = before.eraseCount) :
      BlockStep maxEraseCount before after
  | staled {before after : PhysicalBlock}
      (from_valid : before.state = .valid)
      (to_invalid : after.state = .invalid)
      (count : after.eraseCount = before.eraseCount) :
      BlockStep maxEraseCount before after
  | erased {before after : PhysicalBlock}
      (from_invalid : before.state = .invalid)
      (to_free : after.state = .free)
      (count : after.eraseCount = before.eraseCount + 1)
      (lasts : after.eraseCount < maxEraseCount) :
      BlockStep maxEraseCount before after
  | wornOut {before after : PhysicalBlock}
      (from_invalid : before.state = .invalid)
      (to_bad : after.state = .bad)
      (count : after.eraseCount = before.eraseCount + 1)
      (spent : maxEraseCount ≤ after.eraseCount) :
      BlockStep maxEraseCount before after

section Blocks

variable
    {total : Nat}
    {before after : BlockManager total}

/-- Changing one block is a step of that block. -/
theorem blockStep_update
    {maxEraseCount : Nat} {blocks : Fin total → PhysicalBlock}
    {physicalId : Fin total} {block : PhysicalBlock}
    (step : BlockStep maxEraseCount (blocks physicalId) block)
    (other : Fin total) :
    BlockStep maxEraseCount (blocks other)
      (Function.update blocks physicalId block other) := by
  by_cases same : other = physicalId
  · subst same
    rw [Function.update_self]
    exact step
  · rw [Function.update_of_ne same]
    exact BlockStep.same _

/-- Each change takes every block through at most one step of its life. -/
theorem Move.blockStep
    (move : Move before after) (coherent : before.Coherent)
    (physicalId : Fin total) :
    BlockStep before.maxEraseCount (before.blocks physicalId)
      (after.blocks physicalId) := by
  cases move with
  | program written logicalAddress data taken fresh =>
      apply blockStep_update
      exact BlockStep.written (coherent.pool written taken) rfl rfl
  | delete logicalAddress =>
      rw [BlockManager.deleteBlock]
      split
      · exact BlockStep.same _
      · rename_i deleted mapped
        apply blockStep_update
        exact
          BlockStep.staled (coherent.valid_of_mapped mapped) rfl rfl
  | erase erased stale =>
      have state : (before.blocks erased).state = .invalid := stale
      simp only [BlockManager.eraseBlock, state, reduceCtorEq, if_false]
      split
      · rename_i spent
        apply blockStep_update
        exact BlockStep.wornOut state rfl rfl spent
      · rename_i lasts
        apply blockStep_update
        exact BlockStep.erased state rfl rfl (not_le.mp lasts)
  | level sourceId destId valid free =>
      have apart := ne_of_valid_of_free valid free
      rw [moveData_blocks before apart]
      by_cases dest : physicalId = destId
      · subst dest
        rw [Function.update_self]
        exact BlockStep.written free rfl rfl
      · rw [Function.update_of_ne dest]
        apply blockStep_update
        exact BlockStep.staled valid rfl rfl
  | read logicalAddress =>
      rcases readBlock_snd before logicalAddress with ⟨stats, same⟩
      rw [same]
      exact BlockStep.same _

theorem Move.coherent
    (move : Move before after) (coherent : before.Coherent) :
    after.Coherent := by
  cases move with
  | program physicalId logicalAddress data taken fresh =>
      exact coherent.program taken data fresh
  | delete logicalAddress => exact coherent.deleteBlock logicalAddress
  | erase physicalId stale => exact (coherent.eraseBlock stale).1
  | level sourceId destId valid free =>
      exact (moveData_coherent coherent valid free).1
  | read logicalAddress =>
      rcases readBlock_snd before logicalAddress with ⟨stats, same⟩
      rw [same]
      exact ⟨coherent.linked, coherent.pool⟩

/-- Block size and endurance never change. -/
theorem Move.limits (move : Move before after) :
    after.blockSize = before.blockSize ∧
      after.maxEraseCount = before.maxEraseCount := by
  cases move with
  | delete logicalAddress =>
      rw [BlockManager.deleteBlock]
      split <;> exact ⟨rfl, rfl⟩
  | erase physicalId stale =>
      simp only [BlockManager.eraseBlock]
      split
      · exact ⟨rfl, rfl⟩
      · split <;> exact ⟨rfl, rfl⟩
  | read logicalAddress =>
      rcases readBlock_snd before logicalAddress with ⟨stats, same⟩
      rw [same]
      exact ⟨rfl, rfl⟩
  | _ => exact ⟨rfl, rfl⟩

theorem Moves.limits (moves : Moves before after) :
    after.blockSize = before.blockSize ∧
      after.maxEraseCount = before.maxEraseCount := by
  induction moves with
  | refl => exact ⟨rfl, rfl⟩
  | tail _ move induction =>
      exact
        ⟨move.limits.1.trans induction.1,
          move.limits.2.trans induction.2⟩

/-! ## What holds in every state -/

/-- What the flash under a simulator satisfies. -/
structure BlockManager.Sound (manager : BlockManager total) :
    Prop where
  coherent : manager.Coherent
  pooled :
    ∀ physicalId,
      manager.states physicalId = .free →
        physicalId ∈ manager.freeBlocks
  counted : ∀ state, state ≠ .invalid → manager.drift state = 0
  all : manager.stats.totalBlocks = total

theorem sound_new (total blockSize maxEraseCount : Nat) :
    (BlockManager.new total blockSize maxEraseCount).Sound where
  coherent := coherent_new _ _ _
  pooled := fun physicalId _ => Finset.mem_univ physicalId
  counted := by
    intro state _
    rw [drift_new]
    rfl
  all := rfl

/-- A free block stays in the pool, and a block that becomes free enters it. -/
theorem Move.pooled
    (move : Move before after) (sound : before.Sound)
    (physicalId : Fin total)
    (free : after.states physicalId = .free) :
    physicalId ∈ after.freeBlocks := by
  cases move with
  | program written logicalAddress data taken fresh =>
      by_cases same : physicalId = written
      · subst same
        simp [states, BlockManager.program, modifyBlock] at free
      · apply Finset.mem_erase.mpr
        refine ⟨same, sound.pooled physicalId ?_⟩
        simpa [states, BlockManager.program, modifyBlock, same] using free
  | delete logicalAddress =>
      rw [BlockManager.deleteBlock] at free ⊢
      split at free
      · exact sound.pooled physicalId free
      · rename_i deleted _
        apply sound.pooled
        by_cases same : physicalId = deleted
        · subst same
          simp [states, invalidate, modifyBlock] at free
        · simpa [states, invalidate, modifyBlock, same] using free
  | erase erased stale =>
      have state : (before.blocks erased).state = .invalid := stale
      simp only [BlockManager.eraseBlock, state, reduceCtorEq,
        if_false] at free ⊢
      split
      · rename_i spent
        rw [if_pos spent] at free
        apply sound.pooled
        by_cases same : physicalId = erased
        · subst same
          simp [states, retire, modifyBlock] at free
        · simpa [states, retire, modifyBlock, same] using free
      · rename_i lasts
        rw [if_neg lasts] at free
        apply Finset.mem_insert.mpr
        by_cases same : physicalId = erased
        · exact Or.inl same
        · refine Or.inr (sound.pooled physicalId ?_)
          simpa [states, reset, modifyBlock, same] using free
  | level sourceId destId valid free' =>
      have apart := ne_of_valid_of_free valid free'
      simp only [states, Function.comp_apply,
        moveData_blocks before apart] at free
      have notDest : physicalId ≠ destId := by
        intro same
        rw [same, Function.update_self] at free
        cases free
      rw [Function.update_of_ne notDest] at free
      have notSource : physicalId ≠ sourceId := by
        intro same
        rw [same, Function.update_self] at free
        cases free
      rw [Function.update_of_ne notSource] at free
      exact Finset.mem_erase.mpr
        ⟨notDest, sound.pooled physicalId free⟩
  | read logicalAddress =>
      rcases readBlock_snd before logicalAddress with ⟨stats, same⟩
      rw [same] at free ⊢
      exact sound.pooled physicalId free

/-- Only the counter of the invalid blocks is ever lost. -/
theorem Move.counted
    (move : Move before after) (sound : before.Sound)
    {state : BlockState} (counted : state ≠ .invalid) :
    after.drift state = before.drift state := by
  cases move with
  | program physicalId logicalAddress data taken fresh =>
      have free : before.states physicalId = .free :=
        sound.coherent.pool physicalId taken
      rw [drift_program, free]
      simp
  | delete logicalAddress =>
      rw [BlockManager.deleteBlock]
      split
      · rfl
      · rename_i physicalId mapped
        have valid : before.states physicalId = .valid :=
          sound.coherent.valid_of_mapped mapped
        change (before.invalidate physicalId).drift state = _
        rw [drift_invalidate, valid]
        simp
  | erase physicalId stale =>
      rw [drift_eraseBlock (by rw [stale]; simp), stale, Pi.add_apply,
        Pi.single_eq_of_ne counted, add_zero]
  | level sourceId destId valid free =>
      rw [drift_moveData valid free]
  | read logicalAddress =>
      rw [readBlock]
      split
      · rfl
      · split <;> rfl

theorem Move.totalBlocks (move : Move before after) :
    after.stats.totalBlocks = before.stats.totalBlocks := by
  cases move with
  | delete logicalAddress =>
      rw [BlockManager.deleteBlock]
      split <;> rfl
  | erase physicalId stale =>
      simp only [BlockManager.eraseBlock]
      split
      · rfl
      · split <;> rfl
  | read logicalAddress =>
      rw [readBlock]
      split
      · rfl
      · split <;> rfl
  | _ => rfl

theorem Move.sound
    (move : Move before after) (sound : before.Sound) :
    after.Sound where
  coherent := move.coherent sound.coherent
  pooled := move.pooled sound
  counted := by
    intro state counted
    rw [move.counted sound counted]
    exact sound.counted state counted
  all := move.totalBlocks.trans sound.all

theorem Moves.sound
    (moves : Moves before after) (sound : before.Sound) :
    after.Sound :=
  moves.invariant (fun _ _ move => move.sound) sound

end Blocks

/-! ## Every run -/

section Runs

variable {total : Nat}

/-- The flash is tracked and sound. -/
structure DirectFlashSimulator.Sound
    (simulator : DirectFlashSimulator total) : Prop where
  tracked : ∃ logical, Tracks simulator logical
  flash : simulator.blockManager.Sound

theorem DirectFlashSimulator.Sound.step
    {simulator : DirectFlashSimulator total}
    (sound : simulator.Sound) (call : Call total) :
    (simulator.step call).Sound := by
  rcases sound.tracked with ⟨logical, tracks⟩
  constructor
  · exact
      ⟨_, @tracks_observedStep _ (simulator, logical) tracks call⟩
  · exact (execute_moves tracks call).sound sound.flash

/-- Every state that the simulator reaches is sound. -/
theorem sound_run
    (settings : FlashSettings) (maxEraseCount : Nat)
    (calls : List (Call total)) :
    (run DirectFlashSimulator.step
      (DirectFlashSimulator.new total settings maxEraseCount)
      calls).Sound := by
  apply run_invariant_of_step
  · exact fun _ call sound => sound.step call
  · exact ⟨⟨_, tracks_new total settings maxEraseCount⟩,
      sound_new _ _ _⟩

end Runs

end StorageAppliance.DirectFlash
