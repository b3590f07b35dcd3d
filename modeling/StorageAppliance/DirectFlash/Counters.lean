import Mathlib.Algebra.Group.Pi.Lemmas
import StorageAppliance.Library.Census
import StorageAppliance.Library.Run
import StorageAppliance.DirectFlash.GarbageCollection
import StorageAppliance.DirectFlash.WearLeveling

/-!
# Flash block counters

The statistics of the block manager count the physical blocks in each state by
hand.  `drift` is by how much the counters exceed the number of blocks.

Writing expects its block to be free, and invalidating expects it to be valid:
the counters of both states are adjusted.  Erasing adjusts the counter of the
new state alone, because the source compares the state with `INVALID` after it
has overwritten it.  So every erased block leaves its old state counted once too
often, and no later call makes up for that.
-/

namespace StorageAppliance.DirectFlash

open StorageAppliance.Python
open StorageAppliance.Library
open BlockManager
open GarbageCollector
open WearLeveling

instance : Fintype BlockState where
  elems := {.free, .valid, .invalid, .bad}
  complete := by
    intro state
    cases state <;> decide

/-- The counter of the blocks in a state. -/
def BlockManagerStats.counter (stats : BlockManagerStats) :
    BlockState → ℤ
  | .free => stats.freeBlocks
  | .valid => stats.validBlocks
  | .invalid => stats.invalidBlocks
  | .bad => stats.badBlocks

section Counting

variable {total : Nat}

/-- The state of each physical block. -/
def BlockManager.states (self : BlockManager total) :
    Fin total → BlockState :=
  PhysicalBlock.state ∘ self.blocks

/-- The number of physical blocks in a state. -/
def BlockManager.blocksIn (self : BlockManager total) :
    BlockState → ℤ :=
  census self.states

/-- By how much the counters exceed the number of blocks. -/
def BlockManager.drift (self : BlockManager total) : BlockState → ℤ :=
  Library.drift self.stats.counter self.states

/-- The counters equal the number of blocks in each state. -/
structure BlockManager.Exact (manager : BlockManager total) :
    Prop where
  free : manager.stats.freeBlocks = manager.blocksIn .free
  valid : manager.stats.validBlocks = manager.blocksIn .valid
  invalid : manager.stats.invalidBlocks = manager.blocksIn .invalid
  bad : manager.stats.badBlocks = manager.blocksIn .bad
  sum :
    manager.stats.freeBlocks + manager.stats.validBlocks +
        manager.stats.invalidBlocks + manager.stats.badBlocks =
      manager.stats.totalBlocks

/-- Each block is in one of the four states. -/
theorem sum_blocksIn (self : BlockManager total) :
    self.blocksIn .free + self.blocksIn .valid +
        self.blocksIn .invalid + self.blocksIn .bad = total := by
  have counted := sum_census self.states
  rw [Fintype.card_fin] at counted
  rw [← counted]
  change
    _ =
      ∑ state ∈ {BlockState.free, BlockState.valid, BlockState.invalid,
          BlockState.bad},
        census self.states state
  simp [BlockManager.blocksIn, add_assoc]

/-- Exact counters do not drift. -/
theorem BlockManager.Exact.drift_eq_zero
    {self : BlockManager total} (counters : self.Exact) :
    self.drift = 0 := by
  ext state
  apply drift_eq_zero_iff.mpr
  cases state with
  | free => exact counters.free
  | valid => exact counters.valid
  | invalid => exact counters.invalid
  | bad => exact counters.bad

/-- Counters without drift are exact. -/
theorem exact_of_drift
    {self : BlockManager total}
    (all : self.stats.totalBlocks = total)
    (still : self.drift = 0) :
    self.Exact := by
  have counted :
      ∀ state, self.stats.counter state = self.blocksIn state :=
    fun state => drift_eq_zero_iff.mp (congrFun still state)
  have free := counted .free
  have valid := counted .valid
  have invalid := counted .invalid
  have bad := counted .bad
  refine ⟨free, valid, invalid, bad, ?_⟩
  have blocks := sum_blocksIn self
  simp only [BlockManagerStats.counter] at free valid invalid bad
  rw [free, valid, invalid, bad, all, blocks]

/-! ## Drift of one step -/

variable
    (self : BlockManager total)
    (physicalId : Fin total)

/-- Invalidating expects a valid block. -/
theorem drift_invalidate :
    (self.invalidate physicalId).drift =
      self.drift + Pi.single (self.states physicalId) 1 -
        Pi.single .valid 1 := by
  have counters :
      (self.invalidate physicalId).stats.counter =
        self.stats.counter + Pi.single .invalid 1 -
          Pi.single .valid 1 := by
    ext state
    cases state <;> simp [invalidate, BlockManagerStats.counter]
  have states :
      (self.invalidate physicalId).states =
        Function.update self.states physicalId .invalid :=
    Function.comp_update PhysicalBlock.state self.blocks physicalId _
  rw [BlockManager.drift, counters, states]
  exact drift_transition _ _ _ _ _

/-- Writing expects a free block. -/
theorem drift_program (logicalAddress : ℤ) (data : Bytes) :
    (self.program physicalId logicalAddress data).drift =
      self.drift + Pi.single (self.states physicalId) 1 -
        Pi.single .free 1 := by
  have counters :
      (self.program physicalId logicalAddress data).stats.counter =
        self.stats.counter + Pi.single .valid 1 -
          Pi.single .free 1 := by
    ext state
    cases state <;> simp [program, BlockManagerStats.counter]
  have states :
      (self.program physicalId logicalAddress data).states =
        Function.update self.states physicalId .valid :=
    Function.comp_update PhysicalBlock.state self.blocks physicalId _
  rw [BlockManager.drift, counters, states]
  exact drift_transition _ _ _ _ _

theorem drift_retire :
    (self.retire physicalId).drift =
      self.drift + Pi.single (self.states physicalId) 1 := by
  have counters :
      (self.retire physicalId).stats.counter =
        self.stats.counter + Pi.single .bad 1 := by
    ext state
    cases state <;> simp [retire, BlockManagerStats.counter]
  have states :
      (self.retire physicalId).states =
        Function.update self.states physicalId .bad :=
    Function.comp_update PhysicalBlock.state self.blocks physicalId _
  rw [BlockManager.drift, counters, states]
  exact drift_arrival _ _ _ _

theorem drift_reset :
    (self.reset physicalId).drift =
      self.drift + Pi.single (self.states physicalId) 1 := by
  have counters :
      (self.reset physicalId).stats.counter =
        self.stats.counter + Pi.single .free 1 := by
    ext state
    cases state <;> simp [reset, BlockManagerStats.counter]
  have states :
      (self.reset physicalId).states =
        Function.update self.states physicalId .free :=
    Function.comp_update PhysicalBlock.state self.blocks physicalId _
  rw [BlockManager.drift, counters, states]
  exact drift_arrival _ _ _ _

variable {self physicalId}

/-- An erased block stays counted in the state that it had. -/
theorem drift_eraseBlock
    (usable : self.states physicalId ≠ .bad) :
    (self.eraseBlock physicalId).2.drift =
      self.drift + Pi.single (self.states physicalId) 1 := by
  have tested : ¬ (self.blocks physicalId).state = .bad := usable
  simp only [eraseBlock, if_neg tested]
  split
  · exact drift_retire self physicalId
  · exact drift_reset self physicalId

/-- Moving data to a free block keeps the counters right. -/
theorem drift_moveData
    {sourceId destId : Fin total}
    (valid : self.states sourceId = .valid)
    (free : self.states destId = .free) :
    (moveData self sourceId destId).drift = self.drift := by
  have apart : destId ≠ sourceId :=
    (ne_of_valid_of_free valid free).symm
  have counters :
      (moveData self sourceId destId).stats.counter =
        self.stats.counter + Pi.single .invalid 1 -
          Pi.single .free 1 := by
    ext state
    cases state <;> simp [moveData, BlockManagerStats.counter]
  have states :
      (moveData self sourceId destId).states =
        Function.update (Function.update self.states sourceId .invalid)
          destId .valid := by
    rw [BlockManager.states, moveData_blocks self (Ne.symm apart),
      Function.comp_update, Function.comp_update]
    rfl
  rw [BlockManager.drift, BlockManager.drift, Library.drift,
    Library.drift, counters, states, census_update, census_update,
    Function.update_of_ne apart, valid, free]
  abel

/-- A round of wear leveling leaves its source counted as invalid. -/
theorem drift_round
    {leveling : WearLeveling} {sourceId destId : Fin total}
    (found :
      leveling.findCandidates self = some (sourceId, destId)) :
    (round self sourceId destId).drift =
      self.drift + Pi.single .invalid 1 := by
  rcases findCandidates_spec found with ⟨valid, free, _⟩
  have apart := ne_of_valid_of_free valid free
  have stale :
      (moveData self sourceId destId).states sourceId = .invalid :=
    moveData_source self apart
  rw [WearLeveling.round, drift_eraseBlock (by rw [stale]; simp), stale,
    drift_moveData valid free]

/-- So does each of the blocks that garbage collection erases. -/
theorem drift_reclaim
    (collector : GarbageCollector) (blockId : Fin total) :
    (collector.reclaim self blockId).2.2.drift =
      self.drift +
        Pi.single .invalid
          (if self.states blockId = .invalid then 1 else 0) := by
  by_cases stale : self.states blockId = .invalid
  · have erased : (self.eraseBlock blockId).2.drift =
        self.drift + Pi.single .invalid 1 := by
      rw [drift_eraseBlock (by rw [stale]; simp), stale]
    have found : (self.blocks blockId).state = .invalid := stale
    rw [if_pos stale, ← erased, reclaim, if_pos found]
    split <;> rename_i outcome <;> rw [outcome]
  · have kept : ¬ (self.blocks blockId).state = .invalid := stale
    rw [if_neg stale, reclaim, if_neg kept, Pi.single_zero, add_zero]

/-- A cycle counts as many blocks too much as it has erased. -/
theorem drift_collect
    (collector : GarbageCollector) (reclaimed : Nat)
    (blockIds : List (Fin total)) :
    ∃ erased : Nat,
      (collector.collect self reclaimed blockIds).2.2.drift =
          self.drift + Pi.single .invalid (erased : ℤ) ∧
        (collector.state ≠ .stopped →
          ∀ first ∈ blockIds.head?,
            self.states first = .invalid → 0 < erased) := by
  induction blockIds generalizing collector self reclaimed with
  | nil => exact ⟨0, by simp [collect], by simp⟩
  | cons blockId rest induction =>
      have one := @drift_reclaim _ self collector blockId
      simp only [collect]
      split
      · rename_i stopped
        exact ⟨0, by simp, fun running => absurd stopped running⟩
      · have first :
            collector.state ≠ .stopped →
              ∀ first ∈ (blockId :: rest).head?,
                self.states first = .invalid →
                  0 < if self.states blockId = .invalid then 1 else 0 := by
          intro _ head headed stale
          cases headed
          rw [if_pos stale]
          exact Nat.one_pos
        have here :
            (collector.reclaim self blockId).2.2.drift =
              self.drift +
                Pi.single .invalid
                  ((if self.states blockId = .invalid then 1 else 0 : Nat) :
                    ℤ) := by
          rw [one]
          split <;> rfl
        split
        · exact ⟨_, here, first⟩
        · split
          · exact ⟨_, here, first⟩
          · rcases
              @induction (collector.reclaim self blockId).2.2
                (collector.reclaim self blockId).2.1
                (reclaimed + (collector.reclaim self blockId).1) with
              ⟨later, total', _⟩
            refine ⟨(if self.states blockId = .invalid then 1 else 0) +
              later, ?_, ?_⟩
            · rw [total', here, add_assoc, ← Pi.single_add, Nat.cast_add]
            · intro running head headed stale
              exact Nat.add_pos_left (first running head headed stale) _

theorem drift_runGcCycle (collector : GarbageCollector) :
    ∃ erased : Nat,
      (collector.runGcCycle self).2.2.drift =
          self.drift + Pi.single .invalid (erased : ℤ) ∧
        (collector.state ≠ .stopped →
          self.getInvalidBlocks ≠ [] → 0 < erased) := by
  rw [runGcCycle]
  split
  · rename_i stopped
    exact ⟨0, by simp, fun running => absurd stopped running⟩
  · rcases
      @drift_collect _ self { collector with state := .running } 0
        self.getInvalidBlocks with
      ⟨erased, counted, first⟩
    refine ⟨erased, ?_, ?_⟩
    · rw [← counted]
      split <;> rename_i outcome <;> rw [outcome]
    · intro _ garbage
      apply first (by simp) (self.getInvalidBlocks.head garbage)
      · exact List.head?_eq_some_head garbage
      · have listed := List.head_mem garbage
        exact of_decide_eq_true (List.mem_filter.mp listed).2

/-- Every round of wear leveling counts one block too much. -/
theorem drift_levelLoop (rounds : Nat) (leveling : WearLeveling) :
    (levelLoop rounds leveling self).2.2.drift =
      self.drift +
        Pi.single .invalid ((levelLoop rounds leveling self).1 : ℤ) := by
  induction rounds generalizing leveling self with
  | zero => simp [levelLoop]
  | succ rounds induction =>
      cases found : leveling.findCandidates self with
      | none => simp [levelLoop, found]
      | some candidates =>
          rcases candidates with ⟨sourceId, destId⟩
          rw [levelLoop_succ rounds found]
          simp only [induction, drift_round found, Nat.cast_add,
            Nat.cast_one, Pi.single_add]
          abel

/-! ## Calls -/

/-- Erase the block with a number, if there is one. -/
def BlockManager.eraseBlockById (self : BlockManager total)
    (physicalId : ℤ) : Bool × BlockManager total :=
  if known : 0 ≤ physicalId ∧ physicalId < total then
    self.eraseBlock
      ⟨physicalId.toNat, (Int.toNat_lt known.1).mpr known.2⟩
  else
    (false, self)

/--
The calls that change the blocks of a manager.  A cycle and a leveling pass may
be those of any collector and any leveler.
-/
inductive ManagerCall (total : Nat) where
  | writeBlock (rank : Fin total → Nat) (logicalAddress : ℤ)
      (data : Bytes)
  | deleteBlock (logicalAddress : ℤ)
  | eraseBlock (physicalId : ℤ)
  | runGcCycle (collector : GarbageCollector)
  | runLevelingPass (leveling : WearLeveling)

/-- The manager after a call. -/
def BlockManager.step (self : BlockManager total) :
    ManagerCall total → BlockManager total
  | .writeBlock rank logicalAddress data =>
      (self.writeBlock rank logicalAddress data).2
  | .deleteBlock logicalAddress => (self.deleteBlock logicalAddress).2
  | .eraseBlock physicalId => (self.eraseBlockById physicalId).2
  | .runGcCycle collector => (collector.runGcCycle self).2.2
  | .runLevelingPass leveling => (leveling.runLevelingPass self).2.2

/-- A mapped address is mapped to a valid block. -/
def BlockManager.MapsToValid (self : BlockManager total)
    (logicalAddress : ℤ) : Prop :=
  ∀ physicalId,
    self.l2pTable.get? logicalAddress = some physicalId →
      self.states physicalId = .valid

/-- The calls that erase no block and invalidate valid blocks only. -/
def KeepsCounters (self : BlockManager total) :
    ManagerCall total → Prop
  | .writeBlock _ logicalAddress data =>
      data.length > self.blockSize ∨ self.MapsToValid logicalAddress
  | .deleteBlock logicalAddress => self.MapsToValid logicalAddress
  | .eraseBlock physicalId =>
      ∀ known : Fin total,
        physicalId = (known : Nat) → self.states known = .bad
  | .runGcCycle collector =>
      collector.state = .stopped ∨ self.getInvalidBlocks = []
  | .runLevelingPass leveling =>
      leveling.shouldLevel self ≠ .ok true ∨
        leveling.findCandidates self = none

/-- The pool holds free blocks, and the total is the number of blocks. -/
structure BlockManager.Pooled (manager : BlockManager total) :
    Prop where
  free :
    ∀ physicalId ∈ manager.freeBlocks,
      manager.states physicalId = .free
  all : manager.stats.totalBlocks = total

/-! ## Calls that keep the counters -/

theorem BlockManager.Pooled.program
    (pooled : self.Pooled) (logicalAddress : ℤ) (data : Bytes) :
    (self.program physicalId logicalAddress data).Pooled where
  free := by
    intro other member
    rcases Finset.mem_erase.mp member with ⟨apart, free⟩
    have kept := pooled.free other free
    simpa [states, BlockManager.program, modifyBlock, apart] using kept
  all := pooled.all

theorem BlockManager.Pooled.invalidate
    (pooled : self.Pooled) (valid : self.states physicalId = .valid) :
    (self.invalidate physicalId).Pooled where
  free := by
    intro other member
    have free := pooled.free other member
    have apart : other ≠ physicalId := by
      intro same
      rw [same, valid] at free
      cases free
    simpa [states, BlockManager.invalidate, modifyBlock, apart] using free
  all := pooled.all

theorem BlockManager.Pooled.remap
    (pooled : self.Pooled) {logicalAddress : ℤ}
    (valid : self.MapsToValid logicalAddress) :
    (self.remap logicalAddress).Pooled ∧
      (self.remap logicalAddress).drift = self.drift := by
  rw [BlockManager.remap]
  split
  · rename_i oldPhysical mapped
    have old := valid oldPhysical mapped
    refine ⟨pooled.invalidate old, ?_⟩
    rw [drift_invalidate, old]
    abel
  · exact ⟨pooled, rfl⟩

/-- Erasing a bad or unknown block changes nothing. -/
theorem eraseBlockById_of_bad
    {number : ℤ}
    (worn :
      ∀ known : Fin total,
        number = (known : Nat) → self.states known = .bad) :
    (self.eraseBlockById number).2 = self := by
  rw [eraseBlockById]
  split
  · rename_i known
    have bad : (self.blocks _).state = .bad :=
      worn ⟨number.toNat, (Int.toNat_lt known.1).mpr known.2⟩
        (Int.toNat_of_nonneg known.1).symm
    simp only [BlockManager.eraseBlock, bad, if_true]
  · rfl

theorem runGcCycle_of_nothing
    {collector : GarbageCollector}
    (nothing :
      collector.state = .stopped ∨ self.getInvalidBlocks = []) :
    (collector.runGcCycle self).2.2 = self := by
  rw [runGcCycle]
  split
  · rfl
  · rename_i running
    rw [nothing.resolve_left running]
    rfl

theorem runLevelingPass_of_nothing
    {leveling : WearLeveling}
    (nothing :
      leveling.shouldLevel self ≠ .ok true ∨
        leveling.findCandidates self = none) :
    (leveling.runLevelingPass self).2.2 = self := by
  rw [runLevelingPass]
  split
  · rfl
  · rfl
  · rename_i needed
    have absent := nothing.resolve_left (not_not.mpr needed)
    simp only [levelLoop, absent]

/-- Such calls keep the pool and every counter. -/
theorem BlockManager.Pooled.step
    (pooled : self.Pooled) {call : ManagerCall total}
    (keeps : KeepsCounters self call) :
    (self.step call).Pooled ∧ (self.step call).drift = self.drift := by
  cases call with
  | writeBlock rank logicalAddress data =>
      simp only [BlockManager.step]
      by_cases fits : data.length > self.blockSize
      · rw [writeBlock, if_pos fits]
        exact ⟨pooled, rfl⟩
      · have remapped := pooled.remap (keeps.resolve_left fits)
        rcases writeBlock_of_fits rank logicalAddress fits with
          ⟨_, written⟩ | ⟨physicalId, taken, written⟩
        · rw [written]
          exact remapped
        · rw [written]
          refine ⟨remapped.1.program _ _, ?_⟩
          rw [← freeBlocks_remap self logicalAddress] at taken
          have free := remapped.1.free physicalId taken
          rw [drift_program, free, remapped.2]
          abel
  | deleteBlock logicalAddress =>
      have remapped := pooled.remap keeps
      simp only [BlockManager.step, BlockManager.deleteBlock]
      rw [BlockManager.remap] at remapped
      split
      · exact ⟨pooled, rfl⟩
      · rename_i physicalId mapped
        rw [mapped] at remapped
        exact ⟨⟨remapped.1.free, remapped.1.all⟩, remapped.2⟩
  | eraseBlock physicalId =>
      rw [BlockManager.step, eraseBlockById_of_bad keeps]
      exact ⟨pooled, rfl⟩
  | runGcCycle collector =>
      rw [BlockManager.step, runGcCycle_of_nothing keeps]
      exact ⟨pooled, rfl⟩
  | runLevelingPass leveling =>
      rw [BlockManager.step, runLevelingPass_of_nothing keeps]
      exact ⟨pooled, rfl⟩

/-! ## Calls that lose the counters -/

/-- An address of a block that is not valid is counted down once more. -/
theorem drift_remap_valid
    {logicalAddress : ℤ}
    (stale : ¬ self.MapsToValid logicalAddress) :
    ∃ oldPhysical,
      self.l2pTable.get? logicalAddress = some oldPhysical ∧
        self.states oldPhysical ≠ .valid ∧
        (self.remap logicalAddress).drift .valid =
          self.drift .valid - 1 := by
  simp only [BlockManager.MapsToValid, not_forall] at stale
  rcases stale with ⟨oldPhysical, mapped, notValid⟩
  refine ⟨oldPhysical, mapped, notValid, ?_⟩
  rw [BlockManager.remap, mapped]
  simp only [drift_invalidate, Pi.add_apply, Pi.sub_apply,
    Pi.single_eq_same, Pi.single_eq_of_ne (Ne.symm notValid), add_zero]

/-- Deleting the old copy makes no free block valid. -/
theorem remap_ne_valid_of_free
    {physicalId : Fin total}
    (free : self.states physicalId = .free) (logicalAddress : ℤ) :
    (self.remap logicalAddress).states physicalId ≠ .valid := by
  rw [BlockManager.remap]
  split
  · rename_i oldPhysical _
    simp only [states, Function.comp_apply] at free
    by_cases same : physicalId = oldPhysical
    · simp [states, invalidate, modifyBlock, same]
    · simp [states, invalidate, modifyBlock, same, free]
  · rw [free]
    simp

/-- A call that keeps exact counters is such a call. -/
theorem keepsCounters_of_exact
    (pooled : self.Pooled) (still : self.drift = 0)
    {call : ManagerCall total} (after : (self.step call).Exact) :
    KeepsCounters self call := by
  have kept := after.drift_eq_zero
  cases call with
  | writeBlock rank logicalAddress data =>
      by_contra breaks
      rcases not_or.mp breaks with ⟨fits, stale⟩
      rcases drift_remap_valid stale with
        ⟨oldPhysical, mapped, notValid, lowered⟩
      rw [still] at lowered
      rcases writeBlock_of_fits rank logicalAddress fits with
        ⟨_, written⟩ | ⟨physicalId, taken, written⟩
      · rw [BlockManager.step, written] at kept
        rw [kept] at lowered
        cases lowered
      · have unused :=
          remap_ne_valid_of_free (pooled.free physicalId taken)
            logicalAddress
        rw [BlockManager.step, written] at kept
        have here := congrFun kept .valid
        rw [drift_program, Pi.sub_apply, Pi.add_apply, lowered,
          Pi.single_eq_of_ne (Ne.symm unused),
          Pi.single_eq_of_ne (by simp)] at here
        cases here
  | deleteBlock logicalAddress =>
      by_contra stale
      rcases drift_remap_valid stale with
        ⟨oldPhysical, mapped, notValid, lowered⟩
      have deleted :
          (self.step (.deleteBlock logicalAddress)).drift =
            (self.remap logicalAddress).drift := by
        simp only [BlockManager.step, deleteBlock, BlockManager.remap,
          mapped]
        rfl
      rw [← deleted, kept, still] at lowered
      cases lowered
  | eraseBlock number =>
      rintro known rfl
      by_contra usable
      have inRange :
          (0 : ℤ) ≤ (known : Nat) ∧ ((known : Nat) : ℤ) < total :=
        ⟨Int.natCast_nonneg _, Int.ofNat_lt.mpr known.isLt⟩
      have erased :
          self.step (.eraseBlock (known : Nat)) =
            (self.eraseBlock known).2 := by
        rw [BlockManager.step, eraseBlockById, dif_pos inRange]
        rfl
      rw [erased, drift_eraseBlock usable, still, zero_add] at kept
      have here := congrFun kept (self.states known)
      rw [Pi.single_eq_same] at here
      cases here
  | runGcCycle collector =>
      by_contra collects
      rcases not_or.mp collects with ⟨running, garbage⟩
      rcases @drift_runGcCycle _ self collector with
        ⟨erased, counted, positive⟩
      rw [BlockManager.step, counted, still, zero_add] at kept
      have here := congrFun kept .invalid
      rw [Pi.single_eq_same] at here
      exact absurd (Int.natCast_eq_zero.mp here)
        (Nat.ne_of_gt (positive running garbage))
  | runLevelingPass leveling =>
      by_contra levels
      rcases not_or.mp levels with ⟨needed, candidates⟩
      rcases Option.ne_none_iff_exists'.mp candidates with
        ⟨⟨sourceId, destId⟩, found⟩
      have looped :
          self.step (.runLevelingPass leveling) =
            (levelLoop (self.validWear + 1) leveling self).2.2 := by
        rw [BlockManager.step, runLevelingPass, not_not.mp needed]
      rw [looped, drift_levelLoop, still, zero_add,
        levelLoop_succ _ found] at kept
      have here := congrFun kept .invalid
      rw [Pi.single_eq_same] at here
      exact absurd (Int.natCast_eq_zero.mp here) (Nat.succ_ne_zero _)

/-! ## Every run -/

theorem drift_new (total blockSize maxEraseCount : Nat) :
    (BlockManager.new total blockSize maxEraseCount).drift = 0 := by
  ext state
  apply drift_eq_zero_iff.mpr
  cases state <;>
    simp [BlockManager.new, BlockManagerStats.counter, states, census]

/--
The counters of a manager are exact after each call of a run exactly if no call
erases a usable block, whether by itself, by garbage collection or by wear
leveling, and no call invalidates a block that is not valid.
-/
theorem exact_after_each_iff
    (total blockSize maxEraseCount : Nat)
    (calls : List (ManagerCall total)) :
    AllSteps BlockManager.step
        (fun manager call => (manager.step call).Exact)
        (BlockManager.new total blockSize maxEraseCount) calls ↔
      AllSteps BlockManager.step KeepsCounters
        (BlockManager.new total blockSize maxEraseCount) calls := by
  apply
    @allSteps_after_iff _ _ _ _ (fun _ => True)
      (fun manager => manager.Pooled ∧ manager.drift = 0)
      BlockManager.Exact
  · rintro manager call _ ⟨pooled, still⟩ keeps
    have after := pooled.step keeps
    exact ⟨after.1, after.2.trans still⟩
  · rintro manager call _ ⟨pooled, still⟩
    constructor
    · exact keepsCounters_of_exact pooled still
    · intro keeps
      have after := pooled.step keeps
      exact exact_of_drift after.1.all (after.2.trans still)
  · exact fun _ _ => trivial
  · exact ⟨⟨fun _ _ => rfl, rfl⟩, drift_new _ _ _⟩

/-- One block, written, deleted and erased. -/
theorem counters_lost_by_erase :
    ¬ (run BlockManager.step (BlockManager.new 1 8 100)
        [.writeBlock (fun _ => 0) 0 [1], .deleteBlock 0,
          .eraseBlock 0]).Exact := by
  intro counters
  have invalid := counters.invalid
  revert invalid
  decide +kernel

end Counting

end StorageAppliance.DirectFlash
