import StorageAppliance.DirectFlash.WearLeveling
import StorageAppliance.DirectFlash.GarbageCollection
import StorageAppliance.Library.Run

/-!
# DirectFlash simulator

The flash interface (`directflash/simulator.py`): a write draws a new logical
address, falls back on garbage collection when no block is free, and may level
the wear of the blocks afterwards.

The simulator refines a map from logical addresses to data.  `observe` is that
map, told only by what the calls answer: a write that returns an address stores
its data there, and a deletion removes it.  `read_observed` says that a read
returns exactly what the map holds, whatever garbage collection and wear
leveling have moved underneath, and whichever calls have raised.
-/

namespace StorageAppliance.DirectFlash

open StorageAppliance.Python
open StorageAppliance.Library
open BlockManager

/-- The settings of the flash simulator. -/
structure FlashSettings where
  flashBlockSize : Nat := 262144
  gcThreshold : ℚ := 3 / 4
  gcTarget : ℚ := 1 / 2
  wearLevelingThreshold : Nat := 1000
deriving DecidableEq

/-- The simulator and its components. -/
structure DirectFlashSimulator (total : Nat) where
  blockManager : BlockManager total
  wearLeveling : WearLeveling
  garbageCollector : GarbageCollector
  initialized : Bool := false
  nextLogicalAddress : ℤ := 0
deriving DecidableEq

namespace DirectFlashSimulator

variable {total : Nat}

/-- The simulator built from settings. -/
def new (total : Nat) (settings : FlashSettings)
    (maxEraseCount : Nat := 100000) : DirectFlashSimulator total where
  blockManager :=
    BlockManager.new total settings.flashBlockSize maxEraseCount
  wearLeveling := { threshold := settings.wearLevelingThreshold }
  garbageCollector :=
    { gcThreshold := settings.gcThreshold
      gcTarget := settings.gcTarget }

/-- Start the simulator. -/
def initializeFlash (self : DirectFlashSimulator total) :
    DirectFlashSimulator total :=
  if self.initialized then
    self
  else
    { self with
      garbageCollector := self.garbageCollector.startBackgroundGc
      initialized := true }

/-- Shut the simulator down. -/
def shutdown (self : DirectFlashSimulator total) :
    DirectFlashSimulator total :=
  { self with
    garbageCollector := self.garbageCollector.stopBackgroundGc
    initialized := false }

/-- Force garbage collection. -/
def forceGc (self : DirectFlashSimulator total) :
    Except PyException Nat × DirectFlashSimulator total :=
  let (answer, collector, manager) :=
    self.garbageCollector.runGcCycle self.blockManager
  (answer,
    { self with
      garbageCollector := collector
      blockManager := manager })

/-- Let the background task of the collector run once. -/
def backgroundGc (self : DirectFlashSimulator total) :
    Except PyException Nat × DirectFlashSimulator total :=
  let (answer, collector, manager) :=
    self.garbageCollector.backgroundCycle self.blockManager
  (answer,
    { self with
      garbageCollector := collector
      blockManager := manager })

/-- Force a wear leveling pass. -/
def forceWearLeveling (self : DirectFlashSimulator total) :
    Except PyException Nat × DirectFlashSimulator total :=
  let (answer, leveling, manager) :=
    self.wearLeveling.runLevelingPass self.blockManager
  (answer,
    { self with wearLeveling := leveling, blockManager := manager })

/-- Level the wear if needed and return the written address. -/
def finishWrite (self : DirectFlashSimulator total)
    (logicalAddress : ℤ) :
    Except PyException ℤ × DirectFlashSimulator total :=
  match self.wearLeveling.shouldLevel self.blockManager with
  | .error exception => (.error exception, self)
  | .ok false => (.ok logicalAddress, self)
  | .ok true =>
      match self.forceWearLeveling with
      | (.error exception, leveled) => (.error exception, leveled)
      | (.ok _, leveled) => (.ok logicalAddress, leveled)

/-- Write a block once more, after garbage collection. -/
def retryWrite (self : DirectFlashSimulator total)
    (rank : Fin total → Nat) (logicalAddress : ℤ) (data : Bytes) :
    Except PyException ℤ × DirectFlashSimulator total :=
  match self.blockManager.writeBlock rank logicalAddress data with
  | (.error exception, manager) =>
      (.error exception, { self with blockManager := manager })
  | (.ok none, manager) =>
      (.error (.osError "Failed to write data: no free blocks"),
        { self with blockManager := manager })
  | (.ok (some _), manager) =>
      { self with blockManager := manager }.finishWrite logicalAddress

/-- Write data to flash, returning its logical address. -/
def write (self : DirectFlashSimulator total) (rank : Fin total → Nat)
    (data : Bytes) :
    Except PyException ℤ × DirectFlashSimulator total :=
  let logicalAddress := self.nextLogicalAddress
  let drawn := { self with nextLogicalAddress := logicalAddress + 1 }
  match drawn.blockManager.writeBlock rank logicalAddress data with
  | (.error exception, manager) =>
      (.error exception, { drawn with blockManager := manager })
  | (.ok (some _), manager) =>
      { drawn with blockManager := manager }.finishWrite logicalAddress
  | (.ok none, manager) =>
      match { drawn with blockManager := manager }.forceGc with
      | (.error exception, collected) => (.error exception, collected)
      | (.ok _, collected) =>
          collected.retryWrite rank logicalAddress data

/-- Read data from flash. -/
def read (self : DirectFlashSimulator total) (logicalAddress : ℤ) :
    Option Bytes × DirectFlashSimulator total :=
  let (data, manager) := self.blockManager.readBlock logicalAddress
  (data, { self with blockManager := manager })

/-- Delete data from flash. -/
def delete (self : DirectFlashSimulator total) (logicalAddress : ℤ) :
    Bool × DirectFlashSimulator total :=
  let (deleted, manager) := self.blockManager.deleteBlock logicalAddress
  (deleted, { self with blockManager := manager })

/-- Mark a block as no longer needed. -/
def trim (self : DirectFlashSimulator total) (logicalAddress : ℤ) :
    Bool × DirectFlashSimulator total :=
  self.delete logicalAddress

/-! ## Calls -/

/-- The calls of the simulator, with the order in which a set is walked. -/
inductive Call (total : Nat) where
  | initializeFlash
  | shutdown
  | write (rank : Fin total → Nat) (data : Bytes)
  | read (logicalAddress : ℤ)
  | delete (logicalAddress : ℤ)
  | trim (logicalAddress : ℤ)
  | forceGc
  | backgroundGc
  | forceWearLeveling

/-- What a call answers. -/
inductive Answer where
  | nothing
  | address (answer : Except PyException ℤ)
  | data (answer : Option Bytes)
  | flag (answer : Bool)
  | count (answer : Except PyException Nat)
deriving DecidableEq

/-- Execute one call. -/
def execute (self : DirectFlashSimulator total) :
    Call total → Answer × DirectFlashSimulator total
  | .initializeFlash => (.nothing, self.initializeFlash)
  | .shutdown => (.nothing, self.shutdown)
  | .write rank data =>
      let (answer, after) := self.write rank data
      (.address answer, after)
  | .read logicalAddress =>
      let (answer, after) := self.read logicalAddress
      (.data answer, after)
  | .delete logicalAddress =>
      let (answer, after) := self.delete logicalAddress
      (.flag answer, after)
  | .trim logicalAddress =>
      let (answer, after) := self.trim logicalAddress
      (.flag answer, after)
  | .forceGc =>
      let (answer, after) := self.forceGc
      (.count answer, after)
  | .backgroundGc =>
      let (answer, after) := self.backgroundGc
      (.count answer, after)
  | .forceWearLeveling =>
      let (answer, after) := self.forceWearLeveling
      (.count answer, after)

end DirectFlashSimulator

open DirectFlashSimulator

/-! ## The map that the answers describe -/

/-- The data that each logical address should hold. -/
abbrev LogicalMap :=
  ℤ → Option Bytes

/-- What a call and its answer say about the map. -/
def LogicalMap.observe {total : Nat} (logical : LogicalMap) :
    Call total → Answer → LogicalMap
  | .write _ data, .address (.ok logicalAddress) =>
      Function.update logical logicalAddress (some data)
  | .delete logicalAddress, _ =>
      Function.update logical logicalAddress none
  | .trim logicalAddress, _ =>
      Function.update logical logicalAddress none
  | _, _ => logical

/-- A simulator together with the map observed from its answers. -/
def observedStep {total : Nat}
    (state : DirectFlashSimulator total × LogicalMap)
    (call : Call total) : DirectFlashSimulator total × LogicalMap :=
  let (answer, after) := state.1.execute call
  (after, state.2.observe call answer)

/-- The manager stores the observed map, all below the next address. -/
structure Tracks {total : Nat} (simulator : DirectFlashSimulator total)
    (logical : LogicalMap) : Prop where
  coherent : simulator.blockManager.Coherent
  contents : simulator.blockManager.contents = logical
  drawn :
    ∀ logicalAddress,
      logical logicalAddress ≠ none →
        logicalAddress < simulator.nextLogicalAddress

section Refinement

variable
    {total : Nat}
    {simulator : DirectFlashSimulator total}
    {logical : LogicalMap}

theorem tracks_new
    (total : Nat) (settings : FlashSettings) (maxEraseCount : Nat) :
    Tracks (DirectFlashSimulator.new total settings maxEraseCount)
      fun _ => none where
  coherent := coherent_new _ _ _
  contents := rfl
  drawn := by
    intro logicalAddress stored
    exact absurd rfl stored

/-- An address that the map does not hold is not in the table. -/
theorem Tracks.unmapped
    (tracks : Tracks simulator logical) {logicalAddress : ℤ}
    (absent : logical logicalAddress = none) :
    simulator.blockManager.l2pTable.get? logicalAddress = none := by
  rw [← tracks.contents, BlockManager.contents,
    Option.map_eq_none_iff] at absent
  exact absent

/-- The next address is not in use. -/
theorem Tracks.next_absent
    (tracks : Tracks simulator logical) :
    logical simulator.nextLogicalAddress = none := by
  by_contra stored
  exact absurd (tracks.drawn _ stored) (lt_irrefl _)

/-! ## Components -/

/-- A new state of the flash that stores the same map is tracked. -/
theorem Tracks.stored
    (tracks : Tracks simulator logical)
    {after : DirectFlashSimulator total}
    (kept :
      after.blockManager.Coherent ∧
        after.blockManager.contents = simulator.blockManager.contents)
    (same :
      after.nextLogicalAddress = simulator.nextLogicalAddress) :
    Tracks after logical where
  coherent := kept.1
  contents := kept.2.trans tracks.contents
  drawn := by
    rw [same]
    exact tracks.drawn

theorem Tracks.forceGc
    (tracks : Tracks simulator logical) :
    Tracks simulator.forceGc.2 logical :=
  tracks.stored (runGcCycle_coherent _ tracks.coherent) rfl

theorem Tracks.backgroundGc
    (tracks : Tracks simulator logical) :
    Tracks simulator.backgroundGc.2 logical :=
  tracks.stored (backgroundCycle_coherent _ tracks.coherent) rfl

theorem Tracks.forceWearLeveling
    (tracks : Tracks simulator logical) :
    Tracks simulator.forceWearLeveling.2 logical :=
  tracks.stored (runLevelingPass_coherent _ tracks.coherent) rfl

theorem Tracks.delete
    (tracks : Tracks simulator logical) (logicalAddress : ℤ) :
    Tracks (simulator.delete logicalAddress).2
      (Function.update logical logicalAddress none) where
  coherent := tracks.coherent.deleteBlock logicalAddress
  contents := by
    rw [← tracks.contents]
    exact tracks.coherent.contents_deleteBlock logicalAddress
  drawn := by
    intro other stored
    apply tracks.drawn other
    intro absent
    apply stored
    by_cases same : other = logicalAddress
    · rw [same, Function.update_self]
    · rw [Function.update_of_ne same, absent]

theorem Tracks.read
    (tracks : Tracks simulator logical) (logicalAddress : ℤ) :
    Tracks (simulator.read logicalAddress).2 logical := by
  rcases readBlock_snd simulator.blockManager logicalAddress with
    ⟨stats, same⟩
  refine tracks.stored ?_ rfl
  simp only [DirectFlashSimulator.read, same]
  exact ⟨⟨tracks.coherent.linked, tracks.coherent.pool⟩, rfl⟩

/-! ## Writing -/

/-- With a usable block there are statistics. -/
theorem getStats_of_usable
    {manager : BlockManager total} {physicalId : Fin total}
    (usable : (manager.blocks physicalId).state ≠ .bad) :
    ∃ stats, manager.getStats = .ok stats := by
  have someBlocks : total ≠ 0 := by
    rintro rfl
    exact physicalId.elim0
  rw [getStats, if_neg someBlocks]
  cases least : manager.usableEraseCounts.min? with
  | some minEraseCount => exact ⟨_, rfl⟩
  | none =>
      have member :
          (manager.blocks physicalId).eraseCount ∈
            manager.usableEraseCounts := by
        apply List.mem_map.mpr
        exact ⟨physicalId, by simp [usable], rfl⟩
      rw [List.min?_eq_none_iff.mp least] at member
      cases member

/-- A write that has found its block returns its address. -/
theorem finishWrite_spec
    (coherent : simulator.blockManager.Coherent)
    {physicalId : Fin total}
    (usable : (simulator.blockManager.blocks physicalId).state ≠ .bad)
    (logicalAddress : ℤ) :
    (simulator.finishWrite logicalAddress).1 = .ok logicalAddress ∧
      ((simulator.finishWrite logicalAddress).2.blockManager.Coherent ∧
        (simulator.finishWrite logicalAddress).2.blockManager.contents =
          simulator.blockManager.contents) ∧
      (simulator.finishWrite logicalAddress).2.nextLogicalAddress =
        simulator.nextLogicalAddress := by
  rcases getStats_of_usable usable with ⟨stats, computed⟩
  have leveled :=
    runLevelingPass_coherent simulator.wearLeveling coherent
  rw [finishWrite]
  cases needed :
    simulator.wearLeveling.shouldLevel simulator.blockManager with
  | error exception =>
      simp [WearLeveling.shouldLevel, computed] at needed
  | ok level =>
      cases level with
      | false => exact ⟨rfl, ⟨coherent, rfl⟩, rfl⟩
      | true =>
          have moved :
              ∃ count,
                simulator.forceWearLeveling =
                  (.ok count, simulator.forceWearLeveling.2) := by
            simp only [DirectFlashSimulator.forceWearLeveling,
              WearLeveling.runLevelingPass, needed]
            exact ⟨_, rfl⟩
          rcases moved with ⟨count, outcome⟩
          rw [outcome]
          exact ⟨rfl, leveled, rfl⟩

/-- The map after a write, as far as its answer tells. -/
def LogicalMap.written (logical : LogicalMap) (data : Bytes) :
    Except PyException ℤ → LogicalMap
  | .ok logicalAddress =>
      Function.update logical logicalAddress (some data)
  | .error _ => logical

/-- Addresses drawn so far, with a new one on top. -/
theorem Tracks.draw
    (tracks : Tracks simulator logical) :
    Tracks
      { simulator with
        nextLogicalAddress := simulator.nextLogicalAddress + 1 }
      logical where
  coherent := tracks.coherent
  contents := tracks.contents
  drawn := by
    intro logicalAddress stored
    have below := tracks.drawn logicalAddress stored
    exact Int.lt_add_one_of_le (Int.le_of_lt below)

/-- A programmed block adds its address to the map. -/
theorem Tracks.program
    (tracks : Tracks simulator logical)
    {physicalId : Fin total} {logicalAddress : ℤ} (data : Bytes)
    (taken : physicalId ∈ simulator.blockManager.freeBlocks)
    (fresh :
      simulator.blockManager.l2pTable.get? logicalAddress = none)
    (below : logicalAddress < simulator.nextLogicalAddress) :
    Tracks
      { simulator with
        blockManager :=
          simulator.blockManager.program physicalId logicalAddress data }
      (Function.update logical logicalAddress (some data)) where
  coherent := tracks.coherent.program taken data fresh
  contents := by
    rw [← tracks.contents]
    exact tracks.coherent.contents_program taken logicalAddress data
  drawn := by
    intro other stored
    by_cases same : other = logicalAddress
    · rw [same]
      exact below
    · rw [Function.update_of_ne same] at stored
      exact tracks.drawn other stored

/-- A write that has programmed its block is tracked to its end. -/
theorem Tracks.finishWrite
    (tracks : Tracks simulator logical)
    {physicalId : Fin total} {logicalAddress : ℤ} (data : Bytes)
    (taken : physicalId ∈ simulator.blockManager.freeBlocks)
    (fresh :
      simulator.blockManager.l2pTable.get? logicalAddress = none)
    (below : logicalAddress < simulator.nextLogicalAddress) :
    Tracks
      ({ simulator with
        blockManager :=
          simulator.blockManager.program physicalId logicalAddress
            data }.finishWrite logicalAddress).2
      (logical.written data
        ({ simulator with
          blockManager :=
            simulator.blockManager.program physicalId logicalAddress
              data }.finishWrite logicalAddress).1) := by
  have programmed := tracks.program data taken fresh below
  have usable :
      ((simulator.blockManager.program physicalId logicalAddress
        data).blocks physicalId).state ≠ .bad := by
    simp [BlockManager.program, modifyBlock]
  rcases finishWrite_spec programmed.coherent usable logicalAddress with
    ⟨answered, kept, same⟩
  rw [answered]
  exact programmed.stored kept same

theorem Tracks.retryWrite
    (tracks : Tracks simulator logical)
    (rank : Fin total → Nat) {logicalAddress : ℤ} (data : Bytes)
    (fresh :
      simulator.blockManager.l2pTable.get? logicalAddress = none)
    (below : logicalAddress < simulator.nextLogicalAddress) :
    Tracks (simulator.retryWrite rank logicalAddress data).2
      (logical.written data
        (simulator.retryWrite rank logicalAddress data).1) := by
  rcases writeBlock_cases rank data fresh with
    ⟨failure, failed⟩ | full | ⟨physicalId, taken, programmed⟩
  · rw [DirectFlashSimulator.retryWrite, failed]
    exact tracks
  · rw [DirectFlashSimulator.retryWrite, full]
    exact tracks
  · rw [DirectFlashSimulator.retryWrite, programmed]
    exact tracks.finishWrite data taken fresh below

theorem Tracks.write
    (tracks : Tracks simulator logical)
    (rank : Fin total → Nat) (data : Bytes) :
    Tracks (simulator.write rank data).2
      (logical.written data (simulator.write rank data).1) := by
  have fresh := tracks.unmapped tracks.next_absent
  have drawn := tracks.draw
  have below :
      simulator.nextLogicalAddress < simulator.nextLogicalAddress + 1 :=
    lt_add_one _
  simp only [DirectFlashSimulator.write]
  rcases writeBlock_cases rank data fresh with
    ⟨failure, failed⟩ | full | ⟨physicalId, taken, programmed⟩
  · rw [failed]
    exact drawn
  · simp only [full]
    have collected := drawn.forceGc
    have stillBelow :
        simulator.nextLogicalAddress <
          ({ simulator with
            nextLogicalAddress :=
              simulator.nextLogicalAddress + 1 }
            |>.forceGc).2.nextLogicalAddress :=
      below
    split
    · rename_i outcome
      rw [outcome] at collected
      exact collected
    · rename_i outcome
      rw [outcome] at collected stillBelow
      exact collected.retryWrite rank data
        (collected.unmapped tracks.next_absent) stillBelow
  · rw [programmed]
    exact drawn.finishWrite data taken fresh below

/-! ## Whole runs -/

/-- Every call takes the observed map with it. -/
theorem tracks_observedStep
    {state : DirectFlashSimulator total × LogicalMap}
    (tracks : Tracks state.1 state.2) (call : Call total) :
    Tracks (observedStep state call).1 (observedStep state call).2 := by
  cases call with
  | initializeFlash =>
      simp only [observedStep, execute, initializeFlash]
      split
      · exact tracks
      · exact tracks.stored ⟨tracks.coherent, rfl⟩ rfl
  | shutdown => exact tracks.stored ⟨tracks.coherent, rfl⟩ rfl
  | write rank data =>
      have written := tracks.write rank data
      cases answer : (state.1.write rank data).1 with
      | error exception =>
          rw [answer] at written
          simp only [observedStep, execute, answer]
          exact written
      | ok logicalAddress =>
          rw [answer] at written
          simp only [observedStep, execute, answer]
          exact written
  | read logicalAddress => exact tracks.read logicalAddress
  | delete logicalAddress => exact tracks.delete logicalAddress
  | trim logicalAddress => exact tracks.delete logicalAddress
  | forceGc => exact tracks.forceGc
  | backgroundGc => exact tracks.backgroundGc
  | forceWearLeveling => exact tracks.forceWearLeveling

/--
After any calls, a read returns what the answers of the calls describe: the data
of the write that returned the address, if it was not deleted since, and nothing
for any other address.
-/
theorem read_observed
    (total : Nat) (settings : FlashSettings) (maxEraseCount : Nat)
    (calls : List (Call total)) (logicalAddress : ℤ) :
    ((run observedStep
          (DirectFlashSimulator.new total settings maxEraseCount,
            fun _ => none) calls).1.read logicalAddress).1 =
      (run observedStep
          (DirectFlashSimulator.new total settings maxEraseCount,
            fun _ => none) calls).2 logicalAddress := by
  have keeps :
      ∀ (state : DirectFlashSimulator total × LogicalMap)
        (call : Call total),
        Tracks state.1 state.2 →
          Tracks (observedStep state call).1
            (observedStep state call).2 :=
    fun _ call tracks => tracks_observedStep tracks call
  have tracks :=
    @run_invariant_of_step _ _ observedStep _ keeps
      (DirectFlashSimulator.new total settings maxEraseCount,
        fun _ => none)
      calls (tracks_new total settings maxEraseCount)
  rw [← tracks.contents]
  exact readBlock_fst tracks.coherent logicalAddress

end Refinement

end StorageAppliance.DirectFlash
