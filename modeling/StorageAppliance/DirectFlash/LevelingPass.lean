import StorageAppliance.DirectFlash.Moves

/-!
# A pass of wear leveling

The loop of the source has no bound.  `LevelRun` is that loop as it stands: it
ends when there are no candidates, or when a block is not leveled.
`levelLoop_run` says that the bounded loop of the model is a run of it, because
the wear of the valid blocks falls in each round, so every pass terminates.

The search for candidates covers every block, so where it finds none the wear is
leveled.  A pass that is not needed leaves leveled blocks alone, since the test
compares the extreme erase counts of more blocks than the search does.
-/

namespace StorageAppliance.DirectFlash

open StorageAppliance.Python
open StorageAppliance.Library
open BlockManager
open WearLeveling
open DirectFlashSimulator

section Passes

variable
    {total : Nat}
    {self : WearLeveling}
    {manager : BlockManager total}

/-! ## The loop of the source -/

/-- A run of the unbounded loop, with the number of moved blocks. -/
inductive LevelRun :
    WearLeveling → BlockManager total →
      Nat → WearLeveling → BlockManager total → Prop where
  | ended {self : WearLeveling} {manager : BlockManager total}
      (absent : self.findCandidates manager = none) :
      LevelRun self manager 0 self manager
  | refused {self leveling : WearLeveling}
      {manager unmoved : BlockManager total}
      {sourceId destId : Fin total}
      (found :
        self.findCandidates manager = some (sourceId, destId))
      (failed :
        self.levelBlock manager sourceId destId =
          (false, leveling, unmoved)) :
      LevelRun self manager 0 leveling unmoved
  | moved {self leveling after : WearLeveling}
      {manager copied final : BlockManager total}
      {sourceId destId : Fin total} {count : Nat}
      (found :
        self.findCandidates manager = some (sourceId, destId))
      (leveled :
        self.levelBlock manager sourceId destId =
          (true, leveling, copied))
      (rest :
        LevelRun leveling (copied.eraseBlock sourceId).2 count after
          final) :
      LevelRun self manager (count + 1) after final

/-- With more rounds than the wear, the bounded loop is a run. -/
theorem levelLoop_run
    {rounds : Nat} (enough : manager.validWear < rounds) :
    LevelRun self manager (levelLoop rounds self manager).1
      (levelLoop rounds self manager).2.1
      (levelLoop rounds self manager).2.2 := by
  induction rounds generalizing self manager with
  | zero => exact absurd enough (Nat.not_lt_zero _)
  | succ rounds induction =>
      cases found : self.findCandidates manager with
      | none =>
          simp only [levelLoop, found]
          exact LevelRun.ended found
      | some candidates =>
          rcases candidates with ⟨sourceId, destId⟩
          have falls := round_validWear found
          have fewer :
              (round manager sourceId destId).validWear < rounds :=
            Nat.lt_of_lt_of_le falls (Nat.le_of_lt_succ enough)
          rw [levelLoop_succ rounds found]
          exact
            LevelRun.moved found (levelBlock_candidates found)
              (induction fewer)

/-! ## The search covers every block -/

/-- The search knows a valid block as worn, or a free block as little worn. -/
structure CandidateSearch.Covers (search : CandidateSearch total)
    (block : PhysicalBlock) : Prop where
  valid :
    block.state = .valid →
      ∃ found maxErase,
        search.mostWornValid = some (found, maxErase) ∧
          block.eraseCount ≤ maxErase
  free :
    block.state = .free →
      ∃ found minErase,
        search.leastWornFree = some (found, minErase) ∧
          minErase ≤ block.eraseCount

theorem covers_inspect_self
    (search : CandidateSearch total) (blockId : Fin total) :
    (inspect manager search blockId).Covers (manager.blocks blockId) := by
  constructor
  · intro valid
    simp only [inspect, valid, if_true]
    split
    · exact ⟨_, _, rfl, le_rfl⟩
    · rename_i found maxErase known
      split
      · exact ⟨_, _, rfl, le_rfl⟩
      · rename_i less
        exact ⟨_, _, known, not_lt.mp less⟩
  · intro free
    simp only [inspect, free, reduceCtorEq, if_false, if_true]
    split
    · exact ⟨_, _, rfl, le_rfl⟩
    · rename_i found minErase known
      split
      · exact ⟨_, _, rfl, le_rfl⟩
      · rename_i more
        exact ⟨_, _, known, not_lt.mp more⟩

theorem covers_inspect
    {search : CandidateSearch total} {block : PhysicalBlock}
    (covers : search.Covers block) (blockId : Fin total) :
    (inspect manager search blockId).Covers block := by
  constructor
  · intro valid
    rcases covers.valid valid with ⟨found, maxErase, known, bound⟩
    simp only [inspect, known]
    split
    · split
      · rename_i more
        exact ⟨_, _, rfl, bound.trans (le_of_lt more)⟩
      · exact ⟨_, _, known, bound⟩
    · split
      · split
        · exact ⟨_, _, rfl, bound⟩
        · split
          · exact ⟨_, _, rfl, bound⟩
          · exact ⟨_, _, known, bound⟩
      · exact ⟨_, _, known, bound⟩
  · intro free
    rcases covers.free free with ⟨found, minErase, known, bound⟩
    simp only [inspect, known]
    split
    · split
      · exact ⟨_, _, rfl, bound⟩
      · split
        · exact ⟨_, _, rfl, bound⟩
        · exact ⟨_, _, known, bound⟩
    · split
      · split
        · rename_i less
          exact ⟨_, _, rfl, (le_of_lt less).trans bound⟩
        · exact ⟨_, _, known, bound⟩
      · exact ⟨_, _, known, bound⟩

theorem covers_foldl
    {search : CandidateSearch total} {block : PhysicalBlock}
    (covers : search.Covers block) (blockIds : List (Fin total)) :
    (blockIds.foldl (inspect manager) search).Covers block := by
  induction blockIds generalizing search with
  | nil => exact covers
  | cons blockId rest induction =>
      exact induction (covers_inspect covers blockId)

theorem covers_of_mem
    {search : CandidateSearch total} {blockId : Fin total}
    {blockIds : List (Fin total)} (listed : blockId ∈ blockIds) :
    (blockIds.foldl (inspect manager) search).Covers
      (manager.blocks blockId) := by
  induction blockIds generalizing search with
  | nil => cases listed
  | cons first rest induction =>
      rcases List.mem_cons.mp listed with same | later
      · subst same
        exact covers_foldl (covers_inspect_self search _) rest
      · exact induction later

/-! ## Leveled wear -/

/-- No valid block is worn more than a free one by over the threshold. -/
def Leveled (manager : BlockManager total) (threshold : Nat) : Prop :=
  ∀ validId freeId,
    (manager.blocks validId).state = .valid →
      (manager.blocks freeId).state = .free →
        ((manager.blocks validId).eraseCount : ℤ) -
            (manager.blocks freeId).eraseCount ≤ threshold

/-- Where the search finds no candidates, the wear is leveled. -/
theorem leveled_of_no_candidates
    (absent : self.findCandidates manager = none) :
    Leveled manager self.threshold := by
  intro validId freeId valid free
  rcases
    (@covers_of_mem _ manager {} _ _
      (List.mem_finRange validId)).valid valid with
    ⟨mostWorn, maxErase, most, above⟩
  rcases
    (@covers_of_mem _ manager {} _ _
      (List.mem_finRange freeId)).free free with
    ⟨leastWorn, minErase, least, below⟩
  rw [findCandidates] at absent
  cases searched : (List.finRange total).foldl (inspect manager) {} with
  | mk mostWornValid leastWornFree =>
      rw [searched] at most least absent
      cases most
      cases least
      simp only [ite_eq_right_iff, reduceCtorEq, imp_false] at absent
      omega

/-- The statistics bound the erase counts. -/
theorem getStats_bounds
    {stats : BlockStats} (computed : manager.getStats = .ok stats)
    (blockId : Fin total) :
    (manager.blocks blockId).eraseCount ≤ stats.maxEraseCount ∧
      ((manager.blocks blockId).state ≠ .bad →
        stats.minEraseCount ≤ (manager.blocks blockId).eraseCount) := by
  rw [BlockManager.getStats] at computed
  split at computed
  · cases computed
  · split at computed
    · cases computed
    · rename_i minEraseCount least
      cases computed
      constructor
      · have listed :
            (manager.blocks blockId).eraseCount ∈
              (List.finRange total).map fun physicalId =>
                (manager.blocks physicalId).eraseCount :=
          List.mem_map.mpr ⟨blockId, List.mem_finRange blockId, rfl⟩
        rw [List.foldl_max_eq_max (List.ne_nil_of_mem listed)]
        exact (List.le_max_of_mem listed).trans (le_max_right _ _)
      · intro usable
        apply (List.min?_eq_some_iff.mp least).2
        apply List.mem_map.mpr
        exact ⟨blockId, by simp [usable], rfl⟩

/-- A pass is not needed only if the wear is leveled. -/
theorem leveled_of_not_needed
    (unneeded : self.shouldLevel manager = .ok false) :
    Leveled manager self.threshold := by
  intro validId freeId valid free
  rw [shouldLevel] at unneeded
  split at unneeded
  · cases unneeded
  · rename_i stats computed
    have above := (getStats_bounds computed validId).1
    have below :=
      (getStats_bounds computed freeId).2 (by rw [free]; simp)
    have within := of_decide_eq_false (Except.ok.inj unneeded)
    omega

/-! ## A whole pass -/

theorem levelLoop_threshold (rounds : Nat) :
    (levelLoop rounds self manager).2.1.threshold = self.threshold := by
  induction rounds generalizing self manager with
  | zero => rfl
  | succ rounds induction =>
      cases found : self.findCandidates manager with
      | none => simp only [levelLoop, found]
      | some candidates =>
          rcases candidates with ⟨sourceId, destId⟩
          rw [levelLoop_succ rounds found]
          exact induction

/-- The outcome of a pass, if it is needed a run of the unbounded loop. -/
structure LevelingPass (leveler : WearLeveling)
    (before : BlockManager total) (moved : Nat)
    (leveling : WearLeveling) (after : BlockManager total) :
    Prop where
  returned :
    leveler.runLevelingPass before = (.ok moved, leveling, after)
  looped :
    leveler.shouldLevel before = .ok true →
      LevelRun leveler before moved leveling after

/-- With a usable block, a pass ends and has leveled the wear. -/
theorem runLevelingPass_leveled
    {physicalId : Fin total}
    (usable : (manager.blocks physicalId).state ≠ .bad) :
    ∃ moved leveling after,
      LevelingPass self manager moved leveling after ∧
        Leveled after self.threshold := by
  rcases getStats_of_usable usable with ⟨stats, computed⟩
  cases needed : self.shouldLevel manager with
  | error exception => simp [shouldLevel, computed] at needed
  | ok level =>
      cases level with
      | false =>
          refine ⟨0, self, manager, ⟨?_, ?_⟩, ?_⟩
          · rw [runLevelingPass, needed]
          · rw [needed]
            intro impossible
            cases impossible
          · exact leveled_of_not_needed needed
      | true =>
          have enough : manager.validWear < manager.validWear + 1 :=
            Nat.lt_succ_self _
          refine
            ⟨(levelLoop (manager.validWear + 1) self manager).1, _, _,
              ⟨?_, fun _ => levelLoop_run enough⟩, ?_⟩
          · rw [runLevelingPass, needed]
          · have leveled :=
              leveled_of_no_candidates
                (@levelLoop_candidates _ self _ _ enough)
            rw [levelLoop_threshold] at leveled
            exact leveled

end Passes

section Runs

variable {total : Nat}

/--
In every state that the simulator reaches with a usable block left, a pass of
wear leveling terminates, levels the wear, and leaves every read alone.
-/
theorem runLevelingPass_after_any_calls
    (settings : FlashSettings) (maxEraseCount : Nat)
    (calls : List (Call total))
    (usable :
      ∃ physicalId,
        ((run DirectFlashSimulator.step
          (DirectFlashSimulator.new total settings maxEraseCount)
          calls).blockManager.blocks physicalId).state ≠ .bad) :
    let simulator :=
      run DirectFlashSimulator.step
        (DirectFlashSimulator.new total settings maxEraseCount) calls
    ∃ moved leveling after,
      LevelingPass simulator.wearLeveling simulator.blockManager moved
          leveling after ∧
        Leveled after simulator.wearLeveling.threshold ∧
        ∀ logicalAddress,
          (after.readBlock logicalAddress).1 =
            (simulator.blockManager.readBlock logicalAddress).1 := by
  intro simulator
  rcases usable with ⟨physicalId, usable⟩
  have coherent : simulator.blockManager.Coherent :=
    (sound_run settings maxEraseCount calls).flash.coherent
  rcases
    @runLevelingPass_leveled _ simulator.wearLeveling _ _ usable with
    ⟨moved, leveling, after, pass, leveled⟩
  have kept :=
    runLevelingPass_coherent simulator.wearLeveling coherent
  rw [pass.returned] at kept
  refine ⟨moved, leveling, after, pass, leveled, ?_⟩
  intro logicalAddress
  rw [readBlock_fst kept.1, readBlock_fst coherent, kept.2]

/-- Two blocks, one of them worn by a cycle, with nothing tolerated. -/
def wornFlash : DirectFlashSimulator 2 :=
  run DirectFlashSimulator.step
    (DirectFlashSimulator.new 2
      { flashBlockSize := 8, gcTarget := 0, wearLevelingThreshold := 0 }
      100)
    [.write (fun _ => 0) [1], .delete 0, .forceGc,
      .write (fun _ => 0) [2]]

theorem runLevelingPass_wornFlash :
    ∃ moved leveling after,
      LevelingPass wornFlash.wearLeveling wornFlash.blockManager moved
          leveling after ∧
        Leveled after wornFlash.wearLeveling.threshold ∧
        ∀ logicalAddress,
          (after.readBlock logicalAddress).1 =
            (wornFlash.blockManager.readBlock logicalAddress).1 :=
  runLevelingPass_after_any_calls
    { flashBlockSize := 8, gcTarget := 0, wearLevelingThreshold := 0 }
    100
    [.write (fun _ => 0) [1], .delete 0, .forceGc,
      .write (fun _ => 0) [2]]
    ⟨0, by decide +kernel⟩

end Runs

end StorageAppliance.DirectFlash
