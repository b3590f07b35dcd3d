import StorageAppliance.DirectFlash.BlockManager

/-!
# Garbage collection

Invalid blocks are erased one after another until enough blocks are free
(`directflash/garbage_collection.py`).  The utilization is read from the
statistics after every block, and when these cannot be computed the cycle is
abandoned with the exception, in the middle of its work.

Utilizations are rational numbers.
-/

namespace StorageAppliance.DirectFlash

open StorageAppliance.Python
open StorageAppliance.Library
open BlockManager

/-- Garbage collector state. -/
inductive GCState where
  | idle
  | running
  | stopped
deriving DecidableEq, Repr

/-- Garbage collection statistics. -/
structure GCStats where
  gcRuns : Nat := 0
  blocksReclaimed : Nat := 0
  bytesReclaimed : Nat := 0
deriving DecidableEq

/-- The bounds of the collector, its state and whether its task exists. -/
structure GarbageCollector where
  gcThreshold : ℚ
  gcTarget : ℚ
  state : GCState := .idle
  stats : GCStats := {}
  hasTask : Bool := false
deriving DecidableEq

namespace GarbageCollector

variable {total : Nat}

/-- Current storage utilization. -/
def getUtilization (manager : BlockManager total) :
    Except PyException ℚ :=
  match manager.getStats with
  | .error exception => .error exception
  | .ok stats =>
      let totalBlocks := stats.counters.totalBlocks
      let freeBlocks := stats.counters.freeBlocks
      .ok
        (if totalBlocks > 0 then
          ((totalBlocks - freeBlocks : ℤ) : ℚ) / totalBlocks
        else
          0)

/-- Check if the collector should run based on utilization. -/
def shouldRun (self : GarbageCollector) (manager : BlockManager total) :
    Except PyException Bool :=
  match getUtilization manager with
  | .error exception => .error exception
  | .ok utilization => .ok (decide (utilization ≥ self.gcThreshold))

/-- Erase one block if it is invalid, counting it if it becomes free. -/
def reclaim (self : GarbageCollector) (manager : BlockManager total)
    (blockId : Fin total) :
    Nat × GarbageCollector × BlockManager total :=
  if (manager.blocks blockId).state = .invalid then
    match manager.eraseBlock blockId with
    | (true, erased) =>
        (1,
          { self with
            stats :=
              { self.stats with
                blocksReclaimed := self.stats.blocksReclaimed + 1
                bytesReclaimed :=
                  self.stats.bytesReclaimed + manager.blockSize } },
          erased)
    | (false, worn) => (0, self, worn)
  else
    (0, self, manager)

/-- Reclaim blocks in order until the target is reached. -/
def collect (self : GarbageCollector) (manager : BlockManager total)
    (reclaimed : Nat) :
    List (Fin total) →
      Except PyException Nat × GarbageCollector × BlockManager total
  | [] => (.ok reclaimed, self, manager)
  | blockId :: rest =>
      if self.state = .stopped then
        (.ok reclaimed, self, manager)
      else
        let (count, counted, erased) := self.reclaim manager blockId
        match getUtilization erased with
        | .error exception => (.error exception, counted, erased)
        | .ok utilization =>
            if utilization ≤ self.gcTarget then
              (.ok (reclaimed + count), counted, erased)
            else
              counted.collect erased (reclaimed + count) rest

/-- Count a completed cycle. -/
def finishCycle (self : GarbageCollector) : GarbageCollector :=
  { self with
    stats := { self.stats with gcRuns := self.stats.gcRuns + 1 }
    state := if self.state ≠ .stopped then .idle else self.state }

/-- Run one garbage collection cycle. -/
def runGcCycle (self : GarbageCollector) (manager : BlockManager total) :
    Except PyException Nat × GarbageCollector × BlockManager total :=
  if self.state = .stopped then
    (.ok 0, self, manager)
  else
    match
      { self with state := .running }.collect manager 0
        manager.getInvalidBlocks
    with
    | (.error exception, collector, erased) =>
        (.error exception, collector, erased)
    | (.ok reclaimed, collector, erased) =>
        (.ok reclaimed, collector.finishCycle, erased)

/-- One round of the background task. -/
def backgroundCycle (self : GarbageCollector)
    (manager : BlockManager total) :
    Except PyException Nat × GarbageCollector × BlockManager total :=
  if self.state = .stopped then
    (.ok 0, self, manager)
  else
    match self.shouldRun manager with
    | .error exception => (.error exception, self, manager)
    | .ok true => self.runGcCycle manager
    | .ok false => (.ok 0, self, manager)

/-- Start background garbage collection. -/
def startBackgroundGc (self : GarbageCollector) : GarbageCollector :=
  if self.hasTask then
    self
  else
    { self with state := .idle, hasTask := true }

/-- Stop background garbage collection. -/
def stopBackgroundGc (self : GarbageCollector) : GarbageCollector :=
  { self with state := .stopped, hasTask := false }

end GarbageCollector

open GarbageCollector

section Collection

variable
    {total : Nat}
    {manager : BlockManager total}

/-- Reclaiming leaves the stored map alone. -/
theorem reclaim_coherent
    (self : GarbageCollector) (coherent : manager.Coherent)
    (blockId : Fin total) :
    (self.reclaim manager blockId).2.2.Coherent ∧
      (self.reclaim manager blockId).2.2.contents = manager.contents := by
  rw [reclaim]
  split
  · rename_i stale
    have kept := coherent.eraseBlock stale
    split
    · rename_i outcome
      rw [outcome] at kept
      exact kept
    · rename_i outcome
      rw [outcome] at kept
      exact kept
  · exact ⟨coherent, rfl⟩

/-- So does reclaiming one block after another, also when it is abandoned. -/
theorem collect_coherent
    (self : GarbageCollector) (coherent : manager.Coherent)
    (reclaimed : Nat) (blockIds : List (Fin total)) :
    (self.collect manager reclaimed blockIds).2.2.Coherent ∧
      (self.collect manager reclaimed blockIds).2.2.contents =
        manager.contents := by
  induction blockIds generalizing self manager reclaimed with
  | nil => exact ⟨coherent, rfl⟩
  | cons blockId rest induction =>
      have kept := reclaim_coherent self coherent blockId
      simp only [collect]
      split
      · exact ⟨coherent, rfl⟩
      · split
        · exact kept
        · split
          · exact kept
          · rw [← kept.2]
            exact induction _ kept.1 _

theorem runGcCycle_coherent
    (self : GarbageCollector) (coherent : manager.Coherent) :
    (self.runGcCycle manager).2.2.Coherent ∧
      (self.runGcCycle manager).2.2.contents = manager.contents := by
  have kept :=
    collect_coherent { self with state := .running } coherent 0
      manager.getInvalidBlocks
  rw [runGcCycle]
  split
  · exact ⟨coherent, rfl⟩
  · split
    · rename_i outcome
      rw [outcome] at kept
      exact kept
    · rename_i outcome
      rw [outcome] at kept
      exact kept

theorem backgroundCycle_coherent
    (self : GarbageCollector) (coherent : manager.Coherent) :
    (self.backgroundCycle manager).2.2.Coherent ∧
      (self.backgroundCycle manager).2.2.contents = manager.contents := by
  rw [backgroundCycle]
  split
  · exact ⟨coherent, rfl⟩
  · split
    · exact ⟨coherent, rfl⟩
    · exact runGcCycle_coherent self coherent
    · exact ⟨coherent, rfl⟩

end Collection

end StorageAppliance.DirectFlash
