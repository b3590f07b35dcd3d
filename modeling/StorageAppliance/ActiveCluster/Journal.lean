import StorageAppliance.ActiveCluster.SyncReplication

/-!
# Replication journal

In asynchronous mode operations are queued in a journal, and a background task
sends them in passes (`_process_journal`).

A pass works on a copy of the journal.  An operation whose sends are under way
is the current one of the pass; an operation that needs no sends is decided at
once, so `processJournal` runs up to the next wait.  An operation that succeeds
leaves the journal.  One that fails stays, the pass goes on with the next, and
a later pass tries it again.  The task can be stopped at any wait.

Two records are kept for the statements about runs: the acknowledgements in the
order of their arrival, and the peers that each operation is owed to, which are
those configured when it was queued and not removed since.
-/

namespace StorageAppliance.ActiveCluster

open StorageAppliance.Python
open StorageAppliance.Library

/-- A pass: its operation under way with the sends, and those that follow. -/
structure JournalPass where
  operation : ReplicationOperation
  sends : List Send
  remaining : List ReplicationOperation
deriving DecidableEq

/-- All sends of the operation under way have ended. -/
def JournalPass.Ready (pass : JournalPass) : Prop :=
  ∀ send ∈ pass.sends, send.outcome ≠ none

instance : DecidablePred JournalPass.Ready := fun pass =>
  inferInstanceAs (Decidable (∀ send ∈ pass.sends, _))

namespace ReplicationEngine

/-- Take an operation that succeeded out of the journal. -/
def removeOperation (self : ReplicationEngine)
    (operation : ReplicationOperation) : ReplicationEngine :=
  if operation ∈ self.journal then
    { self with
      journal := self.journal.erase operation
      stats :=
        { self.stats with
          operationsPending := self.stats.operationsPending - 1 } }
  else
    self

/-- Keep or remove an operation whose replication has been decided. -/
def settle (self : ReplicationEngine) (operation : ReplicationOperation)
    (success : Bool) : ReplicationEngine :=
  if success then self.removeOperation operation else self

/-- Process operations of the journal, up to the next wait for sends. -/
def processJournal (self : ReplicationEngine) :
    List ReplicationOperation → ReplicationEngine × Option JournalPass
  | [] => (self, none)
  | operation :: rest =>
      match self.startSync with
      | (.answered success, finished) =>
          (finished.settle operation success).processJournal rest
      | (.sending sends, sending) =>
          (sending,
            some
              { operation := operation
                sends := sends
                remaining := rest })

end ReplicationEngine

/-- The engine with its calls and its pass, and what has been acknowledged. -/
structure Journaling where
  replicator : Replicator
  pass : Option JournalPass := none
  acknowledged : List (String × Nat) := []
  owed : Dict Nat (List String) := Dict.empty
deriving DecidableEq

/-- What can happen to an engine with a background task. -/
inductive JournalStep where
  | call (action : ReplicationStep)
  | processJournal
  | endSend (index : Nat) (outcome : SendOutcome)
  | resume
  | stop

namespace Journaling

/-- An engine in asynchronous mode, before its first operation. -/
def start (nodeId : String) : Journaling where
  replicator := ⟨{ nodeId := nodeId, mode := .async }, Dict.empty⟩

def engine (self : Journaling) : ReplicationEngine :=
  self.replicator.engine

def journal (self : Journaling) : List ReplicationOperation :=
  self.engine.journal

/-- The peers that are owed an operation. -/
def owedTo (self : Journaling) (operation : ReplicationOperation) :
    List String :=
  (self.owed.get? operation.sequenceNumber).getD []

/-- The peers owed after a call. -/
def recordOwed (self : Journaling) (action : ReplicationStep) :
    Dict Nat (List String) :=
  let next := (self.replicator.step action).engine
  match action with
  | .removePeer nodeId =>
      self.owed.mapValues fun _ peers =>
        peers.filter fun peer => peer ≠ nodeId
  | _ =>
      if next.sequenceNumber = self.engine.sequenceNumber then
        self.owed
      else
        self.owed.set next.sequenceNumber self.engine.peers.keys

/-- The task starts a pass, unless one is under way. -/
def beginPass (self : Journaling) : Journaling :=
  match self.pass with
  | some _ => self
  | none =>
      let (processed, pass) := self.engine.processJournal self.journal
      { self with
        replicator := { self.replicator with engine := processed }
        pass := pass }

/-- A send of the operation under way ends. -/
def endSend (self : Journaling) (index : Nat) (outcome : SendOutcome) :
    Journaling :=
  match self.pass with
  | none => self
  | some pass =>
      match pass.sends[index]? with
      | none => self
      | some send =>
          if send.outcome = none then
            { self with
              replicator :=
                { self.replicator with
                  engine := self.engine.sendToPeer send outcome }
              pass :=
                some
                  { pass with
                    sends :=
                      pass.sends.set index
                        { send with outcome := some outcome } }
              acknowledged :=
                if outcome = .accepted then
                  self.acknowledged ++
                    [(send.nodeId, pass.operation.sequenceNumber)]
                else
                  self.acknowledged }
          else
            self

/-- The task goes on when all sends of its operation have ended. -/
def resume (self : Journaling) : Journaling :=
  match self.pass with
  | none => self
  | some pass =>
      if pass.Ready then
        let (success, finished) := self.engine.finishSync pass.sends
        let (processed, next) :=
          (finished.settle pass.operation success).processJournal
            pass.remaining
        { self with
          replicator := { self.replicator with engine := processed }
          pass := next }
      else
        self

/-- Execute one step. -/
def step (self : Journaling) : JournalStep → Journaling
  | .call action =>
      { self with
        replicator := self.replicator.step action
        owed := self.recordOwed action }
  | .processJournal => self.beginPass
  | .endSend index outcome => self.endSend index outcome
  | .resume => self.resume
  | .stop => { self with pass := none }

end Journaling

/-! ## Processing the journal -/

/-- How far a replication gets before it waits, and the engine it leaves. -/
inductive Started (engine : ReplicationEngine) :
    SyncStart → ReplicationEngine → Prop where
  | alone (empty : engine.peers.items = []) :
      Started engine (.answered true) engine
  | unreachable (configured : engine.peers.items ≠ []) :
      Started engine (.answered false) (engine.finishSync []).2
  | sending {sends : List Send} (configured : engine.peers.items ≠ [])
      (pending : ∀ send ∈ sends, send.outcome = none) :
      Started engine (.sending sends) engine

theorem startSync_started (engine : ReplicationEngine) :
    Started engine engine.startSync.1 engine.startSync.2 := by
  rw [ReplicationEngine.startSync]
  split
  · rename_i empty
    exact .alone (List.isEmpty_iff.mp empty)
  · rename_i present
    have configured : engine.peers.items ≠ [] := by
      intro empty
      exact present (List.isEmpty_iff.mpr empty)
    split
    · have answer : (engine.finishSync []).1 = false := by
        simpa [ReplicationEngine.finishSync] using configured
      change Started engine (.answered (engine.finishSync []).1) _
      rw [answer]
      exact .unreachable configured
    · refine .sending configured ?_
      intro send member
      rcases List.mem_map.mp member with ⟨peer, _, rfl⟩
      rfl

/-- What processing leaves of an engine, and the pass it leaves under way. -/
structure Processed (before after : ReplicationEngine)
    (pass : Option JournalPass) : Prop where
  mode : after.mode = before.mode
  peers : after.peers = before.peers
  sequenceNumber : after.sequenceNumber = before.sequenceNumber
  journal : after.journal.Sublist before.journal
  kept : before.peers.items ≠ [] → after.journal = before.journal
  passing :
    ∀ under ∈ pass,
      (under.operation :: under.remaining).Sublist after.journal
  pending :
    ∀ under ∈ pass, ∀ send ∈ under.sends, send.outcome = none

section Processing

variable
    {engine : ReplicationEngine}
    {operation : ReplicationOperation}
    {rest : List ReplicationOperation}

theorem removeOperation_journal
    (member : operation ∈ engine.journal) :
    (engine.removeOperation operation).journal =
      engine.journal.erase operation := by
  rw [ReplicationEngine.removeOperation, if_pos member]

theorem settle_frame
    (engine : ReplicationEngine) (operation : ReplicationOperation)
    (success : Bool) :
    (engine.settle operation success).mode = engine.mode ∧
      (engine.settle operation success).peers = engine.peers ∧
      (engine.settle operation success).sequenceNumber =
        engine.sequenceNumber := by
  cases success with
  | false => exact ⟨rfl, rfl, rfl⟩
  | true =>
      simp only [ReplicationEngine.settle, if_true,
        ReplicationEngine.removeOperation]
      split <;> exact ⟨rfl, rfl, rfl⟩

/-- Settling the first operation of a copy leaves the rest in the journal. -/
theorem settle_journal
    (within : (operation :: rest).Sublist engine.journal)
    (success : Bool) :
    rest.Sublist (engine.settle operation success).journal ∧
      (engine.settle operation success).journal.Sublist
        engine.journal := by
  have member : operation ∈ engine.journal := within.subset (by simp)
  cases success with
  | false =>
      exact ⟨(List.sublist_cons_self operation rest).trans within,
        List.Sublist.refl _⟩
  | true =>
      simp only [ReplicationEngine.settle, if_true,
        removeOperation_journal member]
      refine ⟨?_, List.erase_sublist⟩
      have erased := within.erase operation
      rwa [List.erase_cons_head] at erased

theorem processJournal_processed
    {operations : List ReplicationOperation}
    (within : operations.Sublist engine.journal) :
    Processed engine (engine.processJournal operations).1
      (engine.processJournal operations).2 := by
  induction operations generalizing engine with
  | nil =>
      exact
        { mode := rfl
          peers := rfl
          sequenceNumber := rfl
          journal := List.Sublist.refl _
          kept := fun _ => rfl
          passing := by simp [ReplicationEngine.processJournal]
          pending := by simp [ReplicationEngine.processJournal] }
  | cons operation rest induction =>
      have started := startSync_started engine
      rw [ReplicationEngine.processJournal]
      generalize engine.startSync = start at started
      rcases start with ⟨start, finished⟩
      cases started with
      | alone empty =>
          have settled := settle_journal within true
          have frame := settle_frame finished operation true
          have processed := induction settled.1
          exact
            { mode := processed.mode.trans frame.1
              peers := processed.peers.trans frame.2.1
              sequenceNumber := processed.sequenceNumber.trans frame.2.2
              journal := processed.journal.trans settled.2
              kept := fun configured => absurd empty configured
              passing := processed.passing
              pending := processed.pending }
      | unreachable configured =>
          have later : rest.Sublist engine.journal :=
            (List.sublist_cons_self operation rest).trans within
          have processed := @induction (engine.finishSync []).2 later
          exact
            { mode := processed.mode
              peers := processed.peers
              sequenceNumber := processed.sequenceNumber
              journal := processed.journal
              kept := processed.kept
              passing := processed.passing
              pending := processed.pending }
      | sending configured pending =>
          refine
            { mode := rfl
              peers := rfl
              sequenceNumber := rfl
              journal := List.Sublist.refl _
              kept := fun _ => rfl
              passing := ?_
              pending := ?_ }
          · intro under same
            cases same
            exact within
          · intro under same
            cases same
            exact pending

/-- The engine when the operation of a pass has been settled. -/
def ReplicationEngine.settlePass (engine : ReplicationEngine)
    (pass : JournalPass) : ReplicationEngine :=
  (engine.finishSync pass.sends).2.settle pass.operation
    (engine.finishSync pass.sends).1

/-- What settling keeps, and what processing then makes of the rest. -/
structure PassSettled (engine : ReplicationEngine) (pass : JournalPass) :
    Prop where
  mode : (engine.settlePass pass).mode = engine.mode
  peers : (engine.settlePass pass).peers = engine.peers
  sequenceNumber :
    (engine.settlePass pass).sequenceNumber = engine.sequenceNumber
  journal : (engine.settlePass pass).journal.Sublist engine.journal
  processed :
    Processed (engine.settlePass pass)
      ((engine.settlePass pass).processJournal pass.remaining).1
      ((engine.settlePass pass).processJournal pass.remaining).2

theorem settlePass_settled
    {pass : JournalPass}
    (within :
      (pass.operation :: pass.remaining).Sublist engine.journal) :
    PassSettled engine pass := by
  have frame :=
    settle_frame (engine.finishSync pass.sends).2 pass.operation
      (engine.finishSync pass.sends).1
  have settled :=
    @settle_journal (engine.finishSync pass.sends).2 pass.operation
      pass.remaining within (engine.finishSync pass.sends).1
  exact
    { mode := frame.1
      peers := frame.2.1
      sequenceNumber := frame.2.2
      journal := settled.2
      processed := processJournal_processed settled.1 }

end Processing

/-! ## One step -/

/-- The journal is numbered in its order, and a pass works on a part of it. -/
structure Journaled (journaling : Journaling) : Prop where
  mode : journaling.engine.mode = .async
  sorted :
    journaling.journal.Pairwise fun first second =>
      first.sequenceNumber < second.sequenceNumber
  numbered :
    ∀ operation ∈ journaling.journal,
      operation.sequenceNumber ≤ journaling.engine.sequenceNumber
  passing :
    ∀ pass ∈ journaling.pass,
      (pass.operation :: pass.remaining).Sublist journaling.journal

/-- What a step does to the journal, the pass and the acknowledgements. -/
inductive Moves (before : Journaling) (action : JournalStep)
    (after : Journaling) : Prop where
  | queued {operation : ReplicationOperation}
      (mode : after.engine.mode = before.engine.mode)
      (number :
        operation.sequenceNumber = before.engine.sequenceNumber + 1)
      (journal : after.journal = before.journal ++ [operation])
      (sequenceNumber :
        after.engine.sequenceNumber = before.engine.sequenceNumber + 1)
      (pass : after.pass = before.pass)
      (acknowledged : after.acknowledged = before.acknowledged)
  | processed
      (mode : after.engine.mode = before.engine.mode)
      (journal : after.journal.Sublist before.journal)
      (sequenceNumber :
        after.engine.sequenceNumber = before.engine.sequenceNumber)
      (passing :
        ∀ pass ∈ after.pass,
          (pass.operation :: pass.remaining).Sublist after.journal)
      (acknowledged : after.acknowledged = before.acknowledged)
  | acknowledged {pass : JournalPass} {index : Nat} {send : Send}
      (ends : action = .endSend index .accepted)
      (under : before.pass = some pass)
      (listed : pass.sends[index]? = some send)
      (pending : send.outcome = none)
      (mode : after.engine.mode = before.engine.mode)
      (journal : after.journal = before.journal)
      (sequenceNumber :
        after.engine.sequenceNumber = before.engine.sequenceNumber)
      (passing :
        ∀ pass ∈ after.pass,
          (pass.operation :: pass.remaining).Sublist after.journal)
      (acknowledged :
        after.acknowledged =
          before.acknowledged ++
            [(send.nodeId, pass.operation.sequenceNumber)])

/-- The accepted sends of the operation under way are recorded. -/
def Journaling.Recorded (journaling : Journaling) : Prop :=
  ∀ pass ∈ journaling.pass,
    ∀ send ∈ pass.sends,
      send.outcome = some .accepted →
        (send.nodeId, pass.operation.sequenceNumber) ∈
          journaling.acknowledged

/-- A call leaves the journal alone or queues the next operation. -/
inductive Queues (before after : ReplicationEngine) : Prop where
  | kept
      (mode : after.mode = before.mode)
      (journal : after.journal = before.journal)
      (sequenceNumber : after.sequenceNumber = before.sequenceNumber)
  | queued {operation : ReplicationOperation}
      (mode : after.mode = before.mode)
      (number : operation.sequenceNumber = before.sequenceNumber + 1)
      (journal : after.journal = before.journal ++ [operation])
      (sequenceNumber :
        after.sequenceNumber = before.sequenceNumber + 1)

section Steps

variable
    {replicator : Replicator}
    {journaling : Journaling}

theorem replicate_queues
    (mode : replicator.engine.mode = .async)
    (callId : Nat) (volumeId : String) (data : OperationData) :
    Queues replicator.engine
      (replicator.replicate callId volumeId data).engine := by
  rw [Replicator.replicate]
  split
  · exact .kept rfl rfl rfl
  · have numberedMode :
        (replicator.engine.newOperation volumeId data).2.mode = .async :=
      mode
    simp only [numberedMode]
    exact .queued rfl rfl rfl rfl

theorem call_queues
    (mode : replicator.engine.mode = .async) (action : ReplicationStep) :
    Queues replicator.engine (replicator.step action).engine := by
  cases action with
  | addPeer nodeId => exact .kept rfl rfl rfl
  | removePeer nodeId =>
      simp only [Replicator.step, ReplicationEngine.removePeer]
      split <;> exact .kept rfl rfl rfl
  | setPeerState nodeId state => exact .kept rfl rfl rfl
  | replicateWrite callId volumeId offset blockId fingerprint data =>
      exact replicate_queues mode callId volumeId _
  | replicateDelete callId volumeId blockId =>
      exact replicate_queues mode callId volumeId _
  | endSend callId index outcome =>
      change Queues _ (replicator.endSend callId index outcome).engine
      rcases endSend_engine replicator callId index outcome with
        same | ⟨send, sent⟩
      · rw [same]
        exact .kept rfl rfl rfl
      · rw [sent]
        cases outcome <;> exact .kept rfl rfl rfl
  | finish callId =>
      simp only [Replicator.step, Replicator.finish]
      split
      · exact .kept rfl rfl rfl
      · split <;> exact .kept rfl rfl rfl

/-- A step that does nothing. -/
theorem Journaled.unmoved
    (journaled : Journaled journaling) (action : JournalStep) :
    Moves journaling action journaling :=
  .processed rfl (List.Sublist.refl _) rfl journaled.passing rfl

theorem step_moves
    (journaled : Journaled journaling) (action : JournalStep) :
    Moves journaling action (journaling.step action) := by
  cases action with
  | call action =>
      cases call_queues journaled.mode action with
      | kept mode journal sequenceNumber =>
          refine .processed mode ?_ sequenceNumber ?_ rfl
          · rw [show (journaling.step (.call action)).journal =
              journaling.journal from journal]
          · rw [show (journaling.step (.call action)).journal =
              journaling.journal from journal]
            exact journaled.passing
      | queued mode number journal sequenceNumber =>
          exact .queued mode number journal sequenceNumber rfl rfl
  | processJournal =>
      simp only [Journaling.step, Journaling.beginPass]
      split
      · exact journaled.unmoved _
      · have processed :=
          processJournal_processed (List.Sublist.refl journaling.journal)
        exact .processed processed.mode processed.journal
          processed.sequenceNumber processed.passing rfl
  | endSend index outcome =>
      simp only [Journaling.step, Journaling.endSend]
      split
      · exact journaled.unmoved _
      · rename_i pass under
        split
        · exact journaled.unmoved _
        · rename_i send listed
          have passing := journaled.passing pass under
          split
          · rename_i pending
            cases outcome with
            | accepted =>
                refine
                  .acknowledged rfl under listed pending rfl rfl rfl ?_ rfl
                intro later same
                cases same
                exact passing
            | refused =>
                refine .processed rfl (List.Sublist.refl _) rfl ?_ rfl
                intro later same
                cases same
                exact passing
            | failed =>
                refine .processed rfl (List.Sublist.refl _) rfl ?_ rfl
                intro later same
                cases same
                exact passing
          · exact journaled.unmoved _
  | resume =>
      simp only [Journaling.step, Journaling.resume]
      split
      · exact journaled.unmoved _
      · rename_i pass under
        split
        · have settled :=
            settlePass_settled (journaled.passing pass under)
          have processed := settled.processed
          exact .processed (processed.mode.trans settled.mode)
            (processed.journal.trans settled.journal)
            (processed.sequenceNumber.trans settled.sequenceNumber)
            processed.passing rfl
        · exact journaled.unmoved _
  | stop =>
      refine .processed rfl (List.Sublist.refl _) rfl ?_ rfl
      intro pass same
      cases same

/-- The journal stays numbered in its order. -/
theorem journaled_step
    (journaled : Journaled journaling) (action : JournalStep) :
    Journaled (journaling.step action) := by
  cases step_moves journaled action with
  | queued mode number journal sequenceNumber pass =>
      constructor
      · exact mode.trans journaled.mode
      · rw [journal, List.pairwise_append]
        refine ⟨journaled.sorted, List.pairwise_singleton _ _, ?_⟩
        intro old member new same
        rw [List.mem_singleton] at same
        rw [same, number]
        exact Nat.lt_succ_of_le (journaled.numbered old member)
      · intro operation member
        rw [journal, List.mem_append, List.mem_singleton] at member
        rw [sequenceNumber]
        rcases member with old | rfl
        · exact Nat.le_succ_of_le (journaled.numbered operation old)
        · exact number.le
      · intro under same
        rw [pass] at same
        rw [journal]
        exact (journaled.passing under same).trans
          (List.sublist_append_left _ _)
  | processed mode journal sequenceNumber passing =>
      constructor
      · exact mode.trans journaled.mode
      · exact journaled.sorted.sublist journal
      · intro operation member
        rw [sequenceNumber]
        exact journaled.numbered operation (journal.subset member)
      · exact passing
  | acknowledged _ _ _ _ mode journal sequenceNumber passing =>
      constructor
      · exact mode.trans journaled.mode
      · rw [journal]
        exact journaled.sorted
      · rw [journal, sequenceNumber]
        exact journaled.numbered
      · exact passing

theorem Journaling.Recorded.endSend
    (recorded : journaling.Recorded) (index : Nat)
    (outcome : SendOutcome) :
    (journaling.step (.endSend index outcome)).Recorded := by
  simp only [Journaling.step, Journaling.endSend]
  split
  · exact recorded
  · rename_i pass under
    split
    · exact recorded
    · rename_i send listed
      split
      · intro later same other member accepted
        cases same
        rcases List.mem_or_eq_of_mem_set member with old | new
        · have known := recorded pass under other old accepted
          split
          · exact List.mem_append_left _ known
          · exact known
        · subst new
          rw [if_pos (Option.some.inj accepted)]
          exact List.mem_append_right _ (List.mem_singleton.mpr rfl)
      · exact recorded

theorem journaled_start (nodeId : String) :
    Journaled (Journaling.start nodeId) where
  mode := rfl
  sorted := List.Pairwise.nil
  numbered := by
    intro operation member
    cases member
  passing := by
    intro pass same
    cases same

end Steps

end StorageAppliance.ActiveCluster
