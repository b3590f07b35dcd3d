import StorageAppliance.ActiveCluster.Journal

/-!
# Conservation of the journal

The passes of several tasks over one journal.  There is usually one task, but
two overlapping calls of `stop_async_replication` can forget a task that was
started between them, and nothing stops it then.

A pass works on a copy of the journal, to which calls append and from which the
other passes remove in the meantime, so an operation of the copy need not be in
the journal any more.  No operation is lost and none is removed twice
(`journal_conserved`).

Two records are kept for the statement: the operations in the order in which
they were queued, and those that `_process_journal` has removed, with the peers
that were configured when the pass decided.
-/

namespace StorageAppliance.ActiveCluster

open StorageAppliance.Python
open StorageAppliance.Library

/-- A removed operation, and the peers that were configured then. -/
structure Removal where
  operation : ReplicationOperation
  configured : List String
deriving DecidableEq

namespace ReplicationEngine

/-- What settling an operation removes from the journal. -/
def settled (self : ReplicationEngine) (operation : ReplicationOperation)
    (success : Bool) : List Removal :=
  if success ∧ operation ∈ self.journal then
    [{ operation := operation, configured := self.peers.keys }]
  else
    []

/-- What processing operations removes from the journal. -/
def removals (self : ReplicationEngine) :
    List ReplicationOperation → List Removal
  | [] => []
  | operation :: rest =>
      match self.startSync with
      | (.answered success, finished) =>
          finished.settled operation success ++
            (finished.settle operation success).removals rest
      | (.sending _, _) => []

end ReplicationEngine

/-- The operation that a call queues. -/
def Replicator.queuedBy (self : Replicator) (callId : Nat)
    (volumeId : String) (data : OperationData) :
    List ReplicationOperation :=
  match self.calls.get? callId with
  | some _ => []
  | none => [(self.engine.newOperation volumeId data).1]

namespace Journaling

/-- What a step queues. -/
def queued (self : Journaling) : JournalStep → List ReplicationOperation
  | .call (.replicateWrite callId volumeId offset blockId fingerprint
      data) =>
      self.replicator.queuedBy callId volumeId
        (.write offset blockId fingerprint (hex data))
  | .call (.replicateDelete callId volumeId blockId) =>
      self.replicator.queuedBy callId volumeId (.delete blockId)
  | _ => []

/-- What a step removes. -/
def removed (self : Journaling) : JournalStep → List Removal
  | .processJournal =>
      match self.pass with
      | some _ => []
      | none => self.engine.removals self.journal
  | .resume =>
      match self.pass with
      | none => []
      | some pass =>
          if pass.Ready then
            let (success, finished) := self.engine.finishSync pass.sends
            finished.settled pass.operation success ++
              (finished.settle pass.operation success).removals
                pass.remaining
          else
            []
  | _ => []

end Journaling

/-- The engine with the passes of its tasks, and the two records. -/
structure JournalTasks where
  replicator : Replicator
  passes : Dict Nat JournalPass := Dict.empty
  acknowledged : List (String × Nat) := []
  enqueued : List ReplicationOperation := []
  removed : List Removal := []

namespace JournalTasks

/-- An engine in asynchronous mode, before its first operation. -/
def start (nodeId : String) : JournalTasks where
  replicator := ⟨{ nodeId := nodeId, mode := .async }, Dict.empty⟩

/-- What a task sees of the engine. -/
def focus (self : JournalTasks) (task : Nat) : Journaling where
  replicator := self.replicator
  pass := self.passes.get? task
  acknowledged := self.acknowledged

/-- A task takes a step; the calls are not bound to a task. -/
def step (self : JournalTasks) (turn : Nat × JournalStep) :
    JournalTasks :=
  let before := self.focus turn.1
  let after := before.step turn.2
  { replicator := after.replicator
    passes :=
      match after.pass with
      | some pass => self.passes.set turn.1 pass
      | none => self.passes.erase turn.1
    acknowledged := after.acknowledged
    enqueued := self.enqueued ++ before.queued turn.2
    removed := self.removed ++ before.removed turn.2 }

def engine (self : JournalTasks) : ReplicationEngine :=
  self.replicator.engine

/-- The operations that have left the journal. -/
def removedOperations (self : JournalTasks) :
    List ReplicationOperation :=
  self.removed.map Removal.operation

end JournalTasks

/-! ## Conservation -/

/-- A peer acknowledged the removed operation, or there were no peers. -/
def Removal.Justified (removal : Removal)
    (acknowledged : List (String × Nat)) : Prop :=
  removal.configured = [] ∨
    ∃ nodeId, (nodeId, removal.operation.sequenceNumber) ∈ acknowledged

/-- The journal has the queued operations that were not removed. -/
structure Conserves (tasks : JournalTasks) : Prop where
  conserved :
    tasks.enqueued.Perm (tasks.engine.journal ++ tasks.removedOperations)
  disjoint : (tasks.engine.journal ++ tasks.removedOperations).Nodup
  pending :
    tasks.engine.stats.operationsPending = tasks.engine.journal.length
  increasing :
    tasks.engine.journal.Pairwise fun first second =>
      first.sequenceNumber < second.sequenceNumber
  justified :
    ∀ removal ∈ tasks.removed, removal.Justified tasks.acknowledged

/-! ## Removals -/

/-- The pending operations are those of the journal. -/
def ReplicationEngine.Counted (engine : ReplicationEngine) : Prop :=
  engine.stats.operationsPending = engine.journal.length

/-- What a pass takes from the journal, and what it keeps of the engine. -/
structure Drains (before after : ReplicationEngine)
    (removed : List Removal) : Prop where
  mode : after.mode = before.mode
  sequenceNumber : after.sequenceNumber = before.sequenceNumber
  sublist : after.journal.Sublist before.journal
  journal :
    before.journal.Perm
      (after.journal ++ removed.map Removal.operation)
  counted : before.Counted → after.Counted

section Removals

variable
    {first second third engine : ReplicationEngine}
    {operation : ReplicationOperation}

theorem Drains.trans
    {early late : List Removal}
    (drains : Drains first second early)
    (later : Drains second third late) :
    Drains first third (early ++ late) where
  mode := later.mode.trans drains.mode
  sequenceNumber := later.sequenceNumber.trans drains.sequenceNumber
  sublist := later.sublist.trans drains.sublist
  journal := by
    have early := drains.journal.trans (later.journal.append_right _)
    rw [List.map_append]
    rw [List.append_assoc] at early
    exact early.trans (List.perm_append_comm.append_left _)
  counted before := later.counted (drains.counted before)

theorem drains_of_kept
    (mode : second.mode = first.mode)
    (sequenceNumber : second.sequenceNumber = first.sequenceNumber)
    (journal : second.journal = first.journal)
    (pending :
      second.stats.operationsPending = first.stats.operationsPending) :
    Drains first second [] where
  mode := mode
  sequenceNumber := sequenceNumber
  sublist := by
    rw [journal]
  journal := by
    rw [journal, List.map_nil, List.append_nil]
  counted before := by
    rw [ReplicationEngine.Counted, journal, pending]
    exact before

theorem drains_self (engine : ReplicationEngine) :
    Drains engine engine [] :=
  drains_of_kept rfl rfl rfl rfl

/-- Counting an operation leaves the journal. -/
theorem drains_finishSync
    (engine : ReplicationEngine) (sends : List Send) :
    Drains engine (engine.finishSync sends).2 [] :=
  drains_of_kept rfl rfl rfl rfl

theorem settled_of_mem
    (member : operation ∈ engine.journal) :
    engine.settled operation true =
      [{ operation := operation, configured := engine.peers.keys }] :=
  if_pos ⟨rfl, member⟩

/-- An operation is removed at most once. -/
theorem settled_of_notMem
    (gone : operation ∉ engine.journal) :
    engine.settled operation true = [] :=
  if_neg fun both => gone both.2

theorem drains_settle
    (engine : ReplicationEngine) (operation : ReplicationOperation)
    (success : Bool) :
    Drains engine (engine.settle operation success)
      (engine.settled operation success) := by
  cases success with
  | false => exact drains_self engine
  | true =>
      change Drains engine (engine.removeOperation operation) _
      by_cases member : operation ∈ engine.journal
      · rw [settled_of_mem member, ReplicationEngine.removeOperation,
          if_pos member]
        refine ⟨rfl, rfl, List.erase_sublist, ?_, ?_⟩
        · exact
            (List.perm_cons_erase member).trans
              (List.perm_append_singleton _ _).symm
        · intro before
          have length := List.length_erase_add_one member
          rw [ReplicationEngine.Counted, ← length] at before
          show
            engine.stats.operationsPending - 1 =
              (engine.journal.erase operation).length
          rw [before, Int.natCast_succ, Int.add_sub_cancel]
      · rw [settled_of_notMem member, ReplicationEngine.removeOperation,
          if_neg member]
        exact drains_self engine

theorem drains_processJournal
    (engine : ReplicationEngine)
    (operations : List ReplicationOperation) :
    Drains engine (engine.processJournal operations).1
      (engine.removals operations) := by
  induction operations generalizing engine with
  | nil => exact drains_self engine
  | cons operation rest induction =>
      have started := startSync_started engine
      rw [ReplicationEngine.processJournal, ReplicationEngine.removals]
      generalize engine.startSync = start at started
      rcases start with ⟨start, finished⟩
      cases started with
      | alone empty =>
          exact (drains_settle finished operation true).trans (induction _)
      | unreachable configured =>
          exact
            (drains_finishSync engine []).trans
              ((drains_settle _ operation false).trans (induction _))
      | sending configured pending => exact drains_self _

/-- The sends of a pass that waits are under way. -/
theorem processJournal_pending
    (engine : ReplicationEngine)
    (operations : List ReplicationOperation) :
    ∀ pass ∈ (engine.processJournal operations).2,
      ∀ send ∈ pass.sends, send.outcome = none := by
  induction operations generalizing engine with
  | nil =>
      intro pass under
      cases under
  | cons operation rest induction =>
      have started := startSync_started engine
      rw [ReplicationEngine.processJournal]
      generalize engine.startSync = start at started
      rcases start with ⟨start, finished⟩
      cases started with
      | alone empty => exact induction _
      | unreachable configured => exact induction _
      | sending configured pending =>
          intro pass under
          cases under
          exact pending

/-- Only an operation that succeeded is removed. -/
theorem mem_settled
    {success : Bool} {removal : Removal}
    (member : removal ∈ engine.settled operation success) :
    success = true ∧
      removal =
        { operation := operation, configured := engine.peers.keys } := by
  rw [ReplicationEngine.settled] at member
  split at member
  · rename_i both
    exact ⟨both.1, List.mem_singleton.mp member⟩
  · cases member

theorem keys_of_empty
    (empty : engine.peers.items = []) : engine.peers.keys = [] := by
  rw [Dict.keys, empty, List.map_nil]

/-- Without a wait only operations that found no peers are removed. -/
theorem removals_alone
    (engine : ReplicationEngine)
    (operations : List ReplicationOperation) :
    ∀ removal ∈ engine.removals operations, removal.configured = [] := by
  induction operations generalizing engine with
  | nil =>
      intro removal member
      cases member
  | cons operation rest induction =>
      have started := startSync_started engine
      rw [ReplicationEngine.removals]
      generalize engine.startSync = start at started
      rcases start with ⟨start, finished⟩
      cases started with
      | alone empty =>
          intro removal member
          rcases List.mem_append.mp member with now | later
          · rw [(mem_settled now).2]
            exact keys_of_empty empty
          · exact induction _ removal later
      | unreachable configured =>
          intro removal member
          exact induction _ removal member
      | sending configured pending =>
          intro removal member
          cases member

theorem drains_sendToPeer
    (engine : ReplicationEngine) (send : Send) (outcome : SendOutcome) :
    Drains engine (engine.sendToPeer send outcome) [] := by
  cases outcome with
  | accepted => exact drains_of_kept rfl rfl rfl rfl
  | refused => exact drains_of_kept rfl rfl rfl rfl
  | failed => exact drains_of_kept rfl rfl rfl rfl

end Removals

/-! ## One step -/

/-- At most one operation is queued, with the next number. -/
inductive Numbers (before after : Nat) :
    List ReplicationOperation → Prop where
  | kept (same : after = before) : Numbers before after []
  | next {operation : ReplicationOperation}
      (number : operation.sequenceNumber = before + 1)
      (counted : after = before + 1) :
      Numbers before after [operation]

/-- What a step moves into the journal and out of it. -/
structure Books (before after : Journaling)
    (queued : List ReplicationOperation) (removed : List Removal) :
    Prop where
  mode : after.engine.mode = before.engine.mode
  numbers :
    Numbers before.engine.sequenceNumber after.engine.sequenceNumber
      queued
  sublist : after.journal.Sublist (before.journal ++ queued)
  journal :
    (before.journal ++ queued).Perm
      (after.journal ++ removed.map Removal.operation)
  counted : before.engine.Counted → after.engine.Counted
  acknowledged : before.acknowledged ⊆ after.acknowledged
  justified :
    before.Recorded →
      ∀ removal ∈ removed, removal.Justified after.acknowledged
  recorded : before.Recorded → after.Recorded

section Steps

variable
    {replicator : Replicator}
    {before after journaling : Journaling}
    {removed : List Removal}

/-- A step that queues nothing. -/
theorem Drains.books
    (drains : Drains before.engine after.engine removed)
    (acknowledged : before.acknowledged ⊆ after.acknowledged)
    (justified :
      before.Recorded →
        ∀ removal ∈ removed, removal.Justified after.acknowledged)
    (recorded : before.Recorded → after.Recorded) :
    Books before after [] removed where
  mode := drains.mode
  numbers := .kept drains.sequenceNumber
  sublist := by
    rw [List.append_nil]
    exact drains.sublist
  journal := by
    rw [List.append_nil]
    exact drains.journal
  counted := drains.counted
  acknowledged := acknowledged
  justified := justified
  recorded := recorded

/-- A step that neither queues nor removes. -/
theorem Drains.books_nil
    (drains : Drains before.engine after.engine [])
    (acknowledged : after.acknowledged = before.acknowledged)
    (recorded : before.Recorded → after.Recorded) :
    Books before after [] [] := by
  apply drains.books
  · rw [acknowledged]
    exact List.Subset.refl _
  · intro _ removal member
    cases member
  · exact recorded

theorem books_self (journaling : Journaling) :
    Books journaling journaling [] [] :=
  (drains_self journaling.engine).books_nil rfl id

/-- A call that replicates queues its operation. -/
theorem replicate_books
    (mode : journaling.engine.mode = .async)
    (callId : Nat) (volumeId : String) (data : OperationData)
    (owed : Dict Nat (List String)) :
    Books journaling
      { journaling with
        replicator := journaling.replicator.replicate callId volumeId data
        owed := owed }
      (journaling.replicator.queuedBy callId volumeId data) [] := by
  rw [Replicator.replicate, Replicator.queuedBy]
  cases known : journaling.replicator.calls.get? callId with
  | some call =>
      refine Drains.books_nil ?_ rfl id
      exact drains_self _
  | none =>
      have numberedMode :
          (journaling.replicator.engine.newOperation volumeId data).2.mode =
            .async :=
        mode
      simp only [numberedMode]
      exact
        { mode := rfl
          numbers := .next rfl rfl
          sublist := List.Sublist.refl _
          journal := by
            rw [List.map_nil, List.append_nil]
            rfl
          counted := by
            intro counted
            show
              journaling.engine.stats.operationsPending + 1 =
                (journaling.journal ++ [_]).length
            rw [counted, List.length_append, List.length_singleton]
            rfl
          acknowledged := List.Subset.refl _
          justified := by
            intro _ removal member
            cases member
          recorded := id }

/-- The calls that replicate nothing leave the journal. -/
theorem call_books
    (mode : journaling.engine.mode = .async) (action : ReplicationStep) :
    Books journaling (journaling.step (.call action))
      (journaling.queued (.call action)) [] := by
  cases action with
  | replicateWrite callId volumeId offset blockId fingerprint data =>
      exact replicate_books mode callId volumeId _ _
  | replicateDelete callId volumeId blockId =>
      exact replicate_books mode callId volumeId _ _
  | addPeer nodeId =>
      refine Drains.books_nil ?_ rfl id
      exact drains_of_kept rfl rfl rfl rfl
  | setPeerState nodeId state =>
      refine Drains.books_nil ?_ rfl id
      exact drains_of_kept rfl rfl rfl rfl
  | removePeer nodeId =>
      refine Drains.books_nil ?_ rfl id
      show Drains _ (journaling.engine.removePeer nodeId).2 _
      rw [ReplicationEngine.removePeer]
      split
      · exact drains_of_kept rfl rfl rfl rfl
      · exact drains_self _
  | endSend callId index outcome =>
      refine Drains.books_nil ?_ rfl id
      show
        Drains _ (journaling.replicator.endSend callId index outcome).engine _
      rcases endSend_engine journaling.replicator callId index outcome with
        same | ⟨send, sent⟩
      · rw [same]
        exact drains_self _
      · rw [sent]
        exact drains_sendToPeer _ send outcome
  | finish callId =>
      refine Drains.books_nil ?_ rfl id
      show Drains _ (journaling.replicator.finish callId).engine _
      rw [Replicator.finish]
      split
      · exact drains_self _
      · split
        · exact drains_of_kept rfl rfl rfl rfl
        · exact drains_self _

/-- The acknowledgements of a step follow those before. -/
theorem endSend_acknowledged
    (journaling : Journaling) (index : Nat) (outcome : SendOutcome) :
    journaling.acknowledged ⊆
      (journaling.step (.endSend index outcome)).acknowledged := by
  simp only [Journaling.step, Journaling.endSend]
  split
  · exact List.Subset.refl _
  · split
    · exact List.Subset.refl _
    · split
      · split
        · exact List.subset_append_left _ _
        · exact List.Subset.refl _
      · exact List.Subset.refl _

theorem drains_endSend
    (journaling : Journaling) (index : Nat) (outcome : SendOutcome) :
    Drains journaling.engine
      (journaling.step (.endSend index outcome)).engine [] := by
  simp only [Journaling.step, Journaling.endSend]
  split
  · exact drains_self _
  · split
    · exact drains_self _
    · rename_i send _
      split
      · exact drains_sendToPeer _ send outcome
      · exact drains_self _

/-- An operation succeeds by an accepted send, or without peers. -/
theorem finishSync_justified
    {pass : JournalPass} (under : journaling.pass = some pass)
    (recorded : journaling.Recorded)
    (success : (journaling.engine.finishSync pass.sends).1 = true)
    {removal : Removal}
    (operation : removal.operation = pass.operation)
    (configured : removal.configured = journaling.engine.peers.keys) :
    removal.Justified journaling.acknowledged := by
  rw [ReplicationEngine.finishSync, Bool.or_eq_true] at success
  rcases success with accepted | alone
  · right
    rcases List.countP_pos_iff.mp (of_decide_eq_true accepted) with
      ⟨send, sent, outcome⟩
    refine ⟨send.nodeId, ?_⟩
    rw [operation]
    exact recorded pass under send sent (of_decide_eq_true outcome)
  · left
    rw [configured]
    exact keys_of_empty (List.isEmpty_iff.mp alone)

/-- What a step of a task queues and removes. -/
theorem step_books
    (mode : journaling.engine.mode = .async) (action : JournalStep) :
    Books journaling (journaling.step action) (journaling.queued action)
      (journaling.removed action) := by
  cases action with
  | call action => exact call_books mode action
  | processJournal =>
      simp only [Journaling.step, Journaling.beginPass, Journaling.queued,
        Journaling.removed]
      cases under : journaling.pass with
      | some pass => exact books_self journaling
      | none =>
          refine Drains.books ?_ (List.Subset.refl _) ?_ ?_
          · exact drains_processJournal _ _
          · intro _ removal member
            exact Or.inl (removals_alone _ _ removal member)
          · intro _ pass waits send sent accepted
            rw [processJournal_pending _ _ pass waits send sent] at accepted
            cases accepted
  | endSend index outcome =>
      refine (drains_endSend journaling index outcome).books ?_ ?_ ?_
      · exact endSend_acknowledged journaling index outcome
      · intro _ removal member
        cases member
      · intro recorded
        exact recorded.endSend index outcome
  | resume =>
      simp only [Journaling.step, Journaling.resume, Journaling.queued,
        Journaling.removed]
      cases under : journaling.pass with
      | none => exact books_self journaling
      | some pass =>
          by_cases ready : pass.Ready
          · simp only [ready, if_true]
            refine Drains.books ?_ (List.Subset.refl _) ?_ ?_
            · exact
                (drains_finishSync journaling.engine pass.sends).trans
                  ((drains_settle _ pass.operation _).trans
                    (drains_processJournal _ pass.remaining))
            · intro recorded removal member
              rcases List.mem_append.mp member with now | later
              · rcases mem_settled now with ⟨success, rfl⟩
                exact finishSync_justified under recorded success rfl rfl
              · exact Or.inl (removals_alone _ _ removal later)
            · intro _ next waits send sent accepted
              rw [processJournal_pending _ _ next waits send sent]
                at accepted
              cases accepted
          · simp only [ready, if_false]
            exact books_self journaling
  | stop =>
      refine Drains.books_nil ?_ rfl ?_
      · exact drains_self _
      · intro _ pass under
        cases under

end Steps

/-! ## Whole runs -/

/-- What every step keeps. -/
structure Conserved (tasks : JournalTasks) : Prop where
  mode : tasks.engine.mode = .async
  conserved :
    tasks.enqueued.Perm (tasks.engine.journal ++ tasks.removedOperations)
  sublist : tasks.engine.journal.Sublist tasks.enqueued
  increasing :
    tasks.enqueued.Pairwise fun first second =>
      first.sequenceNumber < second.sequenceNumber
  numbered :
    ∀ operation ∈ tasks.enqueued,
      operation.sequenceNumber ≤ tasks.engine.sequenceNumber
  counted : tasks.engine.Counted
  justified :
    ∀ removal ∈ tasks.removed, removal.Justified tasks.acknowledged
  recorded : ∀ task, (tasks.focus task).Recorded

section Runs

variable
    {tasks : JournalTasks}

theorem Removal.Justified.mono
    {removal : Removal} {first second : List (String × Nat)}
    (justified : removal.Justified first) (grows : first ⊆ second) :
    removal.Justified second :=
  justified.imp_right fun ⟨nodeId, known⟩ => ⟨nodeId, grows known⟩

/-- Numbers that are the next ones keep a list in its order. -/
theorem Numbers.append
    {before after : Nat} {enqueued queued : List ReplicationOperation}
    (numbers : Numbers before after queued)
    (increasing :
      enqueued.Pairwise fun first second =>
        first.sequenceNumber < second.sequenceNumber)
    (numbered :
      ∀ operation ∈ enqueued, operation.sequenceNumber ≤ before) :
    ((enqueued ++ queued).Pairwise fun first second =>
        first.sequenceNumber < second.sequenceNumber) ∧
      ∀ operation ∈ enqueued ++ queued,
        operation.sequenceNumber ≤ after := by
  cases numbers with
  | kept same =>
      rw [List.append_nil, same]
      exact ⟨increasing, numbered⟩
  | @next operation number counted =>
      constructor
      · apply List.pairwise_append.mpr
        refine ⟨increasing, List.pairwise_singleton _ _, ?_⟩
        intro old listed new member
        rw [List.mem_singleton.mp member, number]
        exact Nat.lt_succ_of_le (numbered old listed)
      · intro other member
        rw [counted]
        rcases List.mem_append.mp member with old | new
        · exact Nat.le_succ_of_le (numbered other old)
        · rw [List.mem_singleton.mp new, number]

/-- The pass of a task after a step of some task. -/
theorem get?_passes_step
    (tasks : JournalTasks) (task other : Nat) (action : JournalStep) :
    (tasks.step (task, action)).passes.get? other =
      if other = task then
        ((tasks.focus task).step action).pass
      else
        tasks.passes.get? other := by
  simp only [JournalTasks.step]
  split
  · rename_i pass under
    rw [Dict.get?_set, under]
  · rename_i under
    rw [Dict.get?_erase, under]

/-- What is queued and removed is moved past what was removed before. -/
theorem perm_moved
    {enqueued queued before after gone moved :
      List ReplicationOperation}
    (known : enqueued.Perm (before ++ gone))
    (moves : (before ++ queued).Perm (after ++ moved)) :
    (enqueued ++ queued).Perm (after ++ (gone ++ moved)) := by
  calc
    (enqueued ++ queued).Perm (before ++ gone ++ queued) :=
      known.append_right queued
    List.Perm _ (before ++ queued ++ gone) := by
      rw [List.append_assoc, List.append_assoc]
      exact List.perm_append_comm.append_left before
    List.Perm _ (after ++ moved ++ gone) := moves.append_right gone
    List.Perm _ (after ++ (gone ++ moved)) := by
      rw [List.append_assoc]
      exact List.perm_append_comm.append_left after

theorem recorded_step
    (conserved : Conserved tasks) (task other : Nat)
    (action : JournalStep) :
    ((tasks.step (task, action)).focus other).Recorded := by
  have books := @step_books (tasks.focus task) conserved.mode action
  intro pass under send sent accepted
  have moved :
      (if other = task then ((tasks.focus task).step action).pass
        else tasks.passes.get? other) = some pass :=
    (get?_passes_step tasks task other action).symm.trans under
  split at moved
  · exact
      books.recorded (conserved.recorded task) pass moved send sent accepted
  · exact
      books.acknowledged
        (conserved.recorded other pass moved send sent accepted)

theorem conserved_step
    (conserved : Conserved tasks) (turn : Nat × JournalStep) :
    Conserved (tasks.step turn) := by
  rcases turn with ⟨task, action⟩
  have books := @step_books (tasks.focus task) conserved.mode action
  have numbers :=
    books.numbers.append conserved.increasing conserved.numbered
  constructor
  · exact books.mode.trans conserved.mode
  · have moved := perm_moved conserved.conserved books.journal
    show List.Perm _ (_ ++ (tasks.removed ++ _).map Removal.operation)
    rw [List.map_append]
    exact moved
  · exact books.sublist.trans (conserved.sublist.append_right _)
  · exact numbers.1
  · exact numbers.2
  · exact books.counted conserved.counted
  · intro removal member
    rcases List.mem_append.mp member with old | new
    · exact (conserved.justified removal old).mono books.acknowledged
    · exact books.justified (conserved.recorded task) removal new
  · intro other
    exact recorded_step conserved task other action

theorem conserved_start (nodeId : String) :
    Conserved (JournalTasks.start nodeId) where
  mode := rfl
  conserved := List.Perm.refl _
  sublist := List.Sublist.refl _
  increasing := List.Pairwise.nil
  numbered := by
    intro operation member
    cases member
  counted := rfl
  justified := by
    intro removal member
    cases member
  recorded := by
    intro task pass under
    cases under

theorem Conserved.conserves
    (conserved : Conserved tasks) : Conserves tasks where
  conserved := conserved.conserved
  disjoint := by
    apply conserved.conserved.nodup_iff.mp
    apply conserved.increasing.imp
    rintro first second less rfl
    exact Nat.lt_irrefl _ less
  pending := conserved.counted
  increasing := conserved.increasing.sublist conserved.sublist
  justified := conserved.justified

/--
In every run of an asynchronous engine, whatever calls, passes, sends and stops
happen in it, the operations that were queued are those of the journal and the
removed ones, each of which was acknowledged or found no peers.
-/
theorem journal_conserved
    (nodeId : String) (turns : List (Nat × JournalStep)) :
    Conserves
      (run JournalTasks.step (JournalTasks.start nodeId) turns) := by
  have steps :
      ∀ tasks turn, Conserved tasks → Conserved (tasks.step turn) :=
    fun _ turn conserved => conserved_step conserved turn
  have conserved :=
    run_invariant_of_step steps turns (conserved_start nodeId)
  exact conserved.conserves

/-- Two passes send the same operation, and both sends are accepted. -/
def overlappingPasses : List (Nat × JournalStep) :=
  [(0, .call (.addPeer "b")),
    (0, .call (.replicateDelete 0 "volume" "block")),
    (0, .processJournal), (1, .processJournal),
    (1, .endSend 0 .accepted), (0, .endSend 0 .accepted),
    (0, .resume), (1, .resume)]

example :
    (run JournalTasks.step (JournalTasks.start "a")
      overlappingPasses).removed =
      [{ operation := ⟨1, "volume", .delete "block"⟩
         configured := ["b"] }] := by
  decide

end Runs

end StorageAppliance.ActiveCluster
