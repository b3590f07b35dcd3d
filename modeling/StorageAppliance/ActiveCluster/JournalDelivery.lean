import StorageAppliance.ActiveCluster.Journal

/-!
# Delivery of queued operations

An operation leaves the journal when one peer has accepted it, whatever the
sends to the others came to, and a peer whose link is broken is not contacted
at all.  `removed_after_delivery_iff` says when an operation that leaves the
journal has reached all the peers it is owed to.
-/

namespace StorageAppliance.ActiveCluster

open StorageAppliance.Library

/-- The peer has accepted the operation under way. -/
def JournalPass.AcceptedBy (pass : JournalPass) (peer : String) : Prop :=
  ∃ send ∈ pass.sends,
    send.nodeId = peer ∧ send.outcome = some .accepted

/-- No peer has accepted the operation under way. -/
def JournalPass.Unaccepted (pass : JournalPass) : Prop :=
  ∀ send ∈ pass.sends, send.outcome ≠ some .accepted

/-- An operation that leaves the journal was acknowledged by all it is owed. -/
def Delivers (journaling : Journaling) (action : JournalStep) : Prop :=
  ∀ operation ∈ journaling.journal,
    operation ∉ (journaling.step action).journal →
      ∀ peer ∈ journaling.owedTo operation,
        (peer, operation.sequenceNumber) ∈
          (journaling.step action).acknowledged

/--
When the sends of an operation have ended, none was accepted, or all the peers
that it is owed to have accepted it now or in an earlier pass.
-/
def EndsTogether (journaling : Journaling) : JournalStep → Prop
  | .resume =>
      ∀ pass ∈ journaling.pass,
        pass.Ready →
          pass.Unaccepted ∨
            ∀ peer ∈ journaling.owedTo pass.operation,
              pass.AcceptedBy peer ∨
                (peer, pass.operation.sequenceNumber) ∈
                  journaling.acknowledged
  | _ => True

/-- Operations are owed to configured peers, and accepted sends are recorded. -/
structure Delivering (journaling : Journaling) : Prop where
  journaled : Journaled journaling
  configured :
    ∀ number peers,
      journaling.owed.get? number = some peers →
        ∀ peer ∈ peers, journaling.engine.peers.get? peer ≠ none
  recorded :
    ∀ pass ∈ journaling.pass,
      ∀ send ∈ pass.sends,
        send.outcome = some .accepted →
          (send.nodeId, pass.operation.sequenceNumber) ∈
            journaling.acknowledged

section Delivery

variable
    {journaling : Journaling}
    {replicator : Replicator}
    {engine : ReplicationEngine}
    {operation : ReplicationOperation}

/-! ## Peers stay configured until they are removed -/

theorem get?_modify_ne_none
    {peers : Dict String ReplicationPeer} {peer : String}
    (present : peers.get? peer ≠ none) (target : String)
    (change : ReplicationPeer → ReplicationPeer) :
    (peers.modify target change).get? peer ≠ none := by
  rw [Dict.get?_modify]
  split
  · intro missing
    exact present (Option.map_eq_none_iff.mp missing)
  · exact present

theorem sendToPeer_configured
    {peer : String} (present : engine.peers.get? peer ≠ none)
    (send : Send) (outcome : SendOutcome) :
    (engine.sendToPeer send outcome).peers.get? peer ≠ none := by
  cases outcome with
  | accepted => exact get?_modify_ne_none present _ _
  | refused => exact present
  | failed => exact get?_modify_ne_none present _ _

theorem replicate_peers
    (mode : replicator.engine.mode = .async)
    (callId : Nat) (volumeId : String) (data : OperationData) :
    (replicator.replicate callId volumeId data).engine.peers =
      replicator.engine.peers := by
  rw [Replicator.replicate]
  split
  · rfl
  · have numberedMode :
        (replicator.engine.newOperation volumeId data).2.mode = .async :=
      mode
    simp only [numberedMode]
    rfl

theorem call_configured
    (mode : replicator.engine.mode = .async)
    {action : ReplicationStep} {peer : String}
    (stays : action ≠ .removePeer peer)
    (present : replicator.engine.peers.get? peer ≠ none) :
    (replicator.step action).engine.peers.get? peer ≠ none := by
  cases action with
  | addPeer nodeId =>
      simp only [Replicator.step, ReplicationEngine.addPeer,
        Dict.get?_set]
      split
      · simp
      · exact present
  | removePeer nodeId =>
      have apart : peer ≠ nodeId := by
        rintro rfl
        exact stays rfl
      simp only [Replicator.step, ReplicationEngine.removePeer]
      split
      · simp only [Dict.get?_erase_ne _ apart]
        exact present
      · exact present
  | setPeerState nodeId state =>
      exact get?_modify_ne_none present _ _
  | replicateWrite callId volumeId offset blockId fingerprint data =>
      change (replicator.replicate _ _ _).engine.peers.get? peer ≠ none
      rw [replicate_peers mode]
      exact present
  | replicateDelete callId volumeId blockId =>
      change (replicator.replicate _ _ _).engine.peers.get? peer ≠ none
      rw [replicate_peers mode]
      exact present
  | endSend callId index outcome =>
      change
        (replicator.endSend callId index outcome).engine.peers.get? peer ≠
          none
      rcases endSend_engine replicator callId index outcome with
        same | ⟨send, sent⟩
      · rw [same]
        exact present
      · rw [sent]
        exact sendToPeer_configured present send outcome
  | finish callId =>
      change (replicator.finish callId).engine.peers.get? peer ≠ none
      rw [(finish_engine replicator callId).2]
      exact present

/-! ## One step -/

theorem recordOwed_configured
    (delivering : Delivering journaling) (action : ReplicationStep)
    {number : Nat} {peers : List String}
    (owed : (journaling.recordOwed action).get? number = some peers)
    {peer : String} (member : peer ∈ peers) :
    (journaling.replicator.step action).engine.peers.get? peer ≠
      none := by
  have mode := delivering.journaled.mode
  by_cases removal : ∃ nodeId, action = .removePeer nodeId
  · rcases removal with ⟨nodeId, rfl⟩
    simp only [Journaling.recordOwed, Dict.get?_mapValues] at owed
    rcases Option.map_eq_some_iff.mp owed with ⟨old, known, same⟩
    rw [← same] at member
    rcases List.mem_filter.mp member with ⟨listed, apart⟩
    apply call_configured mode
    · rintro ⟨⟩
      simp at apart
    · exact delivering.configured number old known peer listed
  · have stays : action ≠ .removePeer peer :=
      fun same => removal ⟨peer, same⟩
    have kept :
        journaling.owed.get? number = some peers ∨
          peers = journaling.engine.peers.keys := by
      cases action with
      | removePeer nodeId => exact absurd ⟨nodeId, rfl⟩ removal
      | addPeer | setPeerState | replicateWrite | replicateDelete
      | endSend | finish =>
          simp only [Journaling.recordOwed] at owed
          split at owed
          · exact Or.inl owed
          · rw [Dict.get?_set] at owed
            split at owed
            · exact Or.inr (Option.some.inj owed).symm
            · exact Or.inl owed
    apply call_configured mode stays
    rcases kept with old | rfl
    · exact delivering.configured number peers old peer member
    · rcases Dict.mem_keys_iff.mp member with ⟨value, found⟩
      change journaling.engine.peers.get? peer ≠ none
      rw [found]
      simp

theorem delivering_beginPass
    (delivering : Delivering journaling) :
    Delivering (journaling.step .processJournal) := by
  have journaled := journaled_step delivering.journaled .processJournal
  simp only [Journaling.step, Journaling.beginPass] at journaled ⊢
  split
  · exact delivering
  · rename_i idle
    rw [idle] at journaled
    have processed :=
      processJournal_processed (List.Sublist.refl journaling.journal)
    refine ⟨journaled, ?_, ?_⟩
    · intro number peers owed peer member
      change (journaling.engine.processJournal _).1.peers.get? peer ≠ none
      rw [processed.peers]
      exact delivering.configured number peers owed peer member
    · intro pass under send member accepted
      rw [processed.pending pass under send member] at accepted
      cases accepted

theorem delivering_endSend
    (delivering : Delivering journaling) (index : Nat)
    (outcome : SendOutcome) :
    Delivering (journaling.step (.endSend index outcome)) := by
  have journaled :=
    journaled_step delivering.journaled (.endSend index outcome)
  have recorded : journaling.Recorded := delivering.recorded
  refine ⟨journaled, ?_, recorded.endSend index outcome⟩
  simp only [Journaling.step, Journaling.endSend]
  split
  · exact delivering.configured
  · split
    · exact delivering.configured
    · rename_i send _
      split
      · intro number peers owed peer member
        exact sendToPeer_configured
          (delivering.configured number peers owed peer member) send
          outcome
      · exact delivering.configured

theorem delivering_resume
    (delivering : Delivering journaling) :
    Delivering (journaling.step .resume) := by
  have journaled := journaled_step delivering.journaled .resume
  simp only [Journaling.step, Journaling.resume] at journaled ⊢
  split
  · exact delivering
  · rename_i pass under
    split
    · rename_i ready
      simp only [under, ready, if_true] at journaled
      have settled :=
        settlePass_settled (delivering.journaled.passing pass under)
      have processed := settled.processed
      refine ⟨journaled, ?_, ?_⟩
      · intro number peers owed peer member
        have same := processed.peers.trans settled.peers
        have present :=
          delivering.configured number peers owed peer member
        exact fun missing => present
          ((congrArg (fun peers => Dict.get? peers peer)
            same).symm.trans missing)
      · intro later next send member accepted
        rw [processed.pending later next send member] at accepted
        cases accepted
    · exact delivering

theorem delivering_step
    (delivering : Delivering journaling) (action : JournalStep) :
    Delivering (journaling.step action) := by
  cases action with
  | call action =>
      have journaled := journaled_step delivering.journaled (.call action)
      refine ⟨journaled, ?_, delivering.recorded⟩
      intro number peers owed peer member
      exact recordOwed_configured delivering action owed member
  | processJournal => exact delivering_beginPass delivering
  | endSend index outcome =>
      exact delivering_endSend delivering index outcome
  | resume => exact delivering_resume delivering
  | stop =>
      have journaled := journaled_step delivering.journaled .stop
      refine ⟨journaled, delivering.configured, ?_⟩
      intro pass under
      cases under

/-! ## Operations that leave the journal -/

/-- An operation is owed to nobody when no peer is configured. -/
theorem Delivering.owedTo_alone
    (delivering : Delivering journaling)
    (alone : journaling.engine.peers.items = []) :
    journaling.owedTo operation = [] := by
  apply List.eq_nil_iff_forall_not_mem.mpr
  intro peer member
  rw [Journaling.owedTo] at member
  cases known : journaling.owed.get? operation.sequenceNumber with
  | none =>
      rw [known] at member
      cases member
  | some peers =>
      rw [known] at member
      have present := delivering.configured _ peers known peer member
      apply present
      rw [Dict.get?_eq_none_iff, alone]
      intro value listed
      cases listed

/-- A step that keeps the journal delivers what it removes. -/
theorem delivers_of_kept
    {action : JournalStep}
    (kept :
      ∀ operation ∈ journaling.journal,
        operation ∈ (journaling.step action).journal) :
    Delivers journaling action := by
  intro operation member gone
  exact absurd (kept operation member) gone

theorem delivers_of_alone
    (delivering : Delivering journaling)
    (alone : journaling.engine.peers.items = []) (action : JournalStep) :
    Delivers journaling action := by
  intro operation _ _ peer owed
  rw [delivering.owedTo_alone alone] at owed
  cases owed

theorem finishSync_succeeds_iff
    (configured : engine.peers.items ≠ []) (pass : JournalPass) :
    (engine.finishSync pass.sends).1 = true ↔ ¬ pass.Unaccepted := by
  have refused : engine.peers.items.isEmpty = false := by
    simpa using configured
  simp [ReplicationEngine.finishSync, JournalPass.Unaccepted, refused]

/-- What is left of the journal when the sends of an operation have ended. -/
theorem resume_journal
    (journaled : Journaled journaling)
    (configured : journaling.engine.peers.items ≠ [])
    {pass : JournalPass} (under : journaling.pass = some pass)
    (ready : pass.Ready) :
    (journaling.step .resume).journal =
      if (journaling.engine.finishSync pass.sends).1 then
        journaling.journal.erase pass.operation
      else
        journaling.journal := by
  have passing := journaled.passing pass under
  have member : pass.operation ∈ journaling.journal :=
    passing.subset (by simp)
  have settled := settlePass_settled passing
  have still : (journaling.engine.settlePass pass).peers.items ≠ [] := by
    rw [settled.peers]
    exact configured
  have kept := settled.processed.kept still
  have stepped :
      (journaling.step .resume).journal =
        (journaling.engine.settlePass pass).journal := by
    rw [← kept]
    simp only [Journaling.step, Journaling.resume, under, ready, if_true]
    rfl
  rw [stepped, ReplicationEngine.settlePass, ReplicationEngine.settle]
  split
  · exact removeOperation_journal member
  · rfl

theorem resume_delivers_iff
    (delivering : Delivering journaling)
    (configured : journaling.engine.peers.items ≠ [])
    {pass : JournalPass} (under : journaling.pass = some pass)
    (ready : pass.Ready) :
    Delivers journaling .resume ↔
      (pass.Unaccepted ∨
        ∀ peer ∈ journaling.owedTo pass.operation,
          pass.AcceptedBy peer ∨
            (peer, pass.operation.sequenceNumber) ∈
              journaling.acknowledged) := by
  have journaled := delivering.journaled
  have member : pass.operation ∈ journaling.journal :=
    (journaled.passing pass under).subset (by simp)
  have nodup : journaling.journal.Nodup :=
    journaled.sorted.imp fun earlier same =>
      absurd (congrArg ReplicationOperation.sequenceNumber same)
        (Nat.ne_of_lt earlier)
  have journal := resume_journal journaled configured under ready
  have recorded :
      (journaling.step .resume).acknowledged =
        journaling.acknowledged := by
    simp only [Journaling.step, Journaling.resume, under, ready, if_true]
  rw [Delivers, journal, recorded]
  have succeeds :=
    @finishSync_succeeds_iff journaling.engine configured pass
  cases success : (journaling.engine.finishSync pass.sends).1 with
  | false =>
      have unaccepted : pass.Unaccepted := by
        by_contra accepted
        rw [succeeds.mpr accepted] at success
        cases success
      simp only [Bool.false_eq_true, if_false, unaccepted, true_or,
        iff_true]
      intro operation queued gone
      exact absurd queued gone
  | true =>
      have accepted := succeeds.mp success
      simp only [if_true, accepted, false_or]
      constructor
      · intro delivered peer owed
        exact Or.inr (delivered pass.operation member
          (List.Nodup.not_mem_erase nodup) peer owed)
      · intro reached operation queued gone peer owed
        have same : operation = pass.operation := by
          by_contra apart
          exact gone ((List.mem_erase_of_ne apart).mpr queued)
        subst same
        rcases reached peer owed with ⟨send, sent, rfl, good⟩ | known
        · exact delivering.recorded pass under send sent good
        · exact known

/-- Only the end of an operation's sends takes operations off the journal. -/
theorem journal_kept
    (delivering : Delivering journaling)
    (configured : journaling.engine.peers.items ≠ [])
    {action : JournalStep} (other : action ≠ .resume) :
    ∀ operation ∈ journaling.journal,
      operation ∈ (journaling.step action).journal := by
  intro operation member
  cases action with
  | call action =>
      change operation ∈ (journaling.replicator.step action).engine.journal
      cases call_queues delivering.journaled.mode action with
      | kept _ journal _ =>
          rw [journal]
          exact member
      | queued _ _ journal _ =>
          rw [journal]
          exact List.mem_append_left _ member
  | processJournal =>
      simp only [Journaling.step, Journaling.beginPass]
      split
      · exact member
      · have processed :=
          processJournal_processed (List.Sublist.refl journaling.journal)
        change operation ∈ (journaling.engine.processJournal _).1.journal
        rw [processed.kept configured]
        exact member
  | endSend index outcome =>
      simp only [Journaling.step, Journaling.endSend]
      split
      · exact member
      · split
        · exact member
        · split
          · cases outcome <;> exact member
          · exact member
  | resume => exact absurd rfl other
  | stop => exact member

theorem delivers_resume_iff
    (delivering : Delivering journaling)
    (configured : journaling.engine.peers.items ≠ []) :
    Delivers journaling .resume ↔ EndsTogether journaling .resume := by
  cases under : journaling.pass with
  | none =>
      apply iff_of_true
      · apply delivers_of_kept
        intro operation member
        simpa only [Journaling.step, Journaling.resume, under] using member
      · intro pass same
        rw [under] at same
        cases same
  | some pass =>
      by_cases ready : pass.Ready
      · rw [resume_delivers_iff delivering configured under ready]
        constructor
        · intro ended later same _
          rw [under] at same
          cases same
          exact ended
        · intro ends
          exact ends pass under ready
      · apply iff_of_true
        · apply delivers_of_kept
          intro operation member
          simpa only [Journaling.step, Journaling.resume, under, ready,
            if_false] using member
        · intro later same done
          rw [under] at same
          cases same
          exact absurd done ready

theorem delivers_iff
    (delivering : Delivering journaling) (action : JournalStep) :
    Delivers journaling action ↔ EndsTogether journaling action := by
  by_cases alone : journaling.engine.peers.items = []
  · apply iff_of_true (delivers_of_alone delivering alone action)
    cases action with
    | resume =>
        intro pass _ _
        right
        rw [delivering.owedTo_alone alone]
        intro peer owed
        cases owed
    | call | processJournal | endSend | stop => trivial
  · by_cases resumes : action = .resume
    · subst resumes
      exact delivers_resume_iff delivering alone
    · have ends : EndsTogether journaling action := by
        cases action with
        | resume => exact absurd rfl resumes
        | call | processJournal | endSend | stop => trivial
      have kept := journal_kept delivering alone resumes
      exact iff_of_true (delivers_of_kept kept) ends

theorem delivering_start (nodeId : String) :
    Delivering (Journaling.start nodeId) where
  journaled := journaled_start nodeId
  configured := by
    intro number peers owed
    cases owed
  recorded := by
    intro pass under
    cases under

/--
Along every run of an asynchronous engine, operations leave the journal only
after all the peers they are owed to have acknowledged them, exactly if the
sends of every operation end together.
-/
theorem removed_after_delivery_iff
    (nodeId : String) (steps : List JournalStep) :
    AllSteps Journaling.step Delivers (Journaling.start nodeId) steps ↔
      AllSteps Journaling.step EndsTogether (Journaling.start nodeId)
        steps := by
  have keeps :
      ∀ journaling action,
        Delivering journaling →
          Delivering (Journaling.step journaling action) :=
    fun _ action delivering => delivering_step delivering action
  apply allSteps_iff_of_invariant keeps
  · intro journaling action delivering
    exact delivers_iff delivering action
  · exact delivering_start nodeId

end Delivery

/-- A write is accepted by one peer, and its send to the other fails. -/
def lostWrite : List JournalStep :=
  [.call (.addPeer "b"), .call (.addPeer "c"),
    .call (.replicateWrite 0 "volume" 0 "block" "fingerprint" [1, 2]),
    .processJournal, .endSend 0 .accepted, .endSend 1 .failed, .resume]

theorem lostWrite_undelivered :
    (run Journaling.step (Journaling.start "a") lostWrite).journal = [] ∧
      ¬ AllSteps Journaling.step Delivers (Journaling.start "a")
        lostWrite := by
  refine ⟨by decide +kernel, ?_⟩
  intro delivers
  have delivered := delivers.2.2.2.2.2.2.1
  have acknowledged := delivered _ (List.mem_singleton.mpr rfl)
    (by decide +kernel) "c" (by decide +kernel)
  revert acknowledged
  decide +kernel

end StorageAppliance.ActiveCluster
