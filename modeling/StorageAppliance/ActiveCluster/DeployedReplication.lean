import StorageAppliance.ActiveCluster.Journal
import StorageAppliance.Api.Routes

/-!
# Replication between nodes

A node sends its operations to `/api/v1/replication/apply` below the address of
a peer, and its heartbeats to `/api/v1/cluster/heartbeat`.  The routers of a node
take operations at `/api/v1/cluster/replication/apply`, so that a peer that is
such a node does not answer an operation with status 200, whatever is put before
the path.  Heartbeats are taken where they are sent to.

The address of a peer is a host and a path, which is a list of parts.  Addresses
with a query or a fragment are left out: what is put behind them is no part of
the path.  The framework that answers requests is not in the repository, and is
a `Framework`.

`deployed_replicates_nothing` says what this means for runs: no peer ever has an
operation or gets healthy, a synchronous call returns true exactly when no peers
are configured, and the journal grows until a pass starts without peers, which
drops all of it.
-/

namespace StorageAppliance.ActiveCluster

open StorageAppliance.Python
open StorageAppliance.Library
open StorageAppliance.Api (Framework app plainFramework plainFramework_lawful)

/-! ## Peers that run the API -/

/-- Where `_send_to_peer` sends an operation, below the address of the peer. -/
def applyPath : List String :=
  ["api", "v1", "replication", "apply"]

/-- Where `_send_heartbeats` sends a heartbeat. -/
def heartbeatPath : List String :=
  ["api", "v1", "cluster", "heartbeat"]

section Peers

variable
    (framework : Framework)

/-- The answer of a node to an operation, with the path of its address. -/
def answerAt (address : List String) : SendOutcome :=
  if framework app .post (address ++ applyPath) = 200 then
    .accepted
  else
    .refused

/-- A send fails or is answered by a node at some address. -/
def Answered (outcome : SendOutcome) : Prop :=
  outcome = .failed ∨ ∃ address, outcome = answerAt framework address

/-- The sends of a step are answered, and links are left to the engine. -/
def JournalStep.Deployed : JournalStep → Prop
  | .call (.endSend _ _ outcome) => Answered framework outcome
  | .call (.setPeerState _ _) => False
  | .call (.addPeer _) => True
  | .call (.removePeer _) => True
  | .call (.replicateWrite _ _ _ _ _ _) => True
  | .call (.replicateDelete _ _ _) => True
  | .call (.finish _) => True
  | .processJournal => True
  | .endSend _ outcome => Answered framework outcome
  | .resume => True
  | .stop => True

end Peers

/-- An engine before its first operation. -/
def Journaling.startIn (mode : ReplicationMode) (nodeId : String) :
    Journaling where
  replicator := ⟨{ nodeId := nodeId, mode := mode }, Dict.empty⟩

/-- No route takes an operation. -/
theorem answerAt_eq_refused {framework : Framework}
    (lawful : framework.Lawful) (address : List String) :
    answerAt framework address = .refused := by
  have foreign :
      (app.all fun route => !endsTake route.path applyPath) = true := by
    decide
  rw [answerAt, if_neg]
  intro succeeds
  rcases lawful app .post _ (by decide) succeeds with
    ⟨route, member, _, taken⟩
  have ends := endsTake_of_append route.path taken
  have other := List.all_eq_true.mp foreign route member
  rw [ends] at other
  cases other

theorem Answered.ne_accepted {framework : Framework}
    (lawful : framework.Lawful) {outcome : SendOutcome}
    (answered : Answered framework outcome) : outcome ≠ .accepted := by
  rcases answered with failed | ⟨address, same⟩
  · rw [failed]
    exact SendOutcome.noConfusion
  · rw [same, answerAt_eq_refused lawful]
    exact SendOutcome.noConfusion

/-! ## Operations that reach nobody -/

/-- No send of an operation has been accepted. -/
def Unaccepted (sends : List Send) : Prop :=
  ∀ send ∈ sends, send.outcome ≠ some .accepted

/-- No link is healthy or broken. -/
def ReplicationEngine.LinksDown (engine : ReplicationEngine) : Prop :=
  ∀ nodeId peer,
    engine.peers.get? nodeId = some peer →
      peer.state = .syncing ∨ peer.state = .degraded

/-- No peer has the operation of a call, and asynchronous calls return. -/
structure Replicator.Unheard (replicator : Replicator) : Prop where
  links : replicator.engine.LinksDown
  unaccepted :
    ∀ callId call,
      replicator.calls.get? callId = some call → Unaccepted call.sends
  queued :
    replicator.engine.mode = .async →
      ∀ callId call,
        replicator.calls.get? callId = some call → call.answer ≠ none

/-- No peer has an operation, and no link is healthy. -/
structure Journaling.Unreached (journaling : Journaling) : Prop where
  unheard : journaling.replicator.Unheard
  pass : ∀ pass ∈ journaling.pass, Unaccepted pass.sends
  acknowledged : journaling.acknowledged = []

/-- What a step withholds from the peers. -/
structure Withholds (journaling : Journaling) (action : JournalStep) :
    Prop where
  answers :
    ∀ callId call answer,
      (journaling.step action).replicator.calls.get? callId = some call →
        (∀ old ∈ journaling.replicator.calls.get? callId,
            old.answer = none) →
          call.answer = some answer →
            (answer = true ↔
              journaling.engine.mode = .async ∨
                journaling.engine.peers.items = [])
  kept :
    journaling.engine.peers.items ≠ [] →
      journaling.journal <+: (journaling.step action).journal
  dropped :
    journaling.engine.peers.items = [] →
      journaling.pass = none →
        action = .processJournal →
          (journaling.step action).journal = []

/-! ## The engine -/

section Engines

variable
    {engine : ReplicationEngine}
    {operations : List ReplicationOperation}
    {sends : List Send}

/-- Sends that nobody accepted succeed only without peers. -/
theorem finishSync_unaccepted (unaccepted : Unaccepted sends) :
    (engine.finishSync sends).1 = true ↔ engine.peers.items = [] := by
  have none :
      (sends.countP fun send => send.outcome = some .accepted) = 0 := by
    rw [List.countP_eq_zero]
    intro send member accepted
    exact unaccepted send member (of_decide_eq_true accepted)
  rw [ReplicationEngine.finishSync, none]
  exact List.isEmpty_iff

theorem unaccepted_of_pending
    (pending : ∀ send ∈ sends, send.outcome = none) :
    Unaccepted sends := by
  intro send member accepted
  rw [pending send member] at accepted
  cases accepted

/-- A send that is not accepted leaves the sends of an operation unaccepted. -/
theorem Unaccepted.set (unaccepted : Unaccepted sends) (index : Nat)
    (send : Send) {outcome : SendOutcome}
    (refused : outcome ≠ .accepted) :
    Unaccepted
      (sends.set index { send with outcome := some outcome }) := by
  intro other member accepted
  rcases List.mem_or_eq_of_mem_set member with old | new
  · exact unaccepted other old accepted
  · rw [new] at accepted
    exact refused (Option.some.inj accepted)

/-- With peers, processing leaves the journal alone. -/
theorem processJournal_journal
    (configured : engine.peers.items ≠ []) :
    (engine.processJournal operations).1.journal = engine.journal := by
  induction operations generalizing engine with
  | nil => rfl
  | cons operation rest induction =>
      have started := startSync_started engine
      rw [ReplicationEngine.processJournal]
      generalize engine.startSync = start at started
      rcases start with ⟨start, finished⟩
      cases started with
      | alone empty => exact absurd empty configured
      | unreachable configured =>
          exact @induction (engine.finishSync []).2 configured
      | sending configured pending => rfl

/-- Without peers, processing drops the operations. -/
theorem processJournal_drops
    (alone : engine.peers.items = [])
    (whole : engine.journal = operations) :
    (engine.processJournal operations).1.journal = [] := by
  induction operations generalizing engine with
  | nil => exact whole
  | cons operation rest induction =>
      have start : engine.startSync = (.answered true, engine) := by
        rw [ReplicationEngine.startSync,
          if_pos (List.isEmpty_iff.mpr alone)]
      have member : operation ∈ engine.journal := by
        rw [whole]
        exact List.mem_cons_self
      have frame := settle_frame engine operation true
      rw [ReplicationEngine.processJournal, start]
      apply induction
      · rw [frame.2.1]
        exact alone
      · show (engine.removeOperation operation).journal = rest
        rw [removeOperation_journal member, whole,
          List.erase_cons_head]

/-- Processing keeps the peers, and what it leaves under way is pending. -/
theorem processJournal_frame :
    (engine.processJournal operations).1.mode = engine.mode ∧
      (engine.processJournal operations).1.peers = engine.peers ∧
      ∀ pass ∈ (engine.processJournal operations).2,
        Unaccepted pass.sends := by
  induction operations generalizing engine with
  | nil =>
      refine ⟨rfl, rfl, ?_⟩
      intro pass under
      cases under
  | cons operation rest induction =>
      have started := startSync_started engine
      rw [ReplicationEngine.processJournal]
      generalize engine.startSync = start at started
      rcases start with ⟨start, finished⟩
      cases started with
      | alone empty =>
          have frame := settle_frame finished operation true
          have later := @induction (finished.settle operation true)
          exact
            ⟨later.1.trans frame.1, later.2.1.trans frame.2.1,
              later.2.2⟩
      | unreachable configured =>
          exact @induction (engine.finishSync []).2
      | sending configured pending =>
          refine ⟨rfl, rfl, ?_⟩
          intro pass under
          cases under
          exact unaccepted_of_pending pending

end Engines

/-! ## One step -/

section Steps

variable
    {replicator : Replicator}
    {journaling : Journaling}

/-- What a call leaves of the engine, and the call itself. -/
structure MadeCall (replicator after : Replicator) : Prop where
  mode : after.engine.mode = replicator.engine.mode
  peers : after.engine.peers = replicator.engine.peers
  journal : replicator.engine.journal <+: after.engine.journal
  calls :
    ∀ callId call,
      after.calls.get? callId = some call →
        replicator.calls.get? callId = some call ∨
          (Unaccepted call.sends ∧
            (replicator.engine.mode = .async → call.answer ≠ none) ∧
            ∀ answer,
              call.answer = some answer →
                (answer = true ↔
                  replicator.engine.mode = .async ∨
                    replicator.engine.peers.items = []))

theorem madeCall_self : MadeCall replicator replicator where
  mode := rfl
  peers := rfl
  journal := List.prefix_rfl
  calls := fun _ _ found => .inl found

/-- A new call is queued, sent, or answered at once. -/
theorem replicate_madeCall (target : Nat) (volumeId : String)
    (data : OperationData) :
    MadeCall replicator (replicator.replicate target volumeId data) := by
  have added :
      ∀ {after : ReplicationEngine} {made : ReplicationCall},
        after.mode = replicator.engine.mode →
          after.peers = replicator.engine.peers →
            replicator.engine.journal <+: after.journal →
              Unaccepted made.sends →
                (replicator.engine.mode = .async → made.answer ≠ none) →
                  (∀ answer,
                    made.answer = some answer →
                      (answer = true ↔
                        replicator.engine.mode = .async ∨
                          replicator.engine.peers.items = [])) →
                    MadeCall replicator
                      ⟨after, replicator.calls.set target made⟩ := by
    intro after made mode peers journal unaccepted queued answered
    refine
      { mode := mode
        peers := peers
        journal := journal
        calls := ?_ }
    intro callId call found
    rcases Dict.get?_of_set found with same | before
    · rw [same, Dict.get?_set_self] at found
      cases found
      exact .inr ⟨unaccepted, queued, answered⟩
    · exact .inl before
  rw [Replicator.replicate]
  split
  · exact madeCall_self
  · have peers :
        (replicator.engine.newOperation volumeId data).2.peers =
          replicator.engine.peers :=
      rfl
    have journal :
        (replicator.engine.newOperation volumeId data).2.journal =
          replicator.engine.journal :=
      rfl
    cases mode : replicator.engine.mode with
    | async =>
        have numberedMode :
            (replicator.engine.newOperation volumeId data).2.mode =
              .async :=
          mode
        simp only [numberedMode]
        refine added rfl peers (List.prefix_append _ _) ?_ ?_ ?_
        · intro send member
          cases member
        · exact fun _ => Option.some_ne_none true
        · rintro answer ⟨⟩
          exact ⟨fun _ => .inl mode, fun _ => rfl⟩
    | sync =>
        have numberedMode :
            (replicator.engine.newOperation volumeId data).2.mode =
              .sync :=
          mode
        have started :=
          startSync_started (replicator.engine.newOperation volumeId data).2
        simp only [numberedMode]
        generalize
          (replicator.engine.newOperation volumeId data).2.startSync =
            start at started
        rcases start with ⟨start, finished⟩
        cases started with
        | alone empty =>
            refine added rfl peers List.prefix_rfl ?_ ?_ ?_
            · intro send member
              cases member
            · exact fun _ => Option.some_ne_none _
            · rintro answer ⟨⟩
              exact ⟨fun _ => .inr empty, fun _ => rfl⟩
        | unreachable configured =>
            refine added rfl peers List.prefix_rfl ?_ ?_ ?_
            · intro send member
              cases member
            · exact fun _ => Option.some_ne_none _
            · rintro answer ⟨⟩
              refine iff_of_false Bool.false_ne_true ?_
              rintro (other | empty)
              · rw [mode] at other
                cases other
              · exact configured empty
        | sending configured pending =>
            refine added rfl peers List.prefix_rfl ?_ ?_ ?_
            · exact unaccepted_of_pending pending
            · intro other
              rw [mode] at other
              cases other
            · rintro answer ⟨⟩

/-- Ending a send that was not accepted leaves the journal and the links. -/
theorem sendToPeer_unaccepted
    {engine : ReplicationEngine} (down : engine.LinksDown) (send : Send)
    {outcome : SendOutcome} (refused : outcome ≠ .accepted) :
    (engine.sendToPeer send outcome).journal = engine.journal ∧
      (engine.sendToPeer send outcome).LinksDown := by
  cases outcome with
  | accepted => exact absurd rfl refused
  | refused => exact ⟨rfl, down⟩
  | failed =>
      refine ⟨rfl, ?_⟩
      intro nodeId peer found
      have modified :
          (engine.setObjectState send .degraded).peers.get? nodeId =
            some peer :=
        found
      simp only [ReplicationEngine.setObjectState,
        Dict.get?_modify] at modified
      split at modified
      · rcases Option.map_eq_some_iff.mp modified with
          ⟨old, known, same⟩
        rw [← same]
        split
        · exact .inr rfl
        · exact down nodeId old known
      · exact down nodeId peer modified

/-- What a step of the calls keeps, and what the calls that return answer. -/
structure CallsWithhold (replicator after : Replicator) : Prop where
  unheard : after.Unheard
  journal : replicator.engine.journal <+: after.engine.journal
  answers :
    ∀ callId call answer,
      after.calls.get? callId = some call →
        (∀ old ∈ replicator.calls.get? callId, old.answer = none) →
          call.answer = some answer →
            (answer = true ↔
              replicator.engine.mode = .async ∨
                replicator.engine.peers.items = [])

/-- Steps that leave the calls alone. -/
theorem Replicator.Unheard.withEngine (unheard : replicator.Unheard)
    {engine : ReplicationEngine}
    (mode : engine.mode = replicator.engine.mode)
    (links : engine.LinksDown)
    (journal : replicator.engine.journal <+: engine.journal) :
    CallsWithhold replicator { replicator with engine := engine } := by
  refine
    { unheard :=
        { links := links
          unaccepted := unheard.unaccepted
          queued := fun async => unheard.queued (mode.symm.trans async) }
      journal := journal
      answers := ?_ }
  intro callId call answer found waiting answered
  rw [waiting call found] at answered
  cases answered

/-- Making a call withholds its operation. -/
theorem Replicator.Unheard.makeCall (unheard : replicator.Unheard)
    {after : Replicator} (made : MadeCall replicator after) :
    CallsWithhold replicator after := by
  refine
    { unheard :=
        { links := ?_
          unaccepted := ?_
          queued := ?_ }
      journal := made.journal
      answers := ?_ }
  · rw [ReplicationEngine.LinksDown, made.peers]
    exact unheard.links
  · intro callId call found
    rcases made.calls callId call found with known | ⟨fresh, _⟩
    · exact unheard.unaccepted callId call known
    · exact fresh
  · intro async callId call found
    have before := made.mode.symm.trans async
    rcases made.calls callId call found with known | ⟨_, queued, _⟩
    · exact unheard.queued before callId call known
    · exact queued before
  · intro callId call answer found waiting answered
    rcases made.calls callId call found with known | ⟨_, _, answers⟩
    · rw [waiting call known] at answered
      cases answered
    · exact answers answer answered

/-- The end of a send that was not accepted. -/
theorem Replicator.Unheard.endSend (unheard : replicator.Unheard)
    (target index : Nat) {outcome : SendOutcome}
    (refused : outcome ≠ .accepted) :
    CallsWithhold replicator
      (replicator.endSend target index outcome) := by
  have calls :
      ∀ callId call,
        (replicator.endSend target index outcome).calls.get? callId =
            some call →
          ∃ old,
            replicator.calls.get? callId = some old ∧
              call.answer = old.answer ∧
              (Unaccepted old.sends → Unaccepted call.sends) := by
    intro callId call found
    rw [Replicator.endSend] at found
    split at found
    · exact ⟨call, found, rfl, id⟩
    · rename_i old known
      split at found
      · exact ⟨call, found, rfl, id⟩
      · rename_i send listed
        split at found
        · rcases Dict.get?_of_set found with same | before
          · rw [same, Dict.get?_set_self] at found
            cases found
            rw [same]
            exact
              ⟨old, known, rfl, fun unaccepted =>
                unaccepted.set index send refused⟩
          · exact ⟨call, before, rfl, id⟩
        · exact ⟨call, found, rfl, id⟩
  have engine :
      (replicator.endSend target index outcome).engine.mode =
          replicator.engine.mode ∧
        (replicator.endSend target index outcome).engine.LinksDown ∧
        (replicator.endSend target index outcome).engine.journal =
          replicator.engine.journal := by
    rcases endSend_engine replicator target index outcome with
      same | ⟨send, sent⟩
    · rw [same]
      exact ⟨rfl, unheard.links, rfl⟩
    · rw [sent]
      have down := sendToPeer_unaccepted unheard.links send refused
      refine ⟨?_, down.2, down.1⟩
      cases outcome <;> rfl
  refine
    { unheard :=
        { links := engine.2.1
          unaccepted := ?_
          queued := ?_ }
      journal := ?_
      answers := ?_ }
  · intro callId call found
    rcases calls callId call found with ⟨old, known, _, unaccepted⟩
    exact unaccepted (unheard.unaccepted callId old known)
  · intro async callId call found
    rcases calls callId call found with ⟨old, known, same, _⟩
    rw [same]
    exact unheard.queued (engine.1.symm.trans async) callId old known
  · rw [engine.2.2]
  · intro callId call answer found waiting answered
    rcases calls callId call found with ⟨old, known, same, _⟩
    rw [same, waiting old known] at answered
    cases answered

/-- A call that returns after its sends answers by the peers there are. -/
theorem Replicator.Unheard.finish (unheard : replicator.Unheard)
    (target : Nat) :
    CallsWithhold replicator (replicator.finish target) := by
  rw [Replicator.finish]
  split
  · exact unheard.withEngine rfl unheard.links List.prefix_rfl
  · rename_i old known
    split
    · rename_i ready
      have unaccepted := unheard.unaccepted target old known
      have succeeds :
          (replicator.engine.finishSync old.sends).1 = true ↔
            replicator.engine.peers.items = [] :=
        finishSync_unaccepted unaccepted
      have sync : replicator.engine.mode ≠ .async := fun async =>
        unheard.queued async target old known ready.1
      refine
        { unheard :=
            { links := unheard.links
              unaccepted := ?_
              queued := fun async => absurd async sync }
          journal := List.prefix_rfl
          answers := ?_ }
      · intro callId call found
        rcases Dict.get?_of_set found with same | before
        · rw [same, Dict.get?_set_self] at found
          cases found
          exact unaccepted
        · exact unheard.unaccepted callId call before
      · intro callId call answer found waiting answered
        rcases Dict.get?_of_set found with same | before
        · rw [same, Dict.get?_set_self] at found
          cases found
          cases answered
          rw [succeeds, or_iff_right sync]
        · rw [waiting call before] at answered
          cases answered
    · exact unheard.withEngine rfl unheard.links List.prefix_rfl

/-- A step of the calls, with sends that are answered by nodes. -/
theorem Replicator.Unheard.step (unheard : replicator.Unheard)
    {action : ReplicationStep}
    {framework : Framework} (lawful : framework.Lawful)
    (deployed : JournalStep.Deployed framework (.call action)) :
    CallsWithhold replicator (replicator.step action) := by
  cases action with
  | addPeer nodeId =>
      refine unheard.withEngine rfl ?_ List.prefix_rfl
      intro other peer found
      rcases Dict.get?_of_set found with same | before
      · rw [same] at found
        rw [ReplicationEngine.addPeer, Dict.get?_set_self] at found
        cases found
        exact .inl rfl
      · exact unheard.links other peer before
  | removePeer nodeId =>
      refine unheard.withEngine ?_ ?_ ?_
      · rw [ReplicationEngine.removePeer]
        split <;> rfl
      · rw [ReplicationEngine.removePeer]
        split
        · intro other peer found
          exact unheard.links other peer (Dict.get?_of_erase found).2
        · exact unheard.links
      · rw [ReplicationEngine.removePeer]
        split <;> exact List.prefix_rfl
  | setPeerState nodeId state => exact deployed.elim
  | replicateWrite target volumeId offset blockId fingerprint data =>
      exact unheard.makeCall (replicate_madeCall target volumeId _)
  | replicateDelete target volumeId blockId =>
      exact unheard.makeCall (replicate_madeCall target volumeId _)
  | endSend target index outcome =>
      exact unheard.endSend target index (deployed.ne_accepted lawful)
  | finish target => exact unheard.finish target

/-- The result of a step that leaves the calls alone. -/
structure Advances (journaling after : Journaling) : Prop where
  calls : after.replicator.calls = journaling.replicator.calls
  mode : after.engine.mode = journaling.engine.mode
  links : after.engine.LinksDown
  pass : ∀ pass ∈ after.pass, Unaccepted pass.sends
  acknowledged : after.acknowledged = journaling.acknowledged
  kept :
    journaling.engine.peers.items ≠ [] →
      after.journal = journaling.journal

theorem Journaling.Unreached.advances_self
    (unreached : journaling.Unreached) :
    Advances journaling journaling where
  calls := rfl
  mode := rfl
  links := unreached.unheard.links
  pass := unreached.pass
  acknowledged := rfl
  kept := fun _ => rfl

theorem Advances.unreached {after : Journaling}
    (advances : Advances journaling after)
    (unreached : journaling.Unreached) :
    after.Unreached := by
  refine
    { unheard :=
        { links := advances.links
          unaccepted := ?_
          queued := ?_ }
      pass := advances.pass
      acknowledged := advances.acknowledged.trans unreached.acknowledged }
  · rw [advances.calls]
    exact unreached.unheard.unaccepted
  · intro async
    rw [advances.calls]
    exact unreached.unheard.queued (advances.mode.symm.trans async)

theorem Advances.withholds {action : JournalStep}
    (advances : Advances journaling (journaling.step action))
    (dropped :
      journaling.engine.peers.items = [] →
        journaling.pass = none →
          action = .processJournal →
            (journaling.step action).journal = []) :
    Withholds journaling action := by
  refine
    { answers := ?_
      kept := ?_
      dropped := dropped }
  · intro callId call answer found waiting answered
    rw [advances.calls] at found
    rw [waiting call found] at answered
    cases answered
  · intro configured
    rw [advances.kept configured]

/-- A pass that begins has nothing accepted. -/
theorem Journaling.Unreached.beginPass
    (unreached : journaling.Unreached) :
    Advances journaling journaling.beginPass := by
  rw [Journaling.beginPass]
  split
  · exact unreached.advances_self
  · have frame :=
      @processJournal_frame journaling.engine journaling.journal
    refine
      { calls := rfl
        mode := frame.1
        links := ?_
        pass := frame.2.2
        acknowledged := rfl
        kept := processJournal_journal }
    show ReplicationEngine.LinksDown
      (journaling.engine.processJournal journaling.journal).1
    rw [ReplicationEngine.LinksDown, frame.2.1]
    exact unreached.unheard.links

/-- A pass without peers drops the journal. -/
theorem beginPass_drops
    (alone : journaling.engine.peers.items = [])
    (idle : journaling.pass = none) :
    journaling.beginPass.journal = [] := by
  rw [Journaling.beginPass, idle]
  exact processJournal_drops alone rfl

theorem Journaling.Unreached.endSend
    (unreached : journaling.Unreached) (index : Nat)
    {outcome : SendOutcome} (refused : outcome ≠ .accepted) :
    Advances journaling (journaling.endSend index outcome) := by
  simp only [Journaling.endSend, if_neg refused]
  split
  · exact unreached.advances_self
  · rename_i pass under
    split
    · exact unreached.advances_self
    · rename_i send listed
      split
      · have down :=
          sendToPeer_unaccepted unreached.unheard.links send refused
        refine
          { calls := rfl
            mode := ?_
            links := down.2
            pass := ?_
            acknowledged := rfl
            kept := fun _ => down.1 }
        · cases outcome <;> rfl
        · rintro after ⟨⟩
          exact (unreached.pass pass under).set index send refused
      · exact unreached.advances_self

/-- An operation that nobody accepted stays, and the pass goes on. -/
theorem Journaling.Unreached.resume (unreached : journaling.Unreached) :
    Advances journaling journaling.resume := by
  rw [Journaling.resume]
  split
  · exact unreached.advances_self
  · rename_i pass under
    split
    · have unaccepted := unreached.pass pass under
      have succeeds :
          (journaling.engine.finishSync pass.sends).1 = true ↔
            journaling.engine.peers.items = [] :=
        finishSync_unaccepted unaccepted
      have frame :=
        settle_frame (journaling.engine.finishSync pass.sends).2
          pass.operation (journaling.engine.finishSync pass.sends).1
      have processed :=
        @processJournal_frame (journaling.engine.settlePass pass)
          pass.remaining
      refine
        { calls := rfl
          mode := processed.1.trans frame.1
          links := ?_
          pass := processed.2.2
          acknowledged := rfl
          kept := ?_ }
      · show ReplicationEngine.LinksDown
          ((journaling.engine.settlePass pass).processJournal
            pass.remaining).1
        rw [ReplicationEngine.LinksDown, processed.2.1,
          show (journaling.engine.settlePass pass).peers = _ from frame.2.1]
        exact unreached.unheard.links
      · intro configured
        have fails :
            (journaling.engine.finishSync pass.sends).1 = false := by
          rw [← Bool.not_eq_true, succeeds]
          exact configured
        have settled :
            journaling.engine.settlePass pass =
              (journaling.engine.finishSync pass.sends).2 := by
          rw [ReplicationEngine.settlePass, fails]
          rfl
        show
          ((journaling.engine.settlePass pass).processJournal
              pass.remaining).1.journal =
            journaling.journal
        rw [processJournal_journal (by rw [settled]; exact configured),
          settled]
        rfl
    · exact unreached.advances_self

/-- One step of a cluster whose peers run the API. -/
theorem Journaling.Unreached.step
    (unreached : journaling.Unreached) {action : JournalStep}
    {framework : Framework} (lawful : framework.Lawful)
    (deployed : action.Deployed framework) :
    (journaling.step action).Unreached ∧ Withholds journaling action := by
  cases action with
  | call action =>
      have withheld := unreached.unheard.step lawful deployed
      refine ⟨?_, ?_⟩
      · exact
          { unheard := withheld.unheard
            pass := unreached.pass
            acknowledged := unreached.acknowledged }
      · refine
          { answers := withheld.answers
            kept := fun _ => withheld.journal
            dropped := ?_ }
        rintro _ _ ⟨⟩
  | processJournal =>
      have advances := unreached.beginPass
      refine ⟨advances.unreached unreached, advances.withholds ?_⟩
      exact fun alone idle _ => beginPass_drops alone idle
  | endSend index outcome =>
      have advances := unreached.endSend index (deployed.ne_accepted lawful)
      refine ⟨advances.unreached unreached, advances.withholds ?_⟩
      rintro _ _ ⟨⟩
  | resume =>
      have advances := unreached.resume
      refine ⟨advances.unreached unreached, advances.withholds ?_⟩
      rintro _ _ ⟨⟩
  | stop =>
      have advances :
          Advances journaling { journaling with pass := none } :=
        { unreached.advances_self with
          pass := by
            intro pass under
            cases under }
      refine ⟨advances.unreached unreached, advances.withholds ?_⟩
      rintro _ _ ⟨⟩

theorem unreached_startIn (mode : ReplicationMode) (nodeId : String) :
    (Journaling.startIn mode nodeId).Unreached where
  unheard :=
    { links := by
        rintro peerId peer ⟨⟩
      unaccepted := by
        rintro callId call ⟨⟩
      queued := by
        rintro _ callId call ⟨⟩ }
  pass := by
    rintro pass ⟨⟩
  acknowledged := rfl

end Steps

/-! ## Runs -/

/--
In a cluster whose nodes run the API no operation reaches a peer.  Calls succeed
exactly if they are queued or there are no peers, and the journal of operations
for peers grows until a pass finds no peers and drops it.
-/
theorem deployed_replicates_nothing
    {framework : Framework} (lawful : framework.Lawful)
    (mode : ReplicationMode) (nodeId : String) {steps : List JournalStep}
    (deployed : ∀ action ∈ steps, action.Deployed framework) :
    (run Journaling.step (Journaling.startIn mode nodeId)
        steps).Unreached ∧
      AllSteps Journaling.step Withholds (Journaling.startIn mode nodeId)
        steps := by
  refine ⟨?_, ?_⟩
  · exact
      run_invariant_of_allowed
        (fun _ _ unreached answered => (unreached.step lawful answered).1)
        (unreached_startIn mode nodeId) deployed
  · exact
      allSteps_of_allowed
        (fun _ _ unreached answered => (unreached.step lawful answered).1)
        (fun _ _ unreached answered => (unreached.step lawful answered).2)
        (unreached_startIn mode nodeId) deployed

/--
Two operations for a peer below `/storage`.  The first pass meets status 404, and
once the peer has been removed, the second one drops both.
-/
def refusedSteps : List JournalStep :=
  [.call (.addPeer "b"), .call (.replicateDelete 0 "v" "x"),
    .call (.replicateDelete 1 "v" "y"), .processJournal,
    .endSend 0 .refused, .resume, .endSend 0 .failed, .resume,
    .call (.removePeer "b"), .processJournal]

theorem deployed_replicates_nothing_refused :
    (run Journaling.step (Journaling.startIn .async "a")
        refusedSteps).Unreached ∧
      AllSteps Journaling.step Withholds (Journaling.startIn .async "a")
        refusedSteps := by
  apply deployed_replicates_nothing plainFramework_lawful
  have refused : Answered plainFramework .refused :=
    .inr ⟨["storage"], by decide +kernel⟩
  have failed : Answered plainFramework .failed := .inl rfl
  simp [refusedSteps, JournalStep.Deployed, refused, failed]

/-- The journal holds both operations until the second pass. -/
example :
    (run Journaling.step (Journaling.startIn .async "a")
        (refusedSteps.take 9)).journal.length = 2 ∧
      (run Journaling.step (Journaling.startIn .async "a")
        refusedSteps).journal = [] := by
  decide

/-- A node takes the heartbeats that other nodes send to it. -/
example :
    plainFramework app .post heartbeatPath = 200 ∧
      plainFramework app .post applyPath = 404 := by
  decide

end StorageAppliance.ActiveCluster
