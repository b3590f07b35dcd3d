import StorageAppliance.ActiveCluster.Replication
import StorageAppliance.Library.Run

/-!
# Synchronous replication

Calls of `replicate_write` and `replicate_delete`, with their sends under way.
Sends end in any order and with any outcome, and between them other calls start
and return and peers come, go and change their states.

A call remembers the peers that were configured when it began.  It returns true
after a single accepted send, and its sends spare the peers whose link is
broken, so a call reaches every peer exactly if it is complete: no peer was
broken and all sends were accepted.  `replicated_everywhere_iff` says this for
whole runs.  A peer that has missed an operation is put back to healthy by the
next send that it accepts.
-/

namespace StorageAppliance.ActiveCluster

open StorageAppliance.Python
open StorageAppliance.Library

/-- A call: its operation, its peers, its sends and its answer. -/
structure ReplicationCall where
  operation : ReplicationOperation
  configured : List ReplicationPeer
  sends : List Send := []
  answer : Option Bool := none
deriving DecidableEq

/-- The call waits, and all of its sends have ended. -/
def ReplicationCall.Ready (call : ReplicationCall) : Prop :=
  call.answer = none ∧ ∀ send ∈ call.sends, send.outcome ≠ none

instance : DecidablePred ReplicationCall.Ready := fun call =>
  inferInstanceAs (Decidable (_ ∧ ∀ send ∈ call.sends, _))

/-- The engine and the calls made so far. -/
structure Replicator where
  engine : ReplicationEngine
  calls : Dict Nat ReplicationCall := Dict.empty
deriving DecidableEq

/-- What can happen to a replicator. -/
inductive ReplicationStep where
  | addPeer (nodeId : String)
  | removePeer (nodeId : String)
  | setPeerState (nodeId : String) (state : ReplicationState)
  | replicateWrite (callId : Nat) (volumeId : String) (offset : ℤ)
      (blockId fingerprint : String) (data : Bytes)
  | replicateDelete (callId : Nat) (volumeId blockId : String)
  | endSend (callId index : Nat) (outcome : SendOutcome)
  | finish (callId : Nat)

namespace Replicator

/-- Number an operation and send it, or queue it in asynchronous mode. -/
def replicate (self : Replicator) (callId : Nat) (volumeId : String)
    (data : OperationData) : Replicator :=
  match self.calls.get? callId with
  | some _ => self
  | none =>
      let (operation, numbered) :=
        self.engine.newOperation volumeId data
      let call : ReplicationCall :=
        { operation := operation
          configured := numbered.peers.values }
      match numbered.mode with
      | .async =>
          { engine := numbered.queueForAsync operation
            calls :=
              self.calls.set callId { call with answer := some true } }
      | .sync =>
          match numbered.startSync with
          | (.answered answer, finished) =>
              { engine := finished
                calls :=
                  self.calls.set callId
                    { call with answer := some answer } }
          | (.sending sends, sending) =>
              { engine := sending
                calls :=
                  self.calls.set callId { call with sends := sends } }

/-- Replicate a write operation. -/
def replicateWrite (self : Replicator) (callId : Nat) (volumeId : String)
    (offset : ℤ) (blockId fingerprint : String) (data : Bytes) :
    Replicator :=
  self.replicate callId volumeId
    (.write offset blockId fingerprint (hex data))

/-- Replicate a delete operation. -/
def replicateDelete (self : Replicator) (callId : Nat)
    (volumeId blockId : String) : Replicator :=
  self.replicate callId volumeId (.delete blockId)

/-- A send of a call ends. -/
def endSend (self : Replicator) (callId index : Nat)
    (outcome : SendOutcome) : Replicator :=
  match self.calls.get? callId with
  | none => self
  | some call =>
      match call.sends[index]? with
      | none => self
      | some send =>
          if send.outcome = none then
            { engine := self.engine.sendToPeer send outcome
              calls :=
                self.calls.set callId
                  { call with
                    sends :=
                      call.sends.set index
                        { send with outcome := some outcome } } }
          else
            self

/-- A call whose sends have all ended returns. -/
def finish (self : Replicator) (callId : Nat) : Replicator :=
  match self.calls.get? callId with
  | none => self
  | some call =>
      if call.Ready then
        let (answer, finished) := self.engine.finishSync call.sends
        { engine := finished
          calls :=
            self.calls.set callId { call with answer := some answer } }
      else
        self

/-- Execute one step. -/
def step (self : Replicator) : ReplicationStep → Replicator
  | .addPeer nodeId => { self with engine := self.engine.addPeer nodeId }
  | .removePeer nodeId =>
      { self with engine := (self.engine.removePeer nodeId).2 }
  | .setPeerState nodeId state =>
      { self with engine := self.engine.setPeerState nodeId state }
  | .replicateWrite callId volumeId offset blockId fingerprint data =>
      self.replicateWrite callId volumeId offset blockId fingerprint data
  | .replicateDelete callId volumeId blockId =>
      self.replicateDelete callId volumeId blockId
  | .endSend callId index outcome => self.endSend callId index outcome
  | .finish callId => self.finish callId

end Replicator

open Replicator

/-! ## Calls that reach every peer -/

/-- The peer has acknowledged the operation of the call. -/
def ReplicationCall.AcknowledgedBy (call : ReplicationCall)
    (peer : ReplicationPeer) : Prop :=
  ∃ send ∈ call.sends,
    send.nodeId = peer.nodeId ∧ send.object = peer.object ∧
      send.outcome = some .accepted

/-- If the call has returned true, all its peers have acknowledged. -/
def ReplicationCall.Honoured (call : ReplicationCall) : Prop :=
  call.answer = some true →
    ∀ peer ∈ call.configured, call.AcknowledgedBy peer

/-- No peer was broken when the call began, and all accepted the operation. -/
def ReplicationCall.Complete (call : ReplicationCall) : Prop :=
  (∀ peer ∈ call.configured, peer.state ≠ .broken) ∧
    ∀ send ∈ call.sends, send.outcome = some .accepted

/-- No peer has accepted the operation. -/
def ReplicationCall.Unaccepted (call : ReplicationCall) : Prop :=
  ∀ send ∈ call.sends, send.outcome ≠ some .accepted

/-- The calls that return in the step are honoured. -/
def Honours (replicator : Replicator) (action : ReplicationStep) : Prop :=
  ∀ callId call,
    (replicator.step action).calls.get? callId = some call →
      (∀ old ∈ replicator.calls.get? callId, old.answer = none) →
        call.Honoured

/-- A call that returns is complete, or was accepted by none of its peers. -/
def ReturnsComplete (replicator : Replicator) : ReplicationStep → Prop
  | .finish callId =>
      ∀ call ∈ replicator.calls.get? callId,
        call.Ready →
          call.Complete ∨
            (call.Unaccepted ∧ replicator.engine.peers.items ≠ [])
  | _ => True

/-- No healthy peer has missed an operation that was acknowledged. -/
def Replicator.UpToDate (replicator : Replicator) : Prop :=
  ∀ nodeId peer,
    replicator.engine.peers.get? nodeId = some peer →
      peer.state = .healthy →
        ∀ callId call,
          replicator.calls.get? callId = some call →
            call.answer = some true →
              (∃ old ∈ call.configured,
                  old.nodeId = peer.nodeId ∧ old.object = peer.object) →
                call.AcknowledgedBy peer

/-! ## What calls remember -/

/-- The peer object that a send or a peer stands for. -/
def Send.target (send : Send) : String × Nat :=
  (send.nodeId, send.object)

def ReplicationPeer.target (peer : ReplicationPeer) : String × Nat :=
  (peer.nodeId, peer.object)

/-- A call names its peers apart and has sent to those that were not broken. -/
structure CallSound (call : ReplicationCall) : Prop where
  apart : (call.configured.map ReplicationPeer.nodeId).Nodup
  sent :
    call.answer = none →
      call.sends.map Send.target =
        (call.configured.filter fun peer =>
          peer.state ≠ .broken).map ReplicationPeer.target
  ended :
    call.answer ≠ none → ∀ send ∈ call.sends, send.outcome ≠ none

/-- The engine is synchronous and names its peers, and its calls are sound. -/
structure Replicating (replicator : Replicator) : Prop where
  mode : replicator.engine.mode = .sync
  named :
    ∀ nodeId peer,
      replicator.engine.peers.get? nodeId = some peer →
        peer.nodeId = nodeId
  calls :
    ∀ callId call,
      replicator.calls.get? callId = some call → CallSound call

section Calls

variable
    {replicator : Replicator}
    {call : ReplicationCall}

/-- A peer is acknowledged by a send to its target. -/
theorem acknowledgedBy_iff {peer : ReplicationPeer} :
    call.AcknowledgedBy peer ↔
      ∃ send ∈ call.sends,
        send.target = peer.target ∧ send.outcome = some .accepted := by
  simp only [ReplicationCall.AcknowledgedBy, Send.target,
    ReplicationPeer.target, Prod.mk.injEq, and_assoc]

/-- Peers of a call with the same name are the same. -/
theorem CallSound.peer_unique
    (sound : CallSound call)
    {first second : ReplicationPeer}
    (firstMember : first ∈ call.configured)
    (secondMember : second ∈ call.configured)
    (same : first.target = second.target) :
    first = second :=
  List.inj_on_of_nodup_map sound.apart firstMember secondMember
    (congrArg Prod.fst same)

/-- Sends of a waiting call to the same peer are the same. -/
theorem CallSound.send_unique
    (sound : CallSound call) (waiting : call.answer = none)
    {first second : Send}
    (firstMember : first ∈ call.sends)
    (secondMember : second ∈ call.sends)
    (same : first.target = second.target) :
    first = second := by
  have nodup : (call.sends.map Send.target).Nodup := by
    rw [sound.sent waiting]
    have contacted :
        ((call.configured.filter fun peer =>
          peer.state ≠ .broken).map ReplicationPeer.nodeId).Nodup :=
      (List.filter_sublist.map _).nodup sound.apart
    apply List.Nodup.of_map Prod.fst
    rw [List.map_map]
    exact contacted
  exact List.inj_on_of_nodup_map nodup firstMember secondMember same

/-- A complete call is acknowledged by all its peers. -/
theorem CallSound.acknowledged
    (sound : CallSound call) (waiting : call.answer = none)
    (complete : call.Complete)
    {peer : ReplicationPeer} (member : peer ∈ call.configured) :
    call.AcknowledgedBy peer := by
  have listed : peer.target ∈ call.sends.map Send.target := by
    rw [sound.sent waiting]
    apply List.mem_map.mpr
    exact ⟨peer,
      List.mem_filter.mpr ⟨member, by simpa using complete.1 peer member⟩,
      rfl⟩
  rcases List.mem_map.mp listed with ⟨send, sent, same⟩
  exact acknowledgedBy_iff.mpr ⟨send, sent, same, complete.2 send sent⟩

/-- A call acknowledged by all its peers is complete. -/
theorem CallSound.complete
    (sound : CallSound call) (waiting : call.answer = none)
    (acknowledged :
      ∀ peer ∈ call.configured, call.AcknowledgedBy peer) :
    call.Complete := by
  have contacted :
      ∀ send ∈ call.sends,
        ∃ peer ∈ call.configured,
          peer.state ≠ .broken ∧ peer.target = send.target := by
    intro send sent
    have listed : send.target ∈ call.sends.map Send.target :=
      List.mem_map.mpr ⟨send, sent, rfl⟩
    rw [sound.sent waiting] at listed
    rcases List.mem_map.mp listed with ⟨peer, kept, same⟩
    rcases List.mem_filter.mp kept with ⟨member, usable⟩
    exact ⟨peer, member, by simpa using usable, same⟩
  constructor
  · intro peer member
    rcases acknowledgedBy_iff.mp (acknowledged peer member) with
      ⟨send, sent, target, _⟩
    rcases contacted send sent with ⟨other, otherMember, usable, same⟩
    rw [sound.peer_unique member otherMember (same.trans target).symm]
    exact usable
  · intro send sent
    rcases contacted send sent with ⟨peer, member, _, same⟩
    rcases acknowledgedBy_iff.mp (acknowledged peer member) with
      ⟨other, otherSent, target, accepted⟩
    rw [sound.send_unique waiting sent otherSent
      (target.trans same).symm]
    exact accepted

end Calls

/-! ## One step -/

/-- Where a call of the next state comes from. -/
inductive Continues (replicator : Replicator) (action : ReplicationStep)
    (callId : Nat) : ReplicationCall → Prop where
  | same {call : ReplicationCall}
      (known : replicator.calls.get? callId = some call) :
      Continues replicator action callId call
  | answered {call : ReplicationCall} {answer : Bool}
      (fresh : replicator.calls.get? callId = none)
      (configured :
        call.configured = replicator.engine.peers.values)
      (unsent : call.sends = [])
      (returned : call.answer = some answer)
      (alone : answer = true → replicator.engine.peers.values = []) :
      Continues replicator action callId call
  | sending {call : ReplicationCall}
      (fresh : replicator.calls.get? callId = none)
      (configured :
        call.configured = replicator.engine.peers.values)
      (sent :
        call.sends.map Send.target =
          replicator.engine.contacted.map ReplicationPeer.target)
      (waiting : call.answer = none) :
      Continues replicator action callId call
  | ended {old : ReplicationCall} {index : Nat} {send : Send}
      (known : replicator.calls.get? callId = some old)
      (listed : old.sends[index]? = some send)
      (pending : send.outcome = none) (outcome : SendOutcome) :
      Continues replicator action callId
        { old with
          sends :=
            old.sends.set index { send with outcome := some outcome } }
  | returned {old : ReplicationCall}
      (finishes : action = .finish callId)
      (known : replicator.calls.get? callId = some old)
      (ready : old.Ready) :
      Continues replicator action callId
        { old with
          answer :=
            some (replicator.engine.finishSync old.sends).1 }

section Steps

variable
    {replicator : Replicator}
    {action : ReplicationStep}
    {callId : Nat}
    {call : ReplicationCall}

/-- An engine without peers is the one with nothing to send. -/
theorem isEmpty_iff_values (engine : ReplicationEngine) :
    engine.peers.items.isEmpty = true ↔ engine.peers.values = [] := by
  rw [List.isEmpty_iff, Dict.values, List.map_eq_nil_iff]

theorem replicate_continues
    (mode : replicator.engine.mode = .sync)
    {target : Nat} {volumeId : String} {data : OperationData}
    (found :
      (replicator.replicate target volumeId data).calls.get? callId =
        some call) :
    Continues replicator action callId call := by
  rw [replicate] at found
  split at found
  · exact .same found
  · rename_i fresh
    have numberedMode :
        (replicator.engine.newOperation volumeId data).2.mode = .sync :=
      mode
    simp only [numberedMode] at found
    split at found
    · rename_i answer finished start
      simp only [Dict.get?_set] at found
      split at found
      · rename_i here
        subst here
        cases found
        refine .answered fresh rfl rfl rfl ?_
        rintro rfl
        by_contra present
        have nonempty :
            ¬ (replicator.engine.newOperation volumeId
              data).2.peers.items.isEmpty = true :=
          fun empty => present ((isEmpty_iff_values _).mp empty)
        rw [ReplicationEngine.startSync, if_neg nonempty] at start
        split at start
        · have answered := congrArg Prod.fst start
          simp only [ReplicationEngine.finishSync, List.countP_nil,
            gt_iff_lt, Nat.lt_irrefl, decide_false, Bool.false_or,
            SyncStart.answered.injEq] at answered
          exact nonempty answered
        · cases start
      · exact .same found
    · rename_i sends sending start
      simp only [Dict.get?_set] at found
      split at found
      · rename_i here
        subst here
        cases found
        refine .sending fresh rfl ?_ rfl
        rw [ReplicationEngine.startSync] at start
        split at start
        · cases start
        · split at start
          · cases start
          · rename_i peer rest contacted
            have sent := congrArg Prod.fst start
            simp only [SyncStart.sending.injEq] at sent
            have same :
                (replicator.engine.newOperation volumeId
                  data).2.contacted = replicator.engine.contacted := rfl
            rw [← sent, ← same, contacted, List.map_map]
            rfl
      · exact .same found

theorem step_continues
    (mode : replicator.engine.mode = .sync)
    (found :
      (replicator.step action).calls.get? callId = some call) :
    Continues replicator action callId call := by
  cases action with
  | addPeer nodeId => exact .same found
  | removePeer nodeId => exact .same found
  | setPeerState nodeId state => exact .same found
  | replicateWrite target volumeId offset blockId fingerprint data =>
      exact replicate_continues mode found
  | replicateDelete target volumeId blockId =>
      exact replicate_continues mode found
  | endSend target index outcome =>
      simp only [Replicator.step, Replicator.endSend] at found
      split at found
      · exact .same found
      · rename_i old known
        split at found
        · exact .same found
        · rename_i send listed
          split at found
          · rename_i pending
            simp only [Dict.get?_set] at found
            split at found
            · rename_i here
              subst here
              cases found
              exact .ended known listed pending outcome
            · exact .same found
          · exact .same found
  | finish target =>
      simp only [Replicator.step, Replicator.finish] at found
      split at found
      · exact .same found
      · rename_i old known
        split at found
        · rename_i ready
          simp only [Dict.get?_set] at found
          split at found
          · rename_i here
            subst here
            cases found
            exact .returned rfl known ready
          · exact .same found
        · exact .same found

/-- The peers of an engine are named apart. -/
theorem Replicating.values_nodup
    (replicating : Replicating replicator) :
    (replicator.engine.peers.values.map
      ReplicationPeer.nodeId).Nodup := by
  have names :
      replicator.engine.peers.values.map ReplicationPeer.nodeId =
        replicator.engine.peers.items.map Prod.fst := by
    rw [Dict.values, List.map_map]
    apply List.map_congr_left
    intro item member
    exact replicating.named item.1 item.2
      (Dict.get?_eq_some_iff.mpr member)
  rw [names]
  exact replicator.engine.peers.nodupKeys

/-- Calls stay sound. -/
theorem Continues.sound
    (replicating : Replicating replicator)
    (continues : Continues replicator action callId call) :
    CallSound call := by
  cases continues with
  | same known => exact replicating.calls callId call known
  | answered fresh configured unsent returned alone =>
      refine ⟨?_, ?_, ?_⟩
      · rw [configured]
        exact replicating.values_nodup
      · intro waiting
        rw [returned] at waiting
        cases waiting
      · rw [unsent]
        simp
  | sending fresh configured sent waiting =>
      refine ⟨?_, ?_, ?_⟩
      · rw [configured]
        exact replicating.values_nodup
      · intro _
        rw [sent, configured]
        rfl
      · intro answered
        exact absurd waiting answered
  | @ended old index send known listed pending outcome =>
      have sound := replicating.calls callId old known
      refine ⟨sound.apart, ?_, ?_⟩
      · intro waiting
        have target :
            (old.sends.map Send.target)[index]? = some send.target := by
          rw [List.getElem?_map, listed]
          rfl
        rcases List.getElem?_eq_some_iff.mp target with ⟨bound, same⟩
        rw [← sound.sent waiting, List.map_set]
        change (old.sends.map Send.target).set index send.target = _
        rw [← same, List.set_getElem_self]
      · intro answered
        have member := List.mem_of_getElem? listed
        exact absurd pending (sound.ended answered send member)
  | @returned old finishes known ready =>
      have sound := replicating.calls callId old known
      refine ⟨sound.apart, ?_, fun _ => ready.2⟩
      intro waiting
      cases waiting

/-- Peers keep their names when their states change. -/
theorem named_modify
    {peers : Dict String ReplicationPeer}
    (named :
      ∀ nodeId peer, peers.get? nodeId = some peer → peer.nodeId = nodeId)
    (target : String) {change : ReplicationPeer → ReplicationPeer}
    (keeps : ∀ peer, (change peer).nodeId = peer.nodeId) :
    ∀ nodeId peer,
      (peers.modify target change).get? nodeId = some peer →
        peer.nodeId = nodeId := by
  intro nodeId peer found
  rw [Dict.get?_modify] at found
  split at found
  · rcases Option.map_eq_some_iff.mp found with ⟨old, known, same⟩
    rw [← same, keeps]
    exact named nodeId old known
  · exact named nodeId peer found

theorem sendToPeer_frame
    {engine : ReplicationEngine}
    (named :
      ∀ nodeId peer,
        engine.peers.get? nodeId = some peer → peer.nodeId = nodeId)
    (send : Send) (outcome : SendOutcome) :
    (engine.sendToPeer send outcome).mode = engine.mode ∧
      ∀ nodeId peer,
        (engine.sendToPeer send outcome).peers.get? nodeId = some peer →
          peer.nodeId = nodeId := by
  have changed :
      ∀ state nodeId peer,
        (engine.setObjectState send state).peers.get? nodeId =
            some peer →
          peer.nodeId = nodeId := by
    intro state
    apply named_modify named send.nodeId
    intro peer
    split <;> rfl
  cases outcome with
  | accepted => exact ⟨rfl, changed .healthy⟩
  | refused => exact ⟨rfl, named⟩
  | failed => exact ⟨rfl, changed .degraded⟩

theorem startSync_engine (engine : ReplicationEngine) :
    engine.startSync.2.mode = engine.mode ∧
      engine.startSync.2.peers = engine.peers := by
  rw [ReplicationEngine.startSync]
  split
  · exact ⟨rfl, rfl⟩
  · split <;> exact ⟨rfl, rfl⟩

theorem replicate_engine
    (mode : replicator.engine.mode = .sync)
    (target : Nat) (volumeId : String) (data : OperationData) :
    (replicator.replicate target volumeId data).engine.mode = .sync ∧
      (replicator.replicate target volumeId data).engine.peers =
        replicator.engine.peers := by
  rw [replicate]
  split
  · exact ⟨mode, rfl⟩
  · have numberedMode :
        (replicator.engine.newOperation volumeId data).2.mode = .sync :=
      mode
    have engine :=
      startSync_engine
        (replicator.engine.newOperation volumeId data).2
    simp only [numberedMode] at engine ⊢
    split
    · rename_i start
      rw [start] at engine
      exact engine
    · rename_i start
      rw [start] at engine
      exact engine

/-- A send that ends reaches the engine once at most. -/
theorem endSend_engine
    (replicator : Replicator) (target index : Nat)
    (outcome : SendOutcome) :
    (replicator.endSend target index outcome).engine =
        replicator.engine ∨
      ∃ send,
        (replicator.endSend target index outcome).engine =
          replicator.engine.sendToPeer send outcome := by
  rw [endSend]
  split
  · exact Or.inl rfl
  · split
    · exact Or.inl rfl
    · rename_i send _
      split
      · exact Or.inr ⟨send, rfl⟩
      · exact Or.inl rfl

theorem finish_engine (replicator : Replicator) (target : Nat) :
    (replicator.finish target).engine.mode = replicator.engine.mode ∧
      (replicator.finish target).engine.peers =
        replicator.engine.peers := by
  rw [finish]
  split
  · exact ⟨rfl, rfl⟩
  · split <;> exact ⟨rfl, rfl⟩

/-- A synchronous engine stays synchronous and keeps its peers named. -/
theorem step_engine
    (replicating : Replicating replicator) (action : ReplicationStep) :
    (replicator.step action).engine.mode = .sync ∧
      ∀ nodeId peer,
        (replicator.step action).engine.peers.get? nodeId = some peer →
          peer.nodeId = nodeId := by
  have named := replicating.named
  have unchanged :
      ∀ {engine : ReplicationEngine},
        engine.mode = .sync ∧
            engine.peers = replicator.engine.peers →
          engine.mode = .sync ∧
            ∀ nodeId peer,
              engine.peers.get? nodeId = some peer →
                peer.nodeId = nodeId := by
    rintro engine ⟨mode, same⟩
    rw [same]
    exact ⟨mode, named⟩
  cases action with
  | addPeer nodeId =>
      refine ⟨replicating.mode, ?_⟩
      intro other peer found
      simp only [Replicator.step, ReplicationEngine.addPeer,
        Dict.get?_set] at found
      split at found
      · rename_i same
        cases found
        exact same.symm
      · exact named other peer found
  | removePeer nodeId =>
      simp only [Replicator.step, ReplicationEngine.removePeer]
      split
      · refine ⟨replicating.mode, ?_⟩
        intro other peer found
        simp only [Dict.get?_erase] at found
        split at found
        · cases found
        · exact named other peer found
      · exact ⟨replicating.mode, named⟩
  | setPeerState nodeId state =>
      exact ⟨replicating.mode,
        named_modify named nodeId fun _ => rfl⟩
  | replicateWrite target volumeId offset blockId fingerprint data =>
      exact unchanged (replicate_engine replicating.mode target volumeId _)
  | replicateDelete target volumeId blockId =>
      exact unchanged (replicate_engine replicating.mode target volumeId _)
  | endSend target index outcome =>
      rcases endSend_engine replicator target index outcome with
        same | ⟨send, sent⟩
      · exact unchanged
          ⟨(congrArg ReplicationEngine.mode same).trans replicating.mode,
            congrArg ReplicationEngine.peers same⟩
      · have frame := sendToPeer_frame named send outcome
        rw [← sent] at frame
        exact ⟨frame.1.trans replicating.mode, frame.2⟩
  | finish target =>
      have engine := finish_engine replicator target
      exact unchanged ⟨engine.1.trans replicating.mode, engine.2⟩

theorem replicating_step
    (replicating : Replicating replicator) (action : ReplicationStep) :
    Replicating (replicator.step action) where
  mode := (step_engine replicating action).1
  named := (step_engine replicating action).2
  calls := by
    intro callId call found
    exact (step_continues replicating.mode found).sound replicating

/-! ## Returning calls -/

/-- A call without an answer promises nothing. -/
theorem honoured_of_waiting
    (waiting : call.answer = none) : call.Honoured := by
  intro returned
  rw [waiting] at returned
  cases returned

/-- A returned call is refused by all, with peers left to serve. -/
theorem finishSync_false_iff
    (engine : ReplicationEngine) (call : ReplicationCall) :
    (engine.finishSync call.sends).1 = false ↔
      call.Unaccepted ∧ engine.peers.items ≠ [] := by
  simp [ReplicationEngine.finishSync, ReplicationCall.Unaccepted]

/-- A call that returns is honoured exactly if it returns completely. -/
theorem returned_honoured_iff
    (sound : CallSound call) (ready : call.Ready)
    (engine : ReplicationEngine) :
    ReplicationCall.Honoured
        { call with answer := some (engine.finishSync call.sends).1 } ↔
      call.Complete ∨
        (call.Unaccepted ∧ engine.peers.items ≠ []) := by
  rw [← finishSync_false_iff]
  constructor
  · intro honoured
    cases answer : (engine.finishSync call.sends).1 with
    | false => exact Or.inr rfl
    | true =>
        left
        apply sound.complete ready.1
        intro peer member
        exact honoured (congrArg some answer) peer member
  · rintro (complete | refused)
    · intro _ peer member
      exact sound.acknowledged ready.1 complete member
    · intro returned
      rw [refused] at returned
      cases returned

/-- A step honours the calls that return exactly if they return completely. -/
theorem honours_iff
    (replicating : Replicating replicator) (action : ReplicationStep) :
    Honours replicator action ↔ ReturnsComplete replicator action := by
  constructor
  · intro honours
    cases action with
    | finish callId =>
        intro call known ready
        have sound := replicating.calls callId call known
        rw [← returned_honoured_iff sound ready]
        apply honours callId
        · simp [Replicator.step, Replicator.finish,
            Option.mem_def.mp known, ready]
        · intro old oldKnown
          rw [Option.mem_def, Option.mem_def.mp known] at oldKnown
          cases oldKnown
          exact ready.1
    | addPeer | removePeer | setPeerState | replicateWrite
    | replicateDelete | endSend => trivial
  · intro complete callId call found fresh
    cases step_continues replicating.mode found with
    | same known => exact honoured_of_waiting (fresh call known)
    | answered _ configured unsent returned alone =>
        intro answer peer member
        rw [returned] at answer
        rw [configured, alone (Option.some.inj answer)] at member
        cases member
    | sending _ _ _ waiting => exact honoured_of_waiting waiting
    | @ended old _ _ known _ _ _ =>
        have waiting : old.answer = none := fresh old known
        exact honoured_of_waiting waiting
    | returned finishes known ready =>
        have sound := replicating.calls callId _ known
        rw [returned_honoured_iff sound ready]
        subst finishes
        exact complete _ known ready

/-- A call that has returned stays as it is. -/
theorem step_returned
    (replicating : Replicating replicator)
    (known : replicator.calls.get? callId = some call)
    (returned : call.answer ≠ none)
    {after : ReplicationCall}
    (found :
      (replicator.step action).calls.get? callId = some after) :
    after = call := by
  cases step_continues replicating.mode found with
  | same same =>
      rw [known] at same
      exact (Option.some.inj same).symm
  | answered fresh =>
      rw [known] at fresh
      cases fresh
  | sending fresh =>
      rw [known] at fresh
      cases fresh
  | ended oldKnown listed pending outcome =>
      rw [known] at oldKnown
      cases oldKnown
      have sound := replicating.calls callId call known
      exact absurd pending
        (sound.ended returned _ (List.mem_of_getElem? listed))
  | returned _ oldKnown ready =>
      rw [known] at oldKnown
      cases oldKnown
      exact absurd ready.1 returned

/-! ## Whole runs -/

/-- Replicating, with every call honoured. -/
structure Replicated (replicator : Replicator) : Prop where
  replicating : Replicating replicator
  honoured :
    ∀ callId call,
      replicator.calls.get? callId = some call → call.Honoured

theorem replicated_step
    (replicated : Replicated replicator)
    (complete : ReturnsComplete replicator action) :
    Replicated (replicator.step action) where
  replicating := replicating_step replicated.replicating action
  honoured := by
    intro callId call found
    have honours := (honours_iff replicated.replicating action).mpr complete
    by_cases fresh :
        ∀ old ∈ replicator.calls.get? callId, old.answer = none
    · exact honours callId call found fresh
    · simp only [not_forall] at fresh
      rcases fresh with ⟨old, known, returned⟩
      rw [step_returned replicated.replicating known returned found]
      exact replicated.honoured callId old known

theorem Replicated.upToDate
    (replicated : Replicated replicator) : replicator.UpToDate := by
  rintro nodeId peer _ _ callId call known answer ⟨old, member, same⟩
  have acknowledged :=
    replicated.honoured callId call known answer old member
  rcases acknowledged with ⟨send, sent, name, object, accepted⟩
  exact ⟨send, sent, name.trans same.1, object.trans same.2, accepted⟩

theorem replicated_start (nodeId : String) :
    Replicated ⟨{ nodeId := nodeId }, Dict.empty⟩ where
  replicating :=
    { mode := rfl
      named := by
        intro other peer found
        cases found
      calls := by
        intro callId call found
        cases found }
  honoured := by
    intro callId call found
    cases found

/--
Along every run of a synchronous engine, the calls that return true have reached
all their peers exactly if every call returns completely; then no healthy peer
has missed an acknowledged operation.
-/
theorem replicated_everywhere_iff
    (nodeId : String) (actions : List ReplicationStep) :
    (AllSteps Replicator.step Honours
          ⟨{ nodeId := nodeId }, Dict.empty⟩ actions ↔
        AllSteps Replicator.step ReturnsComplete
          ⟨{ nodeId := nodeId }, Dict.empty⟩ actions) ∧
      (AllSteps Replicator.step ReturnsComplete
          ⟨{ nodeId := nodeId }, Dict.empty⟩ actions →
        (run Replicator.step ⟨{ nodeId := nodeId }, Dict.empty⟩
          actions).UpToDate) := by
  have start := replicated_start nodeId
  have keepsReplicating :
      ∀ replicator action,
        Replicating replicator →
          Replicating (Replicator.step replicator action) :=
    fun _ action replicating => replicating_step replicating action
  have keepsReplicated :
      ∀ replicator action,
        Replicated replicator → ReturnsComplete replicator action →
          Replicated (Replicator.step replicator action) :=
    fun _ _ replicated complete => replicated_step replicated complete
  constructor
  · apply allSteps_iff_of_invariant keepsReplicating
    · intro replicator action replicating
      exact honours_iff replicating action
    · exact start.replicating
  · intro complete
    exact (run_invariant keepsReplicated start complete).upToDate

/-- Two peers accept a write and a delete. -/
def acceptedCalls : List ReplicationStep :=
  [.addPeer "b", .addPeer "c",
    .replicateWrite 0 "volume" 0 "block" "fingerprint" [1, 2],
    .endSend 0 1 .accepted, .endSend 0 0 .accepted, .finish 0,
    .replicateDelete 1 "volume" "block",
    .endSend 1 0 .accepted, .endSend 1 1 .accepted, .finish 1]

theorem replicated_everywhere_acceptedCalls :
    (run Replicator.step ⟨{ nodeId := "a" }, Dict.empty⟩
      acceptedCalls).UpToDate := by
  apply (replicated_everywhere_iff "a" acceptedCalls).2
  refine ⟨trivial, trivial, trivial, trivial, trivial, ?_, trivial,
    trivial, trivial, ?_, trivial⟩
  · intro call known _
    cases known
    left
    simp only [ReplicationCall.Complete]
    decide +kernel
  · intro call known _
    cases known
    left
    simp only [ReplicationCall.Complete]
    decide +kernel

/-- A peer misses a write and accepts the delete that follows. -/
def missedWrite : List ReplicationStep :=
  [.addPeer "b", .addPeer "c",
    .replicateWrite 0 "volume" 0 "block" "fingerprint" [1, 2],
    .endSend 0 0 .accepted, .endSend 0 1 .failed, .finish 0,
    .replicateDelete 1 "volume" "other",
    .endSend 1 0 .accepted, .endSend 1 1 .accepted, .finish 1]

theorem missedWrite_masked :
    ¬ AllSteps Replicator.step Honours
        ⟨{ nodeId := "a" }, Dict.empty⟩ missedWrite ∧
      ¬ (run Replicator.step ⟨{ nodeId := "a" }, Dict.empty⟩
        missedWrite).UpToDate := by
  constructor
  · intro honours
    have returned := honours.2.2.2.2.2.1
    have honoured := returned 0 _ rfl (by decide +kernel) rfl
    revert honoured
    simp only [ReplicationCall.AcknowledgedBy]
    decide +kernel
  · intro upToDate
    have acknowledged := upToDate "c" _ rfl rfl 0 _ rfl rfl
    revert acknowledged
    simp only [ReplicationCall.AcknowledgedBy]
    decide +kernel

end Steps

end StorageAppliance.ActiveCluster
