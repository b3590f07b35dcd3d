import StorageAppliance.ActiveCluster.Journal

/-!
# Order of the acknowledgements

A pass does not end at an operation that fails, so a peer can accept a later
operation first and the failed one in the next pass.  `acknowledged_in_order`
says that this is the only way in which a peer gets operations out of order.
-/

namespace StorageAppliance.ActiveCluster

open StorageAppliance.Library

namespace Journaling

/-- The operations that a peer has acknowledged, in order of the first time. -/
def firstAcknowledgements (self : Journaling) (peer : String) : List Nat :=
  ((self.acknowledged.filter fun entry => entry.1 = peer).map
    Prod.snd).eraseDups

/-- Every peer has acknowledged operations in the order of their numbers. -/
def Ordered (self : Journaling) : Prop :=
  ∀ peer, (self.firstAcknowledgements peer).Pairwise (· < ·)

end Journaling

/--
A peer that accepts an operation has accepted every earlier operation that is
still in the journal.
-/
def AcceptsInTurn (journaling : Journaling) : JournalStep → Prop
  | .endSend index .accepted =>
      ∀ pass ∈ journaling.pass,
        ∀ send ∈ pass.sends[index]?,
          send.outcome = none →
            ∀ operation ∈ journaling.journal,
              operation.sequenceNumber <
                  pass.operation.sequenceNumber →
                (send.nodeId, operation.sequenceNumber) ∈
                  journaling.acknowledged
  | _ => True

/-- A peer has accepted all that is queued before what it has accepted. -/
structure InTurn (journaling : Journaling) : Prop where
  journaled : Journaled journaling
  numbered :
    ∀ entry ∈ journaling.acknowledged,
      entry.2 ≤ journaling.engine.sequenceNumber
  caughtUp :
    ∀ peer number,
      (peer, number) ∈ journaling.acknowledged →
        ∀ operation ∈ journaling.journal,
          operation.sequenceNumber < number →
            (peer, operation.sequenceNumber) ∈ journaling.acknowledged
  ordered : journaling.Ordered

section Order

variable
    {journaling after : Journaling}
    {action : JournalStep}

theorem mem_firstAcknowledgements_iff {peer : String} {number : Nat} :
    number ∈ journaling.firstAcknowledgements peer ↔
      (peer, number) ∈ journaling.acknowledged := by
  rw [Journaling.firstAcknowledgements, List.mem_eraseDups]
  simp

/-- The first acknowledgements after one more. -/
theorem firstAcknowledgements_concat
    {sender : String} {number : Nat}
    (acknowledged :
      after.acknowledged =
        journaling.acknowledged ++ [(sender, number)])
    (peer : String) :
    after.firstAcknowledgements peer =
      journaling.firstAcknowledgements peer ++
        if sender = peer ∧ (peer, number) ∉ journaling.acknowledged then
          [number]
        else
          [] := by
  by_cases same : sender = peer
  · subst same
    by_cases known : (sender, number) ∈ journaling.acknowledged
    · simp [Journaling.firstAcknowledgements, acknowledged,
        List.eraseDups_append, List.removeAll, known]
    · simp [Journaling.firstAcknowledgements, acknowledged,
        List.eraseDups_append, List.eraseDups_cons, List.removeAll,
        known]
  · simp [Journaling.firstAcknowledgements, acknowledged, same]

theorem inTurn_step
    (inTurn : InTurn journaling)
    (accepts : AcceptsInTurn journaling action) :
    InTurn (journaling.step action) := by
  have journaled := journaled_step inTurn.journaled action
  cases step_moves inTurn.journaled action with
  | queued _ number journal sequenceNumber _ acknowledged =>
      refine ⟨journaled, ?_, ?_, ?_⟩
      · rw [acknowledged, sequenceNumber]
        intro entry member
        exact Nat.le_succ_of_le (inTurn.numbered entry member)
      · rw [acknowledged, journal]
        intro peer earlier member operation queued older
        rcases List.mem_append.mp queued with old | new
        · exact inTurn.caughtUp peer earlier member operation old older
        · rw [List.mem_singleton] at new
          have bounded := inTurn.numbered _ member
          rw [new, number] at older
          exact absurd older (by omega)
      · intro peer
        rw [Journaling.firstAcknowledgements, acknowledged]
        exact inTurn.ordered peer
  | processed _ journal sequenceNumber _ acknowledged =>
      refine ⟨journaled, ?_, ?_, ?_⟩
      · rw [acknowledged, sequenceNumber]
        exact inTurn.numbered
      · rw [acknowledged]
        intro peer earlier member operation queued
        exact inTurn.caughtUp peer earlier member operation
          (journal.subset queued)
      · intro peer
        rw [Journaling.firstAcknowledgements, acknowledged]
        exact inTurn.ordered peer
  | @acknowledged pass index send ends under listed pending _ journal
      sequenceNumber _ acknowledged =>
      subst ends
      have current : pass.operation ∈ journaling.journal :=
        (inTurn.journaled.passing pass under).subset (by simp)
      refine ⟨journaled, ?_, ?_, ?_⟩
      · rw [acknowledged, sequenceNumber]
        intro entry member
        rcases List.mem_append.mp member with old | new
        · exact inTurn.numbered entry old
        · rw [List.mem_singleton.mp new]
          exact inTurn.journaled.numbered _ current
      · rw [acknowledged, journal]
        intro peer number member operation queued older
        apply List.mem_append_left
        rcases List.mem_append.mp member with old | new
        · exact inTurn.caughtUp peer number old operation queued older
        · rw [List.mem_singleton] at new
          cases new
          exact accepts pass under send listed pending operation queued
            older
      · intro peer
        rw [firstAcknowledgements_concat acknowledged]
        split
        · rename_i first
          rcases first with ⟨rfl, unknown⟩
          rw [List.pairwise_append]
          refine
            ⟨inTurn.ordered send.nodeId, List.pairwise_singleton _ _, ?_⟩
          intro earlier member number same
          rw [List.mem_singleton] at same
          subst same
          rw [mem_firstAcknowledgements_iff] at member
          by_contra late
          rcases Nat.lt_or_eq_of_le (Nat.le_of_not_lt late) with
            older | equal
          · exact unknown
              (inTurn.caughtUp send.nodeId earlier member _ current older)
          · exact unknown (equal ▸ member)
        · rw [List.append_nil]
          exact inTurn.ordered peer

theorem inTurn_start (nodeId : String) :
    InTurn (Journaling.start nodeId) where
  journaled := journaled_start nodeId
  numbered := by
    intro entry member
    cases member
  caughtUp := by
    intro peer number member
    cases member
  ordered := by
    intro peer
    exact List.Pairwise.nil

/--
In every run of an asynchronous engine in which peers accept operations in turn,
every peer acknowledges operations in the order of their sequence numbers.
-/
theorem acknowledged_in_order
    {nodeId : String} {steps : List JournalStep}
    (accepts :
      AllSteps Journaling.step AcceptsInTurn (Journaling.start nodeId)
        steps) :
    (run Journaling.step (Journaling.start nodeId) steps).Ordered := by
  have keeps :
      ∀ journaling action,
        InTurn journaling → AcceptsInTurn journaling action →
          InTurn (Journaling.step journaling action) :=
    fun _ _ inTurn accepts => inTurn_step inTurn accepts
  exact (run_invariant keeps (inTurn_start nodeId) accepts).ordered

end Order

/-- A write fails and is sent again before the delete that follows it. -/
def retriedFirst : List JournalStep :=
  [.call (.addPeer "b"),
    .call (.replicateWrite 0 "volume" 0 "block" "fingerprint" [1, 2]),
    .processJournal, .endSend 0 .failed, .resume,
    .call (.replicateDelete 1 "volume" "block"),
    .processJournal, .endSend 0 .accepted, .resume,
    .endSend 0 .accepted, .resume]

theorem acknowledged_in_order_retriedFirst :
    (run Journaling.step (Journaling.start "a")
      retriedFirst).acknowledged = [("b", 1), ("b", 2)] ∧
      (run Journaling.step (Journaling.start "a")
        retriedFirst).Ordered := by
  refine ⟨by decide +kernel, acknowledged_in_order ?_⟩
  refine ⟨trivial, trivial, trivial, trivial, trivial, trivial, trivial,
    ?_, trivial, ?_, trivial, trivial⟩
  · intro pass under send listed pending
    cases under
    cases listed
    decide +kernel
  · intro pass under send listed pending
    cases under
    cases listed
    decide +kernel

/-- A write fails, and the delete that follows it is accepted first. -/
def overtakenWrite : List JournalStep :=
  [.call (.addPeer "b"),
    .call (.replicateWrite 0 "volume" 0 "block" "fingerprint" [1, 2]),
    .call (.replicateDelete 1 "volume" "block"),
    .processJournal, .endSend 0 .failed, .resume,
    .endSend 0 .accepted, .resume,
    .processJournal, .endSend 0 .accepted, .resume]

theorem overtakenWrite_disordered :
    (run Journaling.step (Journaling.start "a")
        overtakenWrite).acknowledged = [("b", 2), ("b", 1)] ∧
      ¬ (run Journaling.step (Journaling.start "a")
        overtakenWrite).Ordered := by
  refine ⟨by decide +kernel, ?_⟩
  intro ordered
  have acknowledged := ordered "b"
  revert acknowledged
  decide +kernel

end StorageAppliance.ActiveCluster
