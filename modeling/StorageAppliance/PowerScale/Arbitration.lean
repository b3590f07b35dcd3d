import StorageAppliance.Library.Answers
import StorageAppliance.PowerScale.SiteFailover

/-!
# Arbitration between sites

The witness of a metro cluster is there to decide which site may take over.
It registers every site as healthy and nothing ever changes a registration, so
it counts the sites that were added and does not tell them apart.

`SiteHistory` is what a cluster comes to: the sites that were added, the names
that failed and the volumes that were promoted.  `failovers_follow_history` says
that every run of a cluster follows it, that nothing in it is taken back, and
that the order of failovers between the same sites makes no difference.  So two
sites take over from each other, one after the other, and then a write is
acknowledged that no site has stored (`both_sites_take_over`).
-/

namespace StorageAppliance.PowerScale

open StorageAppliance.Go
open StorageAppliance.Library

/-! ## Calls -/

/-- A call that changes the sites of a cluster. -/
inductive SiteCall where
  | addSite (site : ArraySite)
  | performFailover (failedSite targetSite : String)

namespace VPLEXMetroCluster

/-- Answer a call. -/
def serve (self : VPLEXMetroCluster) :
    SiteCall → Except Fault Unit × VPLEXMetroCluster
  | .addSite site => self.addSite site
  | .performFailover failedSite targetSite =>
      self.performFailover failedSite targetSite

/-- A new cluster, and the volumes that its arrays will refer to. -/
def newWith (witnessEnabled : Bool) (volumes : Dict Nat VirtualVolume) :
    VPLEXMetroCluster :=
  { new witnessEnabled with volumes := volumes }

/-- A write to a volume of the cluster, with the results of its sites. -/
def writeToVolume (self : VPLEXMetroCluster)
    (writeToSite : String → Option GoError) (volumeId : String)
    (offset : ℤ) (sequenceNumber : Nat) : VolumeWrite where
  sites := self.sites.values.map ArraySite.toClusterSite
  writeToSite := writeToSite
  volumeId := volumeId
  offset := offset
  sequenceNumber := sequenceNumber

end VPLEXMetroCluster

/-! ## Histories -/

/-- The sites as they were added, and what has failed or was promoted since. -/
structure SiteHistory where
  sites : String → Option ArraySite := fun _ => none
  added : Nat := 0
  failed : String → Bool := fun _ => false
  promoted : List Nat := []

namespace SiteHistory

variable
    (witnessEnabled : Bool)
    (self : SiteHistory)

/-- A failover is granted from two sites on, or if nobody is asked. -/
def granted : Bool :=
  !witnessEnabled || 2 ≤ self.added

/-- A site as it is now. -/
def site? (name : String) : Option ArraySite :=
  (self.sites name).map fun site =>
    { site with healthy := site.healthy && !self.failed name }

/-- Answer a call. -/
def serve : SiteCall → Except Fault Unit × SiteHistory
  | .addSite site =>
      match self.sites site.siteId with
      | some _ =>
          (.error (errorf ("site already exists: " ++ site.siteId)), self)
      | none =>
          (.ok (),
            { self with
              sites := Function.update self.sites site.siteId (some site)
              added := self.added + 1 })
  | .performFailover failedSite targetSite =>
      match self.sites failedSite, self.sites targetSite with
      | none, _ =>
          (.error (errorf ("site not found: " ++ failedSite)), self)
      | some _, none =>
          (.error (errorf ("target site not found: " ++ targetSite)), self)
      | some _, some target =>
          let marked :=
            { self with
              failed := Function.update self.failed failedSite true }
          if self.granted witnessEnabled then
            (.ok (),
              { marked with
                promoted := self.promoted ++ target.volumeRefs })
          else
            (.error (errorf "insufficient quorum for failover"), marked)

end SiteHistory

/-- A cluster is what its history comes to. -/
structure Follows (witnessEnabled : Bool) (volumes : Dict Nat VirtualVolume)
    (cluster : VPLEXMetroCluster) (history : SiteHistory) : Prop where
  sites : ∀ name, cluster.sites.get? name = history.site? name
  volumes :
    ∀ reference,
      cluster.volumes.get? reference =
        (promoteVolumes history.promoted volumes).get? reference
  unfailed : ∀ name, history.sites name = none → history.failed name = false
  enabled : cluster.witness.isSome = witnessEnabled
  threshold :
    ∀ witness, cluster.witness = some witness → witness.quorumThreshold = 2
  counted :
    ∀ witness,
      cluster.witness = some witness →
        witness.registeredSites.values.countP id = history.added
  unregistered :
    ∀ witness name,
      cluster.witness = some witness →
        history.sites name = none →
          witness.registeredSites.get? name = none

/-! ## Steps -/

section Steps

variable
    {witnessEnabled : Bool}
    {volumes : Dict Nat VirtualVolume}
    {cluster : VPLEXMetroCluster}
    {history : SiteHistory}

/-- The witness counts the sites that were added. -/
theorem Follows.hasQuorum
    (follows : Follows witnessEnabled volumes cluster history) :
    cluster.hasQuorum = history.granted witnessEnabled := by
  rw [VPLEXMetroCluster.hasQuorum, SiteHistory.granted]
  have enabled := follows.enabled
  cases present : cluster.witness with
  | none =>
      rw [present] at enabled
      rw [← enabled]
      rfl
  | some witness =>
      rw [present] at enabled
      rw [← enabled]
      dsimp only
      rw [WitnessService.checkQuorum, follows.threshold witness present,
        follows.counted witness present]
      simp only [Option.isSome_some, Bool.not_true, Bool.false_or,
        decide_eq_decide]
      omega

theorem Follows.contains
    (follows : Follows witnessEnabled volumes cluster history)
    (name : String) :
    cluster.sites.contains name = (history.sites name).isSome := by
  rw [Dict.contains, follows.sites, SiteHistory.site?, Option.isSome_map]

/-- A new site is healthy unless it was added as failed. -/
theorem Follows.addSite
    (follows : Follows witnessEnabled volumes cluster history)
    {site : ArraySite} (absent : history.sites site.siteId = none) :
    Follows witnessEnabled volumes (cluster.addSite site).2
      { history with
        sites := Function.update history.sites site.siteId (some site)
        added := history.added + 1 } := by
  have unknown : cluster.sites.contains site.siteId = false := by
    rw [follows.contains, absent]
    rfl
  rw [VPLEXMetroCluster.addSite, unknown]
  simp only [Bool.false_eq_true, if_false]
  refine
    { sites := ?_
      volumes := follows.volumes
      unfailed := ?_
      enabled := ?_
      threshold := ?_
      counted := ?_
      unregistered := ?_ }
  · intro name
    rw [Dict.get?_set, SiteHistory.site?]
    dsimp only
    rw [Function.update_apply]
    split
    · rename_i same
      rw [same, Option.map_some, follows.unfailed _ absent, Bool.not_false,
        Bool.and_true]
    · exact follows.sites name
  · intro name missing
    dsimp only at missing
    rw [Function.update_apply] at missing
    split at missing
    · cases missing
    · exact follows.unfailed name missing
  · rw [Option.isSome_map]
    exact follows.enabled
  · intro witness present
    rcases Option.map_eq_some_iff.mp present with ⟨before, known, rfl⟩
    exact follows.threshold before known
  · intro witness present
    rcases Option.map_eq_some_iff.mp present with ⟨before, known, rfl⟩
    have fresh := follows.unregistered before site.siteId known absent
    rw [← follows.counted before known, WitnessService.registerSite,
      Dict.values, Dict.items_set_of_absent true fresh, List.map_append,
      List.countP_append]
    rfl
  · intro witness name present missing
    rcases Option.map_eq_some_iff.mp present with ⟨before, known, rfl⟩
    dsimp only at missing
    rw [Function.update_apply] at missing
    split at missing
    · cases missing
    · rename_i apart
      rw [WitnessService.registerSite, Dict.get?_set_ne _ _ apart]
      exact follows.unregistered before name known missing

/-- A site that is named as failed is marked, whatever the witness says. -/
theorem Follows.markUnhealthy
    (follows : Follows witnessEnabled volumes cluster history)
    {failedSite : String} (known : history.sites failedSite ≠ none) :
    Follows witnessEnabled volumes (cluster.markUnhealthy failedSite)
      { history with
        failed := Function.update history.failed failedSite true } := by
  refine
    { sites := ?_
      volumes := follows.volumes
      unfailed := ?_
      enabled := follows.enabled
      threshold := follows.threshold
      counted := follows.counted
      unregistered := follows.unregistered }
  · intro name
    rw [VPLEXMetroCluster.markUnhealthy, Dict.get?_modify, follows.sites,
      SiteHistory.site?, SiteHistory.site?]
    dsimp only
    split
    · rename_i same
      rw [same, Function.update_self, Option.map_map]
      simp only [Bool.not_true, Bool.and_false]
      rfl
    · rename_i apart
      rw [Function.update_of_ne apart]
  · intro name missing
    have apart : name ≠ failedSite := by
      rintro rfl
      exact known missing
    dsimp only
    rw [Function.update_of_ne apart]
    exact follows.unfailed name missing

theorem promoteVolumes_append (first second : List Nat) :
    promoteVolumes (first ++ second) volumes =
      promoteVolumes second (promoteVolumes first volumes) :=
  List.foldl_append

/-- Promoting the same volumes makes no difference elsewhere. -/
theorem Follows.promote
    (follows : Follows witnessEnabled volumes cluster history)
    (references : List Nat) :
    Follows witnessEnabled volumes
      { cluster with
        volumes := promoteVolumes references cluster.volumes }
      { history with promoted := history.promoted ++ references } := by
  refine
    { sites := follows.sites
      volumes := ?_
      unfailed := follows.unfailed
      enabled := follows.enabled
      threshold := follows.threshold
      counted := follows.counted
      unregistered := follows.unregistered }
  intro reference
  dsimp only
  rw [promoteVolumes_append, get?_promoteVolumes, get?_promoteVolumes,
    follows.volumes]

/-- A failover between sites that are there. -/
theorem Follows.performFailover
    (follows : Follows witnessEnabled volumes cluster history)
    {failedSite targetSite : String} {failed target : ArraySite}
    (failedKnown : history.sites failedSite = some failed)
    (targetKnown : history.sites targetSite = some target) :
    (cluster.performFailover failedSite targetSite).1 =
        (history.serve witnessEnabled
          (.performFailover failedSite targetSite)).1 ∧
      Follows witnessEnabled volumes
        (cluster.performFailover failedSite targetSite).2
        (history.serve witnessEnabled
          (.performFailover failedSite targetSite)).2 := by
  have contained : cluster.sites.contains failedSite = true := by
    rw [follows.contains, failedKnown]
    rfl
  have found := follows.sites targetSite
  rw [SiteHistory.site?, targetKnown, Option.map_some] at found
  have known : history.sites failedSite ≠ none := by
    rw [failedKnown]
    exact Option.some_ne_none _
  have marked := follows.markUnhealthy known
  have quorum :
      (cluster.markUnhealthy failedSite).hasQuorum =
        history.granted witnessEnabled :=
    marked.hasQuorum
  simp only [VPLEXMetroCluster.performFailover, contained, found, quorum,
    SiteHistory.serve, failedKnown, targetKnown, Bool.true_eq_false,
    if_false]
  split
  · exact ⟨rfl, marked.promote target.volumeRefs⟩
  · exact ⟨rfl, marked⟩

/-- A call is answered as the history answers it. -/
theorem Follows.serve
    (follows : Follows witnessEnabled volumes cluster history)
    (call : SiteCall) :
    (cluster.serve call).1 = (history.serve witnessEnabled call).1 ∧
      Follows witnessEnabled volumes (cluster.serve call).2
        (history.serve witnessEnabled call).2 := by
  cases call with
  | addSite site =>
      rw [VPLEXMetroCluster.serve, SiteHistory.serve]
      cases listed : history.sites site.siteId with
      | none =>
          refine ⟨?_, follows.addSite listed⟩
          rw [VPLEXMetroCluster.addSite, follows.contains, listed]
          rfl
      | some before =>
          rw [VPLEXMetroCluster.addSite, follows.contains, listed]
          exact ⟨rfl, follows⟩
  | performFailover failedSite targetSite =>
      rw [VPLEXMetroCluster.serve]
      cases failed : history.sites failedSite with
      | none =>
          rw [VPLEXMetroCluster.performFailover, follows.contains]
          simp only [SiteHistory.serve, failed]
          exact ⟨rfl, follows⟩
      | some failedEntry =>
          cases target : history.sites targetSite with
          | none =>
              have found := follows.sites targetSite
              rw [SiteHistory.site?, target, Option.map_none] at found
              rw [VPLEXMetroCluster.performFailover, follows.contains]
              simp only [SiteHistory.serve, failed, target, found]
              exact ⟨rfl, follows⟩
          | some targetEntry =>
              exact follows.performFailover failed target

theorem lockstep_sites :
    Lockstep VPLEXMetroCluster.serve (SiteHistory.serve witnessEnabled)
      (Follows witnessEnabled volumes) where
  answers := fun _ _ call follows => (follows.serve call).1
  related := fun _ _ call follows => (follows.serve call).2

theorem follows_newWith
    (witnessEnabled : Bool) (volumes : Dict Nat VirtualVolume) :
    Follows witnessEnabled volumes
      (VPLEXMetroCluster.newWith witnessEnabled volumes) {} := by
  refine
    { sites := fun _ => rfl
      volumes := fun _ => rfl
      unfailed := fun _ _ => rfl
      enabled := ?_
      threshold := ?_
      counted := ?_
      unregistered := ?_ }
  · cases witnessEnabled with
    | false => rfl
    | true => rfl
  · intro witness present
    cases witnessEnabled with
    | false => cases present
    | true =>
        cases present
        rfl
  · intro witness present
    cases witnessEnabled with
    | false => cases present
    | true =>
        cases present
        rfl
  · intro witness name present _
    cases witnessEnabled with
    | false => cases present
    | true =>
        cases present
        rfl

end Steps

/-! ## Runs -/

/-- The cluster after some calls. -/
def VPLEXMetroCluster.afterCalls (self : VPLEXMetroCluster)
    (calls : List SiteCall) : VPLEXMetroCluster :=
  run (nextState VPLEXMetroCluster.serve) self calls

/-- The history after some calls. -/
def SiteHistory.afterCalls (self : SiteHistory) (witnessEnabled : Bool)
    (calls : List SiteCall) : SiteHistory :=
  run (nextState (SiteHistory.serve witnessEnabled)) self calls

/-! ## What stays -/

/-- What happened in a history has happened in a later one. -/
structure Later (before after : SiteHistory) : Prop where
  sites :
    ∀ name site,
      before.sites name = some site → after.sites name = some site
  added : before.added ≤ after.added
  failed :
    ∀ name, before.failed name = true → after.failed name = true
  promoted : before.promoted ⊆ after.promoted

/-- Different sites were added one by one. -/
structure Counted (history : SiteHistory) : Prop where
  one : ∀ name, history.sites name ≠ none → 1 ≤ history.added
  two :
    ∀ name other,
      name ≠ other →
        history.sites name ≠ none →
          history.sites other ≠ none → 2 ≤ history.added

section Histories

variable
    {witnessEnabled : Bool}
    {history : SiteHistory}

theorem Later.refl (history : SiteHistory) : Later history history :=
  ⟨fun _ _ listed => listed, Nat.le_refl _, fun _ failed => failed,
    fun _ => id⟩

theorem Later.trans
    {first second third : SiteHistory}
    (left : Later first second) (right : Later second third) :
    Later first third where
  sites := fun name site listed =>
    right.sites name site (left.sites name site listed)
  added := Nat.le_trans left.added right.added
  failed := fun name failed => right.failed name (left.failed name failed)
  promoted := fun _ member => right.promoted (left.promoted member)

/-- Nothing is taken back. -/
theorem later_serve (call : SiteCall) :
    Later history (history.serve witnessEnabled call).2 := by
  have same := Later.refl history
  have marked :
      ∀ failedSite name,
        history.failed name = true →
          Function.update history.failed failedSite true name = true := by
    intro failedSite name failed
    rw [Function.update_apply]
    split
    · rfl
    · exact failed
  cases call with
  | addSite site =>
      rw [SiteHistory.serve]
      cases absent : history.sites site.siteId with
      | some before => exact same
      | none =>
          refine
            ⟨?_, Nat.le_succ history.added, fun _ failed => failed,
              fun _ => id⟩
          intro name known listed
          have apart : name ≠ site.siteId := by
            rintro rfl
            rw [absent] at listed
            cases listed
          exact (Function.update_of_ne apart _ _).trans listed
  | performFailover failedSite targetSite =>
      rw [SiteHistory.serve]
      split
      · exact same
      · exact same
      · dsimp only
        split
        · exact
            ⟨fun _ _ listed => listed, Nat.le_refl _, marked failedSite,
              fun _ member => List.mem_append_left _ member⟩
        · exact
            ⟨fun _ _ listed => listed, Nat.le_refl _, marked failedSite,
              fun _ => id⟩

theorem later_afterCalls (calls : List SiteCall) :
    Later history (history.afterCalls witnessEnabled calls) := by
  induction calls generalizing history with
  | nil => exact Later.refl history
  | cons call rest induction => exact (later_serve call).trans induction

theorem Counted.serve (counted : Counted history) (call : SiteCall) :
    Counted (history.serve witnessEnabled call).2 := by
  cases call with
  | addSite site =>
      rw [SiteHistory.serve]
      cases history.sites site.siteId with
      | some before => exact counted
      | none =>
          refine ⟨fun _ _ => Nat.le_add_left 1 history.added, ?_⟩
          intro name other apart listed otherListed
          dsimp only at listed otherListed ⊢
          rw [Function.update_apply] at listed otherListed
          split at listed
          · rename_i same
            have different : other ≠ site.siteId := by
              rw [← same]
              exact apart.symm
            rw [if_neg different] at otherListed
            have one := counted.one other otherListed
            omega
          · have one := counted.one name listed
            omega
  | performFailover failedSite targetSite =>
      rw [SiteHistory.serve]
      split
      · exact counted
      · exact counted
      · dsimp only
        split
        · exact ⟨counted.one, counted.two⟩
        · exact ⟨counted.one, counted.two⟩

theorem counted_afterCalls (calls : List SiteCall) :
    Counted (SiteHistory.afterCalls {} witnessEnabled calls) := by
  apply run_invariant_of_step
  · exact fun history call counted => counted.serve call
  · exact
      ⟨fun _ known => (known rfl).elim, fun _ _ _ known => (known rfl).elim⟩

end Histories

/-! ## Failovers in any order -/

/-- Failovers from sites to others. -/
def failovers (pairs : List (String × String)) : List SiteCall :=
  pairs.map fun pair => .performFailover pair.1 pair.2

/-- What failovers between the known sites make of a history. -/
structure FailedOver (witnessEnabled : Bool) (before : SiteHistory)
    (pairs : List (String × String)) (after : SiteHistory) : Prop where
  sites : after.sites = before.sites
  added : after.added = before.added
  failed :
    ∀ name,
      after.failed name = true ↔
        before.failed name = true ∨
          ∃ pair ∈ pairs,
            pair.1 = name ∧ (before.sites pair.1).isSome = true ∧
              (before.sites pair.2).isSome = true
  promoted :
    ∀ reference,
      reference ∈ after.promoted ↔
        reference ∈ before.promoted ∨
          before.granted witnessEnabled = true ∧
            ∃ pair ∈ pairs,
              (before.sites pair.1).isSome = true ∧
                ∃ target ∈ before.sites pair.2,
                  reference ∈ target.volumeRefs

section Orders

variable
    {witnessEnabled : Bool}
    {history : SiteHistory}

/-- One failover. -/
theorem failedOver_serve (failedSite targetSite : String) :
    FailedOver witnessEnabled history [(failedSite, targetSite)]
      (history.serve witnessEnabled
        (.performFailover failedSite targetSite)).2 := by
  rw [SiteHistory.serve]
  cases known : history.sites failedSite with
  | none => exact ⟨rfl, rfl, by simp [known], by simp [known]⟩
  | some site =>
      cases targeted : history.sites targetSite with
      | none => exact ⟨rfl, rfl, by simp [targeted], by simp [targeted]⟩
      | some target =>
          have marks :
              ∀ name,
                Function.update history.failed failedSite true name =
                    true ↔
                  history.failed name = true ∨ failedSite = name := by
            intro name
            rw [Function.update_apply]
            split
            · rename_i same
              simp [same]
            · rename_i apart
              simp [Ne.symm apart]
          dsimp only
          split
          · rename_i granted
            exact
              ⟨rfl, rfl, by simp [marks, known, targeted],
                by simp [granted, known, targeted]⟩
          · rename_i refused
            exact
              ⟨rfl, rfl, by simp [marks, known, targeted],
                by simp [refused]⟩

theorem FailedOver.cons
    {first after : SiteHistory} {pair : String × String}
    {rest : List (String × String)}
    (here : FailedOver witnessEnabled history [pair] first)
    (later : FailedOver witnessEnabled first rest after) :
    FailedOver witnessEnabled history (pair :: rest) after where
  sites := later.sites.trans here.sites
  added := later.added.trans here.added
  failed := by
    intro name
    rw [later.failed, here.failed, here.sites]
    simp only [exists_eq_left, List.mem_cons, exists_eq_or_imp,
      List.not_mem_nil, or_false, or_assoc]
  promoted := by
    intro reference
    have granted :
        first.granted witnessEnabled = history.granted witnessEnabled := by
      rw [SiteHistory.granted, SiteHistory.granted, here.added]
    rw [later.promoted, here.promoted, here.sites, granted]
    simp only [exists_eq_left, List.mem_cons, exists_eq_or_imp,
      List.not_mem_nil, or_false, or_assoc, and_or_left]

theorem failedOver_afterCalls (pairs : List (String × String)) :
    FailedOver witnessEnabled history pairs
      (history.afterCalls witnessEnabled (failovers pairs)) := by
  induction pairs generalizing history with
  | nil => exact ⟨rfl, rfl, by simp [failovers, SiteHistory.afterCalls],
      by simp [failovers, SiteHistory.afterCalls]⟩
  | cons pair rest induction =>
      exact (failedOver_serve pair.1 pair.2).cons induction

/-- The same failovers leave the same sites and promote the same volumes. -/
theorem FailedOver.same
    {pairs others : List (String × String)} {one other : SiteHistory}
    (left : FailedOver witnessEnabled history pairs one)
    (right : FailedOver witnessEnabled history others other)
    (members : ∀ pair, pair ∈ pairs ↔ pair ∈ others) :
    (∀ name, one.site? name = other.site? name) ∧
      ∀ reference,
        reference ∈ one.promoted ↔ reference ∈ other.promoted := by
  constructor
  · intro name
    have failed : one.failed name = other.failed name := by
      rw [Bool.eq_iff_iff, left.failed, right.failed]
      simp only [members]
    rw [SiteHistory.site?, SiteHistory.site?, left.sites, right.sites,
      failed]
  · intro reference
    rw [left.promoted, right.promoted]
    simp only [members]

end Orders

/-- Failovers have the same effect in any order and however often they are. -/
def OrderFree (cluster : VPLEXMetroCluster) : Prop :=
  ∀ first second : List (String × String),
    (∀ pair, pair ∈ first ↔ pair ∈ second) →
      (∀ name,
          (cluster.afterCalls (failovers first)).sites.get? name =
            (cluster.afterCalls (failovers second)).sites.get? name) ∧
        ∀ reference,
          (cluster.afterCalls (failovers first)).volumes.get? reference =
            (cluster.afterCalls (failovers second)).volumes.get? reference

theorem Follows.orderFree
    {witnessEnabled : Bool} {volumes : Dict Nat VirtualVolume}
    {cluster : VPLEXMetroCluster} {history : SiteHistory}
    (follows : Follows witnessEnabled volumes cluster history) :
    OrderFree cluster := by
  intro first second members
  have one := lockstep_sites.run follows (failovers first)
  have other := lockstep_sites.run follows (failovers second)
  have same :=
    (@failedOver_afterCalls witnessEnabled history first).same
      (@failedOver_afterCalls witnessEnabled history second) members
  constructor
  · intro name
    exact (one.sites name).trans ((same.1 name).trans (other.sites name).symm)
  · intro reference
    refine (one.volumes reference).trans ?_
    refine Eq.trans ?_ (other.volumes reference).symm
    rw [get?_promoteVolumes, get?_promoteVolumes]
    exact if_congr (same.2 reference) rfl rfl

/--
Every run of a cluster is answered as its history answers it.  The sites, the
volumes and the quorum are what the history comes to, no further call takes any
of it back, and failovers between the sites there are have the same effect in
any order.
-/
theorem failovers_follow_history (witnessEnabled : Bool)
    (volumes : Dict Nat VirtualVolume) (calls : List SiteCall) :
    let start := VPLEXMetroCluster.newWith witnessEnabled volumes
    let cluster := start.afterCalls calls
    let history := SiteHistory.afterCalls {} witnessEnabled calls
    answersOf VPLEXMetroCluster.serve start calls =
        answersOf (SiteHistory.serve witnessEnabled) {} calls ∧
      (∀ name, cluster.sites.get? name = history.site? name) ∧
      (∀ reference,
        cluster.volumes.get? reference =
          if reference ∈ history.promoted then
            (volumes.get? reference).map VirtualVolume.promote
          else
            volumes.get? reference) ∧
      cluster.hasQuorum = history.granted witnessEnabled ∧
      (∀ more, Later history (history.afterCalls witnessEnabled more)) ∧
      OrderFree cluster := by
  intro start cluster history
  have first : Follows witnessEnabled volumes start {} :=
    follows_newWith witnessEnabled volumes
  have last : Follows witnessEnabled volumes cluster history :=
    lockstep_sites.run first calls
  refine
    ⟨lockstep_sites.answersOf_eq first calls, last.sites, ?_,
      last.hasQuorum, later_afterCalls, last.orderFree⟩
  intro reference
  rw [last.volumes, get?_promoteVolumes]

/-! ## Writes without sites -/

/-- No goroutine of a site has started. -/
structure Unwritten (state : Writing) : Prop where
  pending : state.caller.pending = []
  running : state.running = []
  errors : state.errChan = []
  acks : state.acks = Dict.empty
  failure :
    ∀ fault,
      state.caller = .returned (some fault) →
        fault = errorf "synchronous write timeout"

/--
No site stores a write.  Some schedule returns nil, and only the timer makes
others fail.
-/
structure AcknowledgedByNobody (call : VolumeWrite) : Prop where
  unwritten :
    ∀ invalidations turns,
      Unwritten (run call.step (call.start invalidations) turns)
  acknowledged :
    ∃ turns, (run call.step (call.start []) turns).caller = .returned none

section Writes

variable
    {call : VolumeWrite}
    {state : Writing}

theorem Unwritten.step (unwritten : Unwritten state) (turn : Turn) :
    Unwritten (call.step state turn) := by
  cases turn with
  | startWriter =>
      rw [VolumeWrite.step, VolumeWrite.startWriter]
      split
      · rename_i site rest starting
        have pending := unwritten.pending
        rw [starting] at pending
        cases pending
      · exact
          ⟨rfl, unwritten.running, unwritten.errors, unwritten.acks,
            fun _ returned => by cases returned⟩
      · exact unwritten
  | writer index =>
      rw [VolumeWrite.step, VolumeWrite.runWriter, unwritten.running]
      exact unwritten
  | waiter =>
      rw [VolumeWrite.step, VolumeWrite.closeDone]
      split
      · exact unwritten
      · split
        · exact
            ⟨unwritten.pending, unwritten.running, unwritten.errors,
              unwritten.acks, unwritten.failure⟩
        · exact unwritten
  | select ready =>
      rw [VolumeWrite.step]
      unfold VolumeWrite.select
      cases state.caller with
      | starting sites => exact unwritten
      | invalidating => exact unwritten
      | returned failure => exact unwritten
      | selecting =>
          cases ready with
          | done =>
              dsimp only
              split
              · exact
                  ⟨rfl, unwritten.running, unwritten.errors,
                    unwritten.acks, fun _ returned => by cases returned⟩
              · exact unwritten
          | timeout =>
              refine
                ⟨rfl, unwritten.running, unwritten.errors, unwritten.acks,
                  ?_⟩
              intro fault returned
              cases returned
              rfl
          | error =>
              dsimp only
              rw [unwritten.errors]
              exact unwritten
  | invalidate =>
      rw [VolumeWrite.step, VolumeWrite.invalidate]
      split
      · split
        · exact
            ⟨rfl, unwritten.running, unwritten.errors, unwritten.acks,
              fun _ returned => by cases returned⟩
        · exact unwritten
      · exact unwritten
  | handleInvalidation =>
      exact
        ⟨unwritten.pending, unwritten.running, unwritten.errors,
          unwritten.acks, unwritten.failure⟩

/-- A write is acknowledged without a healthy site. -/
theorem acknowledgedByNobody (none : call.healthySites = []) :
    AcknowledgedByNobody call where
  unwritten := by
    intro invalidations turns
    have start : Unwritten (call.start invalidations) :=
      ⟨none, rfl, rfl, rfl, fun _ returned => by cases returned⟩
    have keeps :
        ∀ state turn,
          Unwritten state → Unwritten (call.step state turn) :=
      fun _ turn unwritten => unwritten.step turn
    exact run_invariant_of_step keeps turns start
  acknowledged := by
    refine ⟨[.startWriter, .waiter, .select .done, .invalidate], ?_⟩
    simp [VolumeWrite.start, none, VolumeWrite.step,
      VolumeWrite.startWriter, VolumeWrite.closeDone, VolumeWrite.select,
      VolumeWrite.invalidate]

end Writes

/-! ## Failover in both directions -/

/-- The synced volumes of a site are read-write. -/
def ReadWriteAt (cluster : VPLEXMetroCluster) (name : String) : Prop :=
  ∀ site reference volume,
    cluster.sites.get? name = some site →
      reference ∈ site.volumeRefs →
        cluster.volumes.get? reference = some volume →
          volume.replicationState = .synced →
            volume.accessMode = .readWrite

section BothDirections

variable
    {witnessEnabled : Bool}
    {volumes : Dict Nat VirtualVolume}
    {cluster : VPLEXMetroCluster}
    {history : SiteHistory}

/-- A site that has failed is never healthy again. -/
theorem Follows.health_of_failed
    (follows : Follows witnessEnabled volumes cluster history)
    {name : String} {site : ArraySite}
    (known : history.sites name = some site)
    (failed : history.failed name = true) :
    cluster.health name = some false := by
  rw [VPLEXMetroCluster.health, follows.sites, SiteHistory.site?, known,
    failed]
  simp

/-- A site whose volumes were promoted is read-write. -/
theorem Follows.readWriteAt
    (follows : Follows witnessEnabled volumes cluster history)
    {name : String} {added : ArraySite}
    (known : history.sites name = some added)
    (promoted : added.volumeRefs ⊆ history.promoted) :
    ReadWriteAt cluster name := by
  intro site reference volume found member stored synced
  rw [follows.sites, SiteHistory.site?, known, Option.map_some,
    Option.some.injEq] at found
  subst found
  rw [follows.volumes, get?_promoteVolumes, if_pos (promoted member)]
    at stored
  rcases Option.map_eq_some_iff.mp stored with ⟨before, _, rfl⟩
  rw [promote_replicationState] at synced
  exact promote_accessMode before synced

theorem Follows.known_of_health
    (follows : Follows witnessEnabled volumes cluster history)
    {name : String} (known : cluster.health name ≠ none) :
    ∃ site, history.sites name = some site := by
  apply Option.ne_none_iff_exists'.mp
  intro missing
  apply known
  rw [VPLEXMetroCluster.health, follows.sites, SiteHistory.site?, missing]
  rfl

/-- What a history says after a failover that is granted. -/
def SiteHistory.failOver (self : SiteHistory) (failedSite : String)
    (target : ArraySite) : SiteHistory :=
  { self with
    failed := Function.update self.failed failedSite true
    promoted := self.promoted ++ target.volumeRefs }

/-- From two sites on, every failover between known sites is granted. -/
theorem Follows.failOver
    (follows : Follows witnessEnabled volumes cluster history)
    {failedSite targetSite : String} {failed target : ArraySite}
    (failedKnown : history.sites failedSite = some failed)
    (targetKnown : history.sites targetSite = some target)
    (two : 2 ≤ history.added) :
    (cluster.performFailover failedSite targetSite).1 = .ok () ∧
      Follows witnessEnabled volumes
        (cluster.performFailover failedSite targetSite).2
        (history.failOver failedSite target) ∧
      Later history (history.failOver failedSite target) := by
  have granted : history.granted witnessEnabled = true := by
    simp [SiteHistory.granted, two]
  have served :
      history.serve witnessEnabled
          (.performFailover failedSite targetSite) =
        (.ok (), history.failOver failedSite target) := by
    simp only [SiteHistory.serve, failedKnown, targetKnown, granted,
      if_true, SiteHistory.failOver]
  have step := follows.performFailover failedKnown targetKnown
  have later :=
    @later_serve witnessEnabled history
      (.performFailover failedSite targetSite)
  rw [served] at step later
  exact ⟨step.1, step.2, later⟩

/-- Later calls are about a later history. -/
theorem Follows.afterCalls
    (follows : Follows witnessEnabled volumes cluster history)
    (calls : List SiteCall) :
    ∃ after,
      Follows witnessEnabled volumes (cluster.afterCalls calls) after ∧
        Later history after :=
  ⟨_, lockstep_sites.run follows calls, later_afterCalls calls⟩

/-- No site is healthy if the only two are not. -/
theorem healthySites_of_two
    {first second : String}
    (firstFailed : cluster.health first = some false)
    (secondFailed : cluster.health second = some false)
    (others :
      ∀ name,
        name ≠ first → name ≠ second → cluster.health name = none)
    (writeToSite : String → Option GoError) (volumeId : String)
    (offset : ℤ) (sequenceNumber : Nat) :
    (cluster.writeToVolume writeToSite volumeId offset
      sequenceNumber).healthySites = [] := by
  rw [VolumeWrite.healthySites, List.map_eq_nil_iff,
    List.filter_eq_nil_iff]
  intro site listed healthy
  rcases List.mem_map.mp listed with ⟨entry, member, rfl⟩
  rcases Dict.mem_values_iff.mp member with ⟨name, found⟩
  have health : cluster.health name = some true := by
    rw [VPLEXMetroCluster.health, found]
    exact congrArg some healthy
  by_cases isFirst : name = first
  · rw [isFirst, firstFailed] at health
    cases health
  · by_cases isSecond : name = second
    · rw [isSecond, secondFailed] at health
      cases health
    · rw [others name isFirst isSecond] at health
      cases health

/--
In every run, two sites can fail over to each other, whatever happens before,
between and after.  Then neither is healthy and the synced volumes of both are
read-write; if there are no other sites, a write is acknowledged by nobody.
-/
theorem both_sites_take_over (witnessEnabled : Bool)
    (volumes : Dict Nat VirtualVolume)
    (before between later : List SiteCall) {first second : String}
    (apart : first ≠ second)
    (firstKnown :
      ((VPLEXMetroCluster.newWith witnessEnabled volumes).afterCalls
        before).health first ≠ none)
    (secondKnown :
      ((VPLEXMetroCluster.newWith witnessEnabled volumes).afterCalls
        before).health second ≠ none) :
    let start :=
      (VPLEXMetroCluster.newWith witnessEnabled volumes).afterCalls before
    let crossed :=
      (start.performFailover first second).2.afterCalls between
    let cluster :=
      (crossed.performFailover second first).2.afterCalls later
    (start.performFailover first second).1 = .ok () ∧
      (crossed.performFailover second first).1 = .ok () ∧
      cluster.health first = some false ∧
      cluster.health second = some false ∧
      ReadWriteAt cluster first ∧ ReadWriteAt cluster second ∧
      ((∀ name,
          name ≠ first → name ≠ second → cluster.health name = none) →
        ∀ writeToSite volumeId offset sequenceNumber,
          AcknowledgedByNobody
            (cluster.writeToVolume writeToSite volumeId offset
              sequenceNumber)) := by
  intro start crossed cluster
  let early := SiteHistory.afterCalls {} witnessEnabled before
  have earlyFollows : Follows witnessEnabled volumes start early :=
    lockstep_sites.run (follows_newWith witnessEnabled volumes) before
  rcases earlyFollows.known_of_health firstKnown with
    ⟨firstSite, firstListed⟩
  rcases earlyFollows.known_of_health secondKnown with
    ⟨secondSite, secondListed⟩
  have counted : Counted early := counted_afterCalls before
  have two : 2 ≤ early.added :=
    counted.two first second apart (by simp [firstListed])
      (by simp [secondListed])
  rcases earlyFollows.failOver firstListed secondListed two with
    ⟨firstGranted, firstFollows, firstLater⟩
  rcases firstFollows.afterCalls between with
    ⟨middle, middleFollows, betweenLater⟩
  have toMiddle := firstLater.trans betweenLater
  rcases
    middleFollows.failOver (toMiddle.sites second secondSite secondListed)
      (toMiddle.sites first firstSite firstListed)
      (Nat.le_trans two toMiddle.added) with
    ⟨secondGranted, secondFollows, secondLater⟩
  rcases secondFollows.afterCalls later with
    ⟨last, lastFollows, lastLater⟩
  have toLast := toMiddle.trans (secondLater.trans lastLater)
  have firstSites := toLast.sites first firstSite firstListed
  have secondSites := toLast.sites second secondSite secondListed
  have firstFailed : cluster.health first = some false := by
    apply lastFollows.health_of_failed firstSites
    apply (betweenLater.trans (secondLater.trans lastLater)).failed
    exact Function.update_self _ _ _
  have secondFailed : cluster.health second = some false := by
    apply lastFollows.health_of_failed secondSites
    apply lastLater.failed
    exact Function.update_self _ _ _
  have firstPromoted : firstSite.volumeRefs ⊆ last.promoted :=
    fun _ member =>
      lastLater.promoted (List.mem_append_right _ member)
  have secondPromoted : secondSite.volumeRefs ⊆ last.promoted :=
    fun _ member =>
      (betweenLater.trans (secondLater.trans lastLater)).promoted
        (List.mem_append_right _ member)
  refine
    ⟨firstGranted, secondGranted, firstFailed, secondFailed,
      lastFollows.readWriteAt firstSites firstPromoted,
      lastFollows.readWriteAt secondSites secondPromoted, ?_⟩
  intro others writeToSite volumeId offset sequenceNumber
  exact
    acknowledgedByNobody
      (healthySites_of_two firstFailed secondFailed others writeToSite
        volumeId offset sequenceNumber)

end BothDirections

/-- A site with one array of one volume. -/
def siteOfVolume (name : String) (reference : Nat) : ArraySite where
  siteId := name
  healthy := true
  arrays :=
    [{ arrayId := name
       virtualVolumes := Dict.empty.set "volume" reference }]

/-- A volume that is synced and not yet promoted. -/
def syncedVolume : VirtualVolume where
  accessMode := .activeActive
  replicationState := .synced

/-- Two sites, each with a volume of its own, and a witness. -/
def twoSites : VPLEXMetroCluster :=
  (VPLEXMetroCluster.newWith true
      ((Dict.empty.set 0 syncedVolume).set 1 syncedVolume)).afterCalls
    [.addSite (siteOfVolume "a" 0), .addSite (siteOfVolume "b" 1)]

/-- Two sites after failovers in both directions. -/
def crossedOver : VPLEXMetroCluster :=
  ((twoSites.performFailover "a" "b").2.performFailover "b" "a").2

theorem both_sites_take_over_two :
    crossedOver.health "a" = some false ∧
      crossedOver.health "b" = some false ∧
      ReadWriteAt crossedOver "a" ∧ ReadWriteAt crossedOver "b" ∧
      AcknowledgedByNobody
        (crossedOver.writeToVolume (fun _ => none) "volume" 0 0) := by
  have taken :=
    both_sites_take_over true
      ((Dict.empty.set 0 syncedVolume).set 1 syncedVolume)
      [.addSite (siteOfVolume "a" 0), .addSite (siteOfVolume "b" 1)] [] []
      (show "a" ≠ "b" by decide) (by decide +kernel) (by decide +kernel)
  have others :
      ∀ name,
        name ≠ "a" → name ≠ "b" → crossedOver.health name = none := by
    intro name notFirst notSecond
    have keys : crossedOver.sites.keys = ["a", "b"] := by decide +kernel
    rw [VPLEXMetroCluster.health, Option.map_eq_none_iff]
    by_contra present
    rcases Option.ne_none_iff_exists'.mp present with ⟨site, found⟩
    have listed : name ∈ crossedOver.sites.keys :=
      Dict.mem_keys_iff.mpr ⟨site, found⟩
    rw [keys] at listed
    simp [notFirst, notSecond] at listed
  rcases taken with ⟨_, _, failed, otherFailed, written, other, writes⟩
  exact
    ⟨failed, otherFailed, written, other, writes others _ _ _ _⟩

end StorageAppliance.PowerScale
