import StorageAppliance.PowerScale.Metro

/-!
# Failover between sites

A failover names a failed site and the site that takes over
(`PerformFailover`).  Both are looked up, the failed site is marked as not
healthy, the witness is asked for a quorum, and the synced volumes of the other
site are promoted to read-write.

The failed site is marked before the witness is asked, so it stays marked when
the quorum is refused.  That the sites are different and that the other one is
healthy is not checked.  `performFailover_allOrNothing_iff` says when a failover
is all or nothing.

A volume may be in arrays of several sites, so the arrays hold references.
-/

namespace StorageAppliance.PowerScale

open StorageAppliance.Go
open StorageAppliance.Library

inductive AccessMode where
  | readWrite
  | readOnly
  | activeActive
deriving DecidableEq

inductive ReplicationState where
  | synced
  | syncing
  | degraded
  | failed
deriving DecidableEq

/-- A virtual volume. -/
structure VirtualVolume where
  accessMode : AccessMode
  replicationState : ReplicationState
deriving DecidableEq

/-- An array of a site: the references of its volumes, by their IDs. -/
structure StorageArray where
  arrayId : String
  virtualVolumes : Dict String Nat
deriving DecidableEq

/-- A site with its arrays. -/
structure ArraySite extends ClusterSite where
  arrays : List StorageArray
deriving DecidableEq

/-- The witness: whether the sites that have registered are healthy. -/
structure WitnessService where
  registeredSites : Dict String Bool := Dict.empty
  quorumThreshold : ℤ := 2
deriving DecidableEq

/-- The sites and volumes of a cluster, and its witness if it has one. -/
structure VPLEXMetroCluster where
  sites : Dict String ArraySite := Dict.empty
  volumes : Dict Nat VirtualVolume := Dict.empty
  witness : Option WitnessService := none
deriving DecidableEq

namespace WitnessService

/-- Register a site with the witness. -/
def registerSite (self : WitnessService) (siteId : String) :
    WitnessService :=
  { self with registeredSites := self.registeredSites.set siteId true }

/-- There is a quorum, for whichever site. -/
def checkQuorum (self : WitnessService) : Bool :=
  self.quorumThreshold ≤ (self.registeredSites.values.countP id : ℤ)

end WitnessService

/-- Promote a volume that is synced. -/
def VirtualVolume.promote (self : VirtualVolume) : VirtualVolume :=
  if self.replicationState = .synced then
    { self with accessMode := .readWrite }
  else
    self

/-- The references of the volumes of a site. -/
def ArraySite.volumeRefs (self : ArraySite) : List Nat :=
  self.arrays.flatMap fun array => array.virtualVolumes.values

/-- Promote the volumes with some references. -/
def promoteVolumes (references : List Nat)
    (volumes : Dict Nat VirtualVolume) : Dict Nat VirtualVolume :=
  references.foldl
    (fun promoted reference =>
      promoted.modify reference VirtualVolume.promote)
    volumes

namespace VPLEXMetroCluster

/-- A new cluster. -/
def new (witnessEnabled : Bool) : VPLEXMetroCluster where
  witness := if witnessEnabled then some {} else none

/-- Add a site and register it with the witness. -/
def addSite (self : VPLEXMetroCluster) (site : ArraySite) :
    Except Fault Unit × VPLEXMetroCluster :=
  if self.sites.contains site.siteId then
    (.error (errorf ("site already exists: " ++ site.siteId)), self)
  else
    (.ok (),
      { self with
        sites := self.sites.set site.siteId site
        witness :=
          self.witness.map fun witness =>
            witness.registerSite site.siteId })

/-- The witness, if there is one, sees a quorum. -/
def hasQuorum (self : VPLEXMetroCluster) : Bool :=
  match self.witness with
  | none => true
  | some witness => witness.checkQuorum

/-- Mark a site as not healthy. -/
def markUnhealthy (self : VPLEXMetroCluster) (site : String) :
    VPLEXMetroCluster :=
  { self with
    sites :=
      self.sites.modify site fun entry => { entry with healthy := false } }

/-- Fail over from a site to another one. -/
def performFailover (self : VPLEXMetroCluster)
    (failedSite targetSite : String) :
    Except Fault Unit × VPLEXMetroCluster :=
  if self.sites.contains failedSite = false then
    (.error (errorf ("site not found: " ++ failedSite)), self)
  else
    match self.sites.get? targetSite with
    | none =>
        (.error (errorf ("target site not found: " ++ targetSite)), self)
    | some target =>
        let marked := self.markUnhealthy failedSite
        if marked.hasQuorum then
          (.ok (),
            { marked with
              volumes :=
                promoteVolumes target.volumeRefs marked.volumes })
        else
          (.error (errorf "insufficient quorum for failover"), marked)

/-- The health of a site. -/
def health (self : VPLEXMetroCluster) (site : String) : Option Bool :=
  (self.sites.get? site).map fun entry => entry.healthy

/-- The access mode of a volume. -/
def accessMode (self : VPLEXMetroCluster) (reference : Nat) :
    Option AccessMode :=
  (self.volumes.get? reference).map VirtualVolume.accessMode

end VPLEXMetroCluster

/-! ## All or nothing -/

/-- The sites and volumes are as they were. -/
structure Unchanged (before after : VPLEXMetroCluster) : Prop where
  health : ∀ site, after.health site = before.health site
  accessMode :
    ∀ reference, after.accessMode reference = before.accessMode reference

/-- The target has taken over from the failed site. -/
structure TakenOver (after : VPLEXMetroCluster)
    (failedSite targetSite : String) : Prop where
  apart : failedSite ≠ targetSite
  healthy : after.health targetSite = some true
  unhealthy : after.health failedSite = some false
  promoted :
    ∀ target reference volume,
      after.sites.get? targetSite = some target →
        reference ∈ target.volumeRefs →
          after.volumes.get? reference = some volume →
            volume.replicationState = .synced →
              volume.accessMode = .readWrite

/-- A failover that fails changes nothing, and one that does not takes over. -/
def AllOrNothing (cluster : VPLEXMetroCluster)
    (failedSite targetSite : String) : Prop :=
  match cluster.performFailover failedSite targetSite with
  | (.error _, after) => Unchanged cluster after
  | (.ok _, after) => TakenOver after failedSite targetSite

section Failover

variable
    {cluster : VPLEXMetroCluster}
    {failedSite targetSite : String}

@[simp]
theorem promote_replicationState (volume : VirtualVolume) :
    volume.promote.replicationState = volume.replicationState := by
  rw [VirtualVolume.promote]
  split
  · rfl
  · rfl

theorem promote_accessMode
    (volume : VirtualVolume)
    (synced : volume.replicationState = .synced) :
    volume.promote.accessMode = .readWrite := by
  rw [VirtualVolume.promote, if_pos synced]

/-- A volume that is promoted once more stays as it is. -/
theorem promote_promote (volume : VirtualVolume) :
    volume.promote.promote = volume.promote := by
  by_cases synced : volume.replicationState = .synced
  · simp [VirtualVolume.promote, synced]
  · simp [VirtualVolume.promote, synced]

/-- The volumes with the references are promoted, and no others. -/
theorem get?_promoteVolumes
    (references : List Nat) (volumes : Dict Nat VirtualVolume)
    (reference : Nat) :
    (promoteVolumes references volumes).get? reference =
      if reference ∈ references then
        (volumes.get? reference).map VirtualVolume.promote
      else
        volumes.get? reference := by
  induction references generalizing volumes with
  | nil => rfl
  | cons first rest induction =>
      have later :=
        induction (volumes.modify first VirtualVolume.promote)
      rw [promoteVolumes] at later ⊢
      rw [List.foldl_cons, later, Dict.get?_modify]
      by_cases same : reference = first
      · simp [same, promote_promote, Function.comp_def]
      · simp [same]

theorem health_markUnhealthy (site : String) :
    (cluster.markUnhealthy failedSite).health site =
      if site = failedSite then
        (cluster.health site).map fun _ => false
      else
        cluster.health site := by
  simp only [VPLEXMetroCluster.health, VPLEXMetroCluster.markUnhealthy,
    Dict.get?_modify]
  split
  · rw [Option.map_map, Option.map_map]
    rfl
  · rfl

/-- Marking a site changes nothing exactly if it was marked already. -/
theorem unchanged_markUnhealthy_iff {healthy : Bool}
    (known : cluster.health failedSite = some healthy) :
    Unchanged cluster (cluster.markUnhealthy failedSite) ↔
      healthy = false := by
  constructor
  · intro unchanged
    have same := unchanged.health failedSite
    rw [health_markUnhealthy, if_pos rfl, known] at same
    exact (Option.some.inj same).symm
  · intro marked
    refine ⟨?_, fun _ => rfl⟩
    intro site
    rw [health_markUnhealthy]
    split
    · rename_i same
      rw [same, known, marked]
      rfl
    · rfl

/-- The cluster with a site marked, and the volumes of another promoted. -/
def VPLEXMetroCluster.failOver (self : VPLEXMetroCluster)
    (failedSite : String) (target : ArraySite) : VPLEXMetroCluster :=
  { self.markUnhealthy failedSite with
    volumes := promoteVolumes target.volumeRefs self.volumes }

/-- Another site has taken over exactly if it is healthy, and not the same. -/
theorem takenOver_failOver_iff {target : ArraySite} {healthy : Bool}
    (known : cluster.health failedSite = some healthy)
    (found : cluster.sites.get? targetSite = some target) :
    TakenOver (cluster.failOver failedSite target) failedSite
        targetSite ↔
      failedSite ≠ targetSite ∧ target.healthy = true := by
  have after :
      ∀ site,
        (cluster.failOver failedSite target).health site =
          (cluster.markUnhealthy failedSite).health site :=
    fun _ => rfl
  have present : cluster.health targetSite = some target.healthy := by
    rw [VPLEXMetroCluster.health, found]
    rfl
  constructor
  · intro taken
    have healthy := taken.healthy
    rw [after, health_markUnhealthy, if_neg taken.apart.symm,
      present] at healthy
    exact ⟨taken.apart, Option.some.inj healthy⟩
  · rintro ⟨apart, healthy⟩
    refine
      { apart := apart
        healthy := ?_
        unhealthy := ?_
        promoted := ?_ }
    · rw [after, health_markUnhealthy, if_neg apart.symm, present,
        healthy]
    · rw [after, health_markUnhealthy, if_pos rfl, known]
      rfl
    · intro other reference volume listed member stored synced
      have same : other = target := by
        simp only [VPLEXMetroCluster.failOver,
          VPLEXMetroCluster.markUnhealthy] at listed
        rw [Dict.get?_modify_ne _ _ apart.symm, found] at listed
        exact (Option.some.inj listed).symm
      subst same
      simp only [VPLEXMetroCluster.failOver, get?_promoteVolumes,
        if_pos member, Option.map_eq_some_iff] at stored
      rcases stored with ⟨before, _, rfl⟩
      rw [promote_replicationState] at synced
      exact promote_accessMode before synced

/--
A failover is all or nothing exactly if a site is unknown, or the quorum is
refused and the failed site was marked already, or there is a quorum and the
other site is healthy and not the failed one.
-/
theorem performFailover_allOrNothing_iff :
    AllOrNothing cluster failedSite targetSite ↔
      cluster.health failedSite = none ∨
        cluster.health targetSite = none ∨
        (cluster.hasQuorum = false ∧
          cluster.health failedSite = some false) ∨
        (cluster.hasQuorum = true ∧ failedSite ≠ targetSite ∧
          cluster.health targetSite = some true) := by
  rw [AllOrNothing, VPLEXMetroCluster.performFailover, Dict.contains]
  cases failed : cluster.sites.get? failedSite with
  | none =>
      have unknown : cluster.health failedSite = none := by
        rw [VPLEXMetroCluster.health, failed]
        rfl
      simp only [Option.isSome_none, if_true, unknown, true_or, iff_true]
      exact ⟨fun _ => rfl, fun _ => rfl⟩
  | some failedEntry =>
      have known : cluster.health failedSite = some failedEntry.healthy := by
        rw [VPLEXMetroCluster.health, failed]
        rfl
      simp only [Option.isSome_some, Bool.true_eq_false, if_false, known,
        reduceCtorEq, false_or, Option.some.injEq]
      cases found : cluster.sites.get? targetSite with
      | none =>
          have unknown : cluster.health targetSite = none := by
            rw [VPLEXMetroCluster.health, found]
            rfl
          simp only [unknown, true_or, iff_true]
          exact ⟨fun _ => rfl, fun _ => rfl⟩
      | some target =>
          have present :
              cluster.health targetSite = some target.healthy := by
            rw [VPLEXMetroCluster.health, found]
            rfl
          have witness :
              (cluster.markUnhealthy failedSite).hasQuorum =
                cluster.hasQuorum :=
            rfl
          simp only [present, reduceCtorEq, false_or, Option.some.injEq,
            witness]
          cases quorum : cluster.hasQuorum with
          | false =>
              simp only [Bool.false_eq_true, if_false, true_and,
                false_and, or_false]
              exact unchanged_markUnhealthy_iff known
          | true =>
              simp only [if_true, Bool.true_eq_false, false_and, true_and,
                false_or]
              exact takenOver_failOver_iff known found

end Failover

/-- A healthy site without arrays. -/
def emptySite (name : String) : ArraySite where
  siteId := name
  healthy := true
  arrays := []

/-- A cluster with a witness and one site. -/
def witnessedSite : VPLEXMetroCluster :=
  ((VPLEXMetroCluster.new true).addSite (emptySite "a")).2

/-- A cluster of two sites, after a failover from the first to the second. -/
def failedOver : VPLEXMetroCluster :=
  ((((VPLEXMetroCluster.new false).addSite (emptySite "a")).2.addSite
    (emptySite "b")).2.performFailover "a" "b").2

/--
A failover that lacks the quorum marks the failed site, and one to a site that
has failed returns nil.
-/
theorem failover_notAllOrNothing :
    (witnessedSite.performFailover "a" "a").1 =
        .error (errorf "insufficient quorum for failover") ∧
      ¬ AllOrNothing witnessedSite "a" "a" ∧
      (failedOver.performFailover "b" "a").1 = .ok () ∧
      ¬ AllOrNothing failedOver "b" "a" := by
  refine ⟨by decide +kernel, ?_, by decide +kernel, ?_⟩
  · intro all
    have unchanged :
        Unchanged witnessedSite (witnessedSite.performFailover "a" "a").2 :=
      all
    have health := unchanged.health "a"
    revert health
    decide +kernel
  · intro all
    have taken :
        TakenOver (failedOver.performFailover "b" "a").2 "b" "a" :=
      all
    have health := taken.healthy
    revert health
    decide +kernel

end StorageAppliance.PowerScale
