import Mathlib.Data.Finset.Card
import StorageAppliance.Go
import StorageAppliance.Library.CircularProbe

/-!
# Placement of stripes

The shards of a stripe are placed on nodes (`selectNodesForStripe`).  A shard
starts at the position that its number is hashed to and moves on while the
fault domain of the node is used, for as many moves as there are nodes.

As long as a fault domain is unused the search ends in one, so the first shards
get nodes in fault domains of their own, whatever the hash is
(`selectNodesForStripe_diverse`).  When all fault domains are used, a shard goes
back to its hash position, whatever is there already.
`selectNodesForStripe_resilient_iff` says when the nodes are distinct.
-/

namespace StorageAppliance.PowerScale

open StorageAppliance.Go
open StorageAppliance.Library

/-- A node of the cluster. -/
structure Node where
  id : ℤ
  healthy : Bool := true
deriving DecidableEq

/-- The number of data and parity shards of a stripe. -/
structure ProtectionLevel where
  dataStripes : Nat
  parityStripes : Nat
deriving DecidableEq

def ProtectionLevel.totalShards (self : ProtectionLevel) : Nat :=
  self.dataStripes + self.parityStripes

/-- The fault domain of a node. -/
def getFaultDomain (node : Node) : ℤ :=
  node.id.tdiv 4

/-- The fault domain of the node at an index. -/
def faultDomainAt (nodes : List Node) (index : Nat) : ℤ :=
  (nodes[index]?.map getFaultDomain).getD 0

/-- The index that a shard is hashed to. -/
def hashPosition (nodes : List Node) (stripeNum : ℤ) (shard : Nat) : Nat :=
  fnv64a (stringBytes (decimal stripeNum ++ "-" ++ decimal shard)) %
    nodes.length

/-- Find a node in an unused fault domain, or give up. -/
def selectNode (nodes : List Node) (usedFaultDomains : List ℤ)
    (nodeIndex : Nat) : Nat :=
  probe (fun index => faultDomainAt nodes index ∈ usedFaultDomains)
    nodes.length nodes.length nodeIndex

/-- Select nodes for a number of shards, from a given shard on. -/
def selectFrom (nodes : List Node) (stripeNum : ℤ) :
    Nat → Nat → List ℤ → List Nat
  | 0, _, _ => []
  | count + 1, shard, usedFaultDomains =>
      let nodeIndex :=
        selectNode nodes usedFaultDomains
          (hashPosition nodes stripeNum shard)
      nodeIndex ::
        selectFrom nodes stripeNum count (shard + 1)
          (faultDomainAt nodes nodeIndex :: usedFaultDomains)

/-- The nodes for the shards of a stripe. -/
def selectNodesForStripe (nodes : List Node) (stripeNum : ℤ)
    (protection : ProtectionLevel) : Except Fault (List Nat) :=
  if 0 < protection.totalShards ∧ nodes.length = 0 then
    .error (.panic "integer divide by zero")
  else
    .ok (selectFrom nodes stripeNum protection.totalShards 0 [])

/-! ## Any hash -/

/-- The hash of a shard of a stripe. -/
def stripeHash (stripeNum : ℤ) (shard : Nat) : Nat :=
  fnv64a (stringBytes (decimal stripeNum ++ "-" ++ decimal shard))

/-- Select nodes for a number of shards, with any hash for theirs. -/
def selectHashed (hash : ℤ → Nat → Nat) (nodes : List Node)
    (stripeNum : ℤ) : Nat → Nat → List ℤ → List Nat
  | 0, _, _ => []
  | count + 1, shard, usedFaultDomains =>
      let nodeIndex :=
        selectNode nodes usedFaultDomains
          (hash stripeNum shard % nodes.length)
      nodeIndex ::
        selectHashed hash nodes stripeNum count (shard + 1)
          (faultDomainAt nodes nodeIndex :: usedFaultDomains)

/-- The nodes for the shards of a stripe, with any hash for theirs. -/
def selectNodesHashed (hash : ℤ → Nat → Nat) (nodes : List Node)
    (stripeNum : ℤ) (protection : ProtectionLevel) :
    Except Fault (List Nat) :=
  if 0 < protection.totalShards ∧ nodes.length = 0 then
    .error (.panic "integer divide by zero")
  else
    .ok (selectHashed hash nodes stripeNum protection.totalShards 0 [])

theorem selectFrom_eq_hashed
    (nodes : List Node) (stripeNum : ℤ) (count shard : Nat)
    (used : List ℤ) :
    selectFrom nodes stripeNum count shard used =
      selectHashed stripeHash nodes stripeNum count shard used := by
  induction count generalizing shard used with
  | zero => rfl
  | succ count induction =>
      simp only [selectFrom, selectHashed]
      rw [induction]
      rfl

theorem selectNodesForStripe_eq_hashed
    (nodes : List Node) (stripeNum : ℤ) (protection : ProtectionLevel) :
    selectNodesForStripe nodes stripeNum protection =
      selectNodesHashed stripeHash nodes stripeNum protection := by
  rw [selectNodesForStripe, selectNodesHashed, selectFrom_eq_hashed]

/-! ## One node in each fault domain -/

/-- The fault domains of the nodes. -/
def faultDomains (nodes : List Node) : Finset ℤ :=
  (nodes.map getFaultDomain).toFinset

/--
For each shard the first node from its hash position, going round, whose fault
domain is not that of a shard before it.
-/
def spreadFrom (nodes : List Node) (stripeNum : ℤ) :
    Nat → Nat → List ℤ → List Nat
  | 0, _, _ => []
  | count + 1, shard, used =>
      match
        firstFrom (fun index => faultDomainAt nodes index ∈ used)
          nodes.length (hashPosition nodes stripeNum shard) with
      | none => []
      | some index =>
          index ::
            spreadFrom nodes stripeNum count (shard + 1)
              (faultDomainAt nodes index :: used)

/-- The hash positions of the shards that find all fault domains used. -/
def latePositions (nodes : List Node) (stripeNum : ℤ) (total : Nat) :
    List Nat :=
  (List.range' (faultDomains nodes).card
    (total - (faultDomains nodes).card)).map (hashPosition nodes stripeNum)

/-- There is a node for each shard, in a fault domain of its own. -/
structure Diverse (nodes : List Node) (protection : ProtectionLevel)
    (selected : List Nat) : Prop where
  total : selected.length = protection.totalShards
  valid : ∀ index ∈ selected, index < nodes.length
  apart : (selected.map (faultDomainAt nodes)).Nodup

/-- The shards are on distinct nodes, and losing parity many is survived. -/
structure Resilient (nodes : List Node) (protection : ProtectionLevel)
    (selected : List Nat) : Prop where
  total : selected.length = protection.totalShards
  valid : ∀ index ∈ selected, index < nodes.length
  distinct : selected.Nodup
  survives :
    ∀ lost : List Nat,
      lost.length ≤ protection.parityStripes →
        protection.dataStripes ≤
          (selected.filter fun index => index ∉ lost).length

/--
There are enough fault domains, or the shards that find all of them used hash
to nodes that are distinct and not those of the first shards.
-/
def Separated (nodes : List Node) (stripeNum : ℤ)
    (protection : ProtectionLevel) : Prop :=
  protection.totalShards ≤ (faultDomains nodes).card ∨
    ((latePositions nodes stripeNum protection.totalShards).Nodup ∧
      ∀ position ∈ latePositions nodes stripeNum protection.totalShards,
        position ∉
          spreadFrom nodes stripeNum (faultDomains nodes).card 0 [])

section Placement

variable
    {nodes : List Node}
    (stripeNum : ℤ)
    {used : List ℤ}
    {index : Nat}

theorem faultDomainAt_mem (within : index < nodes.length) :
    faultDomainAt nodes index ∈ faultDomains nodes := by
  rw [faultDomainAt, List.getElem?_eq_getElem within]
  simp only [Option.map_some, Option.getD_some, faultDomains,
    List.mem_toFinset]
  exact List.mem_map.mpr ⟨_, List.getElem_mem within, rfl⟩

theorem exists_faultDomainAt
    {domain : ℤ} (member : domain ∈ faultDomains nodes) :
    ∃ index < nodes.length, faultDomainAt nodes index = domain := by
  rw [faultDomains, List.mem_toFinset, List.mem_map] at member
  rcases member with ⟨node, listed, rfl⟩
  rcases List.mem_iff_getElem.mp listed with ⟨index, within, rfl⟩
  refine ⟨index, within, ?_⟩
  rw [faultDomainAt, List.getElem?_eq_getElem within]
  rfl

theorem hashPosition_lt (configured : nodes ≠ []) (shard : Nat) :
    hashPosition nodes stripeNum shard < nodes.length :=
  Nat.mod_lt _ (List.length_pos_iff.mpr configured)

theorem selectNode_eq (within : index < nodes.length) :
    selectNode nodes used index =
      (firstFrom (fun index => faultDomainAt nodes index ∈ used)
        nodes.length index).getD index :=
  probe_eq_firstFrom within

theorem selectNode_lt (within : index < nodes.length) :
    selectNode nodes used index < nodes.length := by
  rw [selectNode_eq within]
  cases found :
      firstFrom (fun index => decide (faultDomainAt nodes index ∈ used))
        nodes.length index with
  | none => exact within
  | some place => exact (firstFrom_eq_some within found).1

/-- A search finds a node as long as a fault domain is unused. -/
theorem exists_firstFrom
    (within : index < nodes.length) {domain : ℤ}
    (member : domain ∈ faultDomains nodes) (unused : domain ∉ used) :
    ∃ place,
      firstFrom (fun index => faultDomainAt nodes index ∈ used)
          nodes.length index = some place ∧
        place < nodes.length ∧ faultDomainAt nodes place ∉ used := by
  cases found :
      firstFrom (fun index => decide (faultDomainAt nodes index ∈ used))
        nodes.length index with
  | none =>
      rcases exists_faultDomainAt member with ⟨place, inside, rfl⟩
      have full := (firstFrom_eq_none_iff within).mp found place inside
      exact absurd (of_decide_eq_true full) unused
  | some place =>
      have free := firstFrom_eq_some within found
      exact ⟨place, rfl, free.1, of_decide_eq_false free.2⟩

/-- A search gives up when all fault domains are used. -/
theorem selectNode_of_full
    (within : index < nodes.length)
    (full : ∀ domain ∈ faultDomains nodes, domain ∈ used) :
    selectNode nodes used index = index := by
  have none :
      firstFrom (fun index => decide (faultDomainAt nodes index ∈ used))
        nodes.length index = none := by
    rw [firstFrom_eq_none_iff within]
    intro place inside
    exact decide_eq_true (full _ (faultDomainAt_mem inside))
  rw [selectNode_eq within, none]
  rfl

/-! ## The first shards -/

/-- The fault domains that are left after one more is used. -/
theorem card_unused_cons
    {domain : ℤ} (member : domain ∈ faultDomains nodes)
    (unused : domain ∉ used) :
    (faultDomains nodes \ (domain :: used).toFinset).card + 1 =
      (faultDomains nodes \ used.toFinset).card := by
  rw [List.toFinset_cons, Finset.sdiff_insert]
  apply Finset.card_erase_add_one
  rw [Finset.mem_sdiff, List.mem_toFinset]
  exact ⟨member, unused⟩

/-- As long as a fault domain is unused, the node is in one. -/
theorem selectNode_unused
    (within : index < nodes.length)
    (enough : 0 < (faultDomains nodes \ used.toFinset).card) :
    firstFrom (fun index => faultDomainAt nodes index ∈ used)
          nodes.length index = some (selectNode nodes used index) ∧
      selectNode nodes used index < nodes.length ∧
      faultDomainAt nodes (selectNode nodes used index) ∉ used := by
  rcases Finset.card_pos.mp enough with ⟨domain, outside⟩
  rw [Finset.mem_sdiff, List.mem_toFinset] at outside
  rcases exists_firstFrom within outside.1 outside.2 with
    ⟨place, found, inside, unused⟩
  have selected : selectNode nodes used index = place := by
    rw [selectNode_eq within, found]
    rfl
  rw [selected]
  exact ⟨found, inside, unused⟩

/-- Using the fault domain of a node leaves enough for the other shards. -/
theorem enough_cons
    {count : Nat}
    (within : index < nodes.length)
    (unused : faultDomainAt nodes index ∉ used)
    (enough : count + 1 ≤ (faultDomains nodes \ used.toFinset).card) :
    count ≤
      (faultDomains nodes \
        (faultDomainAt nodes index :: used).toFinset).card := by
  have left := card_unused_cons (faultDomainAt_mem within) unused
  omega

/-- As long as fault domains are unused, each shard gets one of its own. -/
theorem selectHashed_diverse
    (hash : ℤ → Nat → Nat) (configured : nodes ≠ []) {count : Nat}
    (enough :
      count ≤ (faultDomains nodes \ used.toFinset).card) (shard : Nat) :
    (∀ index ∈ selectHashed hash nodes stripeNum count shard used,
        index < nodes.length ∧ faultDomainAt nodes index ∉ used) ∧
      ((selectHashed hash nodes stripeNum count shard used).map
        (faultDomainAt nodes)).Nodup := by
  induction count generalizing shard used with
  | zero => simp [selectHashed]
  | succ count induction =>
      have within : hash stripeNum shard % nodes.length < nodes.length :=
        Nat.mod_lt _ (List.length_pos_iff.mpr configured)
      have node :=
        selectNode_unused within (Nat.zero_lt_of_lt enough)
      have later :=
        induction (enough_cons node.2.1 node.2.2 enough) (shard + 1)
      simp only [selectHashed]
      constructor
      · intro index member
        rcases List.mem_cons.mp member with rfl | rest
        · exact node.2
        · have fresh := later.1 index rest
          exact ⟨fresh.1, fun known => fresh.2 (List.mem_cons_of_mem _ known)⟩
      · rw [List.map_cons, List.nodup_cons]
        refine ⟨?_, later.2⟩
        intro again
        rcases List.mem_map.mp again with ⟨other, rest, same⟩
        apply (later.1 other rest).2
        rw [same]
        exact List.mem_cons_self

/-- As long as fault domains are unused, no search goes on to the end. -/
theorem selectFrom_eq_spreadFrom
    (configured : nodes ≠ []) {count : Nat}
    (enough :
      count ≤ (faultDomains nodes \ used.toFinset).card) (shard : Nat) :
    selectFrom nodes stripeNum count shard used =
      spreadFrom nodes stripeNum count shard used := by
  induction count generalizing shard used with
  | zero => rfl
  | succ count induction =>
      have within := hashPosition_lt stripeNum configured shard
      have node :=
        selectNode_unused within (Nat.zero_lt_of_lt enough)
      simp only [selectFrom, spreadFrom, node.1]
      rw [induction (enough_cons node.2.1 node.2.2 enough)]

/-- The first shards are spread over the fault domains. -/
theorem selectFrom_spread
    (configured : nodes ≠ []) {count : Nat}
    (enough :
      count ≤ (faultDomains nodes \ used.toFinset).card) (shard : Nat) :
    selectFrom nodes stripeNum count shard used =
        spreadFrom nodes stripeNum count shard used ∧
      (∀ index ∈ selectFrom nodes stripeNum count shard used,
        index < nodes.length ∧ faultDomainAt nodes index ∉ used) ∧
      ((selectFrom nodes stripeNum count shard used).map
        (faultDomainAt nodes)).Nodup := by
  refine ⟨selectFrom_eq_spreadFrom stripeNum configured enough shard, ?_⟩
  rw [selectFrom_eq_hashed]
  exact selectHashed_diverse stripeNum stripeHash configured enough shard

/-- Once all fault domains are used, shards stay where they are hashed to. -/
theorem selectFrom_of_full
    (configured : nodes ≠ [])
    (full : ∀ domain ∈ faultDomains nodes, domain ∈ used)
    (count shard : Nat) :
    selectFrom nodes stripeNum count shard used =
      (List.range' shard count).map (hashPosition nodes stripeNum) := by
  induction count generalizing shard used with
  | zero => rfl
  | succ count induction =>
      have within := hashPosition_lt stripeNum configured shard
      have stays := selectNode_of_full within full
      simp only [selectFrom, stays, List.range'_succ, List.map_cons]
      rw [induction]
      intro domain member
      exact List.mem_cons_of_mem _ (full domain member)

/-- The selection for later shards goes on from the fault domains used. -/
theorem selectFrom_add (first second shard : Nat) :
    selectFrom nodes stripeNum (first + second) shard used =
      selectFrom nodes stripeNum first shard used ++
        selectFrom nodes stripeNum second (shard + first)
          (((selectFrom nodes stripeNum first shard used).map
            (faultDomainAt nodes)).reverse ++ used) := by
  induction first generalizing shard used with
  | zero => simp [selectFrom]
  | succ first induction =>
      rw [Nat.succ_add, selectFrom, induction]
      simp only [selectFrom, List.cons_append, List.map_cons,
        List.reverse_cons, List.append_assoc, List.nil_append]
      rw [show shard + 1 + first = shard + (first + 1) by omega]

theorem length_selectHashed
    (hash : ℤ → Nat → Nat) (count shard : Nat) :
    (selectHashed hash nodes stripeNum count shard used).length =
      count := by
  induction count generalizing shard used with
  | zero => rfl
  | succ count induction => rw [selectHashed, List.length_cons, induction]

theorem length_selectFrom (count shard : Nat) :
    (selectFrom nodes stripeNum count shard used).length = count := by
  rw [selectFrom_eq_hashed, length_selectHashed]

/--
Whatever the hash is, the nodes of a stripe are in fault domains of their own
if there are enough fault domains.
-/
theorem selectNodesForStripe_diverse
    (hash : ℤ → Nat → Nat) (protection : ProtectionLevel)
    (enough : protection.totalShards ≤ (faultDomains nodes).card) :
    (∃ selected,
        selectNodesHashed hash nodes stripeNum protection =
            .ok selected ∧
          Diverse nodes protection selected) ∧
      ∃ selected,
        selectNodesForStripe nodes stripeNum protection = .ok selected ∧
          Diverse nodes protection selected := by
  have hashed :
      ∀ hash : ℤ → Nat → Nat,
        ∃ selected,
          selectNodesHashed hash nodes stripeNum protection =
              .ok selected ∧
            Diverse nodes protection selected := by
    intro hash
    refine
      ⟨selectHashed hash nodes stripeNum protection.totalShards 0 [], ?_,
        ?_⟩
    · rw [selectNodesHashed, if_neg]
      rintro ⟨some, none⟩
      rw [List.length_eq_zero_iff.mp none] at enough
      exact absurd (Nat.lt_of_lt_of_le some enough) (Nat.lt_irrefl 0)
    · by_cases configured : nodes = []
      · have none : protection.totalShards = 0 := by
          rw [configured] at enough
          exact Nat.le_zero.mp enough
        rw [none]
        exact
          { total := none.symm
            valid := by simp [selectHashed]
            apart := List.nodup_nil }
      · have spread :=
          @selectHashed_diverse nodes stripeNum [] hash configured
            protection.totalShards (by simpa using enough) 0
        exact
          { total := length_selectHashed stripeNum hash _ 0
            valid := fun index member => (spread.1 index member).1
            apart := spread.2 }
  refine ⟨hashed hash, ?_⟩
  rw [selectNodesForStripe_eq_hashed]
  exact hashed stripeHash

/-- One shard for each fault domain uses all of them. -/
theorem domains_used
    (configured : nodes ≠ []) {domain : ℤ}
    (member : domain ∈ faultDomains nodes) :
    domain ∈
      (selectFrom nodes stripeNum (faultDomains nodes).card 0 []).map
        (faultDomainAt nodes) := by
  have enough :
      (faultDomains nodes).card ≤
        (faultDomains nodes \ ([] : List ℤ).toFinset).card := by
    simp
  have spread := selectFrom_spread stripeNum configured enough 0
  have within :
      ((selectFrom nodes stripeNum (faultDomains nodes).card 0 []).map
        (faultDomainAt nodes)).toFinset ⊆ faultDomains nodes := by
    intro other listed
    rw [List.mem_toFinset, List.mem_map] at listed
    rcases listed with ⟨index, selected, rfl⟩
    exact faultDomainAt_mem (spread.2.1 index selected).1
  have all :=
    Finset.eq_of_subset_of_card_le within (by
      rw [List.toFinset_card_of_nodup spread.2.2, List.length_map,
        length_selectFrom])
  rw [← List.mem_toFinset, all]
  exact member

/-- The selection when the shards are more than the fault domains. -/
theorem selectFrom_late
    (configured : nodes ≠ []) {total : Nat}
    (many : (faultDomains nodes).card ≤ total) :
    selectFrom nodes stripeNum total 0 [] =
      spreadFrom nodes stripeNum (faultDomains nodes).card 0 [] ++
        latePositions nodes stripeNum total := by
  have enough :
      (faultDomains nodes).card ≤
        (faultDomains nodes \ ([] : List ℤ).toFinset).card := by
    simp
  have spread := selectFrom_spread stripeNum configured enough 0
  have split :=
    @selectFrom_add nodes stripeNum [] (faultDomains nodes).card
      (total - (faultDomains nodes).card) 0
  rw [Nat.add_sub_cancel' many, Nat.zero_add] at split
  have full :
      ∀ domain ∈ faultDomains nodes,
        domain ∈
          ((selectFrom nodes stripeNum (faultDomains nodes).card 0 []).map
            (faultDomainAt nodes)).reverse ++ [] := by
    intro domain member
    rw [List.append_nil, List.mem_reverse]
    exact domains_used stripeNum configured member
  rw [split, selectFrom_of_full stripeNum configured full, spread.1]
  rfl

/-! ## Distinct nodes -/

theorem selectFrom_valid
    (configured : nodes ≠ []) (count shard : Nat) :
    ∀ index ∈ selectFrom nodes stripeNum count shard used,
      index < nodes.length := by
  induction count generalizing shard used with
  | zero => simp [selectFrom]
  | succ count induction =>
      intro index member
      rcases List.mem_cons.mp member with rfl | rest
      · exact selectNode_lt (hashPosition_lt stripeNum configured shard)
      · exact induction (shard + 1) index rest

theorem selectFrom_nodup_iff
    (configured : nodes ≠ []) (protection : ProtectionLevel) :
    (selectFrom nodes stripeNum protection.totalShards 0 []).Nodup ↔
      Separated nodes stripeNum protection := by
  have distinct :
      ∀ count ≤ (faultDomains nodes).card,
        (selectFrom nodes stripeNum count 0 []).Nodup := by
    intro count enough
    have spread :=
      @selectFrom_spread nodes stripeNum [] configured count
        (by simpa using enough) 0
    exact spread.2.2.of_map
  rw [Separated]
  by_cases few :
      protection.totalShards ≤ (faultDomains nodes).card
  · simp only [few, true_or, iff_true]
    exact distinct _ few
  · have many :
        (faultDomains nodes).card ≤ protection.totalShards := by
      omega
    have spread :=
      @selectFrom_spread nodes stripeNum [] configured
        (faultDomains nodes).card (by simp) 0
    have first := distinct _ (Nat.le_refl (faultDomains nodes).card)
    rw [spread.1] at first
    rw [selectFrom_late stripeNum configured many, List.nodup_append]
    simp only [few, false_or, first, true_and]
    constructor
    · rintro ⟨late, apart⟩
      exact ⟨late, fun position member taken =>
        apart position taken position member rfl⟩
    · rintro ⟨late, apart⟩
      refine ⟨late, ?_⟩
      rintro index taken position member rfl
      exact apart index member taken

/-- Distinct nodes lose at most one shard each. -/
theorem survives_of_nodup
    {protection : ProtectionLevel} {selected lost : List Nat}
    (total : selected.length = protection.totalShards)
    (distinct : selected.Nodup)
    (few : lost.length ≤ protection.parityStripes) :
    protection.dataStripes ≤
      (selected.filter fun index => index ∉ lost).length := by
  have within :
      (selected.filter fun index => index ∈ lost).Subperm lost := by
    apply (distinct.filter _).subperm
    intro index member
    simpa using (List.mem_filter.mp member).2
  have gone := within.length_le
  have parts :=
    List.length_eq_length_filter_add
      (l := selected) fun index => decide (index ∈ lost)
  simp only [ProtectionLevel.totalShards] at total
  simp only [decide_not]
  omega

/--
The shards of a stripe are on distinct nodes, so that any loss of as many nodes
as there are parity shards is survived, exactly if they are separated.
-/
theorem selectNodesForStripe_resilient_iff
    (configured : nodes ≠ []) (protection : ProtectionLevel) :
    ∃ selected,
      selectNodesForStripe nodes stripeNum protection = .ok selected ∧
        (Resilient nodes protection selected ↔
          Separated nodes stripeNum protection) := by
  have present : nodes.length ≠ 0 := by
    simpa using configured
  refine
    ⟨selectFrom nodes stripeNum protection.totalShards 0 [], ?_, ?_⟩
  · rw [selectNodesForStripe, if_neg (fun both => present both.2)]
  · rw [← selectFrom_nodup_iff stripeNum configured protection]
    constructor
    · exact Resilient.distinct
    · intro distinct
      have total :=
        @length_selectFrom nodes stripeNum [] protection.totalShards 0
      exact
        { total := total
          valid := selectFrom_valid stripeNum configured _ 0
          distinct := distinct
          survives := fun lost few =>
            survives_of_nodup total distinct few }

end Placement

/-- Three nodes in fault domains of their own. -/
def threeDomains : List Node :=
  [{ id := 0 }, { id := 4 }, { id := 8 }]

theorem selectNodesForStripe_diverse_threeDomains :
    (∃ selected,
        selectNodesHashed (fun _ shard => 7 * shard) threeDomains 0
            ⟨2, 1⟩ = .ok selected ∧
          Diverse threeDomains ⟨2, 1⟩ selected) ∧
      ∃ selected,
        selectNodesForStripe threeDomains 0 ⟨2, 1⟩ = .ok selected ∧
          Diverse threeDomains ⟨2, 1⟩ selected :=
  selectNodesForStripe_diverse 0 (fun _ shard => 7 * shard) ⟨2, 1⟩
    (by decide +kernel)

theorem selectNodesForStripe_resilient_threeDomains :
    ∃ selected,
      selectNodesForStripe threeDomains 0 ⟨2, 1⟩ = .ok selected ∧
        Resilient threeDomains ⟨2, 1⟩ selected := by
  have configured : threeDomains ≠ [] := by decide
  rcases selectNodesForStripe_resilient_iff 0 configured ⟨2, 1⟩ with
    ⟨selected, returned, resilient⟩
  refine ⟨selected, returned, resilient.mpr (Or.inl ?_)⟩
  decide +kernel

/-- Three nodes in one fault domain. -/
def oneDomain : List Node :=
  [{ id := 0 }, { id := 1 }, { id := 2 }]

theorem selectNodesForStripe_repeats :
    selectNodesForStripe oneDomain 0 ⟨2, 1⟩ = .ok [1, 2, 2] ∧
      ¬ Resilient oneDomain ⟨2, 1⟩ [1, 2, 2] := by
  constructor
  · decide +kernel
  · intro resilient
    exact absurd resilient.distinct (by decide)

end StorageAppliance.PowerScale
