import StorageAppliance.Analytics.Temperature
import StorageAppliance.Core.VolumeManager

/-!
# Tiering recommendations

The predictor recommends a tier for the temperature of a volume, if the volume
is not in it (`analytics/predictor.py`).  Applying all recommendations leaves
none, until a temperature changes.

The reason that is given compares the names of the tiers in alphabetical order.
It is right about the direction of a move exactly for moves between NVMe and
SSD.
-/

namespace StorageAppliance.Analytics

open StorageAppliance.Python
open StorageAppliance.Library
open StorageAppliance.Core

def DataTemperature.value : DataTemperature → String
  | .hot => "hot"
  | .warm => "warm"
  | .cold => "cold"
  | .frozen => "frozen"

def TierType.value : TierType → String
  | .nvme => "nvme"
  | .ssd => "ssd"
  | .hdd => "hdd"
  | .archive => "archive"

/-- Data tiering recommendation; no access at all is infinitely long ago. -/
structure TieringRecommendation where
  volumeId : String
  volumeName : String
  currentTier : TierType
  recommendedTier : TierType
  temperature : DataTemperature
  lastAccessSeconds : Option ℚ
  accessCount : ℤ
  estimatedSavingsBytes : ℤ
  reason : String
deriving DecidableEq

/-- The tier for data of a temperature. -/
def tierFor : DataTemperature → TierType
  | .hot => .nvme
  | .warm => .ssd
  | .cold => .hdd
  | .frozen => .archive

/-- What a tier costs. -/
def tierCostFactor : TierType → ℚ
  | .nvme => 1
  | .ssd => 5 / 10
  | .hdd => 2 / 10
  | .archive => 5 / 100

/-- The bytes that are saved by a move to a cheaper tier. -/
def estimatedSavings (usedBytes : ℤ) (current recommended : TierType) :
    ℤ :=
  if tierCostFactor recommended < tierCostFactor current then
    truncate
      (usedBytes *
        (1 - tierCostFactor recommended / tierCostFactor current))
  else
    0

def fasterReason (temperature : DataTemperature) : String :=
  "Data is " ++ temperature.value ++
    " - move to faster tier for better performance"

def cheaperReason (temperature : DataTemperature) : String :=
  "Data is " ++ temperature.value ++
    " - move to cheaper tier to reduce costs"

/-- The reason that is given for a move. -/
def moveReason (temperature : DataTemperature)
    (current recommended : TierType) : String :=
  if recommended.value < current.value then
    fasterReason temperature
  else
    cheaperReason temperature

namespace AccessTracking

variable (self : AccessTracking)

/-- The tier of a volume, which is NVMe until another is set. -/
def currentTier (volumeId : String) : TierType :=
  (self.volumeTiers.get? volumeId).getD .nvme

/-- The recommendation for a volume, if its tier should change. -/
def recommendation? (now : ℚ) (volume : Volume) :
    Option TieringRecommendation :=
  let temperature := self.getDataTemperature now volume.id none
  let current := self.currentTier volume.id
  let recommended := tierFor temperature
  let records :=
    (self.accessRecords.get? volume.id).getD Dict.empty
  let lastAccess := (latestAccess records).getD 0
  if recommended ≠ current then
    some
      { volumeId := volume.id
        volumeName := volume.name
        currentTier := current
        recommendedTier := recommended
        temperature := temperature
        lastAccessSeconds :=
          if lastAccess > 0 then some (now - lastAccess) else none
        accessCount := (records.values.map AccessRecord.accessCount).sum
        estimatedSavingsBytes :=
          estimatedSavings volume.usedBytes current recommended
        reason := moveReason temperature current recommended }
  else
    none

/-- Generate data tiering recommendations. -/
def getTieringRecommendations (now : ℚ) (volumes : List Volume) :
    List TieringRecommendation :=
  volumes.filterMap (self.recommendation? now)

/-- Move volumes to the tiers that are recommended for them. -/
def applyAll (recommendations : List TieringRecommendation) :
    AccessTracking :=
  run
    (fun tracking recommendation =>
      tracking.setVolumeTier recommendation.volumeId
        recommendation.recommendedTier)
    self recommendations

end AccessTracking

/-- The reason says that the tier is faster exactly if it is. -/
def TieringRecommendation.TruthfulReason
    (recommendation : TieringRecommendation) : Prop :=
  recommendation.reason = fasterReason recommendation.temperature ↔
    tierCostFactor recommendation.currentTier <
      tierCostFactor recommendation.recommendedTier

/-- NVMe or SSD. -/
def TierType.IsFlash (tier : TierType) : Prop :=
  tier = .nvme ∨ tier = .ssd

section Recommendations

variable
    {self : AccessTracking}
    {now : ℚ}
    {volume : Volume}
    {recommendation : TieringRecommendation}

/-- The two reasons are never the same. -/
theorem cheaperReason_ne_fasterReason (temperature : DataTemperature) :
    cheaperReason temperature ≠ fasterReason temperature := by
  cases temperature <;> decide +kernel

/-- The alphabetical order is that of the costs for NVMe and SSD only. -/
theorem alphabetical_iff {current recommended : TierType}
    (apart : recommended ≠ current) :
    (recommended.value < current.value ↔
        tierCostFactor current < tierCostFactor recommended) ↔
      current.IsFlash ∧ recommended.IsFlash := by
  revert apart
  cases current <;> cases recommended <;>
    simp only [TierType.IsFlash] <;> decide +kernel

/-- What a recommendation says. -/
theorem recommendation?_eq_some
    (recommended :
      self.recommendation? now volume = some recommendation) :
    recommendation.volumeId = volume.id ∧
      recommendation.currentTier = self.currentTier volume.id ∧
      recommendation.temperature =
        self.getDataTemperature now volume.id none ∧
      recommendation.recommendedTier =
        tierFor recommendation.temperature ∧
      recommendation.recommendedTier ≠ recommendation.currentTier ∧
      recommendation.reason =
        moveReason recommendation.temperature recommendation.currentTier
          recommendation.recommendedTier := by
  rw [AccessTracking.recommendation?] at recommended
  split at recommended
  · rename_i apart
    cases recommended
    exact ⟨rfl, rfl, rfl, rfl, apart, rfl⟩
  · cases recommended

theorem recommendation?_eq_none_iff :
    self.recommendation? now volume = none ↔
      tierFor (self.getDataTemperature now volume.id none) =
        self.currentTier volume.id := by
  rw [AccessTracking.recommendation?]
  split
  · rename_i apart
    exact iff_of_false (Option.some_ne_none _) apart
  · rename_i same
    exact iff_of_true rfl (not_not.mp same)

/-- A reason is truthful exactly for a move between NVMe and SSD. -/
theorem truthfulReason_iff
    (recommended :
      self.recommendation? now volume = some recommendation) :
    recommendation.TruthfulReason ↔
      recommendation.currentTier.IsFlash ∧
        recommendation.recommendedTier.IsFlash := by
  rcases recommendation?_eq_some recommended with
    ⟨_, _, _, _, apart, reason⟩
  rw [← alphabetical_iff apart, TieringRecommendation.TruthfulReason,
    reason, moveReason]
  split
  · rename_i alphabetical
    simp only [alphabetical]
  · rename_i notAlphabetical
    simp only [cheaperReason_ne_fasterReason, notAlphabetical]

/-! ## Applying recommendations -/

/-- Setting tiers does not touch the records. -/
theorem applyAll_records
    (recommendations : List TieringRecommendation) :
    (self.applyAll recommendations).accessRecords = self.accessRecords := by
  induction recommendations generalizing self with
  | nil => rfl
  | cons first rest induction => exact induction

/-- A volume is left in a tier that was recommended for it, or in its own. -/
theorem currentTier_applyAll
    (recommendations : List TieringRecommendation) (volumeId : String) :
    (∃ recommendation ∈ recommendations,
        recommendation.volumeId = volumeId ∧
          (self.applyAll recommendations).currentTier volumeId =
            recommendation.recommendedTier) ∨
      (∀ recommendation ∈ recommendations,
          recommendation.volumeId ≠ volumeId) ∧
        (self.applyAll recommendations).currentTier volumeId =
          self.currentTier volumeId := by
  induction recommendations generalizing self with
  | nil => exact Or.inr ⟨by simp, rfl⟩
  | cons first rest induction =>
      rcases
        @induction
          (self.setVolumeTier first.volumeId first.recommendedTier) with
        ⟨recommendation, member, same, left⟩ | ⟨none, left⟩
      · exact
          Or.inl
            ⟨recommendation, List.mem_cons_of_mem first member, same, left⟩
      · by_cases here : first.volumeId = volumeId
        · refine Or.inl ⟨first, List.mem_cons_self, here, ?_⟩
          refine left.trans ?_
          rw [AccessTracking.currentTier, AccessTracking.setVolumeTier,
            here, Dict.get?_set_self, Option.getD_some]
        · refine Or.inr ⟨?_, ?_⟩
          · intro recommendation member
            rcases List.mem_cons.mp member with rfl | later
            · exact here
            · exact none recommendation later
          · refine left.trans ?_
            rw [AccessTracking.currentTier, AccessTracking.setVolumeTier,
              Dict.get?_set_ne _ _ (Ne.symm here),
              ← AccessTracking.currentTier]

/-- The temperatures depend on the records only. -/
theorem getDataTemperature_of_records
    {other : AccessTracking}
    (same : other.accessRecords = self.accessRecords)
    (now : ℚ) (volumeId : String) (blockOffset : Option ℤ) :
    other.getDataTemperature now volumeId blockOffset =
      self.getDataTemperature now volumeId blockOffset := by
  rw [AccessTracking.getDataTemperature, AccessTracking.lastAccess?, same,
    ← AccessTracking.lastAccess?, ← AccessTracking.getDataTemperature]

/--
A volume whose recommendation was applied is recommended again exactly if its
temperature asks for another tier.
-/
theorem recommendation?_applyAll_eq_none_iff
    {volumes : List Volume} (listed : volume ∈ volumes) (later : ℚ) :
    (self.applyAll
          (self.getTieringRecommendations now volumes)).recommendation?
        later volume = none ↔
      tierFor (self.getDataTemperature later volume.id none) =
        tierFor (self.getDataTemperature now volume.id none) := by
  have settled :
      (self.applyAll
          (self.getTieringRecommendations now volumes)).currentTier
        volume.id =
      tierFor (self.getDataTemperature now volume.id none) := by
    rcases
      @currentTier_applyAll self
        (self.getTieringRecommendations now volumes) volume.id with
      ⟨recommendation, member, same, left⟩ | ⟨none, left⟩
    · rcases List.mem_filterMap.mp member with
        ⟨other, _, recommended⟩
      rcases recommendation?_eq_some recommended with
        ⟨name, _, temperature, tier, _, _⟩
      rw [left, tier, temperature, ← same, name]
    · rw [left]
      cases recommended : self.recommendation? now volume with
      | none => exact (recommendation?_eq_none_iff.mp recommended).symm
      | some recommendation =>
          have member :=
            List.mem_filterMap.mpr ⟨volume, listed, recommended⟩
          exact
            absurd (recommendation?_eq_some recommended).1
              (none recommendation member)
  rw [recommendation?_eq_none_iff, settled,
    getDataTemperature_of_records (applyAll_records _)]

end Recommendations

/-! ## What the recommendations are -/

/-- The temperature of a volume after some calls. -/
def volumeTemperature (calls : List TrackingCall) (now : ℚ)
    (volume : Volume) : DataTemperature :=
  temperatureOf now (accessesTo calls volume.id none)

/--
The volumes that should move are recommended, reasons are truthful for moves
between NVMe and SSD only, and applying all recommendations settles them until
a temperature asks for another tier.
-/
structure TieringExact (calls : List TrackingCall) (now : ℚ)
    (volumes : List Volume) : Prop where
  recommended :
    ∀ volume ∈ volumes,
      ((∃ recommendation ∈
            (tracked calls).getTieringRecommendations now volumes,
          recommendation.volumeId = volume.id) ↔
        tierFor (volumeTemperature calls now volume) ≠
          (tracked calls).currentTier volume.id)
  truthful :
    ∀ recommendation ∈
        (tracked calls).getTieringRecommendations now volumes,
      (recommendation.TruthfulReason ↔
        recommendation.currentTier.IsFlash ∧
          recommendation.recommendedTier.IsFlash)
  settles :
    ∀ later,
      (((tracked calls).applyAll
              ((tracked calls).getTieringRecommendations now
                volumes)).getTieringRecommendations later volumes = [] ↔
        ∀ volume ∈ volumes,
          tierFor (volumeTemperature calls later volume) =
            tierFor (volumeTemperature calls now volume))

theorem tiering_exact
    {calls : List TrackingCall} (ordered : InOrder (accesses calls))
    (now : ℚ) (volumes : List Volume) :
    TieringExact calls now volumes := by
  have temperature :
      ∀ moment volume,
        (tracked calls).getDataTemperature moment (Volume.id volume) none =
          volumeTemperature calls moment volume :=
    fun moment volume =>
      getDataTemperature_tracked ordered moment volume.id none
  refine { recommended := ?_, truthful := ?_, settles := ?_ }
  · intro volume listed
    rw [← temperature, ne_eq, ← recommendation?_eq_none_iff]
    constructor
    · rintro ⟨recommendation, member, same⟩ none
      rcases List.mem_filterMap.mp member with ⟨other, _, recommended⟩
      rcases recommendation?_eq_some recommended with
        ⟨name, current, degrees, tier, apart, _⟩
      have sameId : other.id = volume.id :=
        name.symm.trans same
      rw [recommendation?_eq_none_iff, ← sameId] at none
      rw [tier, degrees, current] at apart
      exact apart none
    · intro some
      rcases Option.ne_none_iff_exists'.mp some with
        ⟨recommendation, recommended⟩
      exact
        ⟨recommendation,
          List.mem_filterMap.mpr ⟨volume, listed, recommended⟩,
          (recommendation?_eq_some recommended).1⟩
  · intro recommendation member
    rcases List.mem_filterMap.mp member with ⟨volume, _, recommended⟩
    exact truthfulReason_iff recommended
  · intro later
    rw [AccessTracking.getTieringRecommendations,
      List.filterMap_eq_nil_iff]
    apply forall₂_congr
    intro volume listed
    rw [recommendation?_applyAll_eq_none_iff listed, temperature,
      temperature]

/-- A volume that was accessed an hour and a half ago moves to SSD. -/
theorem tiering_exact_warmVolume :
    TieringExact threeAccesses 10400
      [{ id := "v", name := "volume", sizeBytes := 1024 }] := by
  have ordered : InOrder (accesses threeAccesses) := by
    rw [InOrder]
    decide +kernel
  exact tiering_exact ordered 10400 _

end StorageAppliance.Analytics
