import Mathlib.Data.Finset.Card
import Mathlib.Data.List.MinMax
import Mathlib.Data.Rat.Defs
import Mathlib.Tactic.Linarith
import StorageAppliance.Library.GroupedRecords
import StorageAppliance.Python

/-!
# Data temperature

The predictor counts the accesses to the blocks of a volume and remembers when
each block was accessed last (`analytics/predictor.py`).  A volume is as hot as
its block that was accessed last.

`analytics_exact` says what the records amount to: while the clock does not go
back, every answer is what one would compute from the full list of accesses.
Times are rationals, and the clock does not move during a call.
-/

namespace StorageAppliance.Analytics

open StorageAppliance.Library

/-- Data access temperature classification. -/
inductive DataTemperature where
  | hot
  | warm
  | cold
  | frozen
deriving DecidableEq, Repr

/-- Storage tier types. -/
inductive TierType where
  | nvme
  | ssd
  | hdd
  | archive
deriving DecidableEq, Repr

/-- Records access patterns for a volume/block. -/
structure AccessRecord where
  volumeId : String
  blockOffset : ℤ
  accessCount : ℤ := 0
  lastAccessTime : ℚ := 0
  totalBytesAccessed : ℤ := 0
deriving DecidableEq

/-- An access to a block. -/
structure Access where
  volumeId : String
  blockOffset : ℤ
  size : ℤ
  time : ℚ
deriving DecidableEq

/-- What the predictor tracks of accesses, and the tiers of volumes. -/
structure AccessTracking where
  accessRecords : Dict String (Dict ℤ AccessRecord) := Dict.empty
  volumeTiers : Dict String TierType := Dict.empty
deriving DecidableEq

/-- Access statistics of a volume. -/
structure AccessStats where
  totalAccesses : ℤ
  totalBytesAccessed : ℤ
  hotBlocks : Nat
deriving DecidableEq

def tempHotThreshold : ℚ := 3600
def tempWarmThreshold : ℚ := 86400
def tempColdThreshold : ℚ := 604800

/-- The temperature of data of an age. -/
def temperatureAt (age : ℚ) : DataTemperature :=
  if age ≤ tempHotThreshold then .hot
  else if age ≤ tempWarmThreshold then .warm
  else if age ≤ tempColdThreshold then .cold
  else .frozen

namespace AccessTracking

variable (self : AccessTracking)

/-- Record block access for temperature tracking. -/
def recordAccess (access : Access) : AccessTracking :=
  let records := (self.accessRecords.get? access.volumeId).getD Dict.empty
  let record :=
    (records.get? access.blockOffset).getD
      { volumeId := access.volumeId, blockOffset := access.blockOffset }
  { self with
    accessRecords :=
      self.accessRecords.set access.volumeId
        (records.set access.blockOffset
          { record with
            accessCount := record.accessCount + 1
            lastAccessTime := access.time
            totalBytesAccessed :=
              record.totalBytesAccessed + access.size }) }

/-- Set the tier assignment for a volume. -/
def setVolumeTier (volumeId : String) (tier : TierType) :
    AccessTracking :=
  { self with volumeTiers := self.volumeTiers.set volumeId tier }

/-- The latest access to any of some blocks. -/
def latestAccess (records : Dict ℤ AccessRecord) : Option ℚ :=
  (records.values.map AccessRecord.lastAccessTime).max?

/-- The time of the last access to a volume, or to one of its blocks. -/
def lastAccess? (volumeId : String) (blockOffset : Option ℤ) :
    Option ℚ :=
  (self.accessRecords.get? volumeId).bind fun records =>
    match blockOffset with
    | some offset =>
        (records.get? offset).map AccessRecord.lastAccessTime
    | none => latestAccess records

/-- Classify data temperature based on access patterns. -/
def getDataTemperature (now : ℚ) (volumeId : String)
    (blockOffset : Option ℤ) : DataTemperature :=
  match self.lastAccess? volumeId blockOffset with
  | none => .frozen
  | some lastAccess => temperatureAt (now - lastAccess)

/-- The access statistics in the analytics of a volume. -/
def accessStats (now : ℚ) (volumeId : String) : AccessStats :=
  match self.accessRecords.get? volumeId with
  | none =>
      { totalAccesses := 0, totalBytesAccessed := 0, hotBlocks := 0 }
  | some records =>
      { totalAccesses :=
          (records.values.map AccessRecord.accessCount).sum
        totalBytesAccessed :=
          (records.values.map AccessRecord.totalBytesAccessed).sum
        hotBlocks :=
          records.values.countP fun record =>
            now - record.lastAccessTime ≤ tempHotThreshold }

end AccessTracking

/-- The calls that change what is tracked. -/
inductive TrackingCall where
  | recordAccess (access : Access)
  | setVolumeTier (volumeId : String) (tier : TierType)
deriving DecidableEq

/-- The tracking after a call. -/
def AccessTracking.step (self : AccessTracking) :
    TrackingCall → AccessTracking
  | .recordAccess access => self.recordAccess access
  | .setVolumeTier volumeId tier => self.setVolumeTier volumeId tier

/-- The tracking after some calls of a new predictor. -/
def tracked (calls : List TrackingCall) : AccessTracking :=
  run AccessTracking.step {} calls

/-! ## Accesses -/

/-- The access that a call records. -/
def TrackingCall.access? : TrackingCall → Option Access
  | .recordAccess access => some access
  | .setVolumeTier _ _ => none

/-- The accesses that some calls record. -/
def accesses (calls : List TrackingCall) : List Access :=
  calls.filterMap TrackingCall.access?

/-- The accesses to a volume, or to one of its blocks. -/
def accessesTo (calls : List TrackingCall) (volumeId : String)
    (blockOffset : Option ℤ) : List Access :=
  let ofVolume :=
    (accesses calls).filter fun access => access.volumeId = volumeId
  match blockOffset with
  | some offset =>
      ofVolume.filter fun access => access.blockOffset = offset
  | none => ofVolume

/-- The clock did not go back between accesses. -/
def InOrder (log : List Access) : Prop :=
  log.Pairwise fun earlier later => earlier.time ≤ later.time

/-- What an access adds to the record of its block. -/
def absorbAccess (record : Option AccessRecord) (access : Access) :
    AccessRecord :=
  let record :=
    record.getD
      { volumeId := access.volumeId, blockOffset := access.blockOffset }
  { record with
    accessCount := record.accessCount + 1
    lastAccessTime := access.time
    totalBytesAccessed := record.totalBytesAccessed + access.size }

/-- What an access adds to the records of its volume. -/
def absorbInVolume (records : Option (Dict ℤ AccessRecord))
    (access : Access) : Dict ℤ AccessRecord :=
  recordEntry Access.blockOffset absorbAccess
    (records.getD Dict.empty) access

/-- The records of some accesses to one volume. -/
def blockRecords (log : List Access) : Dict ℤ AccessRecord :=
  run (recordEntry Access.blockOffset absorbAccess) Dict.empty log

/-! ## Records of a volume -/

theorem tracked_records (calls : List TrackingCall)
    (self : AccessTracking) :
    (run AccessTracking.step self calls).accessRecords =
      run (recordEntry Access.volumeId absorbInVolume) self.accessRecords
        (accesses calls) := by
  induction calls generalizing self with
  | nil => rfl
  | cons call rest induction =>
      rw [run_cons, induction]
      cases call with
      | recordAccess access => rfl
      | setVolumeTier volumeId tier => rfl

/-- The volumes absorb their accesses one by one. -/
theorem absorbAll_inVolume
    (records : Dict ℤ AccessRecord) (log : List Access) :
    absorbAll absorbInVolume (some records) log =
      some
        (run (recordEntry Access.blockOffset absorbAccess) records log) := by
  induction log generalizing records with
  | nil => rfl
  | cons access rest induction => exact induction _

/-- The records of a volume are those of the accesses to it. -/
theorem tracked_get? (calls : List TrackingCall) (volumeId : String) :
    (tracked calls).accessRecords.get? volumeId =
      if accessesTo calls volumeId none = [] then
        none
      else
        some (blockRecords (accessesTo calls volumeId none)) := by
  have grouped :=
    @get?_run_recordEntry _ _ _ _ Access.volumeId absorbInVolume Dict.empty
      (accesses calls) volumeId
  rw [tracked, tracked_records]
  refine grouped.trans ?_
  show
    absorbAll absorbInVolume none (accessesTo calls volumeId none) = _
  cases accessesTo calls volumeId none with
  | nil => rfl
  | cons access rest =>
      rw [if_neg (List.cons_ne_nil access rest)]
      exact absorbAll_inVolume _ rest

/-! ## Records of a block -/

section Blocks

variable
    {log : List Access}

/-- The record of a block has the time of the last access to it. -/
theorem absorbAll_lastAccessTime (log : List Access) :
    (absorbAll absorbAccess none log).map AccessRecord.lastAccessTime =
      log.getLast?.map Access.time := by
  induction log using List.reverseRecOn with
  | nil => rfl
  | append_singleton earlier access _ =>
      rw [absorbAll, List.foldl_append, List.getLast?_append]
      rfl

theorem blockRecords_get? (offset : ℤ) :
    ((blockRecords log).get? offset).map AccessRecord.lastAccessTime =
      ((log.filter fun access =>
        access.blockOffset = offset).getLast?).map Access.time := by
  rw [blockRecords, get?_run_recordEntry]
  exact absorbAll_lastAccessTime _

/-- The last of some accesses in order is the latest. -/
theorem InOrder.le_last
    (ordered : InOrder log) {last access : Access}
    (isLast : log.getLast? = some last) (member : access ∈ log) :
    access.time ≤ last.time := by
  rcases List.getLast?_eq_some_iff.mp isLast with ⟨earlier, rfl⟩
  rw [InOrder, List.pairwise_append] at ordered
  rcases List.mem_append.mp member with before | same
  · exact ordered.2.2 access before last (List.mem_singleton_self last)
  · rw [List.mem_singleton.mp same]

/-- Some of the accesses in order are in order. -/
theorem InOrder.filter (ordered : InOrder log) (keep : Access → Bool) :
    InOrder (log.filter keep) :=
  List.Pairwise.filter keep ordered

/-- A record is that of a block with its last access. -/
theorem lastAccess_of_get?
    {offset : ℤ} {record : AccessRecord}
    (found : (blockRecords log).get? offset = some record) :
    ∃ last,
      (log.filter fun access =>
          access.blockOffset = offset).getLast? = some last ∧
        last.time = record.lastAccessTime ∧
        last ∈ log ∧ last.blockOffset = offset := by
  have times := @blockRecords_get? log offset
  rw [found] at times
  rcases Option.map_eq_some_iff.mp times.symm with ⟨last, isLast, same⟩
  have member := List.mem_of_getLast? isLast
  rw [List.mem_filter] at member
  exact ⟨last, isLast, same, member.1, of_decide_eq_true member.2⟩

/-- And a block that was accessed has a record. -/
theorem get?_of_access
    {access : Access} (member : access ∈ log) :
    ∃ record last,
      (blockRecords log).get? access.blockOffset = some record ∧
        (log.filter fun other =>
            other.blockOffset = access.blockOffset).getLast? =
          some last ∧
        last.time = record.lastAccessTime := by
  have times := @blockRecords_get? log access.blockOffset
  have listed :
      access ∈
        log.filter fun other =>
          other.blockOffset = access.blockOffset := by
    simp [member]
  cases isLast :
      (log.filter fun other =>
        other.blockOffset = access.blockOffset).getLast? with
  | none =>
      rw [List.getLast?_eq_none_iff] at isLast
      rw [isLast] at listed
      cases listed
  | some last =>
      rw [isLast, Option.map_some] at times
      rcases Option.map_eq_some_iff.mp times with ⟨record, found, same⟩
      exact ⟨record, last, found, rfl, same.symm⟩

/-- The latest record of a volume is of the last access to it. -/
theorem latestAccess_blockRecords
    (ordered : InOrder log) :
    AccessTracking.latestAccess (blockRecords log) =
      log.getLast?.map Access.time := by
  cases isLast : log.getLast? with
  | none =>
      rw [List.getLast?_eq_none_iff] at isLast
      rw [isLast]
      rfl
  | some last =>
      rw [Option.map_some, AccessTracking.latestAccess,
        List.max?_eq_some_iff]
      constructor
      · have member := List.mem_of_getLast? isLast
        rcases get?_of_access member with
          ⟨record, latest, found, isLatest, same⟩
        have notEarlier :
            last.time ≤ latest.time :=
          (ordered.filter _).le_last isLatest (by simp [member])
        have notLater : latest.time ≤ last.time :=
          ordered.le_last isLast
            (List.mem_filter.mp (List.mem_of_getLast? isLatest)).1
        rw [List.mem_map]
        exact
          ⟨record, Dict.mem_values_iff.mpr ⟨_, found⟩, by linarith⟩
      · intro time member
        rcases List.mem_map.mp member with ⟨record, listed, rfl⟩
        rcases Dict.mem_values_iff.mp listed with ⟨offset, found⟩
        rcases lastAccess_of_get? found with ⟨latest, _, same, inLog, _⟩
        rw [← same]
        exact ordered.le_last isLast inLog

/-- The blocks with a recent record are those that were accessed recently. -/
theorem countP_recent
    (ordered : InOrder log) (now age : ℚ) :
    ((blockRecords log).values.countP fun record =>
        now - record.lastAccessTime ≤ age) =
      ((log.filter fun access => now - access.time ≤ age).map
        Access.blockOffset).toFinset.card := by
  have counted :
      ((blockRecords log).values.countP fun record =>
          now - record.lastAccessTime ≤ age) =
        (((blockRecords log).items.filter fun item =>
          now - item.2.lastAccessTime ≤ age).map
            Prod.fst).toFinset.card := by
    have distinct :
        (((blockRecords log).items.filter fun item =>
          now - item.2.lastAccessTime ≤ age).map Prod.fst).Nodup :=
      (blockRecords log).nodupKeys.sublist
        (List.filter_sublist.map Prod.fst)
    rw [List.toFinset_card_of_nodup distinct, List.length_map,
      Dict.values, List.countP_map, List.countP_eq_length_filter]
    rfl
  rw [counted]
  congr 1
  ext offset
  simp only [List.mem_toFinset, List.mem_map, List.mem_filter,
    decide_eq_true_eq]
  constructor
  · rintro ⟨⟨key, record⟩, ⟨listed, recent⟩, rfl⟩
    rcases lastAccess_of_get? (Dict.get?_eq_some_iff.mpr listed) with
      ⟨latest, _, same, inLog, here⟩
    exact ⟨latest, ⟨inLog, by rw [same]; exact recent⟩, here⟩
  · rintro ⟨access, ⟨inLog, recent⟩, rfl⟩
    rcases get?_of_access inLog with
      ⟨record, latest, found, isLatest, same⟩
    have notEarlier : access.time ≤ latest.time :=
      (ordered.filter _).le_last isLatest (by simp [inLog])
    refine
      ⟨(access.blockOffset, record),
        ⟨Dict.get?_eq_some_iff.mp found, ?_⟩, rfl⟩
    show now - record.lastAccessTime ≤ age
    linarith

/-- The records of a volume count its accesses. -/
theorem sum_accessCount (log : List Access) :
    ((blockRecords log).values.map AccessRecord.accessCount).sum =
      log.length := by
  have added :=
    @sumBy_run_recordEntry _ _ _ _ Access.blockOffset absorbAccess
      Dict.empty _ _ AccessRecord.accessCount (fun _ => 1)
      (by
        intro record access
        cases record <;> rfl)
      log
  refine added.trans ?_
  simp [Dict.sumBy, Dict.values, Dict.empty]

/-- And they add up the bytes. -/
theorem sum_totalBytesAccessed (log : List Access) :
    ((blockRecords log).values.map AccessRecord.totalBytesAccessed).sum =
      (log.map Access.size).sum := by
  have added :=
    @sumBy_run_recordEntry _ _ _ _ Access.blockOffset absorbAccess
      Dict.empty _ _ AccessRecord.totalBytesAccessed Access.size
      (by
        intro record access
        cases record <;> rfl)
      log
  refine added.trans ?_
  simp [Dict.sumBy, Dict.values, Dict.empty]

end Blocks

/-! ## The answers -/

/-- The temperature of data with some accesses. -/
def temperatureOf (now : ℚ) (log : List Access) : DataTemperature :=
  match log.getLast? with
  | none => .frozen
  | some last => temperatureAt (now - last.time)

/-- The access statistics of some accesses. -/
def statsOf (now : ℚ) (log : List Access) : AccessStats where
  totalAccesses := log.length
  totalBytesAccessed := (log.map Access.size).sum
  hotBlocks :=
    ((log.filter fun access =>
        now - access.time ≤ tempHotThreshold).map
      Access.blockOffset).toFinset.card

/-- The answers about a volume are those of the accesses to it. -/
structure AnalyticsExact (calls : List TrackingCall) (now : ℚ)
    (volumeId : String) : Prop where
  temperature :
    ∀ blockOffset,
      (tracked calls).getDataTemperature now volumeId blockOffset =
        temperatureOf now (accessesTo calls volumeId blockOffset)
  stats :
    (tracked calls).accessStats now volumeId =
      statsOf now (accessesTo calls volumeId none)

section Answers

variable
    {calls : List TrackingCall}

/-- The last access that the records know of is the last one. -/
theorem lastAccess?_tracked
    (ordered : InOrder (accesses calls)) (volumeId : String)
    (blockOffset : Option ℤ) :
    (tracked calls).lastAccess? volumeId blockOffset =
      (accessesTo calls volumeId blockOffset).getLast?.map
        Access.time := by
  have ofVolume : InOrder (accessesTo calls volumeId none) :=
    ordered.filter _
  rw [AccessTracking.lastAccess?, tracked_get?]
  by_cases unused : accessesTo calls volumeId none = []
  · rw [if_pos unused]
    cases blockOffset with
    | none =>
        rw [unused]
        rfl
    | some offset =>
        have noneHere :
            accessesTo calls volumeId (some offset) =
              (accessesTo calls volumeId none).filter
                fun access => access.blockOffset = offset :=
          rfl
        rw [noneHere, unused]
        rfl
  · rw [if_neg unused, Option.bind_some]
    cases blockOffset with
    | none => exact latestAccess_blockRecords ofVolume
    | some offset => exact blockRecords_get? offset

/-- A temperature goes by the last access. -/
theorem getDataTemperature_tracked
    (ordered : InOrder (accesses calls)) (now : ℚ) (volumeId : String)
    (blockOffset : Option ℤ) :
    (tracked calls).getDataTemperature now volumeId blockOffset =
      temperatureOf now (accessesTo calls volumeId blockOffset) := by
  rw [AccessTracking.getDataTemperature, lastAccess?_tracked ordered,
    temperatureOf]
  cases (accessesTo calls volumeId blockOffset).getLast? <;> rfl

/--
While the clock does not go back, the temperatures and the statistics are those
of all accesses so far.
-/
theorem analytics_exact
    (ordered : InOrder (accesses calls)) (now : ℚ) (volumeId : String) :
    AnalyticsExact calls now volumeId where
  temperature := getDataTemperature_tracked ordered now volumeId
  stats := by
    have ofVolume : InOrder (accessesTo calls volumeId none) :=
      ordered.filter _
    rw [AccessTracking.accessStats, tracked_get?]
    by_cases unused : accessesTo calls volumeId none = []
    · rw [if_pos unused, unused]
      rfl
    · rw [if_neg unused]
      show
        AccessStats.mk
          ((blockRecords (accessesTo calls volumeId none)).values.map
            AccessRecord.accessCount).sum
          ((blockRecords (accessesTo calls volumeId none)).values.map
            AccessRecord.totalBytesAccessed).sum
          ((blockRecords
              (accessesTo calls volumeId none)).values.countP fun record =>
            now - record.lastAccessTime ≤ tempHotThreshold) =
          _
      rw [sum_accessCount, sum_totalBytesAccessed,
        countP_recent ofVolume, statsOf]

end Answers

/-- Two accesses to one block, and one to another volume in between. -/
def threeAccesses : List TrackingCall :=
  [.recordAccess ⟨"v", 0, 512, 100⟩, .recordAccess ⟨"w", 0, 1, 200⟩,
    .setVolumeTier "v" .ssd, .recordAccess ⟨"v", 0, 512, 5000⟩]

theorem analytics_exact_threeAccesses :
    AnalyticsExact threeAccesses 9000 "v" := by
  have ordered : InOrder (accesses threeAccesses) := by
    rw [InOrder]
    decide +kernel
  exact analytics_exact ordered 9000 "v"

end StorageAppliance.Analytics
