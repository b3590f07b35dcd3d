import Mathlib.Data.Set.Function
import StorageAppliance.Unity.DataDomain

/-!
# Segments that stay

A segment that was made keeps its name and its data, and one that was stored
stays in the store (`Extends`), so data that can be put together can be put
together later (`Extends.loadSegments`).

Two things could take a segment out: another segment of its name, and the
collector.  Names are drawn from a counter of 64 bits, and the count of a
segment is at least one reference, of its maker (`EngineSound`), so neither
happens while less than `2 ^ 64` segments are made or referenced.
-/

namespace StorageAppliance.Unity

open StorageAppliance.Go
open StorageAppliance.Library

/-! ## Names and counts -/

theorem segmentName_inj
    {left right : Nat} (leftFits : left < 2 ^ 64) (rightFits : right < 2 ^ 64)
    (same :
      segmentName (UInt64.ofNat left) = segmentName (UInt64.ofNat right)) :
    left = right := by
  have names := (String.append_right_inj "seg-").mp same
  have bytes := hexEncode_injective names
  rw [UInt64.toNat_ofNat_of_lt' leftFits,
    UInt64.toNat_ofNat_of_lt' rightFits] at bytes
  rw [← @ofBigEndian_toBigEndian 8 left (by omega), bytes,
    @ofBigEndian_toBigEndian 8 right (by omega)]

/-- A count that fits does not wrap to zero. -/
theorem int64_natCast_ne_zero
    {count : Nat} (positive : 0 < count) (fits : count < 2 ^ 64) :
    int64 count ≠ 0 := by
  intro zero
  have multiple := Int.dvd_of_bmod_eq_zero zero
  have whole : 2 ^ 64 ∣ count := by exact_mod_cast multiple
  exact absurd (Nat.le_of_dvd positive whole) (Nat.not_le.mpr fits)

/-! ## The engine -/

/-- The data of a segment at an address. -/
def SegmentMade
    (engine : DataDomainEngine) (address : Nat) (data : Bytes) : Prop :=
  ∃ segment,
    engine.heap[address]? = some segment ∧ segment.data = data

/-- A segment with the data is at the address and in the store. -/
def SegmentStored
    (engine : DataDomainEngine) (address : Nat) (data : Bytes) : Prop :=
  ∃ segment,
    engine.heap[address]? = some segment ∧ segment.data = data ∧
      engine.segments.get? segment.segmentId = some address

/-- What is known of the segment at an address. -/
structure SegmentSound
    (pieces : Set Bytes) (total address : Nat) (segment : Segment) :
    Prop where
  named : segment.segmentId = segmentName (UInt64.ofNat address)
  plain : segment.compressed = false
  piece : segment.data ∈ pieces
  counted :
    ∃ count : Nat, segment.refCount = int64 count ∧ 0 < count ∧ count ≤ total

/-- The engine after a total of segments that the calls have come to. -/
structure EngineSound
    (sha256 : Bytes → Bytes) (pieces : Set Bytes) (total : Nat)
    (engine : DataDomainEngine) : Prop where
  next : engine.nextSegmentId = UInt64.ofNat engine.heap.length
  allocated : engine.heap.length ≤ total
  made :
    ∀ address segment,
      engine.heap[address]? = some segment →
        SegmentSound pieces total address segment
  mapped :
    ∀ segmentId address,
      engine.segments.get? segmentId = some address →
        ∃ segment,
          engine.heap[address]? = some segment ∧
            segment.segmentId = segmentId
  indexed :
    ∀ fingerprint address,
      engine.fingerprints.get? fingerprint = some address →
        ∃ data,
          SegmentStored engine address data ∧
            calculateFingerprint sha256 data = fingerprint

/-- Segments stay what they are, but for their counts, and stay in the store. -/
structure Extends (before after : DataDomainEngine) : Prop where
  heap :
    ∀ (address : Nat) (segment : Segment),
      before.heap[address]? = some segment →
        ∃ refCount,
          after.heap[address]? =
            some { segment with refCount := refCount }
  segments :
    ∀ segmentId address,
      before.segments.get? segmentId = some address →
        after.segments.get? segmentId = some address

section Engine

variable
    {sha256 : Bytes → Bytes}
    {pieces wider : Set Bytes}
    {total larger address : Nat}
    {engine before after : DataDomainEngine}
    {data : Bytes}
    {fingerprint : String}

theorem Extends.refl (engine : DataDomainEngine) : Extends engine engine :=
  ⟨fun _ segment held => ⟨segment.refCount, held⟩, fun _ _ stored => stored⟩

theorem SegmentStored.made (stored : SegmentStored engine address data) :
    SegmentMade engine address data := by
  rcases stored with ⟨segment, held, same, _⟩
  exact ⟨segment, held, same⟩

theorem Extends.made
    (extended : Extends before after) (made : SegmentMade before address data) :
    SegmentMade after address data := by
  rcases made with ⟨segment, held, same⟩
  rcases extended.heap address segment held with ⟨refCount, later⟩
  exact ⟨_, later, same⟩

theorem Extends.stored
    (extended : Extends before after)
    (stored : SegmentStored before address data) :
    SegmentStored after address data := by
  rcases stored with ⟨segment, held, same, mapped⟩
  rcases extended.heap address segment held with ⟨refCount, later⟩
  exact ⟨_, later, same, extended.segments _ _ mapped⟩

/-- A segment that can be loaded is loaded later as well. -/
theorem Extends.loadSegment
    (extended : Extends before after) {segmentId : String}
    {segment : Segment}
    (loaded : before.loadSegment segmentId = .ok segment) :
    ∃ refCount,
      after.loadSegment segmentId =
        .ok { segment with refCount := refCount } := by
  rw [DataDomainEngine.loadSegment] at loaded
  split at loaded
  · cases loaded
  · rename_i found
    cases loaded
    rcases Option.bind_eq_some_iff.mp found with ⟨address, mapped, held⟩
    rcases extended.heap address segment held with ⟨refCount, later⟩
    refine ⟨refCount, ?_⟩
    simp only [DataDomainEngine.loadSegment,
      extended.segments segmentId address mapped, Option.bind_some, later]

theorem loadSegments_cons_ok_iff
    {ref : SegmentReference} {rest : List SegmentReference} :
    engine.loadSegments (ref :: rest) = .ok data ↔
      ∃ segment piece joined,
        engine.loadSegment ref.segmentId = .ok segment ∧
          (if segment.compressed then
              decompress segment.compressedData
            else
              .ok segment.data) =
            .ok piece ∧
          engine.loadSegments rest = .ok joined ∧
          data = piece ++ joined := by
  rw [DataDomainEngine.loadSegments]
  constructor
  · intro loaded
    split at loaded
    · cases loaded
    · rename_i segment first
      split at loaded
      · cases loaded
      · rename_i piece content
        split at loaded
        · cases loaded
        · rename_i joined later
          cases loaded
          exact ⟨segment, piece, joined, first, content, later, rfl⟩
  · rintro ⟨segment, piece, joined, first, content, later, rfl⟩
    rw [first]
    simp only [content, later]

/-- Data that can be put together is put together later as well. -/
theorem Extends.loadSegments
    (extended : Extends before after) {refs : List SegmentReference}
    (loaded : before.loadSegments refs = .ok data) :
    after.loadSegments refs = .ok data := by
  induction refs generalizing data with
  | nil => exact loaded
  | cons ref rest induction =>
      rcases loadSegments_cons_ok_iff.mp loaded with
        ⟨segment, piece, joined, first, content, tail, rfl⟩
      rcases extended.loadSegment first with ⟨refCount, later⟩
      exact
        loadSegments_cons_ok_iff.mpr
          ⟨_, piece, joined, later, content, induction tail, rfl⟩

theorem loadSegments_append
    {refs others : List SegmentReference} {joined : Bytes}
    (loaded : engine.loadSegments refs = .ok joined)
    (further : engine.loadSegments others = .ok data) :
    engine.loadSegments (refs ++ others) = .ok (joined ++ data) := by
  induction refs generalizing joined with
  | nil =>
      cases loaded
      exact further
  | cons ref rest induction =>
      rcases loadSegments_cons_ok_iff.mp loaded with
        ⟨segment, piece, tailData, first, content, tail, rfl⟩
      rw [List.cons_append, List.append_assoc]
      exact
        loadSegments_cons_ok_iff.mpr
          ⟨segment, piece, _, first, content, induction tail, rfl⟩

theorem SegmentSound.mono
    {segment : Segment} (sound : SegmentSound pieces total address segment)
    (more : pieces ⊆ wider) (reaches : total ≤ larger) :
    SegmentSound wider larger address segment := by
  rcases sound.counted with ⟨count, counts, positive, bounded⟩
  exact
    ⟨sound.named, sound.plain, more sound.piece, count, counts, positive,
      Nat.le_trans bounded reaches⟩

theorem EngineSound.mono
    (sound : EngineSound sha256 pieces total engine)
    (more : pieces ⊆ wider) (reaches : total ≤ larger) :
    EngineSound sha256 wider larger engine :=
  ⟨sound.next, Nat.le_trans sound.allocated reaches,
    fun address segment held =>
      (sound.made address segment held).mono more reaches,
    sound.mapped, sound.indexed⟩

theorem engineSound_new (mode : DedupMode) :
    EngineSound sha256 pieces total (newDataDomainEngine mode) := by
  refine ⟨rfl, Nat.zero_le total, ?_, ?_, ?_⟩
  · intro address segment held
    cases held
  · intro segmentId address mapped
    cases mapped
  · intro fingerprint address indexed
    cases indexed

/-- A step that leaves the maps as they are. -/
theorem EngineSound.of_extends
    (sound : EngineSound sha256 pieces total before)
    (extended : Extends before after)
    (sameSegments : after.segments = before.segments)
    (sameFingerprints : after.fingerprints = before.fingerprints)
    (next : after.nextSegmentId = UInt64.ofNat after.heap.length)
    (allocated : after.heap.length ≤ larger)
    (made :
      ∀ address segment,
        after.heap[address]? = some segment →
          SegmentSound wider larger address segment) :
    EngineSound sha256 wider larger after := by
  refine ⟨next, allocated, made, ?_, ?_⟩
  · intro segmentId address mapped
    rw [sameSegments] at mapped
    rcases sound.mapped segmentId address mapped with
      ⟨segment, held, named⟩
    rcases extended.heap address segment held with ⟨refCount, later⟩
    exact ⟨_, later, named⟩
  · intro fingerprint address indexed
    rw [sameFingerprints] at indexed
    rcases sound.indexed fingerprint address indexed with
      ⟨data, stored, same⟩
    exact ⟨data, extended.stored stored, same⟩

/-! ## What a step does to the engine -/

/-- Compression does not shorten data. -/
theorem tryCompress_eq (segment : Segment) (mode : DedupMode) :
    segment.tryCompress mode = segment := by
  rw [Segment.tryCompress]
  split
  · exact if_neg (Nat.lt_irrefl _)
  · rfl

/-- The segment that is made at the end of the heap. -/
def newSegment
    (engine : DataDomainEngine) (fingerprint : String) (data : Bytes) :
    Segment where
  segmentId := segmentName engine.nextSegmentId
  fingerprint := fingerprint
  data := data
  size := data.length
  refCount := 1

theorem createSegment_eq
    (engine : DataDomainEngine) (fingerprint : String) (data : Bytes) :
    engine.createSegment fingerprint data =
      (engine.heap.length,
        { engine with
          nextSegmentId := engine.nextSegmentId + 1
          heap := engine.heap ++ [newSegment engine fingerprint data] }) := by
  rw [DataDomainEngine.createSegment]
  simp only [DataDomainEngine.getNextId, tryCompress_eq, newSegment]

theorem extends_createSegment :
    Extends engine (engine.createSegment fingerprint data).2 := by
  rw [createSegment_eq]
  refine ⟨?_, fun _ _ stored => stored⟩
  intro address segment held
  have within := (List.getElem?_eq_some_iff.mp held).1
  refine ⟨segment.refCount, ?_⟩
  exact (List.getElem?_append_left within).trans held

theorem made_createSegment :
    SegmentMade (engine.createSegment fingerprint data).2
      (engine.createSegment fingerprint data).1 data := by
  rw [createSegment_eq]
  exact ⟨newSegment engine fingerprint data, by simp, rfl⟩

theorem EngineSound.createSegment
    (sound : EngineSound sha256 pieces total engine)
    (member : data ∈ pieces) :
    EngineSound sha256 pieces (total + 1)
      (engine.createSegment fingerprint data).2 := by
  have extended := @extends_createSegment engine data fingerprint
  have wide := sound.mono Set.Subset.rfl (Nat.le_add_right total 1)
  have allocated := sound.allocated
  rw [createSegment_eq] at extended ⊢
  refine sound.of_extends extended rfl rfl ?_ ?_ ?_
  · change engine.nextSegmentId + 1 = UInt64.ofNat (_ ++ [_]).length
    rw [sound.next, List.length_append, UInt64.ofNat_add]
    rfl
  · change (_ ++ [_]).length ≤ total + 1
    rw [List.length_append]
    exact Nat.add_le_add_right allocated 1
  · intro address segment held
    change (_ ++ [_])[address]? = _ at held
    rw [List.getElem?_append] at held
    split at held
    · exact wide.made address segment held
    · rename_i beyond
      rcases List.getElem?_eq_some_iff.mp held with ⟨only, rfl⟩
      have last : address = engine.heap.length := by
        rw [List.length_singleton] at only
        omega
      subst last
      refine ⟨?_, ?_, ?_, 1, ?_, Nat.one_pos, Nat.le_add_left 1 total⟩
      · simp [newSegment, sound.next]
      · simp [newSegment]
      · simp [newSegment, member]
      · simp [newSegment, int64]

/-- What is at the addresses after another reference is counted. -/
theorem heap_addReference (engine : DataDomainEngine) (address other : Nat) :
    (engine.addReference address).heap[other]? =
      engine.heap[other]?.map fun segment =>
        if address = other then
          { segment with refCount := int64 (segment.refCount + 1) }
        else
          segment := by
  rw [DataDomainEngine.addReference]
  simp only [List.getElem?_modify]
  split
  · rfl
  · cases engine.heap[other]? with
    | none => rfl
    | some segment => rfl

theorem extends_addReference :
    Extends engine (engine.addReference address) := by
  refine ⟨?_, fun _ _ stored => stored⟩
  intro other segment held
  rw [heap_addReference, held, Option.map_some]
  split
  · exact ⟨int64 (segment.refCount + 1), rfl⟩
  · exact ⟨segment.refCount, rfl⟩

theorem SegmentSound.addReference
    {segment : Segment}
    (sound : SegmentSound pieces total address segment) :
    SegmentSound pieces (total + 1) address
      { segment with refCount := int64 (segment.refCount + 1) } := by
  rcases sound.counted with ⟨count, counts, _, bounded⟩
  refine
    ⟨sound.named, sound.plain, sound.piece, count + 1, ?_,
      Nat.succ_pos count, Nat.succ_le_succ bounded⟩
  simp only [counts, int64, Int.bmod_add_bmod, Nat.cast_add, Nat.cast_one]

theorem EngineSound.addReference
    (sound : EngineSound sha256 pieces total engine) :
    EngineSound sha256 pieces (total + 1)
      (engine.addReference address) := by
  have wide := sound.mono Set.Subset.rfl (Nat.le_add_right total 1)
  refine sound.of_extends extends_addReference rfl rfl ?_ ?_ ?_
  · rw [DataDomainEngine.addReference, List.length_modify]
    exact wide.next
  · rw [DataDomainEngine.addReference, List.length_modify]
    exact wide.allocated
  · intro other segment held
    rw [heap_addReference] at held
    rcases Option.map_eq_some_iff.mp held with ⟨old, oldHeld, rfl⟩
    split
    · exact (sound.made other old oldHeld).addReference
    · exact wide.made other old oldHeld

/-- The name of a segment belongs to its address. -/
theorem EngineSound.address_inj
    (sound : EngineSound sha256 pieces total engine)
    (few : total < 2 ^ 64) {other : Nat} {segment otherSegment : Segment}
    (held : engine.heap[address]? = some segment)
    (otherHeld : engine.heap[other]? = some otherSegment)
    (same : segment.segmentId = otherSegment.segmentId) :
    address = other := by
  have within := (List.getElem?_eq_some_iff.mp held).1
  have otherWithin := (List.getElem?_eq_some_iff.mp otherHeld).1
  have allocated := sound.allocated
  rw [(sound.made address segment held).named,
    (sound.made other otherSegment otherHeld).named] at same
  exact segmentName_inj (by omega) (by omega) same

theorem extends_storeSegment
    (sound : EngineSound sha256 pieces total engine)
    (few : total < 2 ^ 64) :
    Extends engine (engine.storeSegment address) := by
  rw [DataDomainEngine.storeSegment]
  cases held : engine.heap[address]? with
  | none => exact Extends.refl engine
  | some segment =>
      refine ⟨(Extends.refl engine).heap, ?_⟩
      intro segmentId other mapped
      change (engine.segments.set segment.segmentId address).get? _ = _
      by_cases same : segmentId = segment.segmentId
      · rcases sound.mapped segmentId other mapped with
          ⟨otherSegment, otherHeld, named⟩
        rw [same, Dict.get?_set_self,
          sound.address_inj few held otherHeld (same ▸ named.symm)]
      · rw [Dict.get?_set_ne _ _ same]
        exact mapped

theorem stored_storeSegment (made : SegmentMade engine address data) :
    SegmentStored (engine.storeSegment address) address data := by
  rcases made with ⟨segment, held, same⟩
  simp only [DataDomainEngine.storeSegment, held]
  exact ⟨segment, held, same, Dict.get?_set_self _ _ _⟩

theorem EngineSound.storeSegment
    (sound : EngineSound sha256 pieces total engine)
    (few : total < 2 ^ 64) :
    EngineSound sha256 pieces total (engine.storeSegment address) := by
  have extended :=
    @extends_storeSegment sha256 pieces total address engine sound few
  revert extended
  rw [DataDomainEngine.storeSegment]
  cases held : engine.heap[address]? with
  | none =>
      intro _
      exact sound
  | some segment =>
      intro extended
      refine ⟨sound.next, sound.allocated, sound.made, ?_, ?_⟩
      · intro segmentId other mapped
        change (engine.segments.set _ _).get? _ = _ at mapped
        rw [Dict.get?_set] at mapped
        split at mapped
        · rename_i same
          cases mapped
          exact ⟨segment, held, same.symm⟩
        · exact sound.mapped segmentId other mapped
      · intro fingerprint other indexed
        rcases sound.indexed fingerprint other indexed with
          ⟨data, stored, same⟩
        exact ⟨data, extended.stored stored, same⟩

theorem extends_writeBackend :
    Extends engine (engine.writeBackend address) := by
  rw [DataDomainEngine.writeBackend]
  split
  · exact Extends.refl engine
  · exact ⟨(Extends.refl engine).heap, (Extends.refl engine).segments⟩

theorem EngineSound.writeBackend
    (sound : EngineSound sha256 pieces total engine) :
    EngineSound sha256 pieces total (engine.writeBackend address) := by
  rw [DataDomainEngine.writeBackend]
  split
  · exact sound
  · exact
      ⟨sound.next, sound.allocated, sound.made, sound.mapped,
        sound.indexed⟩

theorem EngineSound.indexFingerprint
    (sound : EngineSound sha256 pieces total engine)
    (stored : SegmentStored engine address data) :
    EngineSound sha256 pieces total
      (engine.indexFingerprint (calculateFingerprint sha256 data)
        address) := by
  refine ⟨sound.next, sound.allocated, sound.made, sound.mapped, ?_⟩
  intro fingerprint other indexed
  change (engine.fingerprints.set _ _).get? _ = _ at indexed
  rw [Dict.get?_set] at indexed
  split at indexed
  · rename_i same
    cases indexed
    exact ⟨data, stored, same.symm⟩
  · exact sound.indexed fingerprint other indexed

theorem EngineSound.updateStats
    (sound : EngineSound sha256 pieces total engine)
    (totalBytes uniqueBytes duplicateBytes : ℤ) :
    EngineSound sha256 pieces total
      (engine.updateStats totalBytes uniqueBytes duplicateBytes) :=
  ⟨sound.next, sound.allocated, sound.made, sound.mapped, sound.indexed⟩

/-- What the index finds is stored with the same data. -/
theorem EngineSound.stored_of_indexed
    (sound : EngineSound sha256 pieces total engine)
    (injective : Set.InjOn sha256 pieces) (member : data ∈ pieces)
    (found :
      engine.fingerprints.get? (calculateFingerprint sha256 data) =
        some address) :
    SegmentStored engine address data := by
  rcases sound.indexed _ address found with ⟨other, stored, same⟩
  rcases stored.made with ⟨segment, held, rfl⟩
  have equal :=
    injective (sound.made address segment held).piece member
      (hexEncode_injective same)
  rw [← equal]
  exact stored

/-- A segment that is stored is loaded by a reference to it. -/
theorem EngineSound.loadSegments_reference
    (sound : EngineSound sha256 pieces total engine)
    (stored : SegmentStored engine address data) (offset : Nat) :
    engine.loadSegments
        [engine.reference address fingerprint offset data] =
      .ok data := by
  rcases stored with ⟨segment, held, rfl, mapped⟩
  have named :
      (engine.reference address fingerprint offset segment.data).segmentId =
        segment.segmentId := by
    simp [DataDomainEngine.reference, held]
  have plain := (sound.made address segment held).plain
  refine
    loadSegments_cons_ok_iff.mpr
      ⟨segment, segment.data, [], ?_, ?_, rfl,
        (List.append_nil _).symm⟩
  · rw [named, DataDomainEngine.loadSegment, mapped]
    simp only [Option.bind_some, held]
  · rw [plain]
    rfl

/-- A segment that was made has a reference. -/
theorem EngineSound.refCount_ne_zero
    (sound : EngineSound sha256 pieces total engine)
    (few : total < 2 ^ 64) {segment : Segment}
    (held : engine.heap[address]? = some segment) :
    segment.refCount ≠ 0 := by
  rcases (sound.made address segment held).counted with
    ⟨count, counts, positive, bounded⟩
  rw [counts]
  exact int64_natCast_ne_zero positive (Nat.lt_of_le_of_lt bounded few)

end Engine

end StorageAppliance.Unity
