import StorageAppliance.Unity.DedupSteps

/-!
# The ledger of an engine

Calls that are executed one at a time leave an engine that is a function of the
segments they have come to: the heap holds the distinct ones in the order of
their first appearance, each counted as often as it has appeared, and the index
and the store lead to them.

This is so while fewer than `2 ^ 63` segments have appeared, so that neither the
names nor the counts run out.
-/

namespace StorageAppliance.Unity

open StorageAppliance.Go
open StorageAppliance.Library

/-- The segment with some data at an address. -/
def countedSegment (sha256 : Bytes → Bytes) (address : Nat) (data : Bytes)
    (refCount : ℤ) : Segment where
  segmentId := segmentName (UInt64.ofNat address)
  fingerprint := calculateFingerprint sha256 data
  data := data
  size := data.length
  refCount := refCount

/-- The distinct data after another piece. -/
def appear (contents : List Bytes) (data : Bytes) : List Bytes :=
  if data ∈ contents then contents else contents ++ [data]

/-- What the engine holds of the pieces and their distinct contents. -/
structure Ledger (sha256 : Bytes → Bytes) (pieces contents : List Bytes)
    (engine : DataDomainEngine) : Prop where
  distinct : contents.Nodup
  members : ∀ data, data ∈ contents ↔ data ∈ pieces
  next : engine.nextSegmentId = UInt64.ofNat contents.length
  heap :
    engine.heap =
      contents.mapIdx fun address data =>
        countedSegment sha256 address data (pieces.count data : Nat)
  values :
    engine.fingerprints.values = List.range contents.length
  indexed :
    ∀ fingerprint address,
      engine.fingerprints.get? fingerprint = some address ↔
        ∃ data,
          contents[address]? = some data ∧
            calculateFingerprint sha256 data = fingerprint
  mapped :
    ∀ address < contents.length,
      engine.segments.get? (segmentName (UInt64.ofNat address)) =
        some address

section Ledgers

variable
    {sha256 : Bytes → Bytes}
    {pieces contents : List Bytes}
    {engine : DataDomainEngine}
    {data : Bytes}

theorem fingerprint_injective
    (injective : Function.Injective sha256) :
    Function.Injective (calculateFingerprint sha256) :=
  hexEncode_injective.comp injective

theorem ledger_new (mode : DedupMode) :
    Ledger sha256 [] [] (newDataDomainEngine mode) where
  distinct := List.nodup_nil
  members := fun _ => Iff.rfl
  next := rfl
  heap := rfl
  values := rfl
  indexed := by
    intro fingerprint address
    constructor
    · intro found
      cases found
    · rintro ⟨data, found, _⟩
      cases found
  mapped := by
    intro address within
    cases within

theorem Ledger.length_heap
    (ledger : Ledger sha256 pieces contents engine) :
    engine.heap.length = contents.length := by
  rw [ledger.heap, List.length_mapIdx]

theorem Ledger.held
    (ledger : Ledger sha256 pieces contents engine) {address : Nat}
    (found : contents[address]? = some data) :
    engine.heap[address]? =
      some
        (countedSegment sha256 address data (pieces.count data : Nat)) := by
  rw [ledger.heap, List.getElem?_mapIdx, found, Option.map_some]

/-- There are no more contents than pieces. -/
theorem Ledger.length_contents_le
    (ledger : Ledger sha256 pieces contents engine) :
    contents.length ≤ pieces.length :=
  (List.subperm_of_subset ledger.distinct fun data member =>
    (ledger.members data).mp member).length_le

/-- The index leads to data that it has seen. -/
theorem Ledger.get?_of_mem
    (ledger : Ledger sha256 pieces contents engine) {address : Nat}
    (found : contents[address]? = some data) :
    engine.fingerprints.get? (calculateFingerprint sha256 data) =
      some address :=
  (ledger.indexed _ _).mpr ⟨data, found, rfl⟩

theorem Ledger.getElem?_of_get?
    (ledger : Ledger sha256 pieces contents engine)
    (injective : Function.Injective sha256) {address : Nat}
    (found :
      engine.fingerprints.get? (calculateFingerprint sha256 data) =
        some address) :
    contents[address]? = some data := by
  rcases (ledger.indexed _ _).mp found with ⟨other, held, same⟩
  rw [held, fingerprint_injective injective same]

theorem Ledger.get?_eq_none_iff
    (ledger : Ledger sha256 pieces contents engine)
    (injective : Function.Injective sha256) :
    engine.fingerprints.get? (calculateFingerprint sha256 data) = none ↔
      data ∉ contents := by
  constructor
  · intro absent member
    rcases List.getElem?_of_mem member with ⟨address, found⟩
    rw [ledger.get?_of_mem found] at absent
    cases absent
  · intro absent
    rw [Option.eq_none_iff_forall_ne_some]
    intro address found
    exact
      absent
        (List.mem_of_getElem? (ledger.getElem?_of_get? injective found))

/-! ## One segment -/

theorem count_concat (other : Bytes) :
    (pieces ++ [data]).count other =
      pieces.count other + if data = other then 1 else 0 := by
  rw [List.count_append, List.count_singleton]
  simp only [beq_iff_eq]

/-- One more reference counts the piece that it is for. -/
theorem Ledger.heap_counted
    (ledger : Ledger sha256 pieces contents engine) {address : Nat}
    (found : contents[address]? = some data)
    (few : pieces.length + 1 < 2 ^ 63) :
    (engine.addReference address).heap =
      contents.mapIdx fun other content =>
        countedSegment sha256 other content
          ((pieces ++ [data]).count content : Nat) := by
  apply List.ext_getElem?
  intro other
  rw [heap_addReference, ledger.heap, List.getElem?_mapIdx,
    List.getElem?_mapIdx, Option.map_map]
  cases held : contents[other]? with
  | none => rfl
  | some content =>
      simp only [Option.map_some, Function.comp_apply,
        Option.some.injEq, count_concat]
      by_cases same : address = other
      · subst same
        rw [found] at held
        cases held
        have bound : pieces.count data ≤ pieces.length :=
          List.count_le_length
        have counted :
            int64 ((pieces.count data : Nat) + 1) =
              (pieces.count data : Nat) + 1 :=
          int64_of_range (by omega) (by omega)
        simp only [if_true, countedSegment, counted, Nat.cast_add,
          Nat.cast_one]
      · have different : data ≠ content := by
          rintro rfl
          exact
            same
              ((List.getElem?_inj (List.getElem?_eq_some_iff.mp found).1
                ledger.distinct).mp (found.trans held.symm))
        rw [if_neg same, if_neg different, Nat.add_zero]

/-- Another piece that has appeared before. -/
theorem Ledger.again
    (ledger : Ledger sha256 pieces contents engine) {address : Nat}
    (found : contents[address]? = some data)
    (few : pieces.length + 1 < 2 ^ 63) :
    Ledger sha256 (pieces ++ [data]) contents
      (engine.addReference address) := by
  have known := List.mem_of_getElem? found
  constructor
  · exact ledger.distinct
  · intro other
    rw [ledger.members, List.mem_append, List.mem_singleton]
    constructor
    · exact Or.inl
    · rintro (before | rfl)
      · exact before
      · exact (ledger.members other).mp known
  · exact ledger.next
  · exact ledger.heap_counted found few
  · exact ledger.values
  · exact ledger.indexed
  · exact ledger.mapped

theorem getElem?_concat_iff {address : Nat} {other : Bytes} :
    (contents ++ [data])[address]? = some other ↔
      contents[address]? = some other ∨
        address = contents.length ∧ other = data := by
  constructor
  · intro held
    rw [List.getElem?_append] at held
    split at held
    · exact Or.inl held
    · rename_i beyond
      rcases List.getElem?_eq_some_iff.mp held with ⟨only, same⟩
      rw [List.length_singleton] at only
      rw [List.getElem_singleton] at same
      exact Or.inr ⟨by omega, same.symm⟩
  · rintro (before | ⟨rfl, rfl⟩)
    · rw [List.getElem?_append_left
        (List.getElem?_eq_some_iff.mp before).1]
      exact before
    · exact List.getElem?_concat_length

theorem Ledger.count_fresh
    (ledger : Ledger sha256 pieces contents engine)
    (fresh : data ∉ contents) : pieces.count data = 0 :=
  List.count_eq_zero.mpr fun member =>
    fresh ((ledger.members data).mpr member)

/-- A new segment keeps those before it as they are counted. -/
theorem Ledger.heap_concat
    (ledger : Ledger sha256 pieces contents engine)
    (fresh : data ∉ contents) :
    engine.heap ++ [countedSegment sha256 contents.length data 1] =
      (contents ++ [data]).mapIdx fun address other =>
        countedSegment sha256 address other
          ((pieces ++ [data]).count other : Nat) := by
  have kept :
      engine.heap =
        contents.mapIdx fun address other =>
          countedSegment sha256 address other
            ((pieces ++ [data]).count other : Nat) := by
    rw [ledger.heap]
    apply List.ext_getElem?
    intro address
    rw [List.getElem?_mapIdx, List.getElem?_mapIdx]
    cases held : contents[address]? with
    | none => rfl
    | some content =>
        have different : data ≠ content := by
          rintro rfl
          exact fresh (List.mem_of_getElem? held)
        simp only [Option.map_some, count_concat, if_neg different,
          Nat.add_zero]
  rw [List.mapIdx_append, List.mapIdx_singleton, ← kept, count_concat,
    ledger.count_fresh fresh, if_pos rfl, Nat.zero_add]
  rfl

/-- The index leads to the new segment and to those before it. -/
theorem Ledger.indexed_concat
    (ledger : Ledger sha256 pieces contents engine)
    (injective : Function.Injective sha256)
    (fresh : data ∉ contents) (fingerprint : String) (address : Nat) :
    (engine.fingerprints.set (calculateFingerprint sha256 data)
          contents.length).get?
        fingerprint =
      some address ↔
      ∃ other,
        (contents ++ [data])[address]? = some other ∧
          calculateFingerprint sha256 other = fingerprint := by
  rw [Dict.get?_set]
  split
  · rename_i same
    constructor
    · rintro ⟨⟩
      exact ⟨data, getElem?_concat_iff.mpr (Or.inr ⟨rfl, rfl⟩), same.symm⟩
    · rintro ⟨other, held, named⟩
      have equal := fingerprint_injective injective (named.trans same)
      subst equal
      rcases getElem?_concat_iff.mp held with before | ⟨new, _⟩
      · exact absurd (List.mem_of_getElem? before) fresh
      · rw [new]
  · rename_i different
    rw [ledger.indexed]
    constructor
    · rintro ⟨other, held, named⟩
      exact ⟨other, getElem?_concat_iff.mpr (Or.inl held), named⟩
    · rintro ⟨other, held, named⟩
      rcases getElem?_concat_iff.mp held with before | ⟨_, rfl⟩
      · exact ⟨other, before, named⟩
      · exact absurd named.symm different

/-- A piece that has not appeared before. -/
theorem Ledger.first
    (ledger : Ledger sha256 pieces contents engine)
    (injective : Function.Injective sha256)
    (fresh : data ∉ contents) (few : pieces.length + 1 < 2 ^ 63) :
    Ledger sha256 (pieces ++ [data]) (contents ++ [data])
      (engine.addSegment (calculateFingerprint sha256 data) data) := by
  have few' := ledger.length_contents_le
  have size : engine.heap.length = contents.length := ledger.length_heap
  have absent := (ledger.get?_eq_none_iff injective).mpr fresh
  constructor
  · exact List.nodup_append.mpr
      ⟨ledger.distinct, List.nodup_singleton data, by
        rintro other member _ listed rfl
        rw [List.mem_singleton] at listed
        exact fresh (listed ▸ member)⟩
  · intro other
    rw [List.mem_append, List.mem_append, ledger.members]
  · change engine.nextSegmentId + 1 = _
    rw [ledger.next, List.length_append, UInt64.ofNat_add]
    rfl
  · rw [← ledger.heap_concat fresh]
    change engine.heap ++ [_] = _
    rw [newSegment, ledger.next]
    rfl
  · change (engine.fingerprints.set _ _).values = _
    rw [Dict.values, Dict.items_set_of_absent _ absent, List.map_append,
      List.length_append, size]
    change engine.fingerprints.values ++ [contents.length] = _
    rw [ledger.values]
    exact List.range_succ.symm
  · intro fingerprint address
    rw [← ledger.indexed_concat injective fresh, ← size]
    rfl
  · intro address within
    change (engine.segments.set _ _).get? _ = _
    rw [List.length_append, List.length_singleton] at within
    rw [Dict.get?_set, ledger.next, size]
    split
    · rename_i same
      rw [segmentName_inj (by omega) (by omega) same]
    · rename_i different
      apply ledger.mapped
      by_contra beyond
      apply different
      rw [show address = contents.length by omega]

/-! ## Calls -/

/-- The bytes of some pieces. -/
def byteCount (pieces : List Bytes) : Nat :=
  (pieces.map List.length).sum

/-- A reference to the piece among the contents. -/
def Refers (sha256 : Bytes → Bytes) (contents : List Bytes)
    (piece : Bytes) (ref : SegmentReference) : Prop :=
  ∃ address,
    contents[address]? = some piece ∧
      ref.segmentId = segmentName (UInt64.ofNat address) ∧
      ref.fingerprint = calculateFingerprint sha256 piece

theorem Refers.mono
    {later : List Bytes} {piece : Bytes} {ref : SegmentReference}
    (refers : Refers sha256 contents piece ref)
    (extended : contents <+: later) :
    Refers sha256 later piece ref := by
  rcases refers with ⟨address, found, named⟩
  rcases extended with ⟨rest, rfl⟩
  refine ⟨address, ?_, named⟩
  rw [List.getElem?_append_left (List.getElem?_eq_some_iff.mp found).1]
  exact found

/-- What a call that has come to new pieces has recorded and left. -/
structure Advanced (sha256 : Bytes → Bytes) (pieces contents : List Bytes)
    (progress : Progress) (engine : DataDomainEngine)
    (new later : List Bytes) (refs : List SegmentReference)
    (after : Progress × DataDomainEngine) : Prop where
  ledger : Ledger sha256 (pieces ++ new) later after.2
  extended : contents <+: later
  recorded : after.1.segmentRefs = progress.segmentRefs ++ refs
  refers : List.Forall₂ (Refers sha256 later) new refs
  unique :
    after.1.uniqueBytes + byteCount contents =
      progress.uniqueBytes + byteCount later
  duplicate :
    after.1.duplicateBytes + byteCount later =
      progress.duplicateBytes + byteCount contents + byteCount new
  stats : after.2.stats = engine.stats

/-- What has been counted does not overflow when the pieces are counted. -/
def Fits (count : ℤ) (pieces : List Bytes) : Prop :=
  0 ≤ count ∧ count + byteCount pieces < 2 ^ 63

theorem byteCount_append (first second : List Bytes) :
    byteCount (first ++ second) = byteCount first + byteCount second := by
  rw [byteCount, List.map_append, List.sum_append, byteCount, byteCount]

theorem byteCount_cons (piece : Bytes) (rest : List Bytes) :
    byteCount (piece :: rest) = piece.length + byteCount rest := by
  rw [byteCount, List.map_cons, List.sum_cons, byteCount]

theorem byteCount_singleton (piece : Bytes) :
    byteCount [piece] = piece.length := by
  rw [byteCount_cons]
  rfl

/-- The distinct contents grow by a new piece at most. -/
theorem byteCount_appear (contents : List Bytes) (piece : Bytes) :
    byteCount contents ≤ byteCount (appear contents piece) ∧
      byteCount (appear contents piece) ≤
        byteCount contents + piece.length := by
  rw [appear]
  split
  · exact ⟨Nat.le_refl _, Nat.le_add_right _ _⟩
  · rw [byteCount_append, byteCount_singleton]
    exact ⟨Nat.le_add_right _ _, Nat.le_refl _⟩

theorem Ledger.deduplicate
    (ledger : Ledger sha256 pieces contents engine)
    (injective : Function.Injective sha256)
    (few : pieces.length + 1 < 2 ^ 63) {progress : Progress}
    (uniqueFits : Fits progress.uniqueBytes [data])
    (duplicateFits : Fits progress.duplicateBytes [data])
    (offset : Nat) :
    ∃ ref,
      Advanced sha256 pieces contents progress engine [data]
        (appear contents data) [ref]
        (engine.deduplicate sha256 progress offset data) := by
  rw [Fits, byteCount_singleton] at uniqueFits duplicateFits
  by_cases known : data ∈ contents
  · rcases List.getElem?_of_mem known with ⟨address, found⟩
    rw [deduplicate_of_found (ledger.get?_of_mem found)
      (ledger.held found), appear, if_pos known]
    refine
      ⟨_,
        { ledger := ledger.again found few
          extended := List.prefix_rfl
          recorded := rfl
          refers := ?_
          unique := rfl
          duplicate := ?_
          stats := rfl }⟩
    · apply List.Forall₂.cons _ List.Forall₂.nil
      exact ⟨address, found, rfl, rfl⟩
    · simp only [Progress.duplicate, byteCount_singleton]
      rw [int64_of_range (by omega) (by omega)]
      omega
  · rw [deduplicate_of_absent
      ((ledger.get?_eq_none_iff injective).mpr known), appear,
      if_neg known]
    refine
      ⟨_,
        { ledger := ledger.first injective known few
          extended := List.prefix_append _ _
          recorded := rfl
          refers := ?_
          unique := ?_
          duplicate := ?_
          stats := rfl }⟩
    · apply List.Forall₂.cons _ List.Forall₂.nil
      refine ⟨contents.length, by simp, ?_, rfl⟩
      rw [← ledger.next]
      rfl
    · simp only [Progress.unique, byteCount_append, byteCount_singleton]
      rw [int64_of_range (by omega) (by omega)]
      omega
    · simp only [Progress.unique, byteCount_append, byteCount_singleton]
      omega

/-- Pieces that a call comes to after others. -/
theorem Advanced.trans
    {progress : Progress} {new more later last : List Bytes}
    {refs others : List SegmentReference}
    {middle after : Progress × DataDomainEngine}
    (first :
      Advanced sha256 pieces contents progress engine new later refs
        middle)
    (second :
      Advanced sha256 (pieces ++ new) later middle.1 middle.2 more last
        others after) :
    Advanced sha256 pieces contents progress engine (new ++ more) last
      (refs ++ others) after where
  ledger := by
    rw [← List.append_assoc]
    exact second.ledger
  extended := first.extended.trans second.extended
  recorded := by
    rw [second.recorded, first.recorded, List.append_assoc]
  refers := by
    apply List.rel_append
    · exact first.refers.imp fun _ _ refers =>
        refers.mono second.extended
    · exact second.refers
  unique := by
    have before := first.unique
    have next := second.unique
    omega
  duplicate := by
    have before := first.duplicate
    have next := second.duplicate
    rw [byteCount_append]
    omega
  stats := second.stats.trans first.stats

/-- What a call leaves after all its pieces. -/
theorem Ledger.deduplicateAll
    (ledger : Ledger sha256 pieces contents engine)
    (injective : Function.Injective sha256) {new : List Bytes}
    (few : pieces.length + new.length < 2 ^ 63) {progress : Progress}
    (uniqueFits : Fits progress.uniqueBytes new)
    (duplicateFits : Fits progress.duplicateBytes new)
    (offset : Nat) :
    ∃ later refs,
      Advanced sha256 pieces contents progress engine new later refs
        (engine.deduplicateAll sha256 progress offset new) := by
  induction new generalizing engine progress pieces contents offset with
  | nil =>
      refine
        ⟨contents, [],
          { ledger := ?_
            extended := List.prefix_rfl
            recorded := (List.append_nil _).symm
            refers := List.Forall₂.nil
            unique := rfl
            duplicate := ?_
            stats := rfl }⟩
      · rw [List.append_nil]
        exact ledger
      · exact (add_zero _).symm
  | cons piece rest induction =>
      rw [Fits, byteCount_cons] at uniqueFits duplicateFits
      rw [List.length_cons] at few
      have growth := byteCount_appear contents piece
      have first :=
        @Ledger.deduplicate sha256 pieces contents engine piece ledger
          injective (by omega) progress
          ⟨uniqueFits.1, by rw [byteCount_singleton]; omega⟩
          ⟨duplicateFits.1, by rw [byteCount_singleton]; omega⟩ offset
      rcases first with ⟨ref, first⟩
      have unique := first.unique
      have duplicate := first.duplicate
      rw [byteCount_singleton] at duplicate
      have many : (pieces ++ [piece]).length = pieces.length + 1 :=
        List.length_append
      have uniqueLater :
          Fits
            (engine.deduplicate sha256 progress offset
              piece).1.uniqueBytes rest :=
        ⟨by omega, by omega⟩
      have duplicateLater :
          Fits
            (engine.deduplicate sha256 progress offset
              piece).1.duplicateBytes rest :=
        ⟨by omega, by omega⟩
      rcases
          induction first.ledger (by omega) uniqueLater duplicateLater
            (offset + 1) with
        ⟨later, refs, further⟩
      exact ⟨later, [ref] ++ refs, first.trans further⟩

end Ledgers

end StorageAppliance.Unity
