import StorageAppliance.Library.Run
import StorageAppliance.Unity.DedupLedger
import StorageAppliance.Unity.Recipes

/-!
# The accounts of an engine

Calls and collections that are executed one at a time leave accounts that agree
(`Accounted`): one indexed segment for each content that was seen, counted as
often as the returned recipes refer to it, and statistics that add up.

The collector removes nothing (`Ledger.collectGarbage`), because every indexed
segment has appeared.  The counters are 64-bit integers, so the accounts agree
while fewer than `2 ^ 63` bytes have been stored; the call that refers to a
segment for the `2 ^ 63`rd time makes its count negative
(`refCount_overflows`).
-/

namespace StorageAppliance.Unity

open StorageAppliance.Go
open StorageAppliance.Library

/-! ## Histories -/

inductive DedupRequest where
  | deduplicateAndStore (objectId : String) (data : Bytes)
  | collectGarbage
deriving DecidableEq

/-- An engine, the data that was stored in it and the recipes it returned. -/
structure DedupHistory where
  engine : DataDomainEngine
  stored : List Bytes := []
  recipes : List RecipeMetadata := []
deriving DecidableEq

/-- The history of a new engine. -/
def DedupHistory.start (mode : DedupMode) : DedupHistory where
  engine := newDataDomainEngine mode

def DedupHistory.step (sha256 : Bytes → Bytes) (history : DedupHistory) :
    DedupRequest → DedupHistory
  | .deduplicateAndStore objectId data =>
      let (recipe, engine) :=
        history.engine.deduplicateAndStore sha256 objectId data
      { engine := engine
        stored := history.stored ++ [data]
        recipes := history.recipes ++ [recipe] }
  | .collectGarbage =>
      { history with engine := history.engine.collectGarbage }

/-- The segments that the calls have come to. -/
def DedupHistory.seen (history : DedupHistory) : List Bytes :=
  history.stored.flatMap chunkData

/-- The references of all returned recipes. -/
def DedupHistory.references (history : DedupHistory) :
    List SegmentReference :=
  history.recipes.flatMap RecipeMetadata.segmentRefs

/-- The segments in the index. -/
def DataDomainEngine.indexed (engine : DataDomainEngine) : List Segment :=
  engine.fingerprints.values.filterMap fun address => engine.heap[address]?

/-- The index, the recipes, the store and the statistics agree. -/
structure Accounted (sha256 : Bytes → Bytes) (history : DedupHistory) :
    Prop where
  fingerprints :
    ∀ fingerprint address,
      history.engine.fingerprints.get? fingerprint = some address →
        ∃ segment,
          history.engine.heap[address]? = some segment ∧
            segment.fingerprint = fingerprint ∧
            calculateFingerprint sha256 segment.data = fingerprint
  distinct : (history.engine.indexed.map Segment.data).Nodup
  seen :
    ∀ data,
      data ∈ history.engine.indexed.map Segment.data ↔
        data ∈ history.seen
  counted :
    ∀ segment ∈ history.engine.indexed,
      segment.refCount =
        history.references.countP fun ref =>
          ref.segmentId = segment.segmentId
  loadable :
    ∀ ref ∈ history.references,
      ∃ segment ∈ history.engine.indexed,
        history.engine.loadSegment ref.segmentId = .ok segment ∧
          segment.segmentId = ref.segmentId ∧
          segment.fingerprint = ref.fingerprint
  ingested :
    history.engine.stats.totalDataIngested =
      history.engine.stats.uniqueDataStored +
        history.engine.stats.duplicateDataFound
  unique :
    history.engine.stats.uniqueDataStored =
      (history.engine.indexed.map Segment.size).sum

/-! ## Ledgers -/

section Ledgers

variable
    {sha256 : Bytes → Bytes}
    {pieces contents : List Bytes}
    {engine : DataDomainEngine}
    {data : Bytes}

theorem byteCount_le_of_sublist
    {some all : List Bytes} (within : some.Sublist all) :
    byteCount some ≤ byteCount all := by
  induction within with
  | slnil => exact Nat.le_refl _
  | cons piece _ induction =>
      rw [byteCount_cons]
      omega
  | cons_cons piece _ induction =>
      rw [byteCount_cons, byteCount_cons]
      omega

theorem Ledger.byteCount_le
    (ledger : Ledger sha256 pieces contents engine) :
    byteCount contents ≤ byteCount pieces := by
  rcases
      List.subperm_of_subset ledger.distinct fun data member =>
        (ledger.members data).mp member with
    ⟨chosen, reordered, within⟩
  calc
    byteCount contents = byteCount chosen :=
      ((reordered.map List.length).sum_nat).symm
    _ ≤ byteCount pieces := byteCount_le_of_sublist within

theorem filterMap_range_getElem? {Item : Type} (items : List Item) :
    ((List.range items.length).filterMap fun index => items[index]?) =
      items := by
  induction items with
  | nil => rfl
  | cons item rest induction =>
      rw [List.length_cons, List.range_succ_eq_map,
        List.filterMap_cons_some List.getElem?_cons_zero,
        List.filterMap_map]
      exact congrArg (item :: ·) induction

/-- The index leads to every segment once. -/
theorem Ledger.indexedSegments
    (ledger : Ledger sha256 pieces contents engine) :
    engine.indexed = engine.heap := by
  rw [DataDomainEngine.indexed, ledger.values, ← ledger.length_heap,
    filterMap_range_getElem?]

theorem Ledger.map_data_indexed
    (ledger : Ledger sha256 pieces contents engine) :
    engine.indexed.map Segment.data = contents := by
  apply List.ext_getElem?
  intro address
  rw [ledger.indexedSegments, ledger.heap, List.getElem?_map,
    List.getElem?_mapIdx, Option.map_map]
  exact Option.map_id'

theorem Ledger.sum_size_indexed
    (ledger : Ledger sha256 pieces contents engine) :
    (engine.indexed.map Segment.size).sum = byteCount contents := by
  have sizes :
      engine.indexed.map Segment.size =
        contents.map fun data => (data.length : ℤ) := by
    apply List.ext_getElem?
    intro address
    rw [ledger.indexedSegments, ledger.heap, List.getElem?_map,
      List.getElem?_mapIdx, Option.map_map, List.getElem?_map]
    rfl
  rw [sizes]
  clear sizes ledger
  induction contents with
  | nil => rfl
  | cons piece rest induction =>
      rw [List.map_cons, List.sum_cons, induction, byteCount_cons,
        Int.natCast_add]

/-- An indexed segment is that of some contents. -/
theorem Ledger.exists_of_mem_indexed
    (ledger : Ledger sha256 pieces contents engine) {segment : Segment}
    (member : segment ∈ engine.indexed) :
    ∃ address data,
      contents[address]? = some data ∧
        segment =
          countedSegment sha256 address data (pieces.count data : Nat) := by
  rw [ledger.indexedSegments] at member
  rcases List.getElem?_of_mem member with ⟨address, held⟩
  rw [ledger.heap, List.getElem?_mapIdx, Option.map_eq_some_iff] at held
  rcases held with ⟨data, found, rfl⟩
  exact ⟨address, data, found, rfl⟩

theorem Ledger.mem_indexed
    (ledger : Ledger sha256 pieces contents engine) {address : Nat}
    (found : contents[address]? = some data) :
    countedSegment sha256 address data (pieces.count data : Nat) ∈
      engine.indexed := by
  rw [ledger.indexedSegments]
  exact List.mem_of_getElem? (ledger.held found)

/-- A segment is referred to as often as its data appears. -/
theorem countP_references
    {refs : List SegmentReference}
    (refers : List.Forall₂ (Refers sha256 contents) pieces refs)
    (distinct : contents.Nodup) (few : contents.length < 2 ^ 64)
    {address : Nat} (found : contents[address]? = some data) :
    (refs.countP fun ref =>
        ref.segmentId = segmentName (UInt64.ofNat address)) =
      pieces.count data := by
  have within := (List.getElem?_eq_some_iff.mp found).1
  induction refers with
  | nil => rfl
  | @cons piece ref pieces refs first _ induction =>
      rcases first with ⟨place, held, named, _⟩
      have placed := (List.getElem?_eq_some_iff.mp held).1
      have same :
          ref.segmentId = segmentName (UInt64.ofNat address) ↔
            piece = data := by
        rw [named]
        constructor
        · intro names
          have equal := segmentName_inj (by omega) (by omega) names
          rw [equal, found] at held
          exact (Option.some.inj held).symm
        · rintro rfl
          rw [(List.getElem?_inj placed distinct).mp
            (held.trans found.symm)]
      rw [List.countP_cons, List.count_cons, induction]
      simp only [same, decide_eq_true_eq, beq_iff_eq]

theorem exists_refers_of_mem
    {refs : List SegmentReference}
    (refers : List.Forall₂ (Refers sha256 contents) pieces refs)
    {ref : SegmentReference} (member : ref ∈ refs) :
    ∃ piece, Refers sha256 contents piece ref := by
  rcases List.getElem?_of_mem member with ⟨index, found⟩
  rcases List.getElem?_eq_some_iff.mp found with ⟨within, rfl⟩
  exact
    ⟨_, refers.get (refers.length_eq ▸ within) within⟩

/-- A reference leads to the segment it was made for. -/
theorem Ledger.loadSegment_of_refers
    (ledger : Ledger sha256 pieces contents engine)
    {ref : SegmentReference} (refers : Refers sha256 contents data ref) :
    ∃ segment ∈ engine.indexed,
      engine.loadSegment ref.segmentId = .ok segment ∧
        segment.segmentId = ref.segmentId ∧
        segment.fingerprint = ref.fingerprint := by
  rcases refers with ⟨address, found, named, fingerprint⟩
  refine
    ⟨_, ledger.mem_indexed found, ?_, named.symm, fingerprint.symm⟩
  rw [DataDomainEngine.loadSegment, named,
    ledger.mapped address (List.getElem?_eq_some_iff.mp found).1,
    Option.bind_some, ledger.held found]

theorem Ledger.updateStats
    (ledger : Ledger sha256 pieces contents engine)
    {totalBytes uniqueBytes duplicateBytes : ℤ} :
    Ledger sha256 pieces contents
      (engine.updateStats totalBytes uniqueBytes duplicateBytes) :=
  ⟨ledger.distinct, ledger.members, ledger.next, ledger.heap,
    ledger.values, ledger.indexed, ledger.mapped⟩

/-! ## Garbage collection -/

theorem Ledger.collect
    (ledger : Ledger sha256 pieces contents engine)
    {fingerprint : String} {address : Nat}
    (found : engine.fingerprints.get? fingerprint = some address) :
    engine.collect fingerprint address = engine := by
  rcases (ledger.indexed _ _).mp found with ⟨data, held, _⟩
  have appeared : 0 < pieces.count data :=
    List.count_pos_iff.mpr
      ((ledger.members data).mp (List.mem_of_getElem? held))
  rw [DataDomainEngine.collect, ledger.held held]
  apply if_neg
  change ((pieces.count data : Nat) : ℤ) ≠ 0
  omega

/-- The collector finds no segment without references. -/
theorem Ledger.collectGarbage
    (ledger : Ledger sha256 pieces contents engine) :
    engine.collectGarbage = engine := by
  have kept :
      ∀ items : List (String × Nat),
        (∀ item ∈ items, engine.collect item.1 item.2 = engine) →
          items.foldl
              (fun engine item => engine.collect item.1 item.2) engine =
            engine := by
    intro items each
    induction items with
    | nil => rfl
    | cons item rest induction =>
        rw [List.foldl_cons, each item List.mem_cons_self]
        apply induction
        intro other member
        exact each other (List.mem_cons_of_mem item member)
  apply kept
  intro item member
  exact ledger.collect (Dict.get?_eq_some_iff.mpr member)

end Ledgers

/-! ## Requests -/

section Requests

variable
    {sha256 : Bytes → Bytes}
    {contents : List Bytes}
    {history : DedupHistory}

/-- The ledger of a history, and what its statistics come to. -/
structure Booked (sha256 : Bytes → Bytes) (contents : List Bytes)
    (history : DedupHistory) : Prop where
  ledger : Ledger sha256 history.seen contents history.engine
  refers :
    List.Forall₂ (Refers sha256 contents) history.seen history.references
  ingested :
    history.engine.stats.totalDataIngested = byteCount history.stored
  unique : history.engine.stats.uniqueDataStored = byteCount contents
  duplicate :
    history.engine.stats.duplicateDataFound + byteCount contents =
      byteCount history.stored

theorem booked_start (mode : DedupMode) :
    Booked sha256 [] (DedupHistory.start mode) where
  ledger := ledger_new mode
  refers := List.Forall₂.nil
  ingested := rfl
  unique := rfl
  duplicate := rfl

/-- No bytes are lost or added when data is cut. -/
theorem byteCount_chunkData (data : Bytes) :
    byteCount (chunkData data) = data.length := by
  rw [byteCount, ← List.length_flatten, chunkData_eq,
    chunker.flatten_segments]

theorem byteCount_flatMap_chunkData (stored : List Bytes) :
    byteCount (stored.flatMap chunkData) = byteCount stored := by
  induction stored with
  | nil => rfl
  | cons data rest induction =>
      rw [List.flatMap_cons, byteCount_append, byteCount_chunkData,
        induction, byteCount_cons]

theorem length_le_byteCount
    {pieces : List Bytes} (present : ∀ piece ∈ pieces, piece ≠ []) :
    pieces.length ≤ byteCount pieces := by
  induction pieces with
  | nil => exact Nat.le_refl _
  | cons piece rest induction =>
      have some :=
        List.length_pos_iff.mpr (present piece List.mem_cons_self)
      have others :=
        induction fun other member =>
          present other (List.mem_cons_of_mem piece member)
      rw [byteCount_cons, List.length_cons]
      omega

theorem length_flatMap_chunkData_le (stored : List Bytes) :
    (stored.flatMap chunkData).length ≤ byteCount stored := by
  rw [← byteCount_flatMap_chunkData]
  apply length_le_byteCount
  intro piece member
  rcases List.mem_flatMap.mp member with ⟨data, _, cut⟩
  rw [chunkData_eq] at cut
  exact chunker.ne_nil_of_mem_segments cut

theorem DedupHistory.seen_deduplicateAndStore
    (objectId : String) (data : Bytes) :
    (history.step sha256 (.deduplicateAndStore objectId data)).seen =
      history.seen ++ chunkData data := by
  simp only [DedupHistory.step, DedupHistory.seen, List.flatMap_append,
    List.flatMap_singleton]

theorem DedupHistory.references_deduplicateAndStore
    (objectId : String) (data : Bytes) :
    (history.step sha256 (.deduplicateAndStore objectId data)).references =
      history.references ++
        (history.engine.deduplicateAll sha256 {} 0
          (chunkData data)).1.segmentRefs := by
  simp only [DedupHistory.step, DedupHistory.references,
    List.flatMap_append, List.flatMap_singleton]
  rfl

/-- A call books its segments. -/
theorem Booked.deduplicateAndStore
    (booked : Booked sha256 contents history)
    (injective : Function.Injective sha256)
    (objectId : String) {data : Bytes}
    (few : byteCount (history.stored ++ [data]) < 2 ^ 63) :
    ∃ later,
      Booked sha256 later
        (history.step sha256 (.deduplicateAndStore objectId data)) := by
  have least := booked.ledger.byteCount_le
  rw [DedupHistory.seen, byteCount_flatMap_chunkData] at least
  rw [byteCount_append, byteCount_singleton] at few
  have uniqueFits : Fits ({} : Progress).uniqueBytes (chunkData data) :=
    ⟨Int.le_refl 0, by
      rw [byteCount_chunkData]
      change (0 : ℤ) + data.length < 2 ^ 63
      omega⟩
  have duplicateFits :
      Fits ({} : Progress).duplicateBytes (chunkData data) :=
    uniqueFits
  have pieces := length_flatMap_chunkData_le (history.stored ++ [data])
  rw [List.flatMap_append, List.flatMap_singleton, List.length_append,
    byteCount_append, byteCount_singleton] at pieces
  rcases
      booked.ledger.deduplicateAll injective
        (Nat.lt_of_le_of_lt pieces few) uniqueFits duplicateFits 0 with
    ⟨later, refs, advanced⟩
  have most := advanced.ledger.byteCount_le
  rw [DedupHistory.seen, byteCount_append, byteCount_flatMap_chunkData,
    byteCount_chunkData] at most
  have unique : _ = (0 : ℤ) + byteCount later := advanced.unique
  have duplicate : _ = (0 : ℤ) + _ + _ := advanced.duplicate
  rw [byteCount_chunkData] at duplicate
  refine
    ⟨later,
      { ledger := ?_
        refers := ?_
        ingested := ?_
        unique := ?_
        duplicate := ?_ }⟩
  · rw [DedupHistory.seen_deduplicateAndStore]
    exact advanced.ledger.updateStats
  · rw [DedupHistory.seen_deduplicateAndStore,
      DedupHistory.references_deduplicateAndStore, advanced.recorded]
    apply List.rel_append
    · exact booked.refers.imp fun _ _ refers =>
        refers.mono advanced.extended
    · exact advanced.refers
  · change int64 (_ + int64 data.length) = (byteCount (_ ++ [data]) : ℤ)
    rw [advanced.stats, booked.ingested, byteCount_append,
      byteCount_singleton,
      @int64_of_range data.length (by omega) (by omega),
      int64_of_range (by omega) (by omega), Int.natCast_add]
  · change int64 (_ + _) = _
    rw [advanced.stats, booked.unique,
      int64_of_range (by omega) (by omega)]
    omega
  · change int64 (_ + _) + _ = (byteCount (_ ++ [data]) : ℤ)
    have before := booked.duplicate
    rw [advanced.stats, byteCount_append, byteCount_singleton,
      int64_of_range (by omega) (by omega)]
    omega
/-- While few bytes have been stored, every request books what it does. -/
theorem booked_step
    (injective : Function.Injective sha256)
    (history : DedupHistory) (request : DedupRequest)
    (booked :
      byteCount history.stored < 2 ^ 63 →
        ∃ contents, Booked sha256 contents history)
    (few : byteCount (history.step sha256 request).stored < 2 ^ 63) :
    ∃ contents, Booked sha256 contents (history.step sha256 request) := by
  cases request with
  | deduplicateAndStore objectId data =>
      change byteCount (history.stored ++ [data]) < 2 ^ 63 at few
      rw [byteCount_append] at few
      rcases booked (by omega) with ⟨contents, booked⟩
      apply booked.deduplicateAndStore injective
      rw [byteCount_append]
      exact few
  | collectGarbage =>
      rcases booked few with ⟨contents, booked⟩
      refine ⟨contents, ?_⟩
      rw [DedupHistory.step, booked.ledger.collectGarbage]
      exact booked

theorem booked_run
    (injective : Function.Injective sha256) (mode : DedupMode)
    (requests : List DedupRequest)
    (few :
      byteCount
          (run (DedupHistory.step sha256) (.start mode) requests).stored <
        2 ^ 63) :
    ∃ contents,
      Booked sha256 contents
        (run (DedupHistory.step sha256) (.start mode) requests) := by
  have start :
      byteCount (DedupHistory.start mode).stored < 2 ^ 63 →
        ∃ contents, Booked sha256 contents (DedupHistory.start mode) :=
    fun _ => ⟨[], booked_start mode⟩
  exact run_invariant_of_step (booked_step injective) requests start few

/-- What is booked agrees. -/
theorem Booked.accounted
    (booked : Booked sha256 contents history)
    (few : byteCount history.stored < 2 ^ 63) :
    Accounted sha256 history := by
  have ledger := booked.ledger
  have pieces := length_flatMap_chunkData_le history.stored
  have most := ledger.length_contents_le
  rw [DedupHistory.seen] at most
  constructor
  · intro fingerprint address found
    rcases (ledger.indexed _ _).mp found with ⟨data, held, same⟩
    exact ⟨_, ledger.held held, same, same⟩
  · rw [ledger.map_data_indexed]
    exact ledger.distinct
  · intro data
    rw [ledger.map_data_indexed]
    exact ledger.members data
  · intro segment member
    rcases ledger.exists_of_mem_indexed member with
      ⟨address, data, found, rfl⟩
    change ((history.seen.count data : Nat) : ℤ) = _
    rw [← countP_references booked.refers ledger.distinct (by omega) found]
    rfl
  · intro ref member
    rcases exists_refers_of_mem booked.refers member with
      ⟨data, refers⟩
    exact ledger.loadSegment_of_refers refers
  · have duplicate := booked.duplicate
    rw [booked.ingested, booked.unique]
    omega
  · rw [booked.unique, ledger.sum_size_indexed]

end Requests

/--
After any requests that store fewer than `2 ^ 63` bytes, the index, the recipes,
the store and the statistics agree.
-/
theorem accounted_after_any_requests
    (sha256 : Bytes → Bytes) (injective : Function.Injective sha256)
    (mode : DedupMode) (requests : List DedupRequest)
    (few :
      byteCount
          (run (DedupHistory.step sha256) (.start mode) requests).stored <
        2 ^ 63) :
    Accounted sha256
      (run (DedupHistory.step sha256) (.start mode) requests) := by
  rcases booked_run injective mode requests few with ⟨contents, booked⟩
  exact booked.accounted few

/-- The SHA-256 digest of `[1, 2, 3]`. -/
def countDigest : Bytes :=
  [0x03, 0x90, 0x58, 0xc6, 0xf2, 0xc0, 0xcb, 0x49, 0x2c, 0x53, 0x3b, 0x0a, 0x4d,
    0x14, 0xef, 0x77, 0xcc, 0x0f, 0x78, 0xab, 0xcc, 0xce, 0xd5, 0x28, 0x7d, 0x84,
    0xa1, 0xa2, 0x01, 0x1c, 0xfb, 0x81]

/-- The SHA-256 digest of `[4]`. -/
def fourDigest : Bytes :=
  [0xe5, 0x2d, 0x9c, 0x50, 0x8c, 0x50, 0x23, 0x47, 0x34, 0x4d, 0x8c, 0x07, 0xad,
    0x91, 0xcb, 0xd6, 0x06, 0x8a, 0xfc, 0x75, 0xff, 0x62, 0x92, 0xf0, 0x62, 0xa0,
    0x9c, 0xa3, 0x81, 0xc8, 0x9e, 0x71]

/-- Digests that are those of SHA-256 for two segments. -/
def distinctDigest (data : Bytes) : Bytes :=
  if data = [1, 2, 3] then countDigest
  else if data = [4] then fourDigest
  else 0 :: data

theorem distinctDigest_injective : Function.Injective distinctDigest := by
  intro left right same
  rw [distinctDigest, distinctDigest, countDigest, fourDigest] at same
  split_ifs at same
  all_goals simp_all

/-- Data that is stored twice, with a collection and other data in between. -/
def repeatedRequests : List DedupRequest :=
  [.deduplicateAndStore "first" [1, 2, 3], .collectGarbage,
    .deduplicateAndStore "second" [4],
    .deduplicateAndStore "third" [1, 2, 3]]

theorem accounted_after_repeatedRequests :
    Accounted distinctDigest
      (run (DedupHistory.step distinctDigest) (.start .inline)
        repeatedRequests) := by
  apply accounted_after_any_requests _ distinctDigest_injective
  change byteCount [[1, 2, 3], [4], [1, 2, 3]] < 2 ^ 63
  decide

/-! ## Overflow -/

section Overflow

variable
    {sha256 : Bytes → Bytes}
    {history : DedupHistory}

theorem stored_run_replicate
    (objectId : String) (data : Bytes) (calls : Nat) :
    (run (DedupHistory.step sha256) history
        (List.replicate calls (.deduplicateAndStore objectId data))).stored =
      history.stored ++ List.replicate calls data := by
  induction calls generalizing history with
  | zero => exact (List.append_nil _).symm
  | succ calls induction =>
      rw [List.replicate_succ, run_cons, induction, List.replicate_succ]
      exact List.append_assoc _ _ _

theorem chunkData_singleton (byte : UInt8) : chunkData [byte] = [[byte]] := by
  apply chunkData_of_oneSegment
  · constructor
    · rw [List.length_singleton]
      decide
    · intro cut long short
      have least : 8192 ≤ cut := long
      rw [List.length_singleton] at short
      omega
  · exact List.cons_ne_nil _ _

theorem byteCount_replicate (calls : Nat) (piece : Bytes) :
    byteCount (List.replicate calls piece) = calls * piece.length := by
  rw [byteCount, List.map_replicate, List.sum_replicate_nat]

theorem flatMap_chunkData_replicate (calls : Nat) (byte : UInt8) :
    (List.replicate calls [byte]).flatMap chunkData =
      List.replicate calls [byte] := by
  induction calls with
  | zero => rfl
  | succ calls induction =>
      rw [List.replicate_succ, List.flatMap_cons, chunkData_singleton,
        induction]
      rfl

/-- Another call with a known byte adds one to the count of its segment. -/
theorem mem_indexed_again
    {history : DedupHistory} {pieces contents : List Bytes} {byte : UInt8}
    (ledger : Ledger sha256 pieces contents history.engine) {address : Nat}
    (found : contents[address]? = some [byte]) (objectId : String) :
    countedSegment sha256 address [byte]
        (int64 ((pieces.count [byte] : Nat) + 1)) ∈
      (history.step sha256
        (.deduplicateAndStore objectId [byte])).engine.indexed := by
  have held := ledger.held found
  have after :
      (history.engine.deduplicateAll sha256 {} 0 (chunkData [byte])).2 =
        history.engine.addReference address := by
    rw [chunkData_singleton]
    exact
      congrArg Prod.snd
        (deduplicate_of_found (ledger.get?_of_mem found) held)
  rw [DataDomainEngine.indexed, List.mem_filterMap]
  refine ⟨address, ?_, ?_⟩
  · change
      address ∈
        (history.engine.deduplicateAll sha256 {} 0
          (chunkData [byte])).2.fingerprints.values
    rw [after]
    change address ∈ history.engine.fingerprints.values
    rw [ledger.values, List.mem_range]
    exact (List.getElem?_eq_some_iff.mp found).1
  · change
      (history.engine.deduplicateAll sha256 {} 0
        (chunkData [byte])).2.heap[address]? = _
    rw [after, heap_addReference, held, Option.map_some, if_pos rfl]
    rfl

/-- The count of a segment that fills its type is negative afterwards. -/
theorem not_accounted_of_full
    {total : Nat} (full : total = 2 ^ 63)
    (injective : Function.Injective sha256) :
    ¬ Accounted sha256
      (run (DedupHistory.step sha256) (.start .inline)
        (List.replicate total (.deduplicateAndStore "object" [0]))) := by
  obtain ⟨calls, rfl⟩ : ∃ calls, total = calls + 1 :=
    ⟨total - 1, by omega⟩
  have stored :=
    @stored_run_replicate sha256 (.start .inline) "object" [0] calls
  have few :
      byteCount
          (run (DedupHistory.step sha256) (.start .inline)
            (List.replicate calls
              (.deduplicateAndStore "object" [0]))).stored <
        2 ^ 63 := by
    rw [stored]
    change byteCount (List.replicate calls [0]) < 2 ^ 63
    rw [byteCount_replicate, List.length_singleton]
    omega
  rcases booked_run injective .inline _ few with ⟨contents, booked⟩
  rw [List.replicate_succ', run_append, run_cons, run_nil]
  generalize
    run (DedupHistory.step sha256) (.start .inline)
      (List.replicate calls (.deduplicateAndStore "object" [0])) =
      history at stored booked
  have seen : history.seen = List.replicate calls [0] := by
    rw [DedupHistory.seen, stored]
    exact flatMap_chunkData_replicate calls 0
  have ledger := booked.ledger
  rw [seen] at ledger
  have known : [0] ∈ contents := by
    apply (ledger.members [0]).mpr
    rw [List.mem_replicate]
    exact ⟨by omega, rfl⟩
  rcases List.getElem?_of_mem known with ⟨address, found⟩
  have member := mem_indexed_again ledger found "object"
  rw [List.count_replicate_self] at member
  intro accounted
  have count := accounted.counted _ member
  have negative : int64 (calls + 1) = -(2 ^ 64 - (calls + 1)) :=
    int64_of_large (by omega) (by omega)
  simp only [countedSegment, negative] at count
  omega

end Overflow

/-- One byte is stored `2 ^ 63` times, and its segment is counted below zero. -/
theorem refCount_overflows :
    ¬ Accounted (fun data => data)
      (run (DedupHistory.step fun data => data) (.start .inline)
        (List.replicate (2 ^ 63) (.deduplicateAndStore "object" [0]))) :=
  not_accounted_of_full rfl Function.injective_id

end StorageAppliance.Unity
