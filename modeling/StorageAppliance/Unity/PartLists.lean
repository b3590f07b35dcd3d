import Mathlib.Algebra.BigOperators.Group.List.Basic
import Mathlib.Algebra.Order.BigOperators.Group.List
import Mathlib.Algebra.Order.Group.Int
import Mathlib.Algebra.Ring.Int.Defs
import Mathlib.Data.List.Dedup
import Mathlib.Data.List.Sort
import StorageAppliance.Unity.HiddenObjects
import StorageAppliance.Unity.HttpSessions

/-!
# Lists of parts

The client completes an upload with a list of parts.  The order of the list does
not matter, because it is sorted, but the sizes in it do: each part is read into
a buffer of its listed size, which cuts the data or fills it with zeros.  A part
that is listed twice is read twice, and a size that no buffer can have makes the
completion panic.

`completion_robust_iff` says for which lists the completion fails with an error
or stores what was uploaded, in any order of the list.  The bytes that the sizes
cut can be the uploaded ones by coincidence, so the condition speaks of bytes.
Lists that have each part once, with its length, are accepted
(`accepted_of_proper`).
-/

namespace StorageAppliance.Unity

open StorageAppliance.Go
open StorageAppliance.Library

/-! ## What is expected -/

/-- What `sort.Slice` promises; it says nothing about equal numbers. -/
structure SortsParts (sortParts : List PartInfo → List PartInfo) :
    Prop where
  perm : ∀ parts, (sortParts parts).Perm parts
  sorted :
    ∀ parts,
      (sortParts parts).Pairwise fun first second =>
        first.partNumber ≤ second.partNumber

/-- The data that is stored for a part of an upload. -/
def storedPart (engine : ObjectProtocolEngine) (uploadId : String)
    (partNumber : ℤ) : Option Bytes :=
  engine.pool.storage.get? (partId uploadId partNumber)

/-- The numbers in a list of parts, each once and in ascending order. -/
def listedNumbers (parts : List PartInfo) : List ℤ :=
  (parts.map PartInfo.partNumber).dedup.mergeSort

/-- The stored data of the listed parts, each once. -/
def partsData (engine : ObjectProtocolEngine) (uploadId : String)
    (parts : List PartInfo) : Bytes :=
  (listedNumbers parts).flatMap fun partNumber =>
    (storedPart engine uploadId partNumber).getD []

/-- What a completion answers and leaves. -/
abbrev Completion :=
  Except Fault ObjectMetadata × ObjectProtocolEngine

/-- A completion fails with an error, and the upload and its parts stay. -/
structure FailsIntact (engine : ObjectProtocolEngine) (uploadId : String)
    (completion : Completion) : Prop where
  error : ∃ error, completion.1 = .error (.error error)
  upload :
    completion.2.uploads.get? uploadId = engine.uploads.get? uploadId
  parts :
    ∀ partNumber,
      storedPart completion.2 uploadId partNumber =
        storedPart engine uploadId partNumber

/-- A completion stores the uploaded parts as the object. -/
structure StoresParts (engine : ObjectProtocolEngine)
    (bucket key uploadId : String) (parts : List PartInfo)
    (completion : Completion) : Prop where
  returned : ∃ objMeta, completion.1 = .ok objMeta
  object :
    Reads completion.2 bucket key (partsData engine uploadId parts)

/-- Two completions answer the same, and the object reads the same. -/
structure SameResult (bucket key : String) (first second : Completion) :
    Prop where
  answer : first.1 = second.1
  object :
    ∀ data, Reads first.2 bucket key data ↔ Reads second.2 bucket key data

/-- A completion fails or stores the parts, in any order of the list. -/
structure Robust (sortParts : List PartInfo → List PartInfo)
    (engine : ObjectProtocolEngine) (bucket key uploadId : String)
    (parts : List PartInfo) (now : ℤ) : Prop where
  outcome :
    FailsIntact engine uploadId
        (engine.completeMultipartUpload sortParts bucket key uploadId parts
          now) ∨
      StoresParts engine bucket key uploadId parts
        (engine.completeMultipartUpload sortParts bucket key uploadId parts
          now)
  order :
    ∀ other : List PartInfo,
      other.Perm parts →
        SameResult bucket key
          (engine.completeMultipartUpload sortParts bucket key uploadId
            other now)
          (engine.completeMultipartUpload sortParts bucket key uploadId
            parts now)

/-! ## Accepted lists -/

/-- A buffer of the listed size can be made. -/
def SizeFits (part : PartInfo) : Prop :=
  0 ≤ part.size ∧ part.size ≤ maxAlloc

/-- The first part that can not be read is one that is not stored. -/
def StopsAtMissing (engine : ObjectProtocolEngine) (uploadId : String) :
    List PartInfo → Prop
  | [] => False
  | part :: rest =>
      SizeFits part ∧
        (storedPart engine uploadId part.partNumber = none ∨
          StopsAtMissing engine uploadId rest)

/-- All parts can be read. -/
def PartsReadable (engine : ObjectProtocolEngine) (uploadId : String)
    (parts : List PartInfo) : Prop :=
  ∀ part ∈ parts,
    SizeFits part ∧ storedPart engine uploadId part.partNumber ≠ none

/-- The stored data, cut or filled up to the listed sizes. -/
def cutParts (engine : ObjectProtocolEngine) (uploadId : String)
    (parts : List PartInfo) : Bytes :=
  parts.flatMap fun part =>
    fitted part.size.toNat
      ((storedPart engine uploadId part.partNumber).getD [])

/-- The sum of the listed sizes, as an `int64`. -/
def totalSize (parts : List PartInfo) : ℤ :=
  int64 (parts.map PartInfo.size).sum

/-- The listed sizes cut the stored parts as they were uploaded. -/
structure CutsExactly (sortParts : List PartInfo → List PartInfo)
    (engine : ObjectProtocolEngine) (bucket key uploadId : String)
    (parts : List PartInfo) : Prop where
  size : 0 ≤ totalSize parts ∧ totalSize parts ≤ maxAlloc
  data :
    ∀ other : List PartInfo,
      other.Perm parts →
        (cutParts engine uploadId (sortParts other)).take
            (totalSize parts).toNat =
          partsData engine uploadId parts
  apart :
    ∀ part ∈ parts, objectId bucket key ≠ partId uploadId part.partNumber

/-- Each part is listed once, with the length of what is stored. -/
structure ProperList (engine : ObjectProtocolEngine)
    (bucket key uploadId : String) (parts : List PartInfo) : Prop where
  once : (parts.map PartInfo.partNumber).Nodup
  stored :
    ∀ part ∈ parts,
      ∃ stored,
        storedPart engine uploadId part.partNumber = some stored ∧
          part.size = stored.length
  fits : (parts.map PartInfo.size).sum ≤ maxAlloc
  apart :
    ∀ part ∈ parts, objectId bucket key ≠ partId uploadId part.partNumber

/-- The lists that a completion is robust for. -/
def Accepted (sortParts : List PartInfo → List PartInfo)
    (engine : ObjectProtocolEngine) (bucket key uploadId : String)
    (parts : List PartInfo) : Prop :=
  engine.uploads.get? uploadId = none ∨
    (∀ other : List PartInfo,
      other.Perm parts →
        StopsAtMissing engine uploadId (sortParts other)) ∨
    PartsReadable engine uploadId parts ∧
      (engine.buckets.get? bucket = none ∨
        CutsExactly sortParts engine bucket key uploadId parts)

section Reading

variable
    {engine : ObjectProtocolEngine}
    {uploadId : String}
    {parts : List PartInfo}

theorem makeSlice_of_sizeFits
    {part : PartInfo} (fits : SizeFits part) :
    makeSlice part.size = .ok part.size.toNat := by
  rw [makeSlice_ok_iff]
  exact ⟨(Int.toNat_of_nonneg fits.1).symm, fits.2⟩

theorem makeSlice_panics
    {size : ℤ} (beyond : ¬ (0 ≤ size ∧ size ≤ maxAlloc)) :
    makeSlice size = .error (.panic "makeslice: len out of range") := by
  rw [makeSlice_eq, if_neg beyond]

/-- A part that can be read is read before the others. -/
theorem readParts_cons
    {part : PartInfo} (fits : SizeFits part) {stored : Bytes}
    (held : storedPart engine uploadId part.partNumber = some stored)
    (rest : List PartInfo) :
    engine.readParts uploadId (part :: rest) =
      (engine.readParts uploadId rest).map fun joined =>
        fitted part.size.toNat stored ++ joined := by
  rw [storedPart] at held
  simp only [ObjectProtocolEngine.readParts, makeSlice_of_sizeFits fits,
    UnifiedStoragePool.readWithServices, held]
  cases engine.readParts uploadId rest with
  | error fault => rfl
  | ok joined => rfl

theorem cutParts_cons (part : PartInfo) (rest : List PartInfo) :
    cutParts engine uploadId (part :: rest) =
      fitted part.size.toNat
          ((storedPart engine uploadId part.partNumber).getD []) ++
        cutParts engine uploadId rest :=
  List.flatMap_cons

theorem readParts_of_readable
    (readable : PartsReadable engine uploadId parts) :
    engine.readParts uploadId parts =
      .ok (cutParts engine uploadId parts) := by
  induction parts with
  | nil => rfl
  | cons part rest induction =>
      rcases readable part List.mem_cons_self with ⟨fits, present⟩
      rcases Option.ne_none_iff_exists'.mp present with ⟨stored, held⟩
      have later :=
        induction fun other member =>
          readable other (List.mem_cons_of_mem part member)
      rw [readParts_cons fits held, later, cutParts_cons, held]
      rfl

/-- The error of a list that stops is that of its least missing part. -/
theorem readParts_of_stops
    (stops : StopsAtMissing engine uploadId parts)
    (sorted :
      parts.Pairwise fun first second =>
        first.partNumber ≤ second.partNumber) :
    ∃ part ∈ parts,
      storedPart engine uploadId part.partNumber = none ∧
        (∀ other ∈ parts,
          storedPart engine uploadId other.partNumber = none →
            part.partNumber ≤ other.partNumber) ∧
        engine.readParts uploadId parts =
          .error
            (errorf
              ("storage ID not found: " ++
                partId uploadId part.partNumber)) := by
  induction parts with
  | nil => exact False.elim stops
  | cons part rest induction =>
      rcases stops with ⟨fits, here⟩
      rcases List.pairwise_cons.mp sorted with ⟨least, later⟩
      cases held : storedPart engine uploadId part.partNumber with
      | none =>
          refine ⟨part, List.mem_cons_self, held, ?_, ?_⟩
          · intro other member _
            rcases List.mem_cons.mp member with rfl | listed
            · exact Int.le_refl _
            · exact least other listed
          · rw [storedPart] at held
            simp only [ObjectProtocolEngine.readParts,
              makeSlice_of_sizeFits fits,
              UnifiedStoragePool.readWithServices, held]
      | some stored =>
          have next : StopsAtMissing engine uploadId rest := by
            rcases here with missing | next
            · rw [held] at missing
              cases missing
            · exact next
          rcases induction next later with
            ⟨first, member, missing, minimal, read⟩
          refine
            ⟨first, List.mem_cons_of_mem part member, missing, ?_, ?_⟩
          · intro other listed absent
            rcases List.mem_cons.mp listed with rfl | listed
            · rw [held] at absent
              cases absent
            · exact minimal other listed absent
          · rw [readParts_cons fits held, read]
            rfl

/-- Any other list makes the completion panic. -/
theorem readParts_panics
    (unreadable : ¬ PartsReadable engine uploadId parts)
    (goes : ¬ StopsAtMissing engine uploadId parts) :
    ∃ message,
      engine.readParts uploadId parts = .error (.panic message) := by
  induction parts with
  | nil => exact absurd (fun part member => by cases member) unreadable
  | cons part rest induction =>
      by_cases fits : SizeFits part
      · cases held : storedPart engine uploadId part.partNumber with
        | none => exact absurd ⟨fits, Or.inl held⟩ goes
        | some stored =>
            have later : ¬ PartsReadable engine uploadId rest := by
              intro readable
              apply unreadable
              intro other member
              rcases List.mem_cons.mp member with rfl | listed
              · refine ⟨fits, ?_⟩
                rw [held]
                exact Option.some_ne_none stored
              · exact readable other listed
            have further : ¬ StopsAtMissing engine uploadId rest :=
              fun stops => goes ⟨fits, Or.inr stops⟩
            rcases induction later further with ⟨message, read⟩
            refine ⟨message, ?_⟩
            rw [readParts_cons fits held, read]
            rfl
      · refine ⟨"makeslice: len out of range", ?_⟩
        rw [ObjectProtocolEngine.readParts, makeSlice_panics fits]

/-- A list that stops has a part that can not be read. -/
theorem not_readable_of_stops
    (stops : StopsAtMissing engine uploadId parts) :
    ¬ PartsReadable engine uploadId parts := by
  induction parts with
  | nil => exact False.elim stops
  | cons part rest induction =>
      intro readable
      rcases stops.2 with missing | later
      · exact (readable part List.mem_cons_self).2 missing
      · apply induction later
        intro other member
        exact readable other (List.mem_cons_of_mem part member)

theorem partsReadable_perm
    {other : List PartInfo} (reordered : other.Perm parts) :
    PartsReadable engine uploadId other ↔
      PartsReadable engine uploadId parts :=
  forall_congr' fun _ => imp_congr reordered.mem_iff Iff.rfl

/-! ## Sizes -/

theorem int64_add (first second : ℤ) :
    int64 (int64 first + second) = int64 (first + second) :=
  Int.bmod_add_bmod

theorem foldl_size (parts : List PartInfo) :
    parts.foldl (fun total part => int64 (total + part.size)) 0 =
      totalSize parts := by
  have folded :
      ∀ (rest : List PartInfo) (total : ℤ),
        rest.foldl (fun total part => int64 (total + part.size))
            (int64 total) =
          int64 (total + (rest.map PartInfo.size).sum) := by
    intro rest
    induction rest with
    | nil =>
        intro total
        rw [List.map_nil, List.sum_nil, Int.add_zero]
        rfl
    | cons part rest induction =>
        intro total
        rw [List.foldl_cons, int64_add, induction, List.map_cons,
          List.sum_cons, Int.add_assoc]
  have all := folded parts 0
  rw [Int.zero_add] at all
  exact all

theorem totalSize_perm
    {other : List PartInfo} (reordered : other.Perm parts) :
    totalSize other = totalSize parts := by
  rw [totalSize, (reordered.map PartInfo.size).sum_eq, totalSize]

theorem length_cutParts
    (fits : ∀ part ∈ parts, SizeFits part) :
    ((cutParts engine uploadId parts).length : ℤ) =
      (parts.map PartInfo.size).sum := by
  induction parts with
  | nil => rfl
  | cons part rest induction =>
      have later :=
        induction fun other member =>
          fits other (List.mem_cons_of_mem part member)
      rw [cutParts_cons, List.length_append, List.map_cons, List.sum_cons,
        ← later, Int.natCast_add, length_fitted,
        Int.toNat_of_nonneg (fits part List.mem_cons_self).1]

theorem int64_le_self {value : ℤ} (natural : 0 ≤ value) :
    int64 value ≤ value := by
  by_cases fits : value < 2 ^ 63
  · exact Int.le_of_eq (int64_of_range (by omega) fits)
  · have below : int64 value < (2 ^ 64 + 1) / 2 := Int.bmod_lt (by decide)
    omega

end Reading

/-! ## Completions -/

section Completions

variable
    {sortParts : List PartInfo → List PartInfo}
    {engine : ObjectProtocolEngine}
    {bucket key uploadId : String}
    {parts : List PartInfo}
    {now : ℤ}

theorem completion_unknown
    (unknown : engine.uploads.get? uploadId = none) :
    engine.completeMultipartUpload sortParts bucket key uploadId parts now =
      (.error (errorf "upload not found"), engine) := by
  simp only [ObjectProtocolEngine.completeMultipartUpload, unknown]

theorem completion_unread
    (known : engine.uploads.get? uploadId ≠ none) {fault : Fault}
    (unread : engine.readParts uploadId (sortParts parts) = .error fault) :
    engine.completeMultipartUpload sortParts bucket key uploadId parts now =
      (.error fault, engine) := by
  rcases Option.ne_none_iff_exists'.mp known with ⟨upload, found⟩
  simp only [ObjectProtocolEngine.completeMultipartUpload, found, unread]

/-- A completion whose put fails. -/
theorem completion_failed
    (sorts : SortsParts sortParts)
    (known : engine.uploads.get? uploadId ≠ none) {joined : Bytes}
    (read : engine.readParts uploadId (sortParts parts) = .ok joined)
    {fault : Fault}
    (failed :
      engine.putObject bucket key { bytes := joined } (totalSize parts)
          Dict.empty now =
        (.error fault, engine)) :
    engine.completeMultipartUpload sortParts bucket key uploadId parts now =
      (.error fault, engine) := by
  rcases Option.ne_none_iff_exists'.mp known with ⟨upload, found⟩
  simp only [ObjectProtocolEngine.completeMultipartUpload, found, read,
    foldl_size, totalSize_perm (sorts.perm parts), failed]

theorem apart_iff (sorts : SortsParts sortParts) :
    objectId bucket key ∉
        ((sortParts parts).map fun part =>
          partId uploadId part.partNumber) ↔
      ∀ part ∈ parts,
        objectId bucket key ≠ partId uploadId part.partNumber := by
  rw [List.mem_map, not_exists]
  apply forall_congr'
  intro part
  rw [(sorts.perm parts).mem_iff, not_and]
  exact imp_congr_right fun _ => not_congr eq_comm

/-- A completion whose put stores some data. -/
theorem completion_stored
    (sorts : SortsParts sortParts)
    (known : engine.uploads.get? uploadId ≠ none) {joined data : Bytes}
    (read : engine.readParts uploadId (sortParts parts) = .ok joined)
    (supplied :
      Supplies engine bucket { bytes := joined } (totalSize parts) data) :
    (engine.completeMultipartUpload sortParts bucket key uploadId parts
          now).1 =
        (engine.putObject bucket key { bytes := joined } (totalSize parts)
          Dict.empty now).1 ∧
      ∀ other,
        Reads
            (engine.completeMultipartUpload sortParts bucket key uploadId
              parts now).2
            bucket key other ↔
          other = data ∧
            ∀ part ∈ parts,
              objectId bucket key ≠ partId uploadId part.partNumber := by
  rcases Option.ne_none_iff_exists'.mp known with ⟨upload, found⟩
  rcases @putObject_stored engine bucket key _ _ data supplied Dict.empty
      now with ⟨objMeta, returned, stored⟩
  simp only [ObjectProtocolEngine.completeMultipartUpload, found, read,
    foldl_size, totalSize_perm (sorts.perm parts)]
  generalize
    engine.putObject bucket key { bytes := joined } (totalSize parts)
      Dict.empty now =
      put at returned stored ⊢
  rcases put with ⟨outcome, after⟩
  have success : outcome = .ok objMeta := returned
  subst success
  refine ⟨rfl, ?_⟩
  intro other
  have reclaim :=
    @foldl_reclaim
      { after with uploads := after.uploads.erase uploadId } uploadId
      (sortParts parts)
  rw [reads_iff, reclaim.1]
  change
    (∃ objMeta',
        after.objects.get? (objectId bucket key) = some objMeta' ∧ _) ↔ _
  rw [stored.objects, Dict.get?_set_self]
  simp only [Option.some.injEq, exists_eq_left', readVerified_ok_iff,
    stored.storageId, stored.etag, stored.size, reclaim.2,
    ← apart_iff sorts]
  by_cases reclaimed :
      objectId bucket key ∈
        (sortParts parts).map fun part => partId uploadId part.partNumber
  · apply iff_of_false
    · rintro ⟨_, _, _, pooled, _⟩
      rw [if_pos reclaimed] at pooled
      cases pooled
    · exact fun both => both.2 reclaimed
  · rw [if_neg reclaimed, stored.pool, if_pos rfl]
    constructor
    · rintro ⟨_, _, ⟨⟩, ⟨⟩, rfl, _⟩
      exact ⟨fitted_self data, reclaimed⟩
    · rintro ⟨rfl, _⟩
      exact ⟨_, _, rfl, rfl, (fitted_self _).symm, rfl⟩

/-- A list that stops makes every completion fail in the same way. -/
theorem robust_of_error
    {text : String}
    (each :
      ∀ other : List PartInfo,
        other.Perm parts →
          engine.completeMultipartUpload sortParts bucket key uploadId
              other now =
            (.error (errorf text), engine)) :
    Robust sortParts engine bucket key uploadId parts now := by
  have own := each parts (List.Perm.refl parts)
  constructor
  · left
    rw [own]
    exact ⟨⟨_, rfl⟩, rfl, fun _ => rfl⟩
  · intro other reordered
    rw [own, each other reordered]
    exact ⟨rfl, fun _ => Iff.rfl⟩

theorem not_robust_of_panic
    {message : String}
    (panics :
      (engine.completeMultipartUpload sortParts bucket key uploadId parts
          now).1 =
        .error (.panic message)) :
    ¬ Robust sortParts engine bucket key uploadId parts now := by
  intro robust
  rcases robust.outcome with fails | stores
  · rcases fails.error with ⟨error, failed⟩
    rw [panics] at failed
    cases failed
  · rcases stores.returned with ⟨objMeta, returned⟩
    rw [panics] at returned
    cases returned

/-- The least missing parts of a list in two orders are the same. -/
theorem robust_of_stops
    (sorts : SortsParts sortParts)
    (known : engine.uploads.get? uploadId ≠ none)
    (stops :
      ∀ other : List PartInfo,
        other.Perm parts →
          StopsAtMissing engine uploadId (sortParts other)) :
    Robust sortParts engine bucket key uploadId parts now := by
  have own := stops parts (List.Perm.refl parts)
  rcases readParts_of_stops own (sorts.sorted parts) with
    ⟨first, listed, missing, minimal, _⟩
  apply robust_of_error
  · intro other reordered
    have members :
        ∀ part, part ∈ sortParts other ↔ part ∈ sortParts parts := by
      intro part
      rw [(sorts.perm other).mem_iff, reordered.mem_iff,
        (sorts.perm parts).mem_iff]
    rcases
        readParts_of_stops (stops other reordered) (sorts.sorted other) with
      ⟨part, member, absent, least, read⟩
    have same : part.partNumber = first.partNumber := by
      apply Int.le_antisymm
      · exact least first ((members first).mpr listed) missing
      · exact minimal part ((members part).mp member) absent
    rw [same] at read
    exact completion_unread known read

/-! ## Parts that can be read -/

theorem readParts_sorted
    (sorts : SortsParts sortParts)
    (readable : PartsReadable engine uploadId parts) :
    engine.readParts uploadId (sortParts parts) =
      .ok (cutParts engine uploadId (sortParts parts)) :=
  readParts_of_readable
    ((partsReadable_perm (sorts.perm parts)).mpr readable)

/-- The cut data of a list has at least the listed total. -/
theorem totalSize_le_length
    (sorts : SortsParts sortParts)
    (readable : PartsReadable engine uploadId parts) :
    totalSize parts ≤
      (cutParts engine uploadId (sortParts parts)).length := by
  have fits : ∀ part ∈ sortParts parts, SizeFits part := by
    intro part member
    exact (readable part ((sorts.perm parts).mem_iff.mp member)).1
  have length := @length_cutParts engine uploadId _ fits
  rw [← totalSize_perm (sorts.perm parts), length]
  apply int64_le_self
  rw [← length]
  exact Int.natCast_nonneg _

/-- What a put of the cut data stores. -/
theorem supplies_cutParts
    (sorts : SortsParts sortParts)
    (readable : PartsReadable engine uploadId parts)
    (present : engine.buckets.get? bucket ≠ none)
    (size : 0 ≤ totalSize parts ∧ totalSize parts ≤ maxAlloc) :
    Supplies engine bucket
      { bytes := cutParts engine uploadId (sortParts parts) }
      (totalSize parts)
      ((cutParts engine uploadId (sortParts parts)).take
        (totalSize parts).toNat) := by
  have enough := totalSize_le_length sorts readable
  have made : makeSlice (totalSize parts) = .ok (totalSize parts).toNat := by
    rw [makeSlice_ok_iff]
    exact ⟨(Int.toNat_of_nonneg size.1).symm, size.2⟩
  refine ⟨present, ?_⟩
  rw [Reader.readData, made]
  simp only [Reader.readFull]
  rw [if_pos (by omega)]

theorem readData_self
    {data : Bytes} {size : ℤ}
    (length : (data.length : ℤ) = size) (fits : size ≤ maxAlloc) :
    Reader.readData { bytes := data } size = .ok data := by
  have made : makeSlice size = .ok data.length := by
    rw [makeSlice_ok_iff]
    exact ⟨length.symm, fits⟩
  rw [Reader.readData, made]
  simp only [Reader.readFull]
  rw [if_pos (Nat.le_refl _), List.take_length]

theorem putObject_congr
    {reader other : Reader} {size : ℤ}
    (same : reader.readData size = other.readData size) :
    engine.putObject bucket key reader size Dict.empty now =
      engine.putObject bucket key other size Dict.empty now := by
  simp only [ObjectProtocolEngine.putObject, same]

/-- What the completion of a list in any order answers and stores. -/
theorem completion_cut
    (sorts : SortsParts sortParts)
    (known : engine.uploads.get? uploadId ≠ none)
    (readable : PartsReadable engine uploadId parts)
    (present : engine.buckets.get? bucket ≠ none)
    (size : 0 ≤ totalSize parts ∧ totalSize parts ≤ maxAlloc)
    {other : List PartInfo} (reordered : other.Perm parts)
    {data : Bytes}
    (cut :
      (cutParts engine uploadId (sortParts other)).take
          (totalSize parts).toNat =
        data) :
    (engine.completeMultipartUpload sortParts bucket key uploadId other
          now).1 =
        (engine.putObject bucket key { bytes := data } (totalSize parts)
          Dict.empty now).1 ∧
      (∃ objMeta,
        (engine.putObject bucket key { bytes := data } (totalSize parts)
          Dict.empty now).1 = .ok objMeta) ∧
      ∀ found,
        Reads
            (engine.completeMultipartUpload sortParts bucket key uploadId
              other now).2
            bucket key found ↔
          found = data ∧
            ∀ part ∈ parts,
              objectId bucket key ≠ partId uploadId part.partNumber := by
  have total := totalSize_perm reordered
  have otherReadable := (partsReadable_perm reordered).mpr readable
  have enough := totalSize_le_length sorts otherReadable
  rw [total] at enough
  have length : (data.length : ℤ) = totalSize parts := by
    rw [← cut, List.length_take]
    omega
  have supplied :=
    @supplies_cutParts sortParts engine bucket uploadId other sorts
      otherReadable present (total.symm ▸ size)
  rw [total, cut] at supplied
  rcases @completion_stored sortParts engine bucket key uploadId other now
      sorts known _ data (readParts_sorted sorts otherReadable)
      (total.symm ▸ supplied) with
    ⟨answer, object⟩
  have own : Supplies engine bucket { bytes := data } (totalSize parts) data :=
    ⟨present, readData_self length size.2⟩
  rcases @putObject_stored engine bucket key _ _ data own Dict.empty now with
    ⟨objMeta, returned, _⟩
  refine ⟨?_, ⟨objMeta, returned⟩, ?_⟩
  · rw [answer, total]
    apply congrArg Prod.fst
    apply putObject_congr
    rw [supplied.2, own.2]
  · intro found
    rw [object]
    apply and_congr_right
    intro _
    exact forall_congr' fun _ => imp_congr reordered.mem_iff Iff.rfl

theorem putObject_panics
    (present : engine.buckets.get? bucket ≠ none) {reader : Reader}
    {size : ℤ} (beyond : ¬ (0 ≤ size ∧ size ≤ maxAlloc)) :
    engine.putObject bucket key reader size Dict.empty now =
      (.error (.panic "makeslice: len out of range"), engine) := by
  rcases Option.ne_none_iff_exists'.mp present with ⟨found, bucketFound⟩
  simp only [ObjectProtocolEngine.putObject, bucketFound, Reader.readData,
    makeSlice_panics beyond]

/-- For parts that can be read and a bucket, the bytes decide. -/
theorem robust_iff_cutsExactly
    (sorts : SortsParts sortParts)
    (known : engine.uploads.get? uploadId ≠ none)
    (readable : PartsReadable engine uploadId parts)
    (present : engine.buckets.get? bucket ≠ none) :
    Robust sortParts engine bucket key uploadId parts now ↔
      CutsExactly sortParts engine bucket key uploadId parts := by
  by_cases size : 0 ≤ totalSize parts ∧ totalSize parts ≤ maxAlloc
  · have each :=
      fun (other : List PartInfo) (reordered : other.Perm parts) =>
        @completion_cut sortParts engine bucket key uploadId parts now sorts
          known readable present size other reordered _ rfl
    rcases each parts (List.Perm.refl parts) with
      ⟨answer, ⟨objMeta, returned⟩, object⟩
    constructor
    · intro robust
      have stores :
          StoresParts engine bucket key uploadId parts
            (engine.completeMultipartUpload sortParts bucket key uploadId
              parts now) := by
        rcases robust.outcome with fails | stores
        · rcases fails.error with ⟨error, failed⟩
          rw [answer, returned] at failed
          cases failed
        · exact stores
      refine ⟨size, ?_, ((object _).mp stores.object).2⟩
      intro other reordered
      have read :=
        ((robust.order other reordered).object _).mpr stores.object
      exact (((each other reordered).2.2 _).mp read).1.symm
    · intro cuts
      have own := cuts.data parts (List.Perm.refl parts)
      constructor
      · right
        refine ⟨⟨objMeta, answer.trans returned⟩, ?_⟩
        rw [object]
        exact ⟨own.symm, cuts.apart⟩
      · intro other reordered
        rcases each other reordered with ⟨otherAnswer, _, otherObject⟩
        have same := (cuts.data other reordered).trans own.symm
        constructor
        · rw [otherAnswer, answer, same]
        · intro data
          rw [otherObject, object, same]
  · have panics :=
      @completion_failed sortParts engine bucket key uploadId parts now sorts
        known _ (readParts_sorted sorts readable) _
        (putObject_panics present size)
    apply iff_of_false
    · exact not_robust_of_panic (congrArg Prod.fst panics)
    · exact fun cuts => size cuts.size

/-! ## Proper lists -/

theorem ProperList.readable
    (proper : ProperList engine bucket key uploadId parts) :
    PartsReadable engine uploadId parts := by
  intro part listed
  rcases proper.stored part listed with ⟨stored, held, size⟩
  have natural : ∀ other ∈ parts, 0 ≤ other.size := by
    intro other member
    rcases proper.stored other member with ⟨data, _, length⟩
    rw [length]
    exact Int.natCast_nonneg _
  have within : part.size ≤ (parts.map PartInfo.size).sum := by
    apply List.single_le_sum
    · intro other member
      rcases List.mem_map.mp member with ⟨entry, entryListed, rfl⟩
      exact natural entry entryListed
    · exact List.mem_map_of_mem listed
  refine ⟨⟨natural part listed, within.trans proper.fits⟩, ?_⟩
  rw [held]
  exact Option.some_ne_none stored

theorem ProperList.perm
    (proper : ProperList engine bucket key uploadId parts)
    {other : List PartInfo} (reordered : other.Perm parts) :
    ProperList engine bucket key uploadId other where
  once := (reordered.map PartInfo.partNumber).nodup_iff.mpr proper.once
  stored part listed := proper.stored part (reordered.mem_iff.mp listed)
  fits := by
    rw [(reordered.map PartInfo.size).sum_eq]
    exact proper.fits
  apart part listed := proper.apart part (reordered.mem_iff.mp listed)

/-- The sizes of a proper list cut nothing. -/
theorem ProperList.cutParts_eq
    (proper : ProperList engine bucket key uploadId parts) :
    cutParts engine uploadId parts =
      (parts.map PartInfo.partNumber).flatMap fun partNumber =>
        (storedPart engine uploadId partNumber).getD [] := by
  rw [cutParts, List.flatMap_map]
  apply List.flatMap_congr
  intro part listed
  rcases proper.stored part listed with ⟨stored, held, size⟩
  rw [held, size]
  exact fitted_self stored

/-- The cut data of a proper list has the listed total. -/
theorem ProperList.length_eq
    (proper : ProperList engine bucket key uploadId parts) :
    ((cutParts engine uploadId parts).length : ℤ) = totalSize parts := by
  have length :=
    @length_cutParts engine uploadId parts fun part listed =>
      (proper.readable part listed).1
  have bound := proper.fits
  rw [maxAlloc] at bound
  rw [length, totalSize]
  symm
  apply int64_of_range
  · omega
  · omega

/-- A sorted proper list has the listed numbers in their order. -/
theorem ProperList.sorted_numbers
    (sorts : SortsParts sortParts)
    (proper : ProperList engine bucket key uploadId parts)
    {other : List PartInfo} (reordered : other.Perm parts) :
    (sortParts other).map PartInfo.partNumber = listedNumbers parts := by
  apply
    @List.Perm.eq_of_pairwise ℤ fun (first second : ℤ) => first ≤ second
  · intro first second _ _ below above
    exact Int.le_antisymm below above
  · exact List.pairwise_map.mpr (sorts.sorted other)
  · exact List.pairwise_mergeSort' (· ≤ ·) _
  · rw [listedNumbers, List.Nodup.dedup proper.once]
    exact
      (((sorts.perm other).trans reordered).map PartInfo.partNumber).trans
        (List.mergeSort_perm _ _).symm

/-- A completion is robust for proper lists. -/
theorem accepted_of_proper
    (sorts : SortsParts sortParts)
    (proper : ProperList engine bucket key uploadId parts) :
    Accepted sortParts engine bucket key uploadId parts := by
  have total := proper.length_eq
  have sized : totalSize parts = (parts.map PartInfo.size).sum := by
    rw [← total]
    exact
      length_cutParts fun part listed => (proper.readable part listed).1
  refine Or.inr (Or.inr ⟨proper.readable, Or.inr ⟨?_, ?_, proper.apart⟩⟩)
  · constructor
    · rw [← total]
      exact Int.natCast_nonneg _
    · rw [sized]
      exact proper.fits
  · intro other reordered
    have sameParts := (sorts.perm other).trans reordered
    have sorted := proper.perm sameParts
    have length := sorted.length_eq
    rw [totalSize_perm sameParts] at length
    rw [← length, Int.toNat_natCast, List.take_length, sorted.cutParts_eq,
      proper.sorted_numbers sorts reordered, partsData]

/-! ## Completions are robust -/

/--
A completion either fails and leaves the upload and its parts, or it stores the
uploaded parts, and in the same way for any order of the list, if and only if
the list is accepted.
-/
theorem completion_robust_iff
    (sorts : SortsParts sortParts)
    (engine : ObjectProtocolEngine)
    (bucket key uploadId : String)
    (parts : List PartInfo)
    (now : ℤ) :
    Robust sortParts engine bucket key uploadId parts now ↔
      Accepted sortParts engine bucket key uploadId parts := by
  by_cases known : engine.uploads.get? uploadId = none
  · apply iff_of_true
    · apply robust_of_error
      exact fun _ _ => completion_unknown known
    · exact Or.inl known
  · by_cases readable : PartsReadable engine uploadId parts
    · by_cases present : engine.buckets.get? bucket = none
      · apply iff_of_true
        · apply robust_of_error
          intro other reordered
          have read :=
            readParts_sorted sorts
              ((partsReadable_perm reordered).mpr readable)
          apply completion_failed sorts known read
          rw [ObjectProtocolEngine.putObject, present]
        · exact Or.inr (Or.inr ⟨readable, Or.inl present⟩)
      · rw [robust_iff_cutsExactly sorts known readable present]
        constructor
        · exact fun cuts => Or.inr (Or.inr ⟨readable, Or.inr cuts⟩)
        · rintro (unknown | stops | ⟨_, missing | cuts⟩)
          · exact absurd unknown known
          · have own := stops parts (List.Perm.refl parts)
            have sortedReadable :=
              (partsReadable_perm (sorts.perm parts)).mpr readable
            exact absurd sortedReadable (not_readable_of_stops own)
          · exact absurd missing present
          · exact cuts
    · constructor
      · intro robust
        refine Or.inr (Or.inl ?_)
        intro other reordered
        by_contra goes
        have unreadable :
            ¬ PartsReadable engine uploadId (sortParts other) := by
          rw [partsReadable_perm ((sorts.perm other).trans reordered)]
          exact readable
        rcases readParts_panics unreadable goes with ⟨message, unread⟩
        have panics := (robust.order other reordered).answer
        rw [completion_unread known unread] at panics
        exact not_robust_of_panic panics.symm robust
      · rintro (unknown | stops | ⟨reads, _⟩)
        · exact absurd unknown known
        · exact robust_of_stops sorts known stops
        · exact absurd reads readable

end Completions

theorem sortsParts_byNumber : SortsParts byNumber where
  perm parts := List.mergeSort_perm parts _
  sorted parts := by
    have sorted :
        (byNumber parts).Pairwise fun first second =>
          decide (first.partNumber ≤ second.partNumber) = true := by
      apply List.pairwise_mergeSort
      · intro first second third below above
        exact
          decide_eq_true
            (Int.le_trans (of_decide_eq_true below)
              (of_decide_eq_true above))
      · intro first second
        rw [← Bool.decide_or]
        exact decide_eq_true (Int.le_total _ _)
    exact sorted.imp of_decide_eq_true

/-- The bytes of three parts. -/
def partBytes (partNumber : ℤ) : Bytes :=
  if partNumber = 1 then [7, 8] else if partNumber = 2 then [9] else [10]

/-- Upload one of the parts. -/
def uploadOne (engine : ObjectProtocolEngine) (partNumber : ℤ) :
    ObjectProtocolEngine :=
  (engine.uploadPart "bucket" "key" (generateUploadId [1]) partNumber
    { bytes := partBytes partNumber } (partBytes partNumber).length).2

/-- An upload of three parts, the second first. -/
def threeUploaded : ObjectProtocolEngine :=
  [2, 3, 1].foldl uploadOne
    (oneBucket.initiateMultipartUpload "bucket" "key" [1]).2

/-- A part with its size. -/
def listedPart (partNumber : ℤ) : PartInfo where
  partNumber := partNumber
  etag := ""
  size := (partBytes partNumber).length

/-- The parts are joined if they are listed in another order, with their sizes. -/
theorem completion_robust_three :
    Robust byNumber threeUploaded "bucket" "key" (generateUploadId [1])
      [listedPart 3, listedPart 1, listedPart 2] 0 := by
  apply
    (completion_robust_iff sortsParts_byNumber threeUploaded _ _ _ _ _).mpr
  apply accepted_of_proper sortsParts_byNumber
  refine ⟨by decide, ?_, by decide, ?_⟩
  · intro part listed
    simp only [List.mem_cons, List.not_mem_nil, or_false] at listed
    rcases listed with rfl | rfl | rfl
    · exact ⟨[10], by decide +kernel, rfl⟩
    · exact ⟨[7, 8], by decide +kernel, rfl⟩
    · exact ⟨[9], by decide +kernel, rfl⟩
  · decide

/-- An upload of one byte as its first part. -/
def oneUploaded : ObjectProtocolEngine :=
  ((oneBucket.initiateMultipartUpload "bucket" "key" [1]).2.uploadPart
      "bucket" "key" (generateUploadId [1]) 1 { bytes := [7] } 1).2

theorem storedPart_oneUploaded :
    storedPart oneUploaded (generateUploadId [1]) 1 = some [7] := by
  decide

/-- The part is filled with a zero if it is listed with a larger size. -/
theorem completion_fills_part :
    ¬ Robust byNumber oneUploaded "bucket" "key" (generateUploadId [1])
        [{ partNumber := 1, etag := "", size := 2 }] 0 := by
  rw [robust_iff_cutsExactly sortsParts_byNumber (by decide) ?_ (by decide)]
  · intro cuts
    have data := cuts.data _ (List.Perm.refl _)
    rw [byNumber, List.mergeSort_singleton, partsData, listedNumbers,
      List.map_singleton, List.Nodup.dedup (List.nodup_singleton 1),
      List.mergeSort_singleton, List.flatMap_singleton, cutParts,
      List.flatMap_singleton, storedPart_oneUploaded] at data
    exact absurd data (by decide)
  · intro part listed
    rcases List.mem_singleton.mp listed with rfl
    rw [storedPart_oneUploaded]
    exact ⟨⟨by decide, by decide⟩, Option.some_ne_none _⟩

end StorageAppliance.Unity
