import StorageAppliance.Go

/-!
# Content-defined chunking

`chunkData` cuts data into segments.  A segment ends where the hash of the last
48 bytes says so, but it has at least 8192 bytes and at most 16384, unless the
data ends before.  The loops are defined by the bytes that are left; the bounds
of a slice are positions in the whole data, as in the source.
-/

namespace StorageAppliance.Unity

open StorageAppliance.Go

def minChunkSize : Nat := 4 * 1024
def avgChunkSize : Nat := 8 * 1024
def maxChunkSize : Nat := 16 * 1024
def windowSize : Nat := 48

/-- The hash of a window. -/
def rollingHash (data : Bytes) : UInt32 :=
  data.foldl (fun hash byte => hash * 31 + byte.toUInt32) 0

/-- The bytes between two positions. -/
def between (data : Bytes) (first last : Nat) : Bytes :=
  (data.take last).drop first

/-- Where the segment ends that starts at a position and extends to another. -/
def findBoundary (data : Bytes) (first last : Nat) : Nat :=
  if last < data.length ∧ last - first < maxChunkSize then
    if avgChunkSize ≤ last - first ∧
        rollingHash (between data (last - windowSize) last) %
            UInt32.ofNat avgChunkSize =
          0 then
      last
    else
      findBoundary data first (last + 1)
  else
    last
termination_by data.length - last

theorem le_findBoundary (data : Bytes) (first last : Nat) :
    last ≤ findBoundary data first last := by
  fun_induction findBoundary data first last with
  | case1 last more boundary => exact Nat.le_refl _
  | case2 last more noBoundary induction => exact Nat.le_of_succ_le induction
  | case3 last done => exact Nat.le_refl _

/-- The end of the segment that starts at a position. -/
def segmentEnd (data : Bytes) (first : Nat) : Nat :=
  min
    (findBoundary data first (min (first + minChunkSize) data.length))
    data.length

theorem lt_segmentEnd
    {data : Bytes} {first : Nat} (more : first < data.length) :
    first < segmentEnd data first := by
  have reaches :=
    le_findBoundary data first (min (first + minChunkSize) data.length)
  have positive : 0 < minChunkSize := by decide
  rw [segmentEnd]
  omega

/-- The segments from a position on. -/
def chunkFrom (data : Bytes) (first : Nat) : List Bytes :=
  if more : first < data.length then
    have := lt_segmentEnd more
    between data first (segmentEnd data first) ::
      chunkFrom data (segmentEnd data first)
  else
    []
termination_by data.length - first

theorem chunkFrom_of_lt
    {data : Bytes} {first : Nat} (more : first < data.length) :
    chunkFrom data first =
      between data first (segmentEnd data first) ::
        chunkFrom data (segmentEnd data first) := by
  rw [chunkFrom, dif_pos more]

theorem chunkFrom_of_ge
    {data : Bytes} {first : Nat} (done : ¬ first < data.length) :
    chunkFrom data first = [] := by
  rw [chunkFrom, dif_neg done]

def chunkData (data : Bytes) : List Bytes :=
  chunkFrom data 0

theorem segmentEnd_le (data : Bytes) (first : Nat) :
    segmentEnd data first ≤ data.length :=
  Nat.min_le_right _ _

theorem between_append_drop
    {data : Bytes} {first last : Nat} (ordered : first ≤ last)
    (within : last ≤ data.length) :
    between data first last ++ data.drop last = data.drop first := by
  have reaches : first ≤ (data.take last).length := by
    rw [List.length_take_of_le within]
    exact ordered
  rw [between, ← List.drop_append_of_le_length reaches,
    List.take_append_drop]

/-- The segments from a position on join to the rest of the data. -/
theorem chunkFrom_flatten (data : Bytes) (first : Nat) :
    (chunkFrom data first).flatten = data.drop first := by
  fun_induction chunkFrom data first with
  | case1 first more further induction =>
      rw [List.flatten_cons, induction]
      exact
        between_append_drop (Nat.le_of_lt further)
          (segmentEnd_le data first)
  | case2 first done =>
      rw [List.flatten_nil, List.drop_of_length_le (Nat.le_of_not_lt done)]

theorem chunkData_flatten (data : Bytes) :
    (chunkData data).flatten = data :=
  chunkFrom_flatten data 0

/-- Data that is not longer than the least size is one segment. -/
theorem chunkData_of_small
    {data : Bytes} (present : data ≠ [])
    (small : data.length ≤ minChunkSize) : chunkData data = [data] := by
  have more : 0 < data.length := List.length_pos_iff.mpr present
  have whole : segmentEnd data 0 = data.length := by
    rw [segmentEnd, Nat.zero_add, Nat.min_eq_right small, findBoundary,
      if_neg (fun further => Nat.lt_irrefl _ further.1), Nat.min_self]
  rw [chunkData, chunkFrom_of_lt more, whole,
    chunkFrom_of_ge (Nat.lt_irrefl _), between, List.take_length,
    List.drop_zero]

end StorageAppliance.Unity
