import StorageAppliance.Purity.Pipeline
import StorageAppliance.Library.Run

/-!
# Accounting of the reduction

`ReductionStats` splits the bytes that come in into those that are stored and
those that each stage saves.  The split adds up on a marker, on a duplicate and
on a block stored as it is.  It does not on a block with a header, whose five
bytes are stored and never counted, nor on a refused block, which has come in
and is neither stored nor saved.
-/

namespace StorageAppliance.Purity

open StorageAppliance.Python
open StorageAppliance.Library
open StorageAppliance.Storage
open StorageAppliance.Core
open PurityEngine

/-- The bytes that came in are those stored and those saved. -/
def Balanced (stats : ReductionStats) : Prop :=
  stats.totalBytesIn =
    stats.totalBytesStored + stats.patternBytesSaved +
      stats.dedupeBytesSaved + stats.compressionBytesSaved

/--
The block becomes a marker, or it is not replaced and is shared or stored
without a header.
-/
def Balances (platform : Platform) (engine : PurityEngine)
    (data : Bytes) : Prop :=
  if Replaces engine.settings data then
    ¬ TooLongPattern data
  else
    Compresses engine → sharedEntry platform engine data ≠ none

theorem length_frame
    (platform : Platform) (self : CompressionEngine) (data : Bytes) :
    (self.frame platform data).length =
      5 + (self.frameResult platform data).compressedSize := by
  rw [CompressionEngine.frame, CompressionEngine.frameResult]
  split
  · simp [framed, CompressionEngine.uncompressedResult]
    omega
  · simp [framed, CompressionEngine.compressedResult]
    omega

theorem frameResult_sizes
    (platform : Platform) (self : CompressionEngine) (data : Bytes) :
    (self.frameResult platform data).originalSize = data.length ∧
      ((self.frameResult platform data).wasCompressed = false →
        (self.frameResult platform data).compressedSize =
          data.length) := by
  rw [CompressionEngine.frameResult]
  split
  · exact ⟨rfl, fun _ => rfl⟩
  · exact ⟨rfl, fun unchanged => by
      simp [CompressionEngine.compressedResult] at unchanged⟩

/-- Stage one saves what the encoded block is shorter by. -/
theorem encodedForm_accounts (settings : Settings) (data : Bytes) :
    ((encodedForm settings data).length : ℤ) + patternSaved settings data =
      data.length := by
  rw [patternSaved]
  by_cases replaced : Replaces settings data
  · rw [if_pos replaced]
    omega
  · rw [if_neg replaced, encodedForm, if_neg replaced]
    omega

/-- What is stored and saved of a new block exceeds it by its header. -/
theorem storedForm_excess
    (platform : Platform) (engine : PurityEngine) (data : Bytes) :
    ((storedForm platform engine data).length : ℤ) +
          patternSaved engine.settings data +
        compressionSaved platform engine data =
      data.length + if Frames engine data then 5 else 0 := by
  by_cases framed : Frames engine data
  · have sizes := frameResult_sizes platform engine.compression data
    rw [storedForm, patternSaved, compressionSaved, if_pos framed,
      if_neg framed.1, if_pos framed, length_frame]
    cases compressed :
        (engine.compression.frameResult platform data).wasCompressed with
    | true =>
        simp only [framed, and_self, if_true, sizes.1]
        push_cast
        omega
    | false =>
        simp only [Bool.false_eq_true, and_false, if_false,
          sizes.2 compressed]
        push_cast
        omega
  · have nothing : compressionSaved platform engine data = 0 :=
      if_neg fun saved => framed saved.1
    have accounted := encodedForm_accounts engine.settings data
    rw [storedForm, if_neg framed, if_neg framed, nothing]
    omega

theorem Refuses.not_balances
    {platform : Platform} {engine : PurityEngine} {data : Bytes}
    (refuses : Refuses platform engine data) :
    ¬ Balances platform engine data := by
  rw [Balances]
  rcases refuses with ⟨enabled, tooLong⟩ | ⟨framed, unshared, _⟩
  · rw [if_pos ⟨enabled, tooLong.constant⟩]
    exact fun short => short tooLong
  · rw [if_neg framed.1]
    exact fun shares => shares framed.2 unshared

/-- Among the accepted blocks, those that get a header unbalance. -/
theorem balances_iff_of_accepted
    {platform : Platform} {engine : PurityEngine} {data : Bytes}
    (accepted : ¬ Refuses platform engine data) :
    Balances platform engine data ↔
      (Frames engine data → sharedEntry platform engine data ≠ none) := by
  rw [Balances]
  by_cases replaced : Replaces engine.settings data
  · rw [if_pos replaced]
    apply iff_of_true
    · exact fun tooLong => accepted (Or.inl ⟨replaced.1, tooLong⟩)
    · exact fun framed => (framed.1 replaced).elim
  · rw [if_neg replaced]
    constructor
    · exact fun shares framed => shares framed.2
    · exact fun shares compresses => shares ⟨replaced, compresses⟩

/-- A balanced engine stays balanced exactly on the blocks that balance. -/
theorem Stored.balanced_iff
    {platform : Platform} {before after : PurityEngine}
    {backend changed : FileBackend} {blockId : String} {data : Bytes}
    {answer : Except PyException ReductionResult}
    (stored :
      Stored platform before backend blockId data answer after changed)
    (balanced : Balanced before.stats) :
    Balanced after.stats ↔ Balances platform before data := by
  rw [Balanced] at balanced
  cases stored with
  | refused refuses _ _ stats =>
      have long := refuses.long
      apply iff_of_false
      · rw [Balanced, stats]
        dsimp only
        omega
      · exact refuses.not_balances
  | shared accepted found _ _ _ _ stats =>
      have accounted := encodedForm_accounts before.settings data
      apply iff_of_true
      · rw [Balanced, stats]
        dsimp only
        omega
      · rw [balances_iff_of_accepted accepted, found]
        simp
  | new accepted unshared _ _ _ _ stats =>
      have excess := storedForm_excess platform before data
      rw [balances_iff_of_accepted accepted, unshared, Balanced, stats]
      dsimp only
      by_cases framed : Frames before data
      · rw [if_pos framed] at excess
        apply iff_of_false
        · omega
        · exact fun shares => shares framed rfl
      · rw [if_neg framed] at excess
        apply iff_of_true
        · omega
        · exact fun present => (framed present).elim

/-! ## Every run -/

/--
The statistics balance after each call of a run, under any settings, exactly if
each block of the run is replaced by a marker that can hold its length, or is
not replaced and is shared or stored without a header.
-/
theorem balanced_after_each_iff
    (platform : Platform) (settings : Settings) (blocks : List Bytes) :
    AllSteps (EngineRun.step platform)
        (fun run data => Balanced (run.step platform data).engine.stats)
        (EngineRun.new settings) blocks ↔
      AllSteps (EngineRun.step platform)
        (fun run data => Balances platform run.engine data)
        (EngineRun.new settings) blocks := by
  apply
    @allSteps_property_iff _ _ _ _ (fun _ => True)
      (fun run : EngineRun => Balanced run.engine.stats)
  · exact fun _ _ _ _ => trivial
  · exact fun run data _ balanced =>
      (run.step_stored platform data).balanced_iff balanced
  · trivial
  · rfl

/-- A block stored behind a header leaves five bytes unaccounted for. -/
theorem not_balanced_after_header :
    ¬ Balanced
      ((EngineRun.new {}).step storingPlatform
        [0x61, 0x62]).engine.stats := by
  have varied : ¬ Constant ([0x61, 0x62] : Bytes) := by decide
  have notReplaced : ¬ Replaces ({} : Settings) [0x61, 0x62] :=
    fun replaced => varied replaced.2
  have start : Balanced (EngineRun.new {}).engine.stats := rfl
  have iff :=
    ((EngineRun.new {}).step_stored storingPlatform
      [0x61, 0x62]).balanced_iff start
  rw [iff, Balances]
  change ¬ if Replaces ({} : Settings) [0x61, 0x62] then _ else _
  rw [if_neg notReplaced]
  intro shares
  exact shares ⟨rfl, by decide⟩ rfl

end StorageAppliance.Purity
