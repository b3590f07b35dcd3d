import StorageAppliance.PowerScale.SingleParity

/-!
# Splitting a stripe

The data of a stripe is cut into data shards of one size, the length divided by
their number and rounded up (`encodeStripe`, and `LocalDPUEncoder.Encode` with
the same loop).  The end of a shard is cut back to the end of the data, but its
start is not.  With a rounded size the last shards may start after the end of
the data, and then the slice panics.

`encodeStripe_splits_iff` says for which lengths and numbers of shards a stripe
is split within its data.
-/

namespace StorageAppliance.PowerScale

open StorageAppliance.Go

/-- The last data shard starts no later than the data ends. -/
def StartsWithin (dataStripes length : Nat) : Prop :=
  (dataStripes - 1) * shardSize dataStripes length ≤ length

/--
The encoders agree and do not slice the data out of range, and the data shards
together are the data, filled up with zeros.
-/
structure SplitsInBounds (library : ReedSolomon) (ofs : OneFS)
    (data : Bytes) (protection : ProtectionLevel) : Prop where
  same :
    LocalDPUEncoder.encode library data protection =
      ofs.encodeStripe library data protection
  inBounds :
    ∀ message,
      ofs.encodeStripe library data protection ≠ .error (.panic message)
  padded :
    ∀ shards,
      ofs.encodeStripe library data protection = .ok shards →
        (shards.take protection.dataStripes).flatten =
          data ++ zeros (padding protection.dataStripes data.length)

section Splitting

variable
    {library : ReedSolomon}
    {ofs : OneFS}
    {data : Bytes}
    {size count index : Nat}
    {protection : ProtectionLevel}

/-- A data shard is cut off exactly if it starts within the data. -/
theorem dataShard_cases (data : Bytes) (size index : Nat) :
    (index * size ≤ data.length ∧
        ∃ shard, dataShard data size index = .ok shard) ∨
      (data.length < index * size ∧
        dataShard data size index =
          .error (.panic "slice bounds out of range")) := by
  by_cases within : index * size ≤ data.length
  · left
    refine ⟨within, ?_⟩
    rw [dataShard, if_neg (by omega)]
    exact ⟨_, rfl⟩
  · right
    refine ⟨Nat.lt_of_not_le within, ?_⟩
    rw [dataShard, if_pos (by omega)]

/-- The data is split exactly if the last shard starts within it. -/
theorem dataShardsFrom_cases (data : Bytes) (size count index : Nat) :
    ((index + count) * size ≤ data.length + size ∨ count = 0) ∧
        (∃ shards, dataShardsFrom data size count index = .ok shards) ∨
      (data.length + size < (index + count) * size ∧ 0 < count) ∧
        dataShardsFrom data size count index =
          .error (.panic "slice bounds out of range") := by
  induction count generalizing index with
  | zero => exact Or.inl ⟨Or.inr rfl, [], rfl⟩
  | succ count induction =>
      have next : index + (count + 1) = index + 1 + count := by
        omega
      have step : (index + 1 + count) * size =
          (index + count) * size + size := by
        rw [Nat.add_right_comm, Nat.succ_mul]
      have grows : index * size ≤ (index + count) * size :=
        Nat.mul_le_mul_right size (Nat.le_add_right index count)
      have later := induction (index + 1)
      rw [dataShardsFrom, next]
      rcases dataShard_cases data size index with
        ⟨within, shard, first⟩ | ⟨beyond, first⟩
      · rw [first]
        rcases later with ⟨fits, rest, split⟩ | ⟨late, split⟩
        · left
          refine ⟨Or.inl ?_, shard :: rest, ?_⟩
          · rcases fits with fits | none
            · exact fits
            · rw [step, none, Nat.add_zero]
              omega
          · rw [split]
        · right
          refine ⟨⟨late.1, Nat.succ_pos count⟩, ?_⟩
          rw [split]
      · right
        rw [first]
        exact ⟨⟨by omega, Nat.succ_pos count⟩, rfl⟩

theorem startsWithin_iff (positive : 0 < protection.dataStripes) :
    StartsWithin protection.dataStripes data.length ↔
      ∃ shards,
        dataShardsFrom data
          (shardSize protection.dataStripes data.length)
          protection.dataStripes 0 = .ok shards := by
  have last :
      protection.dataStripes *
          shardSize protection.dataStripes data.length =
        (protection.dataStripes - 1) *
            shardSize protection.dataStripes data.length +
          shardSize protection.dataStripes data.length := by
    rw [← Nat.succ_mul, Nat.succ_eq_add_one,
      Nat.sub_add_cancel positive]
  rw [StartsWithin]
  rcases
    dataShardsFrom_cases data
      (shardSize protection.dataStripes data.length)
      protection.dataStripes 0 with ⟨fits, split⟩ | ⟨late, split⟩
  · rw [Nat.zero_add, last] at fits
    exact ⟨fun _ => split, fun _ => by omega⟩
  · rw [Nat.zero_add, last] at late
    constructor
    · intro within
      omega
    · rintro ⟨shards, other⟩
      rw [split] at other
      cases other

/-- The file system encodes stripes with the local encoder or without one. -/
theorem encodeStripe_eq_encodeShards
    (installed :
      ∀ encoder ∈ ofs.dpuEncoder,
        encoder = LocalDPUEncoder.encode library)
    (dataPositive : 0 < protection.dataStripes)
    (parityPositive : 0 < protection.parityStripes) :
    LocalDPUEncoder.encode library data protection =
        encodeShards library data protection ∧
      ofs.encodeStripe library data protection =
        encodeShards library data protection := by
  have offload :
      LocalDPUEncoder.encode library data protection =
        encodeShards library data protection := by
    rw [LocalDPUEncoder.encode, if_neg (by omega)]
  refine ⟨offload, ?_⟩
  rw [OneFS.encodeStripe]
  cases used : ofs.dpuEncoder with
  | none => rfl
  | some encoder =>
      have local_eq := installed encoder used
      rw [local_eq]
      exact offload

/--
A stripe is split within its data exactly if the library refuses the numbers of
shards or the last data shard starts no later than the data ends.
-/
theorem encodeStripe_splits_iff
    (lawful : library.Lawful)
    (installed :
      ∀ encoder ∈ ofs.dpuEncoder,
        encoder = LocalDPUEncoder.encode library)
    (dataPositive : 0 < protection.dataStripes)
    (parityPositive : 0 < protection.parityStripes) :
    SplitsInBounds library ofs data protection ↔
      (library.new protection.dataStripes protection.parityStripes ≠
          none ∨
        StartsWithin protection.dataStripes data.length) := by
  have encoders :=
    @encodeStripe_eq_encodeShards library ofs data protection installed
      dataPositive parityPositive
  have nonzero : protection.dataStripes ≠ 0 := by
    omega
  rw [startsWithin_iff dataPositive]
  constructor
  · intro splits
    by_cases accepted :
        library.new protection.dataStripes protection.parityStripes =
          none
    · right
      rcases
        dataShardsFrom_cases data
          (shardSize protection.dataStripes data.length)
          protection.dataStripes 0 with ⟨_, split⟩ | ⟨_, split⟩
      · exact split
      · exfalso
        apply splits.inBounds "slice bounds out of range"
        rw [encoders.2, encodeShards, accepted]
        simp only [nonzero, if_false, split]
    · exact Or.inl accepted
  · intro condition
    refine ⟨encoders.1.trans encoders.2.symm, ?_, ?_⟩
    · intro message panics
      rw [encoders.2, encodeShards] at panics
      split at panics
      · cases panics
      · rename_i accepted
        rcases condition.resolve_left (fun refused => refused accepted)
          with ⟨shards, split⟩
        simp only [nonzero, if_false, split] at panics
        split at panics
        · cases panics
        · cases panics
    · intro encoded returned
      rw [encoders.2] at returned
      rcases encodeShards_ok returned with ⟨_, shards, split, result⟩
      exact (encode_split lawful dataPositive split result).2

/-- The stripes that fill all shards are split within their data. -/
theorem startsWithin_of_dvd
    {dataStripes length : Nat} (positive : 0 < dataStripes)
    (multiple : dataStripes ∣ length) :
    StartsWithin dataStripes length := by
  have room := le_mul_shardSize positive length
  have full :=
    (Nat.eq_or_lt_of_le room.1).resolve_right (by
      intro less
      rcases multiple with ⟨size, rfl⟩
      have bound : size < shardSize dataStripes (dataStripes * size) :=
        Nat.lt_of_mul_lt_mul_left less
      have more := Nat.mul_le_mul_left dataStripes bound
      rw [Nat.mul_succ] at more
      omega)
  calc (dataStripes - 1) * shardSize dataStripes length
      ≤ dataStripes * shardSize dataStripes length :=
        Nat.mul_le_mul_right _ (Nat.sub_le _ _)
    _ = length := full.symm

end Splitting

/-- A file system without an encoder of its own. -/
def plainOneFS : OneFS :=
  OneFS.new [{ id := 0 }] 3 1

theorem encodeStripe_splits_threeBytes :
    SplitsInBounds singleParity plainOneFS [1, 2, 3] ⟨3, 1⟩ := by
  have installed :
      ∀ encoder ∈ plainOneFS.dpuEncoder,
        encoder = LocalDPUEncoder.encode singleParity := by
    intro encoder used
    cases used
  rw [encodeStripe_splits_iff singleParity_lawful installed (by decide)
    (by decide)]
  exact Or.inr (startsWithin_of_dvd (by decide) (by decide))

/-- One byte is not split into three data shards. -/
theorem oneByte_not_split :
    singleParity.Lawful ∧
      plainOneFS.encodeStripe singleParity [1] ⟨3, 1⟩ =
        .error (.panic "slice bounds out of range") ∧
      LocalDPUEncoder.encode singleParity [1] ⟨3, 1⟩ =
        .error (.panic "slice bounds out of range") ∧
      ¬ SplitsInBounds singleParity plainOneFS [1] ⟨3, 1⟩ := by
  have panics :
      plainOneFS.encodeStripe singleParity [1] ⟨3, 1⟩ =
        .error (.panic "slice bounds out of range") := by
    decide +kernel
  refine ⟨singleParity_lawful, panics, by decide +kernel, ?_⟩
  intro splits
  exact splits.inBounds _ panics

end StorageAppliance.PowerScale
