import StorageAppliance.Library.Separator
import StorageAppliance.PowerScale.OneFS

/-!
# What a stripe leaves on the nodes

A stripe that is written without error has a member for each of its shards, at
the selected node and under the path made of stripe number and shard number.
These paths are different for different stripes and shards, so the shards are
stored as they are, and stripes that are written later leave them alone.
-/

namespace StorageAppliance.PowerScale

open StorageAppliance.Go
open StorageAppliance.Library

/-! ## Paths -/

theorem slash_notMem_decimal (number : ℤ) :
    '/' ∉ (decimal number).toList := by
  intro member
  rcases mem_decimal member with digit | dash
  · exact absurd digit (by decide)
  · exact absurd dash (by decide)

/-- Two decimals between fixed texts are determined by the whole. -/
theorem decimals_inj
    {start middle : List Char} {first second otherFirst otherSecond : ℤ}
    (same :
      start ++ ((decimal first).toList ++
          '/' :: (middle ++ (decimal second).toList)) =
        start ++ ((decimal otherFirst).toList ++
          '/' :: (middle ++ (decimal otherSecond).toList))) :
    first = otherFirst ∧ second = otherSecond := by
  have parts :=
    append_cons_inj (slash_notMem_decimal _) (slash_notMem_decimal _)
      (List.append_cancel_left same)
  have seconds := List.append_cancel_left parts.2
  exact ⟨decimal_injective (String.toList_injective parts.1),
    decimal_injective (String.toList_injective seconds)⟩

theorem toList_joined
    {separator : String} {middle : List Char}
    (slash : separator.toList = '/' :: middle)
    (start first second : String) :
    (start ++ first ++ separator ++ second).toList =
      start.toList ++ (first.toList ++
        '/' :: (middle ++ second.toList)) := by
  rw [String.toList_append, String.toList_append, String.toList_append,
    slash, List.append_assoc, List.append_assoc, List.cons_append]

/-- Different stripes and shards have different paths. -/
theorem generateShardPath_inj
    {stripe otherStripe shard otherShard : Nat}
    (same :
      generateShardPath stripe shard =
        generateShardPath otherStripe otherShard) :
    stripe = otherStripe ∧ shard = otherShard := by
  have slash : "/shard-".toList = '/' :: "shard-".toList := by
    decide +kernel
  have lists :=
    (toList_joined slash _ _ _).symm.trans
      ((congrArg String.toList same).trans (toList_joined slash _ _ _))
  have numbers := decimals_inj lists
  exact ⟨Int.ofNat_inj.mp numbers.1, Int.ofNat_inj.mp numbers.2⟩

/-! ## Members -/

/-- Where a member is stored. -/
def StripeMember.place (member : StripeMember) : ℤ × String :=
  (member.nodeId, member.localPath)

/-- Where the shards of a stripe go, from a shard on. -/
def placesFrom (stripeNum : Nat) : Nat → List Nat → List (ℤ × String)
  | _, [] => []
  | shardIdx, nodeId :: rest =>
      (nodeId, generateShardPath stripeNum shardIdx) ::
        placesFrom stripeNum (shardIdx + 1) rest

/-- Where the shards of a stripe go. -/
def stripePlaces (nodes : List Node) (stripeNum total : Nat) :
    List (ℤ × String) :=
  placesFrom stripeNum 0 (selectFrom nodes stripeNum total 0 [])

section Places

variable
    {stripeNum shardIdx : Nat}
    {nodes : List Nat}
    {place : ℤ × String}

theorem length_placesFrom :
    (placesFrom stripeNum shardIdx nodes).length = nodes.length := by
  induction nodes generalizing shardIdx with
  | nil => rfl
  | cons node rest induction =>
      rw [placesFrom, List.length_cons, List.length_cons, induction]

theorem getElem?_placesFrom
    {index : Nat}
    (found : (placesFrom stripeNum shardIdx nodes)[index]? = some place) :
    place.2 = generateShardPath stripeNum (shardIdx + index) := by
  induction nodes generalizing shardIdx index with
  | nil => cases found
  | cons node rest induction =>
      cases index with
      | zero =>
          cases found
          rfl
      | succ index =>
          have later := induction found
          rw [later]
          congr 1
          omega

theorem mem_placesFrom
    (member : place ∈ placesFrom stripeNum shardIdx nodes) :
    ∃ shard ≥ shardIdx, place.2 = generateShardPath stripeNum shard := by
  rcases List.mem_iff_getElem?.mp member with ⟨index, found⟩
  exact ⟨shardIdx + index, by omega, getElem?_placesFrom found⟩

end Places

/-- The shards are stored where the members say. -/
def Stores (storage : Storage) (members : List StripeMember)
    (shards : List Bytes) : Prop :=
  List.Forall₂
    (fun member shard => storage.get? member.place = some shard)
    members shards

section Shards

variable
    {rpc : NodeRPC}
    {dataStripes stripeNum shardIdx : Nat}
    {placed : List (Bytes × Nat)}
    {storage later : Storage}
    {members : List StripeMember}
    {shards : List Bytes}

/-- Shards that are written without error leave other places alone. -/
theorem writeShards_frame
    {key : ℤ × String}
    (apart :
      key ∉ placesFrom stripeNum shardIdx (placed.map Prod.snd)) :
    (writeShards rpc dataStripes stripeNum shardIdx placed
      storage).2.2.get? key = storage.get? key := by
  induction placed generalizing shardIdx storage with
  | nil => rfl
  | cons head rest induction =>
      rcases head with ⟨shard, nodeId⟩
      simp only [List.map_cons, placesFrom, List.mem_cons,
        not_or] at apart
      rw [writeShards]
      cases rpc.writeShardToNode nodeId
          (generateShardPath stripeNum shardIdx) shard with
      | some error => exact induction apart.2
      | none =>
          exact (induction apart.2).trans
            (Dict.get?_set_ne _ _ apart.1)

/-- Shards that are written without error are stored by their members. -/
theorem writeShards_stores
    (clean :
      (writeShards rpc dataStripes stripeNum shardIdx placed
        storage).2.1 = []) :
    (writeShards rpc dataStripes stripeNum shardIdx placed
          storage).1.map StripeMember.place =
        placesFrom stripeNum shardIdx (placed.map Prod.snd) ∧
      Stores
        (writeShards rpc dataStripes stripeNum shardIdx placed
          storage).2.2
        (writeShards rpc dataStripes stripeNum shardIdx placed storage).1
        (placed.map Prod.fst) := by
  induction placed generalizing shardIdx storage with
  | nil => exact ⟨rfl, List.Forall₂.nil⟩
  | cons head rest induction =>
      rcases head with ⟨shard, nodeId⟩
      rw [writeShards] at clean ⊢
      cases failure : rpc.writeShardToNode nodeId
          (generateShardPath stripeNum shardIdx) shard with
      | some error =>
          simp only [failure] at clean
          cases clean
      | none =>
          simp only [failure] at clean
          have written := induction clean
          have fresh :
              ((nodeId : ℤ), generateShardPath stripeNum shardIdx) ∉
                placesFrom stripeNum (shardIdx + 1)
                  (rest.map Prod.snd) := by
            intro member
            rcases mem_placesFrom member with ⟨other, beyond, same⟩
            have equal := (generateShardPath_inj same).2
            omega
          refine ⟨?_, List.Forall₂.cons ?_ written.2⟩
          · simp only [List.map_cons, placesFrom, written.1]
            rfl
          · exact (writeShards_frame fresh).trans
              (Dict.get?_set_self _ _ _)

/-- Stored shards are stored as long as their places are left alone. -/
theorem Stores.congr
    (stores : Stores storage members shards)
    (same :
      ∀ place ∈ members.map StripeMember.place,
        later.get? place = storage.get? place) :
    Stores later members shards := by
  induction stores with
  | nil => exact List.Forall₂.nil
  | cons stored _ induction =>
      refine List.Forall₂.cons ?_ (induction ?_)
      · exact (same _ (by simp)).trans stored
      · intro place member
        exact same place (List.mem_cons_of_mem _ member)

/-- Stored shards are read back. -/
theorem Stores.read
    (stores : Stores storage members shards)
    (reads :
      ∀ nodeId path, rpc.readShardFromNode nodeId path = none) :
    readStripeFromNodes rpc storage members = .ok shards := by
  induction stores with
  | nil => rfl
  | @cons member shard members shards stored _ induction =>
      have found :
          storage.get? (member.nodeId, member.localPath) = some shard :=
        stored
      simp only [readStripeFromNodes, reads, induction, found,
        Option.getD_some]

end Shards

/-! ## Encoded stripes -/

/-- An encoder that returns what the library would return. -/
def DPUEncoder.Faithful (library : ReedSolomon) (encoder : DPUEncoder) :
    Prop :=
  ∀ data protection shards,
    encoder data protection = .ok shards →
      encodeShards library data protection = .ok shards

theorem LocalDPUEncoder.faithful (library : ReedSolomon) :
    DPUEncoder.Faithful library (LocalDPUEncoder.encode library) := by
  intro data protection shards encoded
  rw [LocalDPUEncoder.encode] at encoded
  split at encoded
  · cases encoded
  · exact encoded

/-- A file system whose encoder, if it has one, is faithful. -/
def OneFS.Faithful (library : ReedSolomon) (ofs : OneFS) : Prop :=
  ∀ encoder ∈ ofs.dpuEncoder, DPUEncoder.Faithful library encoder

/-- The zeros that fill up the shards of some data. -/
def padding (dataStripes length : Nat) : Nat :=
  dataStripes * shardSize dataStripes length - length

/-- The shards that the library makes of some data. -/
structure EncodedStripe (library : ReedSolomon) (data : Bytes)
    (protection : ProtectionLevel) (encoded : List Bytes) : Prop where
  positive : 0 < protection.dataStripes
  bounded : protection.totalShards ≤ 65536
  total : encoded.length = protection.totalShards
  decodes :
    decodeStripe library encoded protection =
      .ok
        (data ++ zeros (padding protection.dataStripes data.length))

section Encoding

variable
    {library : ReedSolomon}
    {data : Bytes}
    {size count index : Nat}
    {shards encoded : List Bytes}
    {protection : ProtectionLevel}

/-- The shards of a split are the first one and the later ones. -/
theorem dataShardsFrom_succ
    (split : dataShardsFrom data size (count + 1) index = .ok shards) :
    ∃ shard rest,
      dataShard data size index = .ok shard ∧
        dataShardsFrom data size count (index + 1) = .ok rest ∧
        shards = shard :: rest := by
  rw [dataShardsFrom] at split
  cases first : dataShard data size index with
  | error fault =>
      rw [first] at split
      cases split
  | ok shard =>
      rw [first] at split
      cases later : dataShardsFrom data size count (index + 1) with
      | error fault =>
          rw [later] at split
          cases split
      | ok rest =>
          rw [later] at split
          cases split
          exact ⟨shard, rest, rfl, rfl, rfl⟩

theorem length_dataShardsFrom
    (split : dataShardsFrom data size count index = .ok shards) :
    shards.length = count := by
  induction count generalizing index shards with
  | zero =>
      cases split
      rfl
  | succ count induction =>
      rcases dataShardsFrom_succ split with
        ⟨shard, rest, _, later, rfl⟩
      rw [List.length_cons, induction later]

/-- A data shard is a piece of the data, filled up with zeros. -/
theorem dataShard_ok
    {shard : Bytes} (split : dataShard data size index = .ok shard) :
    shard =
        (data.drop (index * size)).take size ++
          zeros (size - (data.length - index * size)) ∧
      index * size ≤ data.length := by
  rw [dataShard] at split
  split at split
  · cases split
  · rename_i ordered
    have bounded : index * size ≤ data.length := by
      omega
    refine ⟨?_, bounded⟩
    cases split
    have piece :
        (data.take (min (index * size + size) data.length)).drop
            (index * size) =
          (data.drop (index * size)).take size := by
      rw [List.drop_take, List.take_eq_take_iff, List.length_drop]
      omega
    rw [piece, copy, zeros, zeros, List.length_replicate, List.take_take,
      Nat.min_self, List.drop_replicate, List.length_take,
      List.length_drop]
    congr 2
    omega

/-- A piece of the data and what follows it, each filled up with zeros. -/
theorem join_padded (data : Bytes) (size count start : Nat) :
    (data.drop start).take size ++ zeros (size - (data.length - start)) ++
        (data.drop (start + size) ++
          zeros (count * size - (data.length - (start + size)))) =
      data.drop start ++
        zeros ((count + 1) * size - (data.length - start)) := by
  have length : (data.drop start).length = data.length - start :=
    List.length_drop
  rw [← List.drop_drop, Nat.succ_mul]
  by_cases full : size ≤ data.length - start
  · have none : size - (data.length - start) = 0 := by
      omega
    have rest :
        count * size - (data.length - (start + size)) =
          count * size + size - (data.length - start) := by
      omega
    rw [none, zeros, List.replicate_zero, List.append_nil,
      ← List.append_assoc, List.take_append_drop, rest]
  · have whole : (data.drop start).take size = data.drop start :=
      List.take_of_length_le (by omega)
    have none : (data.drop start).drop size = [] :=
      List.drop_of_length_le (by omega)
    rw [whole, none, List.nil_append, List.append_assoc, zeros, zeros,
      zeros, List.replicate_append_replicate]
    congr 2
    omega

/-- The data shards together are the data, filled up with zeros. -/
theorem flatten_dataShardsFrom
    (split : dataShardsFrom data size count index = .ok shards)
    (enough : data.length ≤ (index + count) * size) :
    shards.flatten =
      data.drop (index * size) ++
        zeros (count * size - (data.length - index * size)) := by
  induction count generalizing index shards with
  | zero =>
      cases split
      rw [Nat.add_zero] at enough
      rw [List.drop_of_length_le enough]
      simp [zeros]
  | succ count induction =>
      rcases dataShardsFrom_succ split with
        ⟨shard, rest, first, later, rfl⟩
      have piece := dataShard_ok first
      have pieces :=
        induction later (by
          rw [Nat.add_assoc, Nat.add_comm 1 count]
          exact enough)
      rw [List.flatten_cons, pieces, piece.1]
      rw [Nat.succ_mul]
      exact join_padded data size count (index * size)

/-- The shards have room for the data. -/
theorem le_mul_shardSize
    {dataStripes : Nat} (positive : 0 < dataStripes) (length : Nat) :
    length ≤ dataStripes * shardSize dataStripes length ∧
      dataStripes * shardSize dataStripes length <
        length + dataStripes := by
  have parts := Nat.div_add_mod (length + dataStripes - 1) dataStripes
  have rest :=
    Nat.mod_lt (length + dataStripes - 1) positive
  rw [shardSize]
  generalize
    dataStripes * ((length + dataStripes - 1) / dataStripes) = filled
    at parts ⊢
  omega

theorem held_self
    {dataShards : Nat} (many : dataShards ≤ encoded.length)
    (nonempty : ∀ shard ∈ encoded, shard ≠ []) :
    Held dataShards encoded encoded := by
  constructor
  · exact List.forall₂_same.mpr fun shard _ => Or.inl rfl
  · rw [List.countP_eq_length.mpr]
    · exact many
    · intro shard member
      simpa using nonempty shard member

/-- Data that is encoded is taken by the library, split and extended. -/
theorem encodeShards_ok
    (returned : encodeShards library data protection = .ok encoded) :
    library.new protection.dataStripes protection.parityStripes = none ∧
      ∃ shards,
        dataShardsFrom data
            (shardSize protection.dataStripes data.length)
            protection.dataStripes 0 = .ok shards ∧
          library.encode protection.dataStripes protection.parityStripes
              (shards ++
                List.replicate protection.parityStripes
                  (zeros
                    (shardSize protection.dataStripes data.length))) =
            .ok encoded := by
  rw [encodeShards] at returned
  split at returned
  · cases returned
  · rename_i accepted
    split at returned
    · cases returned
    · simp only at returned
      split at returned
      · cases returned
      · rename_i shards split
        split at returned
        · cases returned
        · rename_i output result
          cases returned
          exact ⟨accepted, shards, split, result⟩

/-- What the library makes of a split has the data as its data shards. -/
theorem encode_split
    (lawful : library.Lawful)
    (positive : 0 < protection.dataStripes)
    (split :
      dataShardsFrom data (shardSize protection.dataStripes data.length)
        protection.dataStripes 0 = .ok shards)
    (result :
      library.encode protection.dataStripes protection.parityStripes
          (shards ++
            List.replicate protection.parityStripes
              (zeros (shardSize protection.dataStripes data.length))) =
        .ok encoded) :
    encoded.take protection.dataStripes = shards ∧
      (encoded.take protection.dataStripes).flatten =
        data ++ zeros (padding protection.dataStripes data.length) := by
  have count := length_dataShardsFrom split
  have length :
      (shards ++
          List.replicate protection.parityStripes
            (zeros
              (shardSize protection.dataStripes data.length))).length =
        protection.dataStripes + protection.parityStripes := by
    rw [List.length_append, count, List.length_replicate]
  have kept := (lawful.encode_keeps _ _ _ _ length result).2.1
  rw [List.take_left' count] at kept
  have room := le_mul_shardSize positive data.length
  have pieces :=
    flatten_dataShardsFrom split (by
      rw [Nat.zero_add]
      exact room.1)
  rw [Nat.zero_mul, List.drop_zero, Nat.sub_zero] at pieces
  exact ⟨kept, by rw [kept, pieces, padding]⟩

theorem encodeShards_encoded
    (lawful : library.Lawful)
    (returned : encodeShards library data protection = .ok encoded) :
    EncodedStripe library data protection encoded := by
  rcases encodeShards_ok returned with
    ⟨accepted, shards, split, result⟩
  have bounds := lawful.new_bounded _ _ accepted
  have count := length_dataShardsFrom split
  have length :
      (shards ++
          List.replicate protection.parityStripes
            (zeros
              (shardSize protection.dataStripes data.length))).length =
        protection.dataStripes + protection.parityStripes := by
    rw [List.length_append, count, List.length_replicate]
  rcases lawful.encode_keeps _ _ _ _ length result with
    ⟨total, _, nonempty⟩
  have held :=
    @held_self encoded protection.dataStripes (by omega) nonempty
  rcases lawful.reconstructs _ _ _ _ _ length result held with
    ⟨reconstructed, returned, same⟩
  have data := encode_split lawful bounds.1 split result
  have long : ¬ reconstructed.length < protection.dataStripes := by
    have lengths := congrArg List.length (same.trans data.1)
    rw [List.length_take, count] at lengths
    omega
  refine ⟨bounds.1, bounds.2, total, ?_⟩
  simp only [decodeStripe, accepted, returned, long, if_false, same,
    data.2]

theorem encodeStripe_encoded
    {ofs : OneFS} (lawful : library.Lawful)
    (faithful : ofs.Faithful library)
    (returned : ofs.encodeStripe library data protection = .ok encoded) :
    EncodedStripe library data protection encoded := by
  rw [OneFS.encodeStripe] at returned
  cases installed : ofs.dpuEncoder with
  | none =>
      rw [installed] at returned
      exact encodeShards_encoded lawful returned
  | some encoder =>
      rw [installed] at returned
      exact encodeShards_encoded lawful
        (faithful encoder installed _ _ _ returned)

end Encoding

/-! ## Stripes of a file -/

/--
The stripes of a file, from a stripe on: each is encoded from what the reader
supplies for it, and its shards are stored in their places.
-/
inductive StripesWritten (library : ReedSolomon) (nodes : List Node)
    (protection : ProtectionLevel) (stripeSize : Nat)
    (storage : Storage) :
    Nat → Reader → List BlockDescriptor → Prop
  | nil {stripeNum : Nat} {reader : Reader} :
      StripesWritten library nodes protection stripeSize storage
        stripeNum reader []
  | cons {stripeNum : Nat} {reader : Reader} {block : BlockDescriptor}
      {blocks : List BlockDescriptor} {shards : List Bytes}
      (supplied :
        (reader.readFull stripeSize).2.1 = none ∨
          (reader.readFull stripeSize).2.1 = some .unexpectedEOF)
      (encoded :
        EncodedStripe library (reader.readFull stripeSize).1 protection
          shards)
      (placed :
        block.stripeMembers.map StripeMember.place =
          stripePlaces nodes stripeNum protection.totalShards)
      (stored : Stores storage block.stripeMembers shards)
      (rest :
        StripesWritten library nodes protection stripeSize storage
          (stripeNum + 1) (reader.readFull stripeSize).2.2 blocks) :
      StripesWritten library nodes protection stripeSize storage
        stripeNum reader (block :: blocks)

/-- Nothing but the shards on the nodes is different. -/
def StoresOnly (before after : OneFS) : Prop :=
  after = { before with storage := after.storage }

theorem StoresOnly.trans
    {before middle after : OneFS}
    (first : StoresOnly before middle) (second : StoresOnly middle after) :
    StoresOnly before after := by
  rw [StoresOnly] at first second ⊢
  rw [second, first]

/-- A place that no stripe from a stripe on uses. -/
def Below (stripeNum : Nat) (key : ℤ × String) : Prop :=
  ∀ stripe ≥ stripeNum, ∀ shard, key.2 ≠ generateShardPath stripe shard

section Stripes

variable
    {library : ReedSolomon}
    {rpc : NodeRPC}
    {ofs written : OneFS}
    {protection : ProtectionLevel}
    {stripeNum : Nat}

/-- What a stripe that is written without error leaves behind. -/
theorem writeStripeToNodes_ok
    {shards : List Bytes} {nodes : List Nat} {block : BlockDescriptor}
    (enough : shards.length = nodes.length)
    (returned :
      ofs.writeStripeToNodes rpc shards nodes stripeNum =
        (.ok block, written)) :
    StoresOnly ofs written ∧
      block.stripeMembers.map StripeMember.place =
        placesFrom stripeNum 0 nodes ∧
      Stores written.storage block.stripeMembers shards ∧
      ∀ key ∉ placesFrom stripeNum 0 nodes,
        written.storage.get? key = ofs.storage.get? key := by
  rw [OneFS.writeStripeToNodes, if_neg (by omega)] at returned
  have nodes_eq : (shards.zip nodes).map Prod.snd = nodes :=
    List.map_snd_zip (by omega)
  have shards_eq : (shards.zip nodes).map Prod.fst = shards :=
    List.map_fst_zip (by omega)
  have frame :
      ∀ key ∉ placesFrom stripeNum 0 nodes,
        (writeShards rpc ofs.dataStripes stripeNum 0 (shards.zip nodes)
          ofs.storage).2.2.get? key = ofs.storage.get? key := by
    intro key apart
    apply writeShards_frame
    rw [nodes_eq]
    exact apart
  cases errors :
      (writeShards rpc ofs.dataStripes stripeNum 0 (shards.zip nodes)
        ofs.storage).2.1 with
  | cons error rest =>
      simp only [errors] at returned
      cases returned
  | nil =>
      have stores := writeShards_stores errors
      rw [nodes_eq, shards_eq] at stores
      simp only [errors] at returned
      cases returned
      exact ⟨rfl, stores.1, stores.2, frame⟩

theorem placesFrom_not_below
    {key : ℤ × String} {nodes : List Nat} {shardIdx : Nat}
    (member : key ∈ placesFrom stripeNum shardIdx nodes) :
    ¬ Below stripeNum key := by
  intro below
  rcases mem_placesFrom member with ⟨shard, _, path⟩
  exact below stripeNum (Nat.le_refl _) shard path

/-- The places of a stripe are not used by later stripes. -/
theorem below_of_mem_placesFrom
    {key : ℤ × String} {nodes : List Nat} {shardIdx : Nat}
    (member : key ∈ placesFrom stripeNum shardIdx nodes) :
    Below (stripeNum + 1) key := by
  intro stripe later shard path
  rcases mem_placesFrom member with ⟨other, _, same⟩
  have equal := (generateShardPath_inj (path.symm.trans same)).1
  omega

theorem Below.succ {key : ℤ × String} (below : Below stripeNum key) :
    Below (stripeNum + 1) key :=
  fun stripe later => below stripe (by omega)

/-- What stripes that are written without error leave behind. -/
theorem writeStripes_ok
    (lawful : library.Lawful) (faithful : ofs.Faithful library)
    {stripeSize count : Nat} {reader : Reader}
    {blocks : List BlockDescriptor}
    (returned :
      ofs.writeStripes library rpc protection stripeSize count stripeNum
        reader = (.ok blocks, written)) :
    blocks.length = count ∧
      StoresOnly ofs written ∧
      StripesWritten library ofs.nodes protection stripeSize
        written.storage stripeNum reader blocks ∧
      ∀ key, Below stripeNum key →
        written.storage.get? key = ofs.storage.get? key := by
  induction count generalizing stripeNum reader ofs blocks with
  | zero =>
      cases returned
      exact ⟨rfl, rfl, StripesWritten.nil, fun _ _ => rfl⟩
  | succ count induction =>
      rw [OneFS.writeStripes] at returned
      simp only at returned
      split at returned
      · cases returned
      · rename_i failure
        have supplied :
            (reader.readFull stripeSize).2.1 = none ∨
              (reader.readFull stripeSize).2.1 = some .unexpectedEOF := by
          tauto
        split at returned
        · cases returned
        · rename_i shards encoding
          have encoded :=
            encodeStripe_encoded lawful faithful encoding
          rw [selectNodesForStripe] at returned
          split at returned
          · cases returned
          · rename_i nodes selection
            split at selection
            · cases selection
            · cases selection
              split at returned
              · cases returned
              · rename_i block after writing
                split at returned
                · cases returned
                · rename_i blocks' finished later
                  cases returned
                  have one :=
                    writeStripeToNodes_ok
                      (by rw [encoded.total, length_selectFrom]) writing
                  rcases one with ⟨same, placed, stored, frame⟩
                  have keeps : after.Faithful library := by
                    rw [same]
                    exact faithful
                  have nodes_eq : after.nodes = ofs.nodes := by
                    rw [same]
                  rcases induction keeps later with
                    ⟨length, last, rest, spared⟩
                  rw [nodes_eq] at rest
                  refine ⟨?_, ?_, ?_, ?_⟩
                  · rw [List.length_cons, length]
                  · exact same.trans last
                  · refine .cons supplied encoded placed ?_ rest
                    apply stored.congr
                    intro place member
                    rw [placed] at member
                    exact spared place (below_of_mem_placesFrom member)
                  · intro key below
                    rw [spared key below.succ]
                    apply frame
                    intro member
                    exact placesFrom_not_below member below

end Stripes

/-! ## Files -/

/-- What a file that is written without error leaves behind. -/
structure FileWritten (library : ReedSolomon) (ofs : OneFS)
    (path : String) (reader : Reader) (size : ℤ)
    (protection : ProtectionLevel) (stripeSize : Nat)
    (blocks : List BlockDescriptor) (after : OneFS) : Prop where
  pool : ofs.selectStoragePool = some protection
  positive : 0 < stripeSize
  allocated : (stripeSize : ℤ) ≤ maxAlloc
  stripeSize_eq : ofs.stripeSize protection = stripeSize
  numStripes_eq : ofs.numStripes protection size = blocks.length
  stripes :
    StripesWritten library ofs.nodes protection stripeSize after.storage 0
      reader blocks
  after_eq :
    after =
      { ofs with
        directory :=
          ofs.directory.allocateInode.2.commitFile path
            { inodeNumber := ofs.directory.nextInode
              fileSize := size
              protection := protection
              blocks := blocks }
        storage := after.storage }

section Files

variable
    {library : ReedSolomon}
    {rpc : NodeRPC}
    {ofs after : OneFS}
    {path : String}
    {reader : Reader}
    {size : ℤ}

theorem writeStripeToNodes_storesOnly
    (shards : List Bytes) (nodes : List Nat) (stripeNum : Nat) :
    StoresOnly ofs
      (ofs.writeStripeToNodes rpc shards nodes stripeNum).2 := by
  rw [OneFS.writeStripeToNodes]
  split
  · rfl
  · simp only
    split
    · rfl
    · rfl

/-- Writing stripes changes nothing but the shards on the nodes. -/
theorem writeStripes_storesOnly
    (protection : ProtectionLevel) (stripeSize count stripeNum : Nat) :
    StoresOnly ofs
      (ofs.writeStripes library rpc protection stripeSize count stripeNum
        reader).2 := by
  induction count generalizing stripeNum reader ofs with
  | zero => rfl
  | succ count induction =>
      rw [OneFS.writeStripes]
      simp only
      split
      · rfl
      · split
        · rfl
        · rename_i shards _
          split
          · rfl
          · rename_i nodes _
            have one :=
              @writeStripeToNodes_storesOnly rpc ofs shards nodes
                stripeNum
            split
            · rename_i fault written writing
              rw [writing] at one
              exact one
            · rename_i block written writing
              rw [writing] at one
              have later :=
                @induction written (reader.readFull stripeSize).2.2
                  (stripeNum + 1)
              split
              · rename_i fault finished rest
                rw [rest] at later
                exact one.trans later
              · rename_i blocks finished rest
                rw [rest] at later
                exact one.trans later

/-- A file that is not written leaves the other files as they are. -/
theorem writeFile_failed
    (failed : (ofs.writeFile library rpc path reader size).1 ≠ .ok ()) :
    (ofs.writeFile library rpc path reader size).2 =
      { ofs with
        directory := ofs.directory.allocateInode.2
        storage :=
          (ofs.writeFile library rpc path reader size).2.storage } := by
  rw [OneFS.writeFile] at failed ⊢
  simp only at failed ⊢
  split
  · rfl
  · rename_i protection pool
    split
    · rfl
    · rename_i nonzero
      split
      · rfl
      · rename_i count stripes
        split
        · rfl
        · rename_i stripeSize buffer
          have same :=
            @writeStripes_storesOnly library rpc
              { ofs with directory := ofs.directory.allocateInode.2 }
              reader protection stripeSize count 0
          split
          · rename_i fault written writing
            rw [writing] at same
            exact same
          · rename_i blocks written writing
            simp only [pool, nonzero, stripes, buffer, writing] at failed
            exact absurd rfl failed

/-- A file that is written has its buffers made and its stripes written. -/
theorem writeFile_written
    (returned :
      ofs.writeFile library rpc path reader size = (.ok (), after)) :
    ∃ protection stripeSize count blocks written,
      ofs.selectStoragePool = some protection ∧
        ofs.stripeSize protection ≠ 0 ∧
        makeSliceOf blockDescriptorSize
            (ofs.numStripes protection size) = .ok count ∧
        makeSlice (ofs.stripeSize protection) = .ok stripeSize ∧
        OneFS.writeStripes library rpc protection stripeSize count 0 reader
            { ofs with directory := ofs.directory.allocateInode.2 } =
          (.ok blocks, written) ∧
        after =
          { written with
            directory :=
              written.directory.commitFile path
                { inodeNumber := ofs.directory.nextInode
                  fileSize := size
                  protection := protection
                  blocks := blocks } } := by
  rw [OneFS.writeFile] at returned
  simp only at returned
  split at returned
  · cases returned
  · rename_i protection pool
    split at returned
    · cases returned
    · rename_i nonzero
      split at returned
      · cases returned
      · rename_i count stripes
        split at returned
        · cases returned
        · rename_i stripeSize buffer
          split at returned
          · cases returned
          · rename_i blocks written writing
            cases returned
            exact ⟨protection, stripeSize, count, blocks, written, pool,
              nonzero, stripes, buffer, writing, rfl⟩

/-- A file that is written is committed with its stripes. -/
theorem writeFile_ok
    (lawful : library.Lawful) (faithful : ofs.Faithful library)
    (returned :
      ofs.writeFile library rpc path reader size = (.ok (), after)) :
    ∃ protection stripeSize blocks,
      FileWritten library ofs path reader size protection stripeSize
        blocks after := by
  rcases writeFile_written returned with
    ⟨protection, stripeSize, count, blocks, written, pool, nonzero,
      stripes, buffer, writing, rfl⟩
  rw [makeSliceOf_ok_iff] at stripes
  rw [makeSlice_ok_iff] at buffer
  have keeps :
      OneFS.Faithful library
        { ofs with directory := ofs.directory.allocateInode.2 } :=
    faithful
  rcases writeStripes_ok lawful keeps writing with
    ⟨length, same, stripesWritten, _⟩
  refine ⟨protection, stripeSize, blocks, ?_⟩
  exact
    { pool := pool
      positive := by
        rw [buffer.1] at nonzero
        omega
      allocated := by
        rw [← buffer.1]
        exact buffer.2
      stripeSize_eq := buffer.1
      numStripes_eq := by
        rw [stripes.1, length]
      stripes := stripesWritten
      after_eq := by
        rw [StoresOnly] at same
        rw [same] }

/-- A file without stripes leaves the nodes alone. -/
theorem writeFile_noStripes
    (none :
      ∀ protection ∈ ofs.selectStoragePool,
        ofs.numStripes protection size ≤ 0) :
    (ofs.writeFile library rpc path reader size).2.storage =
      ofs.storage := by
  rw [OneFS.writeFile]
  simp only
  split
  · rfl
  · rename_i protection pool
    split
    · rfl
    · split
      · rfl
      · rename_i count stripes
        rw [makeSliceOf_ok_iff] at stripes
        have zero : count = 0 := by
          have bound := none protection pool
          omega
        subst zero
        split
        · rfl
        · rfl

end Files

/-! ## Two data shards and one parity shard -/

/-- The bytewise exclusive or. -/
def xorBytes (left right : Bytes) : Bytes :=
  List.zipWith (fun first second => first ^^^ second) left right

/-- A library for two data shards, with their exclusive or as parity. -/
def xorParity : ReedSolomon where
  new dataShards parityShards :=
    if dataShards = 2 ∧ parityShards = 1 then
      none
    else
      some (.message "unsupported number of shards")
  encode dataShards parityShards shards :=
    match shards with
    | [first, second, _] =>
        if dataShards = 2 ∧ parityShards = 1 ∧ first ≠ [] ∧
            first.length = second.length then
          .ok [first, second, xorBytes first second]
        else
          .error (.message "no shard data")
    | _ => .error (.message "wrong number of shards")
  reconstructData _ _ shards :=
    match shards with
    | [first, second, parity] =>
        .ok
          [if first = [] then xorBytes second parity else first,
            if second = [] then xorBytes first parity else second,
            parity]
    | _ => .error (.message "wrong number of shards")

section XorParity

variable
    {left right : Bytes}

theorem xorBytes_self_left (same : left.length = right.length) :
    xorBytes left (xorBytes left right) = right := by
  induction left generalizing right with
  | nil =>
      cases right with
      | nil => rfl
      | cons byte rest => cases same
  | cons byte rest induction =>
      cases right with
      | nil => cases same
      | cons other others =>
          have tail := induction (Nat.succ.inj same)
          simp only [xorBytes, List.zipWith_cons_cons] at tail ⊢
          rw [tail, ← UInt8.xor_assoc, UInt8.xor_self, UInt8.zero_xor]

theorem xorBytes_comm : xorBytes left right = xorBytes right left := by
  rw [xorBytes, xorBytes, List.zipWith_comm]
  simp only [UInt8.xor_comm]

theorem xorBytes_ne_nil
    (nonempty : left ≠ []) (same : left.length = right.length) :
    xorBytes left right ≠ [] := by
  intro empty
  have lengths := congrArg List.length empty
  rw [xorBytes, List.length_zipWith, List.length_nil] at lengths
  have positive := List.length_pos_iff.mpr nonempty
  omega

theorem xorParity_encode
    {dataShards parityShards : Nat} {shards encoded : List Bytes}
    (returned :
      xorParity.encode dataShards parityShards shards = .ok encoded) :
    dataShards = 2 ∧ parityShards = 1 ∧
      ∃ first second rest,
        shards = [first, second, rest] ∧ first ≠ [] ∧ second ≠ [] ∧
          first.length = second.length ∧
          encoded = [first, second, xorBytes first second] := by
  rw [xorParity] at returned
  simp only at returned
  split at returned
  · rename_i first second rest
    split at returned
    · rename_i sizes
      rcases sizes with ⟨two, one, nonempty, same⟩
      have filled : second ≠ [] := by
        intro empty
        rw [empty] at same
        exact nonempty (List.length_eq_zero_iff.mp same)
      cases returned
      exact ⟨two, one, first, second, rest, rfl, nonempty, filled, same,
        rfl⟩
    · cases returned
  · cases returned

theorem xorParity_lawful : xorParity.Lawful where
  new_bounded := by
    intro dataShards parityShards accepted
    rw [xorParity] at accepted
    simp only at accepted
    split at accepted
    · omega
    · cases accepted
  encode_keeps := by
    intro dataShards parityShards shards encoded _ returned
    rcases xorParity_encode returned with
      ⟨rfl, rfl, first, second, rest, rfl, nonempty, filled, same, rfl⟩
    refine ⟨rfl, rfl, ?_⟩
    intro shard member
    simp only [List.mem_cons, List.not_mem_nil, or_false] at member
    rcases member with rfl | rfl | rfl
    · exact nonempty
    · exact filled
    · exact xorBytes_ne_nil nonempty same
  reconstructs := by
    intro dataShards parityShards shards encoded held _ returned enough
    rcases xorParity_encode returned with
      ⟨rfl, rfl, first, second, rest, rfl, nonempty, filled, same, rfl⟩
    have back := xorBytes_self_left same.symm
    rw [@xorBytes_comm second first] at back
    rcases enough with ⟨pieces, many⟩
    cases pieces with
    | cons firstHeld pieces =>
    cases pieces with
    | cons secondHeld pieces =>
    cases pieces with
    | cons parityHeld pieces =>
    cases pieces with
    | nil =>
    refine ⟨_, rfl, ?_⟩
    rcases firstHeld with rfl | rfl
    · rcases secondHeld with rfl | rfl
      · simp [nonempty, filled]
      · rcases parityHeld with rfl | rfl
        · simp [nonempty, xorBytes_self_left same]
        · simp [nonempty] at many
    · rcases secondHeld with rfl | rfl
      · rcases parityHeld with rfl | rfl
        · simp [filled, back]
        · simp [filled] at many
      · exfalso
        rcases parityHeld with rfl | rfl
        · rw [List.countP_cons, List.countP_cons, List.countP_cons] at many
          simp only [ne_eq, not_true_eq_false, decide_false,
            List.countP_nil] at many
          split at many
          · simp at many
          · simp at many
        · simp at many

end XorParity

end StorageAppliance.PowerScale
