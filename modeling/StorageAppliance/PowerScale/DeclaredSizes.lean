import StorageAppliance.PowerScale.FileRoundTrip

/-!
# The declared size of a file

`OneFS.WriteFile` gets the size of the file with the reader.  It makes as many
stripes as the size needs, and reads a full stripe for each from the reader.
The size is not looked at again: the last stripe is read past it if the reader
goes on, and a reader that ends in the last stripe is taken for one that ends at
the size, because both are an unexpected end of the input.

`writeFile_honoursSize_iff` says when a file is committed with the declared
bytes, or refused.
-/

namespace StorageAppliance.PowerScale

open StorageAppliance.Go
open StorageAppliance.Library

/-- The number of stripes that a size needs. -/
def stripeCount (stripeSize size : Nat) : Nat :=
  (size + stripeSize - 1) / stripeSize

/-- The data of a stripe. -/
def stripeData (stripeSize stripeNum : Nat) (data : Bytes) : Bytes :=
  (data.drop (stripeNum * stripeSize)).take stripeSize

/-- The stripes of the file under a path encode some data. -/
def Commits (library : ReedSolomon) (ofs : OneFS) (path : String)
    (protection : ProtectionLevel) (stripeSize : Nat) (data : Bytes) :
    Prop :=
  ∃ layout,
    ofs.directory.lookupFile path = .ok layout ∧
      layout.blocks.length = stripeCount stripeSize data.length ∧
      ∀ stripeNum block,
        layout.blocks[stripeNum]? = some block →
          ∃ shards,
            Stores ofs.storage block.stripeMembers shards ∧
              EncodedStripe library
                (stripeData stripeSize stripeNum data) protection shards

/--
A file that is written has the declared number of bytes, and a file that is not
is refused with an error and leaves its path as it was.
-/
def HonoursSize (library : ReedSolomon) (rpc : NodeRPC) (ofs : OneFS)
    (protection : ProtectionLevel) (path : String) (reader : Reader)
    (size : Nat) : Prop :=
  match ofs.writeFile library rpc path reader size with
  | (.ok (), after) =>
      size ≤ reader.bytes.length ∧
        Commits library after path protection
          (ofs.stripeSize protection).toNat (reader.bytes.take size)
  | (.error fault, after) =>
      (∃ error, fault = .error error) ∧
        after.directory.lookupFile path = ofs.directory.lookupFile path

/-- The buffers for the stripes of a file can be made. -/
structure Allocates (ofs : OneFS) (protection : ProtectionLevel)
    (size : Nat) : Prop where
  positive : 0 < ofs.stripeSize protection
  stripe : ofs.stripeSize protection ≤ maxAlloc
  fits : size + (ofs.stripeSize protection).toNat - 1 < 2 ^ 63
  blocks :
    (stripeCount (ofs.stripeSize protection).toNat size : ℤ) *
        blockDescriptorSize ≤
      maxAlloc

/--
The reader supplies data for each of a number of stripes.  It may end in the
last one, but not fail.
-/
def Supplies (reader : Reader) (stripeSize count : Nat) : Prop :=
  if reader.failure = .eof ∨ reader.failure = .unexpectedEOF then
    count = 0 ∨ (count - 1) * stripeSize < reader.bytes.length
  else
    count * stripeSize ≤ reader.bytes.length

/-- What the last stripe reads past the declared size. -/
def excess (reader : Reader) (stripeSize size : Nat) : Bytes :=
  (reader.bytes.take (stripeCount stripeSize size * stripeSize)).drop size

/-- The declared bytes of the last stripe. -/
def lastLength (stripeSize size : Nat) : Nat :=
  size - (stripeCount stripeSize size - 1) * stripeSize

/--
The reader supplies the declared bytes, and what is read past them is what the
last stripe is filled up with.
-/
structure EndsAtSize (reader : Reader) (dataStripes stripeSize size : Nat) :
    Prop where
  supplied : size ≤ reader.bytes.length
  zero :
    excess reader stripeSize size =
      zeros (excess reader stripeSize size).length
  padded :
    (excess reader stripeSize size).length ≤
      padding dataStripes (lastLength stripeSize size)

/-- Stripes with data are encoded, and encoding does not panic without any. -/
structure Encodes (library : ReedSolomon) (ofs : OneFS)
    (protection : ProtectionLevel) (stripeSize count : Nat)
    (data : Bytes) : Prop where
  stripes :
    ∀ stripeNum < count,
      stripeData stripeSize stripeNum data ≠ [] →
        ∃ shards,
          ofs.encodeStripe library (stripeData stripeSize stripeNum data)
              protection = .ok shards
  empty :
    ∀ message,
      ofs.encodeStripe library [] protection ≠ .error (.panic message)

/-! ## Reading stripes -/

section Reading

variable
    {reader : Reader}
    {stripeSize count : Nat}
    {data : Bytes}

theorem readFull_data (reader : Reader) (length : Nat) :
    (reader.readFull length).1 = reader.bytes.take length ∧
      (reader.readFull length).2.2 =
        { reader with bytes := reader.bytes.drop length } := by
  rw [Reader.readFull]
  split
  · exact ⟨rfl, rfl⟩
  · have short : reader.bytes.length ≤ length := by
      omega
    rw [List.take_of_length_le short, List.drop_of_length_le short]
    split
    · rename_i empty
      cases reader
      cases empty
      exact ⟨rfl, rfl⟩
    · split
      · exact ⟨rfl, rfl⟩
      · exact ⟨rfl, rfl⟩

theorem stripeData_succ (stripeSize stripeNum : Nat) (data : Bytes) :
    stripeData stripeSize (stripeNum + 1) data =
      stripeData stripeSize stripeNum (data.drop stripeSize) := by
  rw [stripeData, stripeData, List.drop_drop, Nat.succ_mul,
    Nat.add_comm stripeSize]

theorem stripeData_zero (stripeSize : Nat) (data : Bytes) :
    stripeData stripeSize 0 data = data.take stripeSize := by
  rw [stripeData, Nat.zero_mul, List.drop_zero]

/-- The data of a stripe that is read and not refused. -/
def Accepted (reader : Reader) (stripeSize : Nat) : Prop :=
  reader.bytes ≠ [] ∧
    ((reader.readFull stripeSize).2.1 = none ∨
      (reader.readFull stripeSize).2.1 = some .unexpectedEOF)

/-- A reader that supplies stripes supplies the first and then the others. -/
theorem supplies_succ (positive : 0 < stripeSize) :
    Supplies reader stripeSize (count + 1) ↔
      Accepted reader stripeSize ∧
        Supplies { reader with bytes := reader.bytes.drop stripeSize }
          stripeSize count := by
  have product : (count + 1) * stripeSize =
      count * stripeSize + stripeSize :=
    Nat.succ_mul count stripeSize
  have previous : count = 0 ∨
      count ≠ 0 ∧
        count * stripeSize = (count - 1) * stripeSize + stripeSize := by
    cases count with
    | zero => exact Or.inl rfl
    | succ count =>
        exact Or.inr
          ⟨Nat.succ_ne_zero count, Nat.succ_mul count stripeSize⟩
  simp only [Supplies, Accepted, Reader.readFull, List.length_drop,
    Nat.add_sub_cancel, product]
  by_cases full : stripeSize ≤ reader.bytes.length
  · have some : reader.bytes ≠ [] := by
      intro empty
      rw [empty] at full
      exact absurd full (Nat.not_le_of_lt positive)
    simp only [full, if_true, some, ne_eq, not_false_eq_true, true_or,
      and_self, true_and]
    split
    · rcases previous with rfl | previous
      · simp only [Nat.zero_mul, true_or, iff_true]
        omega
      · omega
    · omega
  · by_cases empty : reader.bytes = []
    · rw [empty, List.length_nil]
      simp only [ne_eq, not_true_eq_false, false_and, iff_false]
      split
      · omega
      · omega
    · have some := List.length_pos_iff.mpr empty
      simp only [full, if_false, empty, ne_eq, not_false_eq_true,
        true_and]
      by_cases ends : reader.failure = .eof
      · simp only [ends, true_or, if_true, or_true, true_and]
        rcases previous with rfl | previous
        · simp only [Nat.zero_mul, true_or, iff_true]
          omega
        · omega
      · by_cases cut : reader.failure = .unexpectedEOF
        · simp only [cut, or_true, if_true, reduceCtorEq, if_false,
            true_and, Nat.succ_ne_zero, false_or]
          rcases previous with rfl | previous
          · simp only [Nat.zero_mul, true_or, iff_true]
            omega
          · omega
        · simp only [ends, cut, or_self, if_false, reduceCtorEq,
            Option.some.injEq, false_and, iff_false]
          omega

end Reading

/-! ## Writing stripes -/

section Writing

variable
    {library : ReedSolomon}
    {rpc : NodeRPC}
    {ofs : OneFS}
    {protection : ProtectionLevel}
    {stripeSize count stripeNum : Nat}
    {reader : Reader}
    {data : Bytes}
    {shards : List Bytes}

theorem writeShards_clean
    (writes :
      ∀ nodeId path shard, rpc.writeShardToNode nodeId path shard = none)
    (dataStripes shardIdx : Nat) (placed : List (Bytes × Nat))
    (storage : Storage) :
    (writeShards rpc dataStripes stripeNum shardIdx placed
      storage).2.1 = [] := by
  induction placed generalizing shardIdx storage with
  | nil => rfl
  | cons head rest induction =>
      rcases head with ⟨shard, nodeId⟩
      simp only [writeShards, writes]
      exact induction _ _

/-- A stripe whose shards have nodes is written. -/
theorem writeStripeToNodes_clean
    {nodes : List Nat}
    (writes :
      ∀ nodeId path shard, rpc.writeShardToNode nodeId path shard = none)
    (enough : shards.length = nodes.length) :
    ∃ block written,
      ofs.writeStripeToNodes rpc shards nodes stripeNum =
        (.ok block, written) := by
  have clean :=
    @writeShards_clean rpc stripeNum writes ofs.dataStripes 0
      (shards.zip nodes) ofs.storage
  rw [OneFS.writeStripeToNodes, if_neg (by omega)]
  simp only [clean]
  exact ⟨_, _, rfl⟩

/-- A stripe without data is not encoded. -/
theorem encodeStripe_nil
    (lawful : library.Lawful) (faithful : ofs.Faithful library)
    (silent :
      ∀ message,
        ofs.encodeStripe library [] protection ≠
          .error (.panic message)) :
    ∃ error,
      ofs.encodeStripe library [] protection = .error (.error error) := by
  cases result : ofs.encodeStripe library [] protection with
  | error fault =>
      cases fault with
      | error error => exact ⟨error, rfl⟩
      | panic message => exact absurd result (silent message)
  | ok shards =>
      exfalso
      have direct : encodeShards library [] protection = .ok shards := by
        rw [OneFS.encodeStripe] at result
        split at result
        · rename_i encoder installed
          exact faithful encoder installed _ _ _ result
        · exact result
      rcases encodeShards_ok direct with
        ⟨accepted, pieces, split, encoded⟩
      have positive := (lawful.new_bounded _ _ accepted).1
      have kept := (encode_split lawful positive split encoded).1
      have length := length_dataShardsFrom split
      have nonempty :=
        (lawful.encode_keeps _ _ _ _ (by
          rw [List.length_append, length, List.length_replicate])
          encoded).2.2
      cases pieces with
      | nil =>
          rw [List.length_nil] at length
          omega
      | cons piece rest =>
          have whole := encode_split lawful positive split encoded
          have none :
              zeros (padding protection.dataStripes 0) = [] := by
            rw [(padding_eq_zero_iff positive 0).mpr (Nat.dvd_zero _)]
            rfl
          rw [kept, List.nil_append, List.length_nil, none,
            List.flatten_eq_nil_iff] at whole
          have empty := whole.2 piece List.mem_cons_self
          apply nonempty piece
          · apply List.mem_of_mem_take
            rw [kept]
            exact List.mem_cons_self
          · exact empty

/-- A stripe that is read and encoded is written, and then the others. -/
theorem writeStripes_succ
    (lawful : library.Lawful) (faithful : ofs.Faithful library)
    (configured : ofs.nodes ≠ [])
    (writes :
      ∀ nodeId path shard, rpc.writeShardToNode nodeId path shard = none)
    (accepted :
      (reader.readFull stripeSize).2.1 = none ∨
        (reader.readFull stripeSize).2.1 = some .unexpectedEOF)
    (encoded :
      ofs.encodeStripe library (reader.readFull stripeSize).1
        protection = .ok shards) :
    ∃ block written,
      StoresOnly ofs written ∧
        (ofs.writeStripes library rpc protection stripeSize (count + 1)
            stripeNum reader).1 =
          (written.writeStripes library rpc protection stripeSize count
            (stripeNum + 1) (reader.readFull stripeSize).2.2).1.map
              (block :: ·) := by
  have continues :
      ¬ ((reader.readFull stripeSize).2.1 ≠ none ∧
        (reader.readFull stripeSize).2.1 ≠ some .unexpectedEOF) := by
    tauto
  have present : ofs.nodes.length ≠ 0 := by
    simpa using configured
  have selected :
      selectNodesForStripe ofs.nodes stripeNum protection =
        .ok
          (selectFrom ofs.nodes stripeNum protection.totalShards 0
            []) := by
    rw [selectNodesForStripe, if_neg (fun both => present both.2)]
  have total := (encodeStripe_encoded lawful faithful encoded).total
  have same :=
    @writeStripeToNodes_storesOnly rpc ofs shards
      (selectFrom ofs.nodes stripeNum protection.totalShards 0 [])
      stripeNum
  rcases
    @writeStripeToNodes_clean rpc ofs stripeNum shards
      (selectFrom ofs.nodes stripeNum protection.totalShards 0 [])
      writes (by rw [total, length_selectFrom]) with
    ⟨block, written, writing⟩
  rw [writing] at same
  refine ⟨block, written, same, ?_⟩
  rw [OneFS.writeStripes]
  simp only [continues, if_false, encoded, selected, writing]
  split
  · rename_i fault finished later
    rw [later]
    rfl
  · rename_i blocks finished later
    rw [later]
    rfl

/-- The stripes are written exactly if the reader supplies them. -/
theorem writeStripes_cases
    (lawful : library.Lawful) (faithful : ofs.Faithful library)
    (configured : ofs.nodes ≠ [])
    (writes :
      ∀ nodeId path shard, rpc.writeShardToNode nodeId path shard = none)
    (positive : 0 < stripeSize)
    (encodes :
      Encodes library ofs protection stripeSize count reader.bytes) :
    (Supplies reader stripeSize count →
        ∃ blocks,
          (ofs.writeStripes library rpc protection stripeSize count
            stripeNum reader).1 = .ok blocks) ∧
      (¬ Supplies reader stripeSize count →
        ∃ error,
          (ofs.writeStripes library rpc protection stripeSize count
            stripeNum reader).1 = .error (.error error)) := by
  induction count generalizing ofs reader stripeNum with
  | zero =>
      refine ⟨fun _ => ⟨[], rfl⟩, fun short => absurd ?_ short⟩
      simp [Supplies]
  | succ count induction =>
      have read := readFull_data reader stripeSize
      rw [supplies_succ positive]
      by_cases accepted : Accepted reader stripeSize
      · have first :=
          encodes.stripes 0 (Nat.succ_pos count) (by
            rw [stripeData_zero]
            simpa using ⟨Nat.ne_of_gt positive, accepted.1⟩)
        rw [stripeData_zero, ← read.1] at first
        rcases first with ⟨shards, encoded⟩
        rcases
          @writeStripes_succ library rpc ofs protection stripeSize count
            stripeNum reader shards lawful faithful configured writes
            accepted.2 encoded with
          ⟨block, written, same, result⟩
        have keeps : written.Faithful library := by
          rw [same]
          exact faithful
        have nodes : written.nodes ≠ [] := by
          rw [same]
          exact configured
        have later :
            Encodes library written protection stripeSize count
              (reader.bytes.drop stripeSize) := by
          rw [same]
          refine ⟨?_, encodes.empty⟩
          intro stripe less data
          rw [← stripeData_succ] at data ⊢
          exact encodes.stripes (stripe + 1) (by omega) data
        have rest :=
          @induction written (stripeNum + 1)
            { reader with bytes := reader.bytes.drop stripeSize } keeps
            nodes later
        rw [result, read.2]
        simp only [accepted, true_and]
        constructor
        · intro supplies
          rcases rest.1 supplies with ⟨blocks, ok⟩
          exact ⟨block :: blocks, by rw [ok]; rfl⟩
        · intro short
          rcases rest.2 short with ⟨error, failed⟩
          exact ⟨error, by rw [failed]; rfl⟩
      · simp only [accepted, false_and, not_false_eq_true, true_implies,
          false_implies, true_and]
        rw [OneFS.writeStripes]
        simp only
        split
        · exact ⟨_, rfl⟩
        · rename_i continues
          have empty : reader.bytes = [] := by
            rw [Accepted] at accepted
            tauto
          rcases encodeStripe_nil lawful faithful encodes.empty with
            ⟨error, failed⟩
          rw [read.1, empty, List.take_nil, failed]
          exact ⟨error, rfl⟩

end Writing

/-! ## The last stripe -/

section LastStripe

variable
    {library : ReedSolomon}
    {nodes : List Node}
    {protection : ProtectionLevel}
    {storage : Storage}
    {stripeSize stripeNum size : Nat}
    {reader : Reader}
    {data part more : Bytes}
    {shards : List Bytes}
    {blocks : List BlockDescriptor}

theorem stripeCount_bounds (positive : 0 < stripeSize) (some : 0 < size) :
    0 < stripeCount stripeSize size ∧
      (stripeCount stripeSize size - 1) * stripeSize < size ∧
      size ≤ stripeCount stripeSize size * stripeSize := by
  have parts := Nat.div_add_mod (size + stripeSize - 1) stripeSize
  have rest := Nat.mod_lt (size + stripeSize - 1) positive
  have count : 0 < stripeCount stripeSize size :=
    Nat.div_pos (by omega) positive
  have product :
      stripeCount stripeSize size * stripeSize =
        (stripeCount stripeSize size - 1) * stripeSize + stripeSize := by
    rw [← Nat.succ_mul, Nat.succ_eq_add_one, Nat.sub_add_cancel count]
  rw [Nat.mul_comm] at parts
  change stripeCount stripeSize size * stripeSize + _ = _ at parts
  omega

theorem stripeCount_zero (positive : 0 < stripeSize) :
    stripeCount stripeSize 0 = 0 :=
  (stripes_eq_zero_iff positive).mpr rfl

/-- The stripes before the last have declared bytes only. -/
theorem stripeData_take_of_lt
    (before : (stripeNum + 1) * stripeSize ≤ size) (data : Bytes) :
    stripeData stripeSize stripeNum (data.take size) =
      stripeData stripeSize stripeNum data := by
  rw [Nat.succ_mul] at before
  rw [stripeData, stripeData, List.drop_take, List.take_take,
    Nat.min_eq_left (by omega)]

/-- The last stripe has the last of the declared bytes, and what follows. -/
theorem stripeData_last
    (positive : 0 < stripeSize) (some : 0 < size)
    (supplied : size ≤ reader.bytes.length) :
    stripeData stripeSize (stripeCount stripeSize size - 1)
          reader.bytes =
        stripeData stripeSize (stripeCount stripeSize size - 1)
            (reader.bytes.take size) ++
          excess reader stripeSize size ∧
      (stripeData stripeSize (stripeCount stripeSize size - 1)
        (reader.bytes.take size)).length =
          lastLength stripeSize size := by
  have bounds := @stripeCount_bounds stripeSize size positive some
  have product :
      stripeCount stripeSize size * stripeSize =
        (stripeCount stripeSize size - 1) * stripeSize + stripeSize := by
    rw [← Nat.succ_mul, Nat.succ_eq_add_one, Nat.sub_add_cancel bounds.1]
  rw [stripeData, stripeData, excess, lastLength]
  generalize (stripeCount stripeSize size - 1) * stripeSize = start
    at bounds product ⊢
  generalize stripeCount stripeSize size * stripeSize = stop
    at bounds product ⊢
  constructor
  · rw [List.drop_take, List.take_take, Nat.min_eq_right (by omega),
      List.drop_take]
    have pieces :
        (reader.bytes.drop start).take stripeSize =
          (reader.bytes.drop start).take
            ((size - start) + (stop - size)) := by
      congr 1
      omega
    rw [pieces, List.take_add, List.drop_drop,
      Nat.add_sub_cancel' (Nat.le_of_lt bounds.2.1)]
  · rw [List.length_take, List.length_drop, List.length_take]
    omega

/-- The shards of some data are those of other data that fills up alike. -/
theorem EncodedStripe.other_iff
    (encoded : EncodedStripe library data protection shards) :
    EncodedStripe library part protection shards ↔
      part ++ zeros (padding protection.dataStripes part.length) =
        data ++ zeros (padding protection.dataStripes data.length) := by
  constructor
  · intro other
    exact
      Except.ok.inj (other.decodes.symm.trans encoded.decodes)
  · intro same
    exact
      { positive := encoded.positive
        bounded := encoded.bounded
        total := encoded.total
        decodes := by rw [encoded.decodes, same] }

/-- More data is filled up alike exactly if it is zeros of the padding. -/
theorem padded_append_iff
    {dataStripes : Nat} (positive : 0 < dataStripes)
    (part more : Bytes) :
    part ++ zeros (padding dataStripes part.length) =
        part ++ more ++
          zeros (padding dataStripes (part ++ more).length) ↔
      more = zeros more.length ∧
        more.length ≤ padding dataStripes part.length := by
  rw [List.append_assoc, List.append_cancel_left_eq]
  constructor
  · intro same
    have lengths := congrArg List.length same
    rw [List.length_append, zeros, zeros, List.length_replicate,
      List.length_replicate] at lengths
    refine ⟨?_, by omega⟩
    have first := congrArg (List.take more.length) same
    rw [List.take_left, zeros, List.take_replicate,
      Nat.min_eq_left (by omega)] at first
    exact first.symm
  · rintro ⟨zero, fits⟩
    have room := le_mul_shardSize positive part.length
    have later := le_mul_shardSize positive (part ++ more).length
    have grows : shardSize dataStripes part.length ≤
        shardSize dataStripes (part ++ more).length := by
      rw [shardSize, shardSize, List.length_append]
      exact Nat.div_le_div_right (by omega)
    have same : shardSize dataStripes (part ++ more).length =
        shardSize dataStripes part.length := by
      apply Nat.le_antisymm _ grows
      by_contra larger
      have next :=
        Nat.mul_le_mul_left dataStripes (Nat.lt_of_not_le larger)
      rw [Nat.mul_succ] at next
      rw [List.length_append] at later next
      rw [padding] at fits
      omega
    have rest :
        padding dataStripes (part ++ more).length =
          padding dataStripes part.length - more.length := by
      rw [padding, padding, same, List.length_append, Nat.sub_sub]
    calc zeros (padding dataStripes part.length)
        = zeros more.length ++
            zeros (padding dataStripes part.length - more.length) := by
          rw [zeros, zeros, zeros, List.replicate_append_replicate,
            Nat.add_sub_cancel' fits]
      _ = more ++ zeros (padding dataStripes (part ++ more).length) := by
          rw [← zero, rest]

/-- A stripe that is written is encoded from its data, and stored. -/
theorem StripesWritten.stripe
    (written :
      StripesWritten library nodes protection stripeSize storage stripeNum
        reader blocks) :
    ∀ index block,
      blocks[index]? = some block →
        ∃ shards,
          Stores storage block.stripeMembers shards ∧
            EncodedStripe library
              (stripeData stripeSize index reader.bytes) protection
              shards := by
  induction written with
  | nil =>
      intro index block found
      cases found
  | @cons stripeNum reader block blocks shards supplied encoded placed
      stored rest induction =>
      have read := readFull_data reader stripeSize
      rw [read.2] at induction
      intro index other found
      cases index with
      | zero =>
          cases found
          rw [stripeData_zero, ← read.1]
          exact ⟨shards, stored, encoded⟩
      | succ index =>
          rw [stripeData_succ]
          exact induction index other found

theorem Stores.unique
    {members : List StripeMember} {other : List Bytes}
    (stores : Stores storage members shards)
    (again : Stores storage members other) :
    shards = other := by
  induction stores generalizing other with
  | nil =>
      cases again
      rfl
  | cons stored _ induction =>
      cases again with
      | cons same rest =>
          rw [induction rest,
            Option.some.inj (stored.symm.trans same)]

/-- What is written are the declared bytes if nothing but zeros is added. -/
theorem StripesWritten.declared_iff
    (written :
      StripesWritten library nodes protection stripeSize storage 0
        reader blocks)
    (positive : 0 < stripeSize)
    (count : blocks.length = stripeCount stripeSize size)
    (supplied : size ≤ reader.bytes.length) :
    (∀ stripeNum block,
        blocks[stripeNum]? = some block →
          ∃ shards,
            Stores storage block.stripeMembers shards ∧
              EncodedStripe library
                (stripeData stripeSize stripeNum
                  (reader.bytes.take size))
                protection shards) ↔
      EndsAtSize reader protection.dataStripes stripeSize size := by
  have stripes := written.stripe
  by_cases some : 0 < size
  · have bounds := @stripeCount_bounds stripeSize size positive some
    have last :=
      @stripeData_last stripeSize size reader positive some supplied
    have within : stripeCount stripeSize size - 1 < blocks.length := by
      omega
    rcases stripes _ _ (List.getElem?_eq_getElem within) with
      ⟨shards, stored, encoded⟩
    have padded :=
      @padded_append_iff protection.dataStripes encoded.positive
        (stripeData stripeSize (stripeCount stripeSize size - 1)
          (reader.bytes.take size))
        (excess reader stripeSize size)
    rw [← last.1, last.2] at padded
    constructor
    · intro declared
      rcases declared _ _ (List.getElem?_eq_getElem within) with
        ⟨others, again, part⟩
      rw [← stored.unique again] at part
      have filled := encoded.other_iff.mp part
      rw [last.2] at filled
      exact ⟨supplied, (padded.mp filled).1, (padded.mp filled).2⟩
    · intro ends index block found
      rcases stripes index block found with ⟨others, again, whole⟩
      refine ⟨others, again, ?_⟩
      by_cases final : index = stripeCount stripeSize size - 1
      · subst final
        rw [whole.other_iff, last.2]
        exact padded.mpr ⟨ends.zero, ends.padded⟩
      · have less : index < blocks.length := by
          by_contra beyond
          rw [List.getElem?_eq_none (by omega)] at found
          cases found
        have before : (index + 1) * stripeSize ≤
            (stripeCount stripeSize size - 1) * stripeSize :=
          Nat.mul_le_mul_right stripeSize (by omega)
        rw [stripeData_take_of_lt (by omega)]
        exact whole
  · have zero : size = 0 := by
      omega
    subst zero
    rw [stripeCount_zero positive] at count
    have nothing : excess reader stripeSize 0 = [] := by
      rw [excess, stripeCount_zero positive, Nat.zero_mul,
        List.take_zero]
      rfl
    rw [List.length_eq_zero_iff.mp count]
    constructor
    · intro _
      exact
        { supplied := supplied
          zero := by
            rw [nothing]
            rfl
          padded := by
            rw [nothing]
            exact Nat.zero_le _ }
    · intro _ index block found
      cases found

end LastStripe

/-! ## Files -/

section Files

variable
    {library : ReedSolomon}
    {rpc : NodeRPC}
    {ofs : OneFS}
    {protection : ProtectionLevel}
    {path : String}
    {reader : Reader}
    {size : Nat}

/-- With its buffers, a file is written as its stripes are. -/
theorem writeFile_allocated
    (pool : ofs.selectStoragePool = some protection)
    (allocates : Allocates ofs protection size) :
    (ofs.writeFile library rpc path reader size).1 =
      (OneFS.writeStripes library rpc protection
          (ofs.stripeSize protection).toNat
          (stripeCount (ofs.stripeSize protection).toNat size) 0 reader
          { ofs with directory := ofs.directory.allocateInode.2 }).1.map
        fun _ => () := by
  have positive := allocates.positive
  have stripe :
      ofs.stripeSize protection =
        ((ofs.stripeSize protection).toNat : ℤ) := by
    omega
  have buffer :
      makeSlice (ofs.stripeSize protection) =
        .ok (ofs.stripeSize protection).toNat :=
    makeSlice_ok_iff.mpr ⟨stripe, allocates.stripe⟩
  have blocks :
      makeSliceOf blockDescriptorSize (ofs.numStripes protection size) =
        .ok (stripeCount (ofs.stripeSize protection).toNat size) := by
    rw [numStripes_of_fits (by omega) stripe allocates.fits,
      makeSliceOf_ok_iff]
    exact ⟨rfl, allocates.blocks⟩
  rw [OneFS.writeFile]
  simp only [pool, positive.ne', if_false, buffer, blocks]
  split
  · rename_i fault written writing
    rw [writing]
    rfl
  · rename_i stripes written writing
    rw [writing]
    rfl

/-- Without its buffers, writing a file panics. -/
theorem writeFile_not_allocated
    (pool : ofs.selectStoragePool = some protection)
    (range : size < 2 ^ 63)
    (refused : ¬ Allocates ofs protection size) :
    ∃ message,
      (ofs.writeFile library rpc path reader size).1 =
        .error (.panic message) := by
  rw [OneFS.writeFile]
  simp only [pool]
  split
  · exact ⟨_, rfl⟩
  · rename_i nonzero
    split
    · rename_i fault failed
      exact ⟨_, congrArg Except.error (makeSliceOf_error failed)⟩
    · rename_i count blocks
      split
      · rename_i fault failed
        exact ⟨_, congrArg Except.error (makeSliceOf_error failed)⟩
      · rename_i stripe buffer
        exfalso
        apply refused
        rw [makeSliceOf_ok_iff] at blocks
        rw [makeSlice_ok_iff] at buffer
        have positive : 0 < stripe := by
          omega
        have allocated : (stripe : ℤ) ≤ maxAlloc := by
          omega
        have fits : size + stripe - 1 < 2 ^ 63 := by
          by_contra wrapped
          have negative :=
            numStripes_of_wrapped positive allocated buffer.1 range
              wrapped
          omega
        have rounded := numStripes_of_fits positive buffer.1 fits
        have same : (ofs.stripeSize protection).toNat = stripe := by
          omega
        refine ⟨by omega, buffer.2, by rw [same]; exact fits, ?_⟩
        rw [same, stripeCount, ← rounded]
        exact blocks.2

/-- A file that is written honours its size if its stripes end with it. -/
theorem honoursSize_iff_of_ok
    (lawful : library.Lawful) (faithful : ofs.Faithful library)
    (pool : ofs.selectStoragePool = some protection)
    (allocates : Allocates ofs protection size)
    (ok : (ofs.writeFile library rpc path reader size).1 = .ok ()) :
    HonoursSize library rpc ofs protection path reader size ↔
      EndsAtSize reader protection.dataStripes
        (ofs.stripeSize protection).toNat size := by
  have positive : 0 < (ofs.stripeSize protection).toNat := by
    have some := allocates.positive
    omega
  rw [HonoursSize]
  cases returned : ofs.writeFile library rpc path reader size with
  | mk outcome after =>
      rw [returned] at ok
      cases ok
      rcases writeFile_ok lawful faithful returned with
        ⟨used, stripeSize, blocks, file⟩
      cases pool.symm.trans file.pool
      have same : (ofs.stripeSize protection).toNat = stripeSize := by
        rw [file.stripeSize_eq]
        rfl
      have count :
          blocks.length =
            stripeCount (ofs.stripeSize protection).toNat size := by
        have number := file.numStripes_eq
        rw [numStripes_of_fits positive (by omega) allocates.fits]
          at number
        exact (Int.ofNat_inj.mp number).symm
      have found :
          after.directory.lookupFile path =
            .ok ⟨ofs.directory.nextInode, size, protection,
              blocks⟩ := by
        rw [file.after_eq]
        exact lookupFile_commitFile_self
      have stripes := file.stripes
      rw [← same] at stripes
      constructor
      · rintro ⟨supplied, layout, again, _, declared⟩
        cases found.symm.trans again
        exact (stripes.declared_iff positive count supplied).mp declared
      · intro ends
        refine ⟨ends.supplied, _, found, ?_, ?_⟩
        · rw [List.length_take, Nat.min_eq_left ends.supplied]
          exact count
        · exact
            (stripes.declared_iff positive count ends.supplied).mpr ends

/-- A file that is refused with an error honours its size. -/
theorem honoursSize_of_error
    {error : GoError}
    (failed :
      (ofs.writeFile library rpc path reader size).1 =
        .error (.error error)) :
    HonoursSize library rpc ofs protection path reader size := by
  have failure :
      (ofs.writeFile library rpc path reader size).1 ≠ .ok () := by
    rw [failed]
    exact fun same => nomatch same
  have kept := writeFile_failed failure
  rw [HonoursSize]
  cases returned : ofs.writeFile library rpc path reader size with
  | mk outcome after =>
      rw [returned] at failed kept
      cases failed
      refine ⟨⟨error, rfl⟩, ?_⟩
      simp only at kept
      rw [kept]
      rfl

theorem not_honoursSize_of_panic
    {message : String}
    (panics :
      (ofs.writeFile library rpc path reader size).1 =
        .error (.panic message)) :
    ¬ HonoursSize library rpc ofs protection path reader size := by
  rw [HonoursSize]
  cases returned : ofs.writeFile library rpc path reader size with
  | mk outcome after =>
      rw [returned] at panics
      cases panics
      rintro ⟨⟨error, other⟩, _⟩
      cases other

/--
A file has the declared bytes or is refused exactly if its buffers can be made
and the reader does not supply all its stripes, or supplies the declared bytes
and then, in the last stripe, only zeros that it would be filled up with.
-/
theorem writeFile_honoursSize_iff
    (lawful : library.Lawful) (faithful : ofs.Faithful library)
    (configured : ofs.nodes ≠ [])
    (pool : ofs.selectStoragePool = some protection)
    (writes :
      ∀ nodeId path shard, rpc.writeShardToNode nodeId path shard = none)
    (range : size < 2 ^ 63)
    (encodes :
      Encodes library ofs protection (ofs.stripeSize protection).toNat
        (stripeCount (ofs.stripeSize protection).toNat size)
        reader.bytes) :
    HonoursSize library rpc ofs protection path reader size ↔
      Allocates ofs protection size ∧
        (¬ Supplies reader (ofs.stripeSize protection).toNat
            (stripeCount (ofs.stripeSize protection).toNat size) ∨
          EndsAtSize reader protection.dataStripes
            (ofs.stripeSize protection).toNat size) := by
  by_cases allocates : Allocates ofs protection size
  · have positive : 0 < (ofs.stripeSize protection).toNat := by
      have some := allocates.positive
      omega
    have result :=
      @writeFile_allocated library rpc ofs protection path reader size pool
        allocates
    have written :=
      @writeStripes_cases library rpc
        { ofs with directory := ofs.directory.allocateInode.2 } protection
        (ofs.stripeSize protection).toNat
        (stripeCount (ofs.stripeSize protection).toNat size) 0 reader
        lawful faithful configured writes positive
        ⟨encodes.stripes, encodes.empty⟩
    simp only [allocates, true_and]
    by_cases supplies :
        Supplies reader (ofs.stripeSize protection).toNat
          (stripeCount (ofs.stripeSize protection).toNat size)
    · rcases written.1 supplies with ⟨stripes, ok⟩
      rw [ok] at result
      simp only [supplies, not_true_eq_false, false_or]
      exact honoursSize_iff_of_ok lawful faithful pool allocates result
    · rcases written.2 supplies with ⟨error, failed⟩
      rw [failed] at result
      simp only [supplies, not_false_eq_true, true_or, iff_true]
      exact honoursSize_of_error result
  · rcases
      @writeFile_not_allocated library rpc ofs protection path reader size
        pool range allocates with ⟨message, panics⟩
    simp only [allocates, false_and, iff_false]
    exact not_honoursSize_of_panic panics

end Files

/-- A reader of some bytes. -/
def bytesReader (bytes : Bytes) : Reader where
  bytes := bytes

theorem writeFile_honoursSize_twoBytes :
    HonoursSize xorParity steadyNodes oneNode ⟨2, 1⟩ "/a"
      (bytesReader [1, 2]) 2 := by
  have faithful : oneNode.Faithful xorParity := by
    intro encoder installed
    cases installed
  have size : oneNode.stripeSize ⟨2, 1⟩ = 2097152 := by
    decide +kernel
  have encodes :
      Encodes xorParity oneNode ⟨2, 1⟩
        (oneNode.stripeSize ⟨2, 1⟩).toNat
        (stripeCount (oneNode.stripeSize ⟨2, 1⟩).toNat 2) [1, 2] := by
    constructor
    · intro stripeNum less _
      have first : stripeNum = 0 := by
        rw [size] at less
        have one : stripeCount (2097152 : ℤ).toNat 2 = 1 := by
          decide +kernel
        omega
      subst first
      exact ⟨[[1], [2], [3]], by decide +kernel⟩
    · intro message panics
      have fails :
          oneNode.encodeStripe xorParity [] ⟨2, 1⟩ =
            .error (errorf "no shard data") := by
        decide +kernel
      rw [fails] at panics
      cases panics
  have allocates : Allocates oneNode ⟨2, 1⟩ 2 := by
    constructor
    · decide +kernel
    · decide +kernel
    · decide +kernel
    · decide +kernel
  have ends :
      EndsAtSize (bytesReader [1, 2]) 2
        (oneNode.stripeSize ⟨2, 1⟩).toNat 2 := by
    constructor
    · decide +kernel
    · decide +kernel
    · decide +kernel
  have configured : oneNode.nodes ≠ [] := by
    decide
  have pool : oneNode.selectStoragePool = some ⟨2, 1⟩ := by
    decide +kernel
  have range : 2 < 2 ^ 63 := by
    decide
  rw [@writeFile_honoursSize_iff xorParity steadyNodes oneNode ⟨2, 1⟩ "/a"
    (bytesReader [1, 2]) 2 xorParity_lawful faithful configured pool
    (fun _ _ _ => rfl) range encodes]
  exact ⟨allocates, Or.inr ends⟩

/-- A reader of one byte is accepted for two bytes. -/
theorem oneByte_for_two :
    (oneNode.writeFile xorParity steadyNodes "/a" (bytesReader [1])
        (2 : Nat)).1 = .ok () ∧
      ¬ HonoursSize xorParity steadyNodes oneNode ⟨2, 1⟩ "/a"
        (bytesReader [1]) 2 := by
  have returned :
      (oneNode.writeFile xorParity steadyNodes "/a" (bytesReader [1])
        (2 : Nat)).1 = .ok () := by
    decide +kernel
  refine ⟨returned, ?_⟩
  rw [HonoursSize]
  cases outcome :
      oneNode.writeFile xorParity steadyNodes "/a" (bytesReader [1])
        (2 : Nat) with
  | mk result after =>
      rw [outcome] at returned
      cases returned
      rintro ⟨supplied, _⟩
      exact absurd supplied (by decide)

end StorageAppliance.PowerScale
