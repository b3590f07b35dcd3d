import StorageAppliance.PowerScale.Stripes

/-!
# One parity shard

The erasure coding library is not in the repository, so the results about files
in stripes are for any library that keeps its promises.  With a single parity
shard such a library is easily stated: the parity is the exclusive or of the
data shards, and a missing shard is the exclusive or of the others.

`singleParity_lawful` says that it keeps the promises, for any number of data
shards that it takes.
-/

namespace StorageAppliance.PowerScale

open StorageAppliance.Go

/-- The exclusive or of shards of a size. -/
def xorAll (size : Nat) (shards : List Bytes) : Bytes :=
  shards.foldr xorBytes (zeros size)

/-- The shards that are not missing. -/
def presentShards (held : List Bytes) : List Bytes :=
  held.filter fun piece => piece ≠ []

/-- The size of the first shard. -/
def firstSize (shards : List Bytes) : Nat :=
  (shards.headD []).length

/-- Fill in a missing shard. -/
def fillMissing (held : List Bytes) : List Bytes :=
  held.map fun piece =>
    if piece = [] then
      xorAll (firstSize (presentShards held)) (presentShards held)
    else
      piece

/-- The shards are not empty and have the same size. -/
def Uniform (shards : List Bytes) : Prop :=
  firstSize shards ≠ 0 ∧
    ∀ shard ∈ shards, shard.length = firstSize shards

instance (shards : List Bytes) : Decidable (Uniform shards) :=
  inferInstanceAs (Decidable (_ ∧ _))

/-- A library for a single parity shard. -/
def singleParity : ReedSolomon where
  new dataShards parityShards :=
    if 0 < dataShards ∧ parityShards = 1 ∧ dataShards < 256 then
      none
    else
      some (.message "unsupported number of shards")
  encode dataShards parityShards shards :=
    if 0 < dataShards ∧ parityShards = 1 ∧
        shards.length = dataShards + 1 ∧ Uniform shards then
      .ok
        (shards.take dataShards ++
          [xorAll (firstSize shards) (shards.take dataShards)])
    else
      .error (.message "shards of different sizes")
  reconstructData _ _ held := .ok (fillMissing held)

/-! ## Exclusive or -/

section ExclusiveOr

variable
    {size : Nat}
    {shard left right third : Bytes}
    {shards before after : List Bytes}

theorem xorBytes_assoc :
    xorBytes left (xorBytes right third) =
      xorBytes (xorBytes left right) third := by
  induction left generalizing right third with
  | nil => rfl
  | cons byte rest induction =>
      cases right with
      | nil => rfl
      | cons other others =>
          cases third with
          | nil => rfl
          | cons last lasts =>
              have tail := @induction others lasts
              simp only [xorBytes, List.zipWith_cons_cons] at tail ⊢
              rw [tail, UInt8.xor_assoc]

theorem xorBytes_left_comm :
    xorBytes left (xorBytes right third) =
      xorBytes right (xorBytes left third) := by
  rw [xorBytes_assoc, xorBytes_assoc, @xorBytes_comm left right]

theorem xorBytes_zeros : xorBytes left (zeros left.length) = left := by
  induction left with
  | nil => rfl
  | cons byte rest induction =>
      simp only [xorBytes, zeros, List.length_cons, List.replicate_succ,
        List.zipWith_cons_cons, UInt8.xor_zero] at induction ⊢
      rw [induction]

theorem xorBytes_self : xorBytes left left = zeros left.length := by
  induction left with
  | nil => rfl
  | cons byte rest induction =>
      simp only [xorBytes, zeros, List.length_cons, List.replicate_succ,
        List.zipWith_cons_cons, UInt8.xor_self] at induction ⊢
      rw [induction]

theorem length_xorAll (same : ∀ shard ∈ shards, shard.length = size) :
    (xorAll size shards).length = size := by
  induction shards with
  | nil => exact List.length_replicate
  | cons shard rest induction =>
      have later :=
        induction fun other member =>
          same other (List.mem_cons_of_mem _ member)
      have first := same shard List.mem_cons_self
      rw [xorAll] at later ⊢
      rw [List.foldr_cons, xorBytes, List.length_zipWith, later, first,
        Nat.min_self]

/-- A shard may be taken out of an exclusive or. -/
theorem xorAll_middle :
    xorAll size (before ++ shard :: after) =
      xorBytes shard (xorAll size (before ++ after)) := by
  induction before with
  | nil => rfl
  | cons first rest induction =>
      rw [xorAll] at induction ⊢
      rw [List.cons_append, List.foldr_cons, induction,
        xorBytes_left_comm]
      rfl

/-- Shards whose exclusive or is zero determine each other. -/
theorem xorAll_missing
    (same :
      ∀ other ∈ before ++ shard :: after, other.length = size)
    (zero : xorAll size (before ++ shard :: after) = zeros size) :
    xorAll size (before ++ after) = shard := by
  have length : shard.length = size := same shard (by simp)
  have others : (xorAll size (before ++ after)).length = size := by
    apply length_xorAll
    intro other member
    apply same other
    rcases List.mem_append.mp member with first | last
    · exact List.mem_append_left _ first
    · exact List.mem_append_right _ (List.mem_cons_of_mem _ last)
  calc xorAll size (before ++ after)
      = xorBytes shard (xorBytes shard (xorAll size (before ++ after))) :=
        (xorBytes_self_left (length.trans others.symm)).symm
    _ = xorBytes shard (zeros size) := by rw [← xorAll_middle, zero]
    _ = shard := by rw [← length, xorBytes_zeros]

end ExclusiveOr

/-! ## Missing shards -/

section Missing

variable
    {shards held : List Bytes}

/-- As many pieces as there are shards are the shards. -/
theorem pieces_full
    (pieces :
      List.Forall₂ (fun shard piece => piece = shard ∨ piece = []) shards
        held)
    (many : shards.length ≤ held.countP fun piece => piece ≠ []) :
    held = shards := by
  induction pieces with
  | nil => rfl
  | @cons shard piece shards held here rest induction =>
      have bound :=
        @List.countP_le_length _ (fun piece => decide (piece ≠ [])) held
      have lengths := rest.length_eq
      rw [List.countP_cons, List.length_cons] at many
      rcases here with rfl | rfl
      · rw [induction]
        split at many
        · omega
        · omega
      · simp only [ne_eq, not_true_eq_false, decide_false,
          Bool.false_eq_true, if_false] at many bound
        omega

/-- At most one piece is missing. -/
theorem pieces_cases
    (pieces :
      List.Forall₂ (fun shard piece => piece = shard ∨ piece = []) shards
        held)
    (many : shards.length ≤ (held.countP fun piece => piece ≠ []) + 1) :
    held = shards ∨
      ∃ before shard after,
        shards = before ++ shard :: after ∧
          held = before ++ [] :: after := by
  induction pieces with
  | nil => exact Or.inl rfl
  | @cons shard piece shards held here rest induction =>
      rw [List.countP_cons, List.length_cons] at many
      by_cases missing : piece = []
      · subst missing
        right
        simp only [ne_eq, not_true_eq_false, decide_false,
          Bool.false_eq_true, if_false] at many
        have full := pieces_full rest (by simpa using many)
        exact ⟨[], shard, shards, rfl, by rw [full]; rfl⟩
      · have same : piece = shard := here.resolve_right missing
        subst same
        rw [if_pos (by simpa using missing)] at many
        rcases induction (by omega) with equal | one
        · exact Or.inl (by rw [equal])
        · rcases one with ⟨before, shard, after, rfl, rfl⟩
          exact Or.inr ⟨piece :: before, shard, after, rfl, rfl⟩

theorem presentShards_of_nonempty
    (nonempty : ∀ shard ∈ shards, shard ≠ []) :
    presentShards shards = shards := by
  apply List.filter_eq_self.mpr
  intro shard member
  simpa using nonempty shard member

/-- A shard that is missing is filled in. -/
theorem fillMissing_held
    {size count : Nat}
    (some : 0 < count) (positive : 0 < size)
    (total : shards.length = count + 1)
    (same : ∀ shard ∈ shards, shard.length = size)
    (zero : xorAll size shards = zeros size)
    (enough : Held count shards held) :
    fillMissing held = shards := by
  have nonempty : ∀ shard ∈ shards, shard ≠ [] := by
    rintro shard member rfl
    have length := same [] member
    rw [List.length_nil] at length
    omega
  have keeps :
      ∀ pieces filling : List Bytes, (∀ piece ∈ filling, piece ≠ []) →
        (filling.map fun piece =>
          if piece = [] then
            xorAll (firstSize (presentShards pieces))
              (presentShards pieces)
          else
            piece) = filling := by
    intro pieces filling filled
    conv_rhs => rw [← List.map_id filling]
    apply List.map_congr_left
    intro piece member
    rw [if_neg (filled piece member), id]
  rcases pieces_cases enough.1 (by
      have many := enough.2
      omega) with full | one
  · rw [full, fillMissing]
    exact keeps shards shards nonempty
  · rcases one with ⟨before, shard, after, rfl, rfl⟩
    have earlier : ∀ piece ∈ before, piece ≠ [] := by
      intro piece member
      exact nonempty piece (List.mem_append_left _ member)
    have later : ∀ piece ∈ after, piece ≠ [] := by
      intro piece member
      exact nonempty piece
        (List.mem_append_right _ (List.mem_cons_of_mem _ member))
    have present :
        presentShards (before ++ [] :: after) = before ++ after := by
      rw [presentShards, List.filter_append,
        List.filter_cons_of_neg (by simp)]
      exact congrArg₂ (· ++ ·) (presentShards_of_nonempty earlier)
        (presentShards_of_nonempty later)
    have first : firstSize (before ++ after) = size := by
      rw [firstSize]
      cases before with
      | cons head rest => exact same head (by simp)
      | nil =>
          cases after with
          | cons head rest => exact same head (by simp)
          | nil =>
              rw [List.nil_append, List.length_singleton] at total
              omega
    have filled := xorAll_missing same zero
    rw [fillMissing, List.map_append, List.map_cons, keeps _ _ earlier,
      keeps _ _ later, if_pos rfl, present, first, filled]

end Missing

/-! ## Promises -/

/-- What the library makes of shards that it takes. -/
theorem singleParity_encode
    {dataShards parityShards : Nat} {shards encoded : List Bytes}
    (returned :
      singleParity.encode dataShards parityShards shards =
        .ok encoded) :
    0 < dataShards ∧ parityShards = 1 ∧
      shards.length = dataShards + 1 ∧ Uniform shards ∧
      encoded =
        shards.take dataShards ++
          [xorAll (firstSize shards) (shards.take dataShards)] := by
  simp only [singleParity] at returned
  split at returned
  · rename_i taken
    rcases taken with ⟨some, one, total, uniform⟩
    exact ⟨some, one, total, uniform, (Except.ok.inj returned).symm⟩
  · cases returned

/-- The encoded shards have one size, and their exclusive or is zero. -/
theorem encoded_uniform
    {dataShards : Nat} {shards : List Bytes} (uniform : Uniform shards) :
    (∀ shard ∈
        shards.take dataShards ++
          [xorAll (firstSize shards) (shards.take dataShards)],
      shard.length = firstSize shards) ∧
      xorAll (firstSize shards)
          (shards.take dataShards ++
            [xorAll (firstSize shards) (shards.take dataShards)]) =
        zeros (firstSize shards) := by
  have data :
      ∀ shard ∈ shards.take dataShards,
        shard.length = firstSize shards :=
    fun shard member => uniform.2 shard (List.mem_of_mem_take member)
  have parity := length_xorAll data
  constructor
  · intro shard member
    rcases List.mem_append.mp member with first | last
    · exact data shard first
    · rw [List.mem_singleton.mp last, parity]
  · rw [xorAll_middle, List.append_nil, xorBytes_self, parity]

/-- The shards are filled in from as many as there are data shards. -/
theorem singleParity_fills
    {dataShards parityShards : Nat} {shards encoded held : List Bytes}
    (returned :
      singleParity.encode dataShards parityShards shards = .ok encoded)
    (enough : Held dataShards encoded held) :
    fillMissing held = encoded := by
  rcases singleParity_encode returned with
    ⟨some, rfl, total, uniform, rfl⟩
  have sizes := @encoded_uniform dataShards shards uniform
  apply
    fillMissing_held some (Nat.pos_of_ne_zero uniform.1) ?_ sizes.1
      sizes.2 enough
  rw [List.length_append, List.length_take, List.length_singleton]
  omega

theorem singleParity_lawful : singleParity.Lawful where
  new_bounded := by
    intro dataShards parityShards accepted
    simp only [singleParity] at accepted
    split at accepted
    · omega
    · cases accepted
  encode_keeps := by
    intro dataShards parityShards shards encoded _ returned
    rcases singleParity_encode returned with
      ⟨some, rfl, total, uniform, rfl⟩
    have length : (shards.take dataShards).length = dataShards := by
      rw [List.length_take]
      omega
    refine ⟨?_, ?_, ?_⟩
    · rw [List.length_append, length, List.length_singleton]
    · exact List.take_left' length
    · rintro shard member rfl
      exact uniform.1
        ((@encoded_uniform dataShards shards uniform).1 [] member).symm
  reconstructs := by
    intro dataShards parityShards shards encoded held _ returned enough
    have filled := singleParity_fills returned enough
    exact ⟨fillMissing held, rfl, by rw [filled]⟩

end StorageAppliance.PowerScale
