import StorageAppliance.Library.Run
import StorageAppliance.PowerScale.Zones

/-!
# Writes to the zones of a namespace

A write names a zone and appends to it (`WriteZone`).  The write pointer
advances by the whole blocks of the data, and a zone whose pointer has reached
its end is full.

The pointer advances before it is compared with the end, a part of a block
counts for nothing, and the open zones are not counted.
`writeZones_inOrder_iff` says which writes leave the zones in order.
-/

namespace StorageAppliance.PowerScale

open StorageAppliance.Go
open StorageAppliance.Library

namespace ZoneState

/-- The number of a state. -/
def toNat : ZoneState → Nat
  | empty => 0
  | implicitlyOpen => 1
  | explicitlyOpen => 2
  | closed => 3
  | full => 4
  | readOnly => 5
  | offline => 6

/-- A zone in the state can be written. -/
def Writable (state : ZoneState) : Prop :=
  state = empty ∨ state = implicitlyOpen

/-- A zone in the state is open. -/
def isOpen (state : ZoneState) : Bool :=
  state = implicitlyOpen ∨ state = explicitlyOpen

instance (state : ZoneState) : Decidable state.Writable :=
  inferInstanceAs (Decidable (_ ∨ _))

end ZoneState

/-- Advance the write pointer of a zone to a block. -/
def NVMeNamespace.advance (self : NVMeNamespace) (zone : ZoneDescriptor)
    (pointer : Nat) : ZoneDescriptor :=
  { zone with
    writePointer := pointer
    zoneState :=
      if self.zoneEnd zone ≤ pointer then .full else .implicitlyOpen }

namespace NVMeNamespace

/-- The block after the data, if it is appended to a zone. -/
def blockAfter (self : NVMeNamespace) (zone : ZoneDescriptor)
    (data : Bytes) : Nat :=
  zone.writePointer + data.length / self.blockSize

/-- Change a zone. -/
def setZone (self : NVMeNamespace) (zoneId : Nat)
    (zone : ZoneDescriptor) : NVMeNamespace :=
  { self with
    znsConfig :=
      self.znsConfig.map fun config =>
        { config with
          zoneDescriptors := config.zoneDescriptors.set zoneId zone } }

/-- Append data to a zone. -/
def writeZone (self : NVMeNamespace) (zoneId : Nat) (data : Bytes) :
    Except Fault Unit × NVMeNamespace :=
  if self.type ≠ .zoned then
    (.error (errorf "namespace is not ZNS-enabled"), self)
  else
    match self.znsConfig with
    | none => (.error (errorf "namespace is not ZNS-enabled"), self)
    | some config =>
        match config.zoneDescriptors[zoneId]? with
        | none =>
            (.error (errorf ("invalid zone ID: " ++ decimal zoneId)), self)
        | some zone =>
            if ¬ zone.zoneState.Writable then
              (.error
                (errorf
                  ("zone " ++ decimal zoneId ++
                    " not in writable state: " ++
                    decimal zone.zoneState.toNat)),
                self)
            else if self.blockSize = 0 then
              (.error (.panic "integer divide by zero"), self)
            else
              (.ok (),
                self.setZone zoneId
                  (self.advance zone (self.blockAfter zone data)))

/-- How many zones are open. -/
def openZones (self : NVMeNamespace) : Nat :=
  self.zones.countP fun zone => zone.zoneState.isOpen

/-- How many zones may be open. -/
def maxOpenZones (self : NVMeNamespace) : Nat :=
  match self.znsConfig with
  | none => 0
  | some config => config.maxOpenZones

end NVMeNamespace

/-- A write to a zone. -/
structure ZoneWrite where
  zoneId : Nat
  data : Bytes

/-- The namespace after a write. -/
def NVMeNamespace.write (self : NVMeNamespace) (request : ZoneWrite) :
    NVMeNamespace :=
  (self.writeZone request.zoneId request.data).2

/-! ## Zones in order -/

/-- The write pointer of a zone is in it, and at its end if it is full. -/
structure ZoneInOrder (state : NVMeNamespace) (zone : ZoneDescriptor) :
    Prop where
  started : zone.startLBA ≤ zone.writePointer
  ended : zone.writePointer ≤ state.zoneEnd zone
  full : zone.zoneState = .full ↔ zone.writePointer = state.zoneEnd zone

/-- Every zone is in order, and not too many are open. -/
structure ZonesInOrder (state : NVMeNamespace) : Prop where
  zones : ∀ zone ∈ state.zones, ZoneInOrder state zone
  opened : state.openZones ≤ state.maxOpenZones

/-- The data fits in what is left of a zone. -/
def Fits (state : NVMeNamespace) (zone : ZoneDescriptor) (data : Bytes) :
    Prop :=
  data.length ≤
    (state.zoneEnd zone - zone.writePointer) * state.blockSize

/-- The write opens a zone, and no more may be open. -/
def Exceeds (state : NVMeNamespace) (zone : ZoneDescriptor)
    (data : Bytes) : Prop :=
  zone.zoneState.isOpen = false ∧
    state.blockAfter zone data < state.zoneEnd zone ∧
    state.maxOpenZones ≤ state.openZones

/-- A write leaves the zones in order, and is refused if it must be. -/
structure WriteInOrder (state : NVMeNamespace) (request : ZoneWrite) :
    Prop where
  after : ZonesInOrder (state.write request)
  refused :
    ∀ zone,
      state.zones[request.zoneId]? = some zone →
        ¬ Fits state zone request.data ∨
            Exceeds state zone request.data →
          (∃ fault,
            state.writeZone request.zoneId request.data =
              (.error fault, state))

/-- A zone that can be written has room, and may be open. -/
def HasRoom (state : NVMeNamespace) (request : ZoneWrite) : Prop :=
  ∀ zone,
    state.zones[request.zoneId]? = some zone →
      zone.zoneState.Writable →
        Fits state zone request.data ∧
          ¬ Exceeds state zone request.data

instance (state : NVMeNamespace) (zone : ZoneDescriptor)
    (data : Bytes) : Decidable (Fits state zone data) :=
  inferInstanceAs (Decidable (_ ≤ _))

instance (state : NVMeNamespace) (zone : ZoneDescriptor)
    (data : Bytes) : Decidable (Exceeds state zone data) :=
  inferInstanceAs (Decidable (_ ∧ _ ∧ _))

instance (state : NVMeNamespace) (request : ZoneWrite) :
    Decidable (HasRoom state request) :=
  decidable_of_iff
    (∀ zone ∈ state.zones[request.zoneId]?,
      zone.zoneState.Writable →
        Fits state zone request.data ∧
          ¬ Exceeds state zone request.data)
    Iff.rfl

section Writing

variable
    {state : NVMeNamespace}
    {request : ZoneWrite}
    {zone : ZoneDescriptor}

/-- A write is refused, or advances the pointer of a zone. -/
theorem writeZone_cases (zoned : state.type = .zoned)
    (positive : 0 < state.blockSize) (zoneId : Nat) (data : Bytes) :
    ((∃ fault, state.writeZone zoneId data = (.error fault, state)) ∧
        ∀ zone, state.zones[zoneId]? = some zone →
          ¬ zone.zoneState.Writable) ∨
      ∃ zone,
        state.zones[zoneId]? = some zone ∧
          zone.zoneState.Writable ∧
          state.writeZone zoneId data =
            (.ok (),
              state.setZone zoneId
                (state.advance zone (state.blockAfter zone data))) := by
  rw [NVMeNamespace.writeZone, if_neg (not_not.mpr zoned),
    NVMeNamespace.zones]
  cases configured : state.znsConfig with
  | none =>
      left
      refine ⟨⟨_, rfl⟩, ?_⟩
      rintro zone ⟨⟩
  | some config =>
      cases found : config.zoneDescriptors[zoneId]? with
      | none =>
          left
          simp only [found]
          refine ⟨⟨_, rfl⟩, ?_⟩
          rintro zone ⟨⟩
      | some zone =>
          by_cases writable : zone.zoneState.Writable
          · right
            refine ⟨zone, rfl, writable, ?_⟩
            simp only [found, not_true, if_false, writable, positive.ne']
          · left
            simp only [found, not_false_eq_true, if_true, writable]
            refine ⟨⟨_, rfl⟩, ?_⟩
            rintro other ⟨⟩
            exact writable

@[simp]
theorem zones_setZone (zoneId : Nat) (zone : ZoneDescriptor) :
    (state.setZone zoneId zone).zones = state.zones.set zoneId zone := by
  rw [NVMeNamespace.zones, NVMeNamespace.zones, NVMeNamespace.setZone]
  cases state.znsConfig with
  | none => rfl
  | some config => rfl

@[simp]
theorem maxOpenZones_setZone (zoneId : Nat) (zone : ZoneDescriptor) :
    (state.setZone zoneId zone).maxOpenZones = state.maxOpenZones := by
  rw [NVMeNamespace.maxOpenZones, NVMeNamespace.maxOpenZones,
    NVMeNamespace.setZone]
  cases state.znsConfig with
  | none => rfl
  | some config => rfl

/-- Zones are in order independently of the others. -/
theorem zoneInOrder_setZone_iff (zoneId : Nat)
    (changed : ZoneDescriptor) :
    ZoneInOrder (state.setZone zoneId changed) zone ↔
      ZoneInOrder state zone :=
  ⟨fun order => ⟨order.started, order.ended, order.full⟩,
    fun order => ⟨order.started, order.ended, order.full⟩⟩

/-- The open zones after one of them has changed. -/
theorem openZones_setZone {zoneId : Nat}
    (found : state.zones[zoneId]? = some zone)
    (changed : ZoneDescriptor) :
    (state.setZone zoneId changed).openZones =
      state.openZones - (if zone.zoneState.isOpen then 1 else 0) +
        if changed.zoneState.isOpen then 1 else 0 := by
  rcases List.getElem?_eq_some_iff.mp found with ⟨inside, listed⟩
  rw [NVMeNamespace.openZones, zones_setZone, List.countP_set inside,
    listed]
  rfl

/-- A zone that is open is counted. -/
theorem openZones_pos {zoneId : Nat}
    (found : state.zones[zoneId]? = some zone)
    (opened : zone.zoneState.isOpen = true) :
    0 < state.openZones :=
  List.countP_pos_iff.mpr ⟨zone, List.mem_of_getElem? found, opened⟩

/-- A zone that has room is in order after a write. -/
theorem advance_inOrder (data : Bytes)
    (order : ZoneInOrder state zone)
    (fits : Fits state zone data) :
    ZoneInOrder state
      (state.advance zone (state.blockAfter zone data)) := by
  have ended := order.ended
  have blocks :
      data.length / state.blockSize ≤
        state.zoneEnd zone - zone.writePointer :=
    Nat.div_le_of_le_mul (by rw [Nat.mul_comm]; exact fits)
  have inside : state.blockAfter zone data ≤ state.zoneEnd zone := by
    rw [NVMeNamespace.blockAfter]
    omega
  refine
    { started := ?_
      ended := inside
      full := ?_ }
  · exact Nat.le_trans order.started (Nat.le_add_right _ _)
  · show
      (if state.zoneEnd zone ≤ state.blockAfter zone data then _ else _) =
          ZoneState.full ↔
        state.blockAfter zone data = state.zoneEnd zone
    by_cases reached :
        state.zoneEnd zone ≤ state.blockAfter zone data
    · rw [if_pos reached]
      exact ⟨fun _ => Nat.le_antisymm inside reached, fun _ => rfl⟩
    · rw [if_neg reached]
      constructor
      · rintro ⟨⟩
      · intro equal
        exact absurd equal.ge reached

/-- The zones are in order after a write that has room. -/
theorem setZone_inOrder {zoneId : Nat} (data : Bytes)
    (order : ZonesInOrder state)
    (found : state.zones[zoneId]? = some zone)
    (fits : Fits state zone data)
    (allowed : ¬ Exceeds state zone data) :
    ZonesInOrder
      (state.setZone zoneId
        (state.advance zone (state.blockAfter zone data))) := by
  constructor
  · intro other listed
    rw [zones_setZone] at listed
    rw [zoneInOrder_setZone_iff]
    rcases List.mem_or_eq_of_mem_set listed with before | rfl
    · exact order.zones other before
    · exact
        advance_inOrder data
          (order.zones zone (List.mem_of_getElem? found)) fits
  · have opened := order.opened
    rw [openZones_setZone found, maxOpenZones_setZone]
    by_cases wasOpen : zone.zoneState.isOpen = true
    · have counted := openZones_pos found wasOpen
      rw [if_pos wasOpen]
      split
      · omega
      · omega
    · rw [if_neg wasOpen]
      by_cases reached :
          state.zoneEnd zone ≤ state.blockAfter zone data
      · rw [NVMeNamespace.advance, if_pos reached]
        exact opened
      · rw [Exceeds, not_and, not_and] at allowed
        have room :=
          allowed (Bool.eq_false_iff.mpr wasOpen) (Nat.not_le.mp reached)
        split
        · omega
        · omega

/-- Zones in order stay so exactly if the zone written has room. -/
theorem writeInOrder_iff (zoned : state.type = .zoned)
    (positive : 0 < state.blockSize)
    (order : ZonesInOrder state) :
    WriteInOrder state request ↔ HasRoom state request := by
  rcases writeZone_cases zoned positive request.zoneId request.data with
    ⟨⟨fault, refused⟩, notWritable⟩ | ⟨zone, found, writable, accepted⟩
  · constructor
    · intro _ zone found writable
      exact absurd writable (notWritable zone found)
    · intro _
      refine ⟨?_, fun _ _ _ => ⟨fault, refused⟩⟩
      rw [NVMeNamespace.write, refused]
      exact order
  · constructor
    · intro inOrder other listed _
      cases found.symm.trans listed
      by_contra violated
      rw [Classical.not_and_iff_not_or_not, not_not] at violated
      rcases inOrder.refused zone found violated with ⟨fault, refused⟩
      cases accepted.symm.trans refused
    · intro room
      rcases room zone found writable with ⟨fits, allowed⟩
      constructor
      · rw [NVMeNamespace.write, accepted]
        exact setZone_inOrder request.data order found fits allowed
      · intro other listed violated
        cases found.symm.trans listed
        rcases violated with tooLong | tooMany
        · exact absurd fits tooLong
        · exact absurd tooMany allowed

end Writing

/-! ## Runs of writes -/

section Runs

variable
    {subsystem : NVMeSubsystem}
    {size : Nat}

/-- The zones of a new namespace are in order. -/
theorem createNamespace_inOrder
    (standard : subsystem.blockSize = 4096) :
    ZonesInOrder (subsystem.createNamespace size .zoned).1 := by
  cases enabled : subsystem.config.enableZNS with
  | false =>
      have noZones := @createNamespace_noZones subsystem size enabled
      constructor
      · intro zone listed
        rw [noZones] at listed
        cases listed
      · rw [NVMeNamespace.openZones, noZones]
        exact Nat.zero_le _
  | true =>
      constructor
      · intro zone listed
        rw [createNamespace_zones enabled, List.mem_map] at listed
        rcases listed with ⟨number, _, rfl⟩
        have last :
            (subsystem.createNamespace size .zoned).1.zoneEnd
                (newZone number) =
              (newZone number).writePointer + zoneSize / 4096 := by
          rw [← standard]
          rfl
        have blocks : zoneSize / 4096 = 65536 := by
          decide
        refine
          { started := le_rfl
            ended := ?_
            full := ?_ }
        · rw [last]
          exact Nat.le_add_right _ _
        · rw [last]
          constructor
          · rintro ⟨⟩
          · intro equal
            omega
      · rw [NVMeNamespace.openZones, createNamespace_zones enabled,
          List.countP_map]
        have closed :
            (List.range (size / zoneSize)).countP
                ((fun zone => zone.zoneState.isOpen) ∘ newZone) =
              0 :=
          List.countP_eq_zero.mpr fun _ _ => Bool.false_ne_true
        rw [closed]
        exact Nat.zero_le _

/-- Writes keep the type of a namespace and the size of its blocks. -/
theorem write_frame (state : NVMeNamespace) (request : ZoneWrite) :
    (state.write request).type = state.type ∧
      (state.write request).blockSize = state.blockSize := by
  rw [NVMeNamespace.write, NVMeNamespace.writeZone]
  repeat' split
  all_goals exact ⟨rfl, rfl⟩

/--
The zones of a namespace with blocks of 4096 bytes are in order during writes,
and the writes that must be refused are, exactly if each write to a zone that
can be written has room and does not open one zone too many.
-/
theorem writeZones_inOrder_iff
    (standard : subsystem.blockSize = 4096)
    (requests : List ZoneWrite) :
    ZonesInOrder (subsystem.createNamespace size .zoned).1 ∧
        AllSteps NVMeNamespace.write WriteInOrder
          (subsystem.createNamespace size .zoned).1 requests ↔
      AllSteps NVMeNamespace.write HasRoom
        (subsystem.createNamespace size .zoned).1 requests := by
  have start := @createNamespace_inOrder subsystem size standard
  rw [and_iff_right start]
  apply
    @allSteps_iff_of_guarded _ _ _ _ _ fun state =>
      (state.type = .zoned ∧ state.blockSize = 4096) ∧
        ZonesInOrder state
  · rintro state request ⟨⟨zoned, blocks⟩, order⟩ room
    have positive : 0 < state.blockSize := by
      rw [blocks]
      decide
    have frame := write_frame state request
    refine
      ⟨⟨frame.1.trans zoned, frame.2.trans blocks⟩,
        ((writeInOrder_iff zoned positive order).mpr room).after⟩
  · rintro state request ⟨⟨zoned, blocks⟩, order⟩
    have positive : 0 < state.blockSize := by
      rw [blocks]
      decide
    exact writeInOrder_iff zoned positive order
  · exact ⟨⟨rfl, standard⟩, start⟩

end Runs

/-- A block and a part of one are written, and a zone that is missing. -/
theorem writeZones_inOrder_two :
    ZonesInOrder
        ((zonedSubsystem 4096).createNamespace (2 * zoneSize)
          .zoned).1 ∧
      AllSteps NVMeNamespace.write WriteInOrder
        ((zonedSubsystem 4096).createNamespace (2 * zoneSize) .zoned).1
        [⟨0, zeros 4096⟩, ⟨1, [1]⟩, ⟨7, [2]⟩] := by
  rw [writeZones_inOrder_iff rfl]
  decide +kernel

/-- A write of no data to each of 15 zones. -/
def emptyWrites : List ZoneWrite :=
  (List.range 15).map fun zoneId => ⟨zoneId, []⟩

/--
Writes of no data open 15 zones, and a write of more than a zone puts the
pointer past its end.
-/
theorem zones_notInOrder :
    (¬ AllSteps NVMeNamespace.write WriteInOrder
        ((zonedSubsystem 4096).createNamespace (15 * zoneSize) .zoned).1
        emptyWrites) ∧
      ¬ AllSteps NVMeNamespace.write WriteInOrder
        ((zonedSubsystem 4096).createNamespace (15 * zoneSize) .zoned).1
        [⟨0, zeros (zoneSize + 4096)⟩] := by
  have start :=
    @createNamespace_inOrder (zonedSubsystem 4096) (15 * zoneSize) rfl
  constructor
  · intro inOrder
    have keeps :
        ∀ state request,
          ZonesInOrder state → WriteInOrder state request →
            ZonesInOrder (NVMeNamespace.write state request) :=
      fun _ _ _ written => written.after
    have opened := (run_invariant keeps start inOrder).opened
    revert opened
    decide +kernel
  · rintro ⟨inOrder, _⟩
    have room :=
      (writeInOrder_iff rfl (by decide) start).mp inOrder (newZone 0)
        (by decide +kernel) (Or.inl rfl)
    have length :
        (zeros (zoneSize + 4096)).length = zoneSize + 4096 :=
      List.length_replicate
    have fits := room.1
    rw [Fits, length] at fits
    revert fits
    decide +kernel

end StorageAppliance.PowerScale
