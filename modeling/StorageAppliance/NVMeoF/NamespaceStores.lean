import StorageAppliance.Library.Overlays
import StorageAppliance.NVMeoF.Bounds

/-!
# The namespaces of a target as volumes

Connections are served side by side, and the target is configured while they
are.  A command reaches the storage of its namespace once, under the lock of the
storage, so that the commands of all connections can be put in one order, with
the configuration in between.  A panic in any of them ends the program, and with
it all connections.

`VolumeService` says what the target is for: it names volumes, each with a byte
for every address, and a write that is accepted lays its payload over one of
them.  It ends with the requests that make the target panic.
`target_serves_volumes` says that every run of the target ends exactly when the
service does, and that until then reads and writes are answered by the volumes,
however far their blocks are.
-/

namespace StorageAppliance.NVMeoF

open StorageAppliance.Go
open StorageAppliance.Library

/-! ## Volumes -/

/-- A volume: its size, the size of its blocks, and its bytes. -/
structure BlockVolume where
  size : UInt64
  blockSize : UInt32
  bytes : Nat → UInt8 := fun _ => 0

namespace BlockVolume

variable
    (volume : BlockVolume)
    (cmd : NVMeCommand)

/-- The address of the first block of a command. -/
def start : Nat :=
  cmd.rw.slba.toNat * volume.blockSize.toNat % 2 ^ 64

/-- The number of bytes of a command. -/
def count : Nat :=
  (cmd.rw.length.toNat + 1) * volume.blockSize.toNat % 2 ^ 32

/-- The bytes of a read are in the volume. -/
def AcceptsRead : Prop :=
  volume.start cmd + volume.count cmd ≤ volume.size.toNat

/-- The payload of a write has arrived, and it starts and ends in the volume. -/
def AcceptsWrite (connection : TargetConnection) : Prop :=
  volume.count cmd ≤
      ((connection.conn.read (volume.count cmd)).1.getD []).length ∧
    volume.start cmd ≤ volume.size.toNat ∧
    (volume.start cmd + volume.count cmd) % 2 ^ 64 ≤ volume.size.toNat

instance (connection : TargetConnection) :
    Decidable (volume.AcceptsWrite cmd connection) :=
  inferInstanceAs (Decidable (_ ∧ _ ∧ _))

/-- The bytes of a command end in the volume only because addresses wrap. -/
def Wraps : Prop :=
  2 ^ 64 ≤ volume.start cmd + volume.count cmd ∧
    volume.start cmd + volume.count cmd - 2 ^ 64 ≤ volume.size.toNat

/--
The target can answer the command: an identify needs blocks with bytes, a read
must not wrap, and neither must a write that has its payload and starts behind
the volume.
-/
def Survives (connection : TargetConnection) : Prop :=
  (cmd.opcode = nvmeAdminIdentify →
      cmd.identify.cns = nvmeIdCnsNs → volume.blockSize ≠ 0) ∧
    (cmd.opcode = nvmeCmdRead → ¬ volume.Wraps cmd) ∧
    (cmd.opcode = nvmeCmdWrite →
      volume.count cmd ≤
          ((connection.conn.read (volume.count cmd)).1.getD []).length →
        volume.size.toNat < volume.start cmd → ¬ volume.Wraps cmd)

instance : Decidable (volume.Wraps cmd) :=
  inferInstanceAs (Decidable (_ ∧ _))

instance (connection : TargetConnection) :
    Decidable (volume.Survives cmd connection) :=
  inferInstanceAs (Decidable ((_ → _ → _) ∧ (_ → _) ∧ (_ → _ → _ → _)))

/-- Write the payload of a command. -/
def write (connection : TargetConnection) : BlockVolume :=
  { volume with
    bytes :=
      overlay volume.bytes (volume.start cmd)
        ((connection.conn.read (volume.count cmd)).1.getD []) }

end BlockVolume

/-- The subsystems there are, and their volumes. -/
structure VolumeMap where
  exists? : String → Bool := fun _ => false
  volume? : String → UInt32 → Option BlockVolume := fun _ _ => none

/-- Replace one of the volumes. -/
def VolumeMap.put (map : VolumeMap) (nqn : String) (nsid : UInt32)
    (volume : BlockVolume) : VolumeMap :=
  { map with
    volume? := fun other otherId =>
      if other = nqn ∧ otherId = nsid then
        some volume
      else
        map.volume? other otherId }

namespace VolumeMap

/-- Configure the volumes. -/
def configure (map : VolumeMap) : Configuration → VolumeMap
  | .createSubsystem nqn =>
      { map with
        exists? := fun other => other = nqn || map.exists? other }
  | .addNamespace nqn nsid size blockSize =>
      if map.exists? nqn = true ∧ map.volume? nqn nsid = none then
        map.put nqn nsid { size := size, blockSize := blockSize }
      else
        map
  | .allowHost _ _ => map

/-- A new volume fits into the memory. -/
def fits (map : VolumeMap) : Configuration → Bool
  | .addNamespace nqn nsid size _ =>
      map.exists? nqn = true → map.volume? nqn nsid = none →
        (size.toNat : ℤ) ≤ maxAlloc
  | _ => true

/-- The volume that a command names. -/
def named? (map : VolumeMap) (connection : TargetConnection)
    (cmd : NVMeCommand) : Option BlockVolume :=
  map.volume? connection.subsystemNqn cmd.nsid

/-- The volume that a command names, if there is one, survives it. -/
def survives (map : VolumeMap) (connection : TargetConnection)
    (cmd : NVMeCommand) : Bool :=
  (map.named? connection cmd).all fun volume =>
    volume.Survives cmd connection

/-- Carry out a command. -/
def process (map : VolumeMap) (connection : TargetConnection)
    (cmd : NVMeCommand) : VolumeMap :=
  if cmd.opcode = nvmeCmdWrite then
    match map.named? connection cmd with
    | none => map
    | some volume =>
        if volume.AcceptsWrite cmd connection then
          map.put connection.subsystemNqn cmd.nsid
            (volume.write cmd connection)
        else
          map
  else
    map

end VolumeMap

/-! ## Programs -/

/-- What happens at a target. -/
inductive TargetEvent where
  | configure (change : Configuration)
  | receive (connection : TargetConnection) (buffer : CommandBuffer)

/-- The volumes, and whether the service has ended. -/
structure VolumeService where
  map : VolumeMap := {}
  ended : Bool := false

/-- What an event does to the service, unless it has ended. -/
def VolumeService.step (service : VolumeService) (event : TargetEvent) :
    VolumeService :=
  if service.ended then
    service
  else
    match event with
    | .configure change =>
        { map := service.map.configure change
          ended := !service.map.fits change }
    | .receive connection buffer =>
        match parseCommand buffer with
        | .error _ => { service with ended := true }
        | .ok cmd =>
            { map := service.map.process connection cmd
              ended := !service.map.survives connection cmd }

/-- A target, and whether a panic has ended its program. -/
structure TargetProgram where
  target : NVMeoFTarget := {}
  down : Bool := false
deriving DecidableEq

namespace TargetProgram

/-- Configure the target.  The storage of a namespace can be too large. -/
def configure (program : TargetProgram) (change : Configuration) :
    TargetProgram :=
  let configured :=
    { program with target := program.target.configure change }
  match change with
  | .addNamespace nqn nsid size _ =>
      if (program.target.subsystems.get? nqn).isSome ∧
          program.target.namespaceAt nqn nsid = none then
        match makeSlice size.toNat with
        | .error _ => { program with down := true }
        | .ok _ => configured
      else
        configured
  | _ => configured

/-- Parse a command and process it. -/
def receive (program : TargetProgram) (connection : TargetConnection)
    (buffer : CommandBuffer) : TargetProgram :=
  match parseCommand buffer with
  | .error _ => { program with down := true }
  | .ok cmd =>
      let processed := processCommand program.target connection cmd
      { target := processed.target
        down := !processed.completion.isOk }

/-- What an event does to the target, unless its program has ended. -/
def step (program : TargetProgram) (event : TargetEvent) :
    TargetProgram :=
  if program.down then
    program
  else
    match event with
    | .configure change => program.configure change
    | .receive connection buffer => program.receive connection buffer

end TargetProgram

/-! ## Representing volumes -/

/-- The storage of the namespace is that of the volume. -/
structure TargetNamespace.Stores (ns : TargetNamespace)
    (volume : BlockVolume) : Prop where
  size : ns.size = volume.size
  blockSize : ns.blockSize = volume.blockSize
  backed : ns.Backed
  holds : Holds ns.backend.data volume.bytes

/-- The target has the subsystems and the volumes of the map. -/
structure Represents (target : NVMeoFTarget) (map : VolumeMap) : Prop where
  known :
    ∀ nqn, (target.subsystems.get? nqn).isSome = map.exists? nqn
  stored :
    ∀ nqn nsid,
      Option.Rel TargetNamespace.Stores (target.namespaceAt nqn nsid)
        (map.volume? nqn nsid)

section Storage

variable
    {ns : TargetNamespace}
    {volume : BlockVolume}
    {cmd : NVMeCommand}
    {connection : TargetConnection}

namespace TargetNamespace.Stores

theorem start_eq (stores : ns.Stores volume) :
    wrappedStart cmd ns = volume.start cmd := by
  rw [wrappedStart, firstByte, stores.blockSize, BlockVolume.start]

theorem count_eq (stores : ns.Stores volume) :
    wrappedCount cmd ns = volume.count cmd := by
  rw [wrappedCount, byteCount, stores.blockSize, BlockVolume.count]

theorem extent_start (stores : ns.Stores volume) :
    (extent cmd ns).1.toNat = volume.start cmd := by
  rw [toNat_extent_start, stores.start_eq]

theorem extent_length (stores : ns.Stores volume) :
    (extent cmd ns).2.toNat = volume.count cmd := by
  rw [toNat_extent_length, stores.count_eq]

/-- A range is read from the storage if it is in the volume. -/
theorem read_eq (stores : ns.Stores volume) {data : Bytes} :
    ns.backend.read (extent cmd ns).1 (extent cmd ns).2 = .ok data ↔
      volume.AcceptsRead cmd ∧
        data =
          window volume.bytes (volume.start cmd) (volume.count cmd) := by
  rw [read_eq_ok_iff stores.backed, stores.extent_start,
    stores.extent_length, stores.size, ← BlockVolume.AcceptsRead]
  apply and_congr_right
  intro accepted
  have fits :
      volume.start cmd + volume.count cmd ≤ ns.backend.data.length := by
    rw [stores.backed, stores.size]
    exact accepted
  rw [← stores.holds.slice fits, List.take_drop]

/-- The payload of a write has arrived. -/
theorem delivers_iff (stores : ns.Stores volume) :
    Delivers connection (extent cmd ns).2 ↔
      volume.count cmd ≤
        ((connection.conn.read (volume.count cmd)).1.getD []).length := by
  rw [Delivers, stores.extent_length]

/-- An accepted write stores its payload. -/
theorem write_eq (stores : ns.Stores volume)
    (accepted : volume.AcceptsWrite cmd connection) :
    ∃ backend,
      ns.backend.write (extent cmd ns).1 (writePayload connection cmd ns) =
          .ok backend ∧
        { ns with backend := backend : TargetNamespace }.Stores
          (volume.write cmd connection) := by
  have delivers := stores.delivers_iff.mpr accepted.1
  have length := length_writePayload delivers
  have start : (extent cmd ns).1.toNat = volume.start cmd :=
    stores.extent_start
  rw [stores.count_eq] at length
  have written :
      ns.backend.write (extent cmd ns).1 (writePayload connection cmd ns) =
        .ok
          { data :=
              ns.backend.data.take (volume.start cmd) ++
                copy (ns.backend.data.drop (volume.start cmd))
                  (writePayload connection cmd ns) } := by
    rw [write_eq_ok_iff stores.backed, start, length, stores.size]
    exact ⟨⟨accepted.2.2, accepted.2.1⟩, rfl⟩
  refine ⟨_, written, ?_⟩
  refine
    { size := stores.size
      blockSize := stores.blockSize
      backed := stores.backed.write written
      holds := ?_ }
  have inside : volume.start cmd ≤ ns.backend.data.length := by
    rw [stores.backed, stores.size]
    exact accepted.2.1
  have overwritten :=
    @Holds.overwrite _ _ _ _ (writePayload connection cmd ns) stores.holds
      inside
  rw [← List.length_drop, ← List.drop_drop] at overwritten
  show Holds (_ ++ copy _ _) (overlay _ _ _)
  rw [copy, ← stores.extent_length]
  exact overwritten

end TargetNamespace.Stores

variable
    {target : NVMeoFTarget}

/-- What processing a write does to the namespace that it names. -/
structure WritesVolume (target : NVMeoFTarget)
    (connection : TargetConnection) (cmd : NVMeCommand)
    (ns : TargetNamespace) (volume : BlockVolume) : Prop where
  succeeds :
    (processWriteCommand target connection cmd).succeeds = true ↔
      volume.AcceptsWrite cmd connection
  stored :
    volume.AcceptsWrite cmd connection →
      ∃ backend,
        (processWriteCommand target connection cmd).target.namespaceAt =
            namespacesWith target connection cmd
              { ns with backend := backend } ∧
          { ns with backend := backend : TargetNamespace }.Stores
            (volume.write cmd connection)
  kept :
    ¬ volume.AcceptsWrite cmd connection →
      (processWriteCommand target connection cmd).target = target

theorem TargetNamespace.Stores.writesVolume
    (stores : ns.Stores volume)
    (named : namedNamespace target connection cmd = some ns) :
    WritesVolume target connection cmd ns volume := by
  have stored :
      volume.AcceptsWrite cmd connection →
        (processWriteCommand target connection cmd).succeeds = true ∧
          ∃ backend,
            (processWriteCommand target connection cmd).target.namespaceAt =
                namespacesWith target connection cmd
                  { ns with backend := backend } ∧
              { ns with backend := backend : TargetNamespace }.Stores
                (volume.write cmd connection) := by
    intro accepted
    rcases stores.write_eq accepted with ⟨backend, written, after⟩
    have processed :=
      processWriteCommand_of_write named
        (stores.delivers_iff.mpr accepted.1) written
    exact ⟨processed.1, backend, processed.2, after⟩
  have accepts :
      (processWriteCommand target connection cmd).succeeds = true →
        volume.AcceptsWrite cmd connection := by
    intro succeeds
    rcases processWriteCommand_succeeds_iff.mp succeeds with
      ⟨other, data, backend, same, read, whole, written⟩
    cases Option.some.inj (named.symm.trans same)
    have range := ((write_eq_ok_iff stores.backed).mp written).1
    have delivers : Delivers connection (extent cmd ns).2 := by
      rw [Delivers, read]
      exact whole
    have length := length_writePayload delivers
    rw [writePayload, read, stores.count_eq] at length
    rw [stores.extent_start, show data.length = _ from length,
      stores.size] at range
    exact ⟨stores.delivers_iff.mp delivers, range.2, range.1⟩
  refine
    { succeeds := ⟨accepts, fun accepted => (stored accepted).1⟩
      stored := fun accepted => (stored accepted).2
      kept := ?_ }
  intro refused
  have fails :
      ¬ (processWriteCommand target connection cmd).succeeds = true :=
    fun succeeds => refused (accepts succeeds)
  rcases found_of_named named with ⟨subsystem, found, present⟩
  revert fails
  simp only [processWriteCommand, found, present]
  split
  · exact fun _ => rfl
  · split
    · exact fun _ => rfl
    · exact fun _ => rfl
    · exact fun fails => absurd rfl fails

end Storage

/-! ## One event -/

section Steps

variable
    {target : NVMeoFTarget}
    {map : VolumeMap}
    {connection : TargetConnection}
    {cmd : NVMeCommand}

theorem processCommand_read (opcode : cmd.opcode = nvmeCmdRead) :
    processCommand target connection cmd =
      processReadCommand target connection cmd := by
  rw [processCommand, if_neg, if_neg, if_pos opcode]
  all_goals
    rw [opcode]
    decide

theorem processCommand_write (opcode : cmd.opcode = nvmeCmdWrite) :
    processCommand target connection cmd =
      processWriteCommand target connection cmd := by
  rw [processCommand, if_neg, if_neg, if_neg, if_pos opcode]
  all_goals
    rw [opcode]
    decide

/-- A command that is no write leaves all namespaces alone. -/
theorem processCommand_namespaceAt (other : cmd.opcode ≠ nvmeCmdWrite)
    (nqn : String) (nsid : UInt32) :
    (processCommand target connection cmd).target.namespaceAt nqn nsid =
      target.namespaceAt nqn nsid := by
  rw [processCommand]
  split
  · rw [processFabricsCommand]
    split
    · cases found : target.subsystems.get? connection.subsystemNqn with
      | none => rfl
      | some subsystem =>
          simp only
          split
          · rfl
          · rw [namespaceAt_set_subsystem]
            split
            · rename_i same
              rw [same, namespaceAt_of_found found]
            · rfl
    · rfl
  · split
    · rw [target_processIdentifyCommand]
    · split
      · rw [target_processReadCommand]
      · split
        · rw [target_processFlushCommand]
        · rfl

/-- One namespace is replaced, and the volume with it. -/
theorem Represents.put (represents : Represents target map)
    {after : NVMeoFTarget} {nqn : String} {nsid : UInt32}
    {ns : TargetNamespace} {volume : BlockVolume}
    (known :
      ∀ other, (after.subsystems.get? other).isSome = map.exists? other)
    (namespaces :
      ∀ other otherId,
        after.namespaceAt other otherId =
          if other = nqn ∧ otherId = nsid then
            some ns
          else
            target.namespaceAt other otherId)
    (stores : ns.Stores volume) :
    Represents after (map.put nqn nsid volume) := by
  refine { known := known, stored := ?_ }
  intro other otherId
  rw [namespaces]
  show Option.Rel _ _ (if _ then _ else _)
  by_cases same : other = nqn ∧ otherId = nsid
  · rw [if_pos same, if_pos same]
    exact Option.rel_some_some.mpr stores
  · rw [if_neg same, if_neg same]
    exact represents.stored other otherId

/-- A write to a namespace that there is not changes nothing. -/
theorem processWriteCommand_of_absent
    (absent : namedNamespace target connection cmd = none) :
    (processWriteCommand target connection cmd).target = target := by
  rw [namedNamespace] at absent
  rw [processWriteCommand]
  cases found : target.subsystems.get? connection.subsystemNqn with
  | none => rfl
  | some subsystem =>
      rw [namespaceAt_of_found found] at absent
      simp only [absent]
      rfl

/-- A write changes the namespace that it names if the volume accepts it. -/
theorem Represents.processWrite (represents : Represents target map)
    (opcode : cmd.opcode = nvmeCmdWrite) :
    Represents (processCommand target connection cmd).target
      (map.process connection cmd) := by
  have isWrite :
      processCommand target connection cmd =
        processWriteCommand target connection cmd :=
    processCommand_write opcode
  have known :
      ∀ nqn,
        ((processWriteCommand target connection cmd).target.subsystems.get?
            nqn).isSome =
          map.exists? nqn := by
    intro nqn
    rw [← isWrite, processCommand_keeps.isSome, represents.known]
  have here := represents.stored connection.subsystemNqn cmd.nsid
  rw [isWrite, VolumeMap.process, if_pos opcode, VolumeMap.named?]
  cases named : namedNamespace target connection cmd with
  | none =>
      rw [show target.namespaceAt _ _ = _ from named] at here
      have absent :
          map.volume? connection.subsystemNqn cmd.nsid = none := by
        generalize map.volume? connection.subsystemNqn cmd.nsid = volume
          at here
        cases here
        rfl
      rw [absent, processWriteCommand_of_absent named]
      exact represents
  | some ns =>
      rw [show target.namespaceAt _ _ = _ from named] at here
      cases present : map.volume? connection.subsystemNqn cmd.nsid with
      | none =>
          rw [present] at here
          cases here
      | some volume =>
          rw [present] at here
          have stores : ns.Stores volume := Option.rel_some_some.mp here
          have writes := stores.writesVolume named
          show Represents _ (if _ then _ else _)
          by_cases accepted : volume.AcceptsWrite cmd connection
          · rw [if_pos accepted]
            rcases writes.stored accepted with ⟨backend, namespaces, after⟩
            refine represents.put known ?_ after
            intro nqn nsid
            rw [namespaces, namespacesWith]
          · rw [if_neg accepted, writes.kept accepted]
            exact represents

/-- A command that is no write leaves the volumes as they are. -/
theorem Represents.processOther (represents : Represents target map)
    (other : cmd.opcode ≠ nvmeCmdWrite) :
    Represents (processCommand target connection cmd).target
      (map.process connection cmd) := by
  rw [VolumeMap.process, if_neg other]
  refine { known := ?_, stored := ?_ }
  · intro nqn
    rw [processCommand_keeps.isSome, represents.known]
  · intro nqn nsid
    rw [processCommand_namespaceAt other]
    exact represents.stored nqn nsid

/-- New storage is a volume of zeros. -/
theorem stores_new (nsid : UInt32) (size : UInt64) (blockSize : UInt32) :
    TargetNamespace.Stores
      { nsid := nsid
        size := size
        blockSize := blockSize
        backend := newMemoryBackend size }
      { size := size, blockSize := blockSize } where
  size := rfl
  blockSize := rfl
  backed := length_zeros _
  holds := by
    intro address inside
    exact List.getElem_replicate inside

/-- Configuring the target configures its volumes. -/
theorem Represents.configure (represents : Represents target map)
    (change : Configuration) :
    Represents (target.configure change) (map.configure change) := by
  cases change with
  | createSubsystem nqn =>
      rw [NVMeoFTarget.configure, NVMeoFTarget.createSubsystem,
        VolumeMap.configure]
      cases found : target.subsystems.get? nqn with
      | some subsystem =>
          have exists? : map.exists? nqn = true := by
            rw [← represents.known, found]
            rfl
          refine { known := ?_, stored := represents.stored }
          intro other
          rw [represents.known]
          show _ = (decide (other = nqn) || map.exists? other)
          by_cases same : other = nqn
          · rw [same, exists?, Bool.or_true]
          · rw [decide_eq_false same, Bool.false_or]
      | none =>
          refine { known := ?_, stored := ?_ }
          · intro other
            show ((target.subsystems.set nqn _).get? other).isSome =
              (decide (other = nqn) || map.exists? other)
            rw [Dict.get?_set]
            by_cases same : other = nqn
            · rw [if_pos same, decide_eq_true same, Bool.true_or,
                Option.isSome_some]
            · rw [if_neg same, decide_eq_false same, Bool.false_or,
                represents.known]
          · intro other nsid
            show Option.Rel _
              (NVMeoFTarget.namespaceAt
                { target with subsystems := target.subsystems.set nqn _ }
                other nsid)
              (map.volume? other nsid)
            rw [namespaceAt_set_subsystem]
            split
            · rename_i same
              have here := represents.stored nqn nsid
              rw [namespaceAt_of_absent found] at here
              rw [same]
              exact here
            · exact represents.stored other nsid
  | addNamespace nqn nsid size blockSize =>
      rw [NVMeoFTarget.configure, VolumeMap.configure]
      cases found : target.subsystems.get? nqn with
      | none =>
          have unknown : map.exists? nqn = false := by
            rw [← represents.known, found]
            rfl
          rw [unknown, if_neg (fun both => Bool.false_ne_true both.1)]
          exact represents
      | some subsystem =>
          have exists? : map.exists? nqn = true := by
            rw [← represents.known, found]
            rfl
          have here := represents.stored nqn nsid
          rw [namespaceAt_of_found found] at here
          simp only [Subsystem.addNamespace, exists?, true_and]
          cases present : subsystem.namespaces.get? nsid with
          | some ns =>
              rw [present] at here
              have taken : map.volume? nqn nsid ≠ none := by
                intro none
                rw [none] at here
                cases here
              rw [if_neg taken]
              exact represents
          | none =>
              rw [present] at here
              have free : map.volume? nqn nsid = none := by
                generalize map.volume? nqn nsid = volume at here
                cases here
                rfl
              rw [if_pos free]
              refine
                represents.put ?_ ?_ (stores_new nsid size blockSize)
              · intro other
                rw [← represents.known]
                exact isSome_set found other
              · intro other otherId
                show
                  NVMeoFTarget.namespaceAt
                      { target with
                        subsystems := target.subsystems.set nqn _ }
                      other otherId =
                    _
                rw [namespaceAt_set_subsystem]
                by_cases same : other = nqn
                · rw [if_pos same, Dict.get?_set, same,
                    namespaceAt_of_found found]
                  simp only [true_and]
                · rw [if_neg same, if_neg (fun both => same both.1)]
  | allowHost nqn hostNqn =>
      rw [NVMeoFTarget.configure, VolumeMap.configure]
      cases found : target.subsystems.get? nqn with
      | none => exact represents
      | some subsystem =>
          refine { known := ?_, stored := ?_ }
          · intro other
            rw [← represents.known]
            exact isSome_set found other
          · intro other nsid
            show Option.Rel _
              (NVMeoFTarget.namespaceAt
                { target with subsystems := target.subsystems.set nqn _ }
                other nsid)
              _
            rw [namespaceAt_set_subsystem]
            split
            · rename_i same
              have here := represents.stored nqn nsid
              rw [namespaceAt_of_found found] at here
              rw [same]
              exact here
            · exact represents.stored other nsid

/-- A command leaves the volumes that the map says. -/
theorem Represents.process (represents : Represents target map) :
    Represents (processCommand target connection cmd).target
      (map.process connection cmd) := by
  by_cases opcode : cmd.opcode = nvmeCmdWrite
  · exact represents.processWrite opcode
  · exact represents.processOther opcode

theorem represents_new : Represents {} {} where
  known := fun _ => rfl
  stored := fun _ _ => Option.rel_none_none

end Steps

/-! ## Runs -/

/-- Reads and writes of a connection are answered by the volumes. -/
structure ServesVolumes (target : NVMeoFTarget) (map : VolumeMap)
    (connection : TargetConnection) : Prop where
  reads :
    ∀ cmd,
      cmd.opcode = nvmeCmdRead →
        ((processCommand target connection cmd).succeeds = true ↔
          ∃ volume ∈ map.named? connection cmd, volume.AcceptsRead cmd)
  sends :
    ∀ cmd volume,
      cmd.opcode = nvmeCmdRead →
        map.named? connection cmd = some volume →
          volume.AcceptsRead cmd →
            (processCommand target connection cmd).connection =
              connection.write
                (window volume.bytes (volume.start cmd) (volume.count cmd))
  writes :
    ∀ cmd,
      cmd.opcode = nvmeCmdWrite →
        ((processCommand target connection cmd).succeeds = true ↔
          ∃ volume ∈ map.named? connection cmd,
            volume.AcceptsWrite cmd connection)

section Runs

variable
    {target : NVMeoFTarget}
    {map : VolumeMap}
    {connection : TargetConnection}
    {cmd : NVMeCommand}

/-- A namespace that a command names stores the volume that it names. -/
theorem Represents.named (represents : Represents target map) :
    Option.Rel TargetNamespace.Stores
      (namedNamespace target connection cmd)
      (map.named? connection cmd) :=
  represents.stored connection.subsystemNqn cmd.nsid

theorem Represents.serves (represents : Represents target map) :
    ServesVolumes target map connection := by
  refine { reads := ?_, sends := ?_, writes := ?_ }
  · intro cmd opcode
    have here := @Represents.named _ _ connection cmd represents
    rw [processCommand_read opcode, processReadCommand_succeeds_iff,
      ServesRead]
    cases named : namedNamespace target connection cmd with
    | none =>
        rw [named] at here
        generalize map.named? connection cmd = volume at here ⊢
        cases here
        simp
    | some ns =>
        rw [named] at here
        generalize map.named? connection cmd = volume at here ⊢
        cases here with
        | some stores => simp [stores.read_eq]
  · intro cmd volume opcode present accepted
    have here := @Represents.named _ _ connection cmd represents
    rw [present] at here
    cases named : namedNamespace target connection cmd with
    | none =>
        rw [named] at here
        cases here
    | some ns =>
        rw [named] at here
        have stores := Option.rel_some_some.mp here
        rw [processCommand_read opcode,
          processReadCommand_of_read named
            (stores.read_eq.mpr ⟨accepted, rfl⟩)]
        rfl
  · intro cmd opcode
    have here := @Represents.named _ _ connection cmd represents
    rw [processCommand_write opcode]
    cases named : namedNamespace target connection cmd with
    | none =>
        rw [named] at here
        rw [processWriteCommand_succeeds_iff, ServesWrite, named]
        generalize map.named? connection cmd = volume at here ⊢
        cases here
        simp
    | some ns =>
        rw [named] at here
        generalize map.named? connection cmd = volume at here ⊢
        cases here with
        | some stores =>
            rw [(stores.writesVolume named).succeeds]
            simp

end Runs

/-! ## The end of a program -/

section Ends

variable
    {ns : TargetNamespace}
    {volume : BlockVolume}
    {target : NVMeoFTarget}
    {map : VolumeMap}
    {connection : TargetConnection}
    {cmd : NVMeCommand}

/-- The range of a command wraps in the storage as in the volume. -/
theorem TargetNamespace.Stores.wraps_iff (stores : ns.Stores volume) :
    WrapsInto ns.backend (extent cmd ns) ↔ volume.Wraps cmd := by
  rw [WrapsInto, stores.extent_start, stores.extent_length,
    stores.backed.size, stores.size, BlockVolume.Wraps]

/-- A command is answered if the volume that it names survives it. -/
theorem Represents.returns_iff_survives (represents : Represents target map) :
    Returns (processCommand target connection cmd) ↔
      map.survives connection cmd = true := by
  have here := @Represents.named _ _ connection cmd represents
  rw [namedNamespace] at here
  rw [processCommand_returns_iff, processIdentifyCommand_returns_iff,
    processReadCommand_returns_iff, processWriteCommand_returns_iff,
    VolumeMap.survives]
  generalize
    target.namespaceAt connection.subsystemNqn cmd.nsid = present
    at here ⊢
  generalize map.named? connection cmd = named at here ⊢
  cases here with
  | none => simp
  | some stores =>
      rw [Option.all_some, decide_eq_true_iff, BlockVolume.Survives]
      simp only [Option.some.injEq, forall_eq', stores.wraps_iff,
        stores.delivers_iff, stores.blockSize, stores.backed.size,
        stores.size, UInt64.lt_iff_toNat_lt, stores.extent_start]

end Ends

/-! ## Programs and services -/

/-- A program and the service have ended, or their volumes are the same. -/
structure RunsAs (program : TargetProgram) (service : VolumeService) :
    Prop where
  ended : program.down = service.ended
  represents :
    program.down = false → Represents program.target service.map

section Programs

variable
    {program : TargetProgram}
    {service : VolumeService}

theorem runsAs_configure
    (represents : Represents program.target service.map)
    (running : program.down = false) (change : Configuration) :
    RunsAs (program.configure change)
      { map := service.map.configure change
        ended := !service.map.fits change } := by
  have configured := represents.configure change
  cases change with
  | createSubsystem nqn => exact ⟨running, fun _ => configured⟩
  | allowHost nqn hostNqn => exact ⟨running, fun _ => configured⟩
  | addNamespace nqn nsid size blockSize =>
      have known := represents.known nqn
      have same :
          program.target.namespaceAt nqn nsid = none ↔
            service.map.volume? nqn nsid = none := by
        have here := represents.stored nqn nsid
        generalize program.target.namespaceAt nqn nsid = ns at here ⊢
        generalize service.map.volume? nqn nsid = volume at here ⊢
        cases here with
        | none => simp only
        | some _ => simp only [reduceCtorEq]
      simp only [TargetProgram.configure, known, same, VolumeMap.fits]
      split
      · rename_i fresh
        cases made : makeSlice size.toNat with
        | error fault =>
            have large : ¬ (size.toNat : ℤ) ≤ maxAlloc := by
              intro fits
              rw [makeSlice_ok_iff.mpr ⟨rfl, fits⟩] at made
              cases made
            refine ⟨by simp [fresh, large], ?_⟩
            rintro ⟨⟩
        | ok count =>
            have fits := (makeSlice_ok_iff.mp made).2
            exact ⟨by simp [running, fits], fun _ => configured⟩
      · rename_i other
        refine ⟨?_, fun _ => configured⟩
        rw [not_and] at other
        have fits :
            service.map.exists? nqn = true →
              service.map.volume? nqn nsid = none →
                (size.toNat : ℤ) ≤ maxAlloc :=
          fun found free => absurd free (other found)
        simpa [running] using fits

theorem runsAs_receive
    (represents : Represents program.target service.map)
    (connection : TargetConnection) {buffer : CommandBuffer}
    {cmd : NVMeCommand} (parsed : parseCommand buffer = .ok cmd) :
    RunsAs (program.receive connection buffer)
      { map := service.map.process connection cmd
        ended := !service.map.survives connection cmd } := by
  have answered :=
    @Represents.returns_iff_survives _ _ connection cmd represents
  have same :
      (processCommand program.target connection cmd).completion.isOk =
        service.map.survives connection cmd := by
    rw [Bool.eq_iff_iff, ← answered, Returns]
    cases (processCommand program.target connection cmd).completion with
    | error fault => simp [Except.isOk, Except.toBool]
    | ok completion => simp [Except.isOk, Except.toBool]
  rw [TargetProgram.receive, parsed, ← same]
  exact ⟨rfl, fun _ => represents.process⟩

/-- Every event keeps a program and the service together. -/
theorem RunsAs.step (runsAs : RunsAs program service)
    (event : TargetEvent) :
    RunsAs (program.step event) (service.step event) := by
  simp only [TargetProgram.step, VolumeService.step, ← runsAs.ended]
  split
  · exact runsAs
  · rename_i up
    have running : program.down = false := Bool.not_eq_true _ ▸ up
    have represents := runsAs.represents running
    cases event with
    | configure change => exact runsAs_configure represents running change
    | receive connection buffer =>
        cases parsed : parseCommand buffer with
        | error fault =>
            simp only [TargetProgram.receive, parsed]
            refine ⟨rfl, ?_⟩
            rintro ⟨⟩
        | ok cmd =>
            simp only [parsed]
            exact runsAs_receive represents connection parsed

end Programs

/-- A program ends when the service does, and serves its volumes until then. -/
structure ServesUntilEnd (program : TargetProgram)
    (service : VolumeService) (connection : TargetConnection) : Prop where
  ended : program.down = service.ended
  serves :
    program.down = false →
      ServesVolumes program.target service.map connection

/--
Every run of configuration and of commands of any connections ends exactly when
the service of the volumes does, and as long as it goes on, reads and writes are
answered by the volumes that the run leaves.
-/
theorem target_serves_volumes
    (events : List TargetEvent) (connection : TargetConnection) :
    ServesUntilEnd (run TargetProgram.step {} events)
      (run VolumeService.step {} events) connection := by
  have runsAs :
      RunsAs (run TargetProgram.step {} events)
        (run VolumeService.step {} events) := by
    induction events using List.reverseRecOn with
    | nil => exact ⟨rfl, fun _ => represents_new⟩
    | append_singleton events event induction =>
        rw [run_append, run_append]
        exact induction.step event
  exact
    { ended := runsAs.ended
      serves := fun running => (runsAs.represents running).serves }

-- A read whose range wraps ends the program, and nothing is served after it.
example :
    (run TargetProgram.step {}
      [.configure (.createSubsystem "s"),
        .configure (.addNamespace "s" 1 16 16),
        .receive exposedConnection
          (commandBytes nvmeCmdRead 1 (2 ^ 60 - 1)),
        .receive exposedConnection (commandBytes nvmeCmdRead 1 0)]).down =
      true := by
  decide +kernel

end StorageAppliance.NVMeoF
