import Mathlib.Data.UInt
import Mathlib.Tactic.Ring
import StorageAppliance.NVMeoF.AccessControl
import StorageAppliance.NVMeoF.Backing

/-!
# The bytes of a read or a write

A command names blocks of a namespace.  The handlers compute their first byte
modulo `2 ^ 64` and their number of bytes modulo `2 ^ 32`, and the storage
compares the sum, modulo `2 ^ 64`, with its length.

`InBounds` compares the same numbers without a modulus.  A handler agrees with
it unless a range that wraps is found in the storage.
-/

namespace StorageAppliance.NVMeoF

open StorageAppliance.Go
open StorageAppliance.Library

/-! ## Ranges without a modulus -/

section Ranges

variable
    (cmd : NVMeCommand)
    (ns : TargetNamespace)

/-- The first byte of the blocks that a command names. -/
def firstByte : Nat :=
  cmd.rw.slba.toNat * ns.blockSize.toNat

/-- The number of bytes in these blocks. -/
def byteCount : Nat :=
  (cmd.rw.length.toNat + 1) * ns.blockSize.toNat

/-- The blocks are in the namespace. -/
def InBounds : Prop :=
  (cmd.rw.slba.toNat + cmd.rw.length.toNat + 1) * ns.blockSize.toNat ≤
    ns.size.toNat

/-- The range fits into the numbers that the handlers compute with. -/
structure Unwrapped : Prop where
  stop : firstByte cmd ns + byteCount cmd ns < 2 ^ 64
  length : byteCount cmd ns < 2 ^ 32

/-- Where the range starts after it wrapped. -/
def wrappedStart : Nat :=
  firstByte cmd ns % 2 ^ 64

/-- How many bytes the range has after it wrapped. -/
def wrappedCount : Nat :=
  byteCount cmd ns % 2 ^ 32

theorem inBounds_iff :
    InBounds cmd ns ↔
      firstByte cmd ns + byteCount cmd ns ≤ ns.size.toNat := by
  have sum :
      firstByte cmd ns + byteCount cmd ns =
        (cmd.rw.slba.toNat + cmd.rw.length.toNat + 1) *
          ns.blockSize.toNat := by
    rw [firstByte, byteCount]
    ring
  rw [InBounds, sum]

theorem toNat_extent_start :
    (extent cmd ns).1.toNat = wrappedStart cmd ns := by
  rw [extent, UInt64.toNat_mul, UInt32.toNat_toUInt64]
  rfl

theorem toNat_extent_length :
    (extent cmd ns).2.toNat = wrappedCount cmd ns := by
  have bound := cmd.rw.length.toNat_lt
  have blocks :
      (cmd.rw.length.toUInt32 + 1).toNat = cmd.rw.length.toNat + 1 := by
    rw [UInt32.toNat_add, UInt16.toNat_toUInt32]
    apply Nat.mod_eq_of_lt
    change cmd.rw.length.toNat + 1 < 2 ^ 32
    omega
  rw [extent, UInt32.toNat_mul, blocks]
  rfl

variable
    {cmd : NVMeCommand}
    {ns : TargetNamespace}

theorem Unwrapped.wrappedStart_eq (unwrapped : Unwrapped cmd ns) :
    wrappedStart cmd ns = firstByte cmd ns :=
  Nat.mod_eq_of_lt
    ((Nat.le_add_right _ _).trans_lt unwrapped.stop)

theorem Unwrapped.wrappedCount_eq (unwrapped : Unwrapped cmd ns) :
    wrappedCount cmd ns = byteCount cmd ns :=
  Nat.mod_eq_of_lt unwrapped.length

theorem wrappedCount_le : wrappedCount cmd ns ≤ byteCount cmd ns :=
  Nat.mod_le _ _

/-- Blocks in the namespace start where the handlers say. -/
theorem InBounds.wrappedStart_eq (inBounds : InBounds cmd ns) :
    wrappedStart cmd ns = firstByte cmd ns := by
  have within := (inBounds_iff cmd ns).mp inBounds
  have sizeBound := ns.size.toNat_lt
  apply Nat.mod_eq_of_lt
  omega

/-- Blocks in the namespace wrap at most in their number of bytes. -/
theorem InBounds.unwrapped
    (inBounds : InBounds cmd ns)
    (whole : wrappedCount cmd ns = byteCount cmd ns) :
    Unwrapped cmd ns := by
  have within := (inBounds_iff cmd ns).mp inBounds
  have sizeBound := ns.size.toNat_lt
  constructor
  case stop => exact within.trans_lt sizeBound
  case length =>
    rw [← whole]
    exact Nat.mod_lt _ (by decide)

/-- The wrapped range of blocks in the namespace is in the storage. -/
theorem InBounds.wrapped_le (inBounds : InBounds cmd ns) :
    wrappedStart cmd ns + wrappedCount cmd ns ≤ ns.size.toNat := by
  rw [inBounds.wrappedStart_eq]
  exact
    (Nat.add_le_add_left wrappedCount_le _).trans
      ((inBounds_iff cmd ns).mp inBounds)

/-- An unwrapped range in the storage is in the namespace. -/
theorem Unwrapped.inBounds
    (unwrapped : Unwrapped cmd ns)
    (within : wrappedStart cmd ns + wrappedCount cmd ns ≤ ns.size.toNat) :
    InBounds cmd ns := by
  rw [unwrapped.wrappedStart_eq, unwrapped.wrappedCount_eq] at within
  exact (inBounds_iff cmd ns).mpr within

end Ranges

/-! ## Reads -/

section Reads

variable
    {target : NVMeoFTarget}
    {connection : TargetConnection}
    {cmd : NVMeCommand}
    {ns : TargetNamespace}

/-- The bytes of the blocks that a command names. -/
def namedBytes (cmd : NVMeCommand) (ns : TargetNamespace) : Bytes :=
  (ns.backend.data.take (firstByte cmd ns + byteCount cmd ns)).drop
    (firstByte cmd ns)

/-- A read succeeds if its blocks are in the namespace, and then sends them. -/
structure ReadsExactly
    (target : NVMeoFTarget) (connection : TargetConnection)
    (cmd : NVMeCommand) (ns : TargetNamespace) : Prop where
  succeeds :
    (processReadCommand target connection cmd).succeeds = true ↔
      InBounds cmd ns
  sent :
    (processReadCommand target connection cmd).succeeds = true →
      processReadCommand target connection cmd =
        completed target (connection.write (namedBytes cmd ns)) cmd
          nvmeStatusSuccess

/-- What a handler sees of its namespace. -/
theorem found_of_named
    (named : namedNamespace target connection cmd = some ns) :
    ∃ subsystem,
      target.subsystems.get? connection.subsystemNqn = some subsystem ∧
        subsystem.namespaces.get? cmd.nsid = some ns :=
  Option.bind_eq_some_iff.mp named

theorem processReadCommand_of_read
    (named : namedNamespace target connection cmd = some ns)
    {data : Bytes}
    (read :
      ns.backend.read (extent cmd ns).1 (extent cmd ns).2 = .ok data) :
    processReadCommand target connection cmd =
      completed target (connection.write data) cmd nvmeStatusSuccess := by
  rcases found_of_named named with ⟨subsystem, found, present⟩
  simp only [processReadCommand, found, present, read]

/-- A read succeeds if its wrapped range is in the storage. -/
theorem processReadCommand_succeeds_iff_wrapped
    (named : namedNamespace target connection cmd = some ns)
    (backed : ns.Backed) :
    (processReadCommand target connection cmd).succeeds = true ↔
      wrappedStart cmd ns + wrappedCount cmd ns ≤ ns.size.toNat := by
  rw [processReadCommand_succeeds_iff, ServesRead, named]
  simp only [Option.some.injEq, exists_and_left, exists_eq_left',
    read_eq_ok_iff backed, toNat_extent_start, toNat_extent_length,
    exists_eq, and_true]

theorem processReadCommand_sends
    (named : namedNamespace target connection cmd = some ns)
    (backed : ns.Backed)
    (succeeds :
      (processReadCommand target connection cmd).succeeds = true) :
    processReadCommand target connection cmd =
      completed target
        (connection.write
          ((ns.backend.data.take
              (wrappedStart cmd ns + wrappedCount cmd ns)).drop
            (wrappedStart cmd ns)))
        cmd nvmeStatusSuccess := by
  have within :=
    (processReadCommand_succeeds_iff_wrapped named backed).mp succeeds
  apply processReadCommand_of_read named
  rw [read_eq_ok_iff backed, toNat_extent_start, toNat_extent_length]
  exact ⟨within, rfl⟩

/-- A read is exact unless its range wraps to one in the storage. -/
theorem readsExactly_iff
    (named : namedNamespace target connection cmd = some ns)
    (backed : ns.Backed) :
    ReadsExactly target connection cmd ns ↔
      Unwrapped cmd ns ∨
        ns.size.toNat < wrappedStart cmd ns + wrappedCount cmd ns := by
  have wrapped_iff :=
    processReadCommand_succeeds_iff_wrapped named backed
  constructor
  · intro exact
    rw [or_iff_not_imp_right, Nat.not_lt]
    intro wrapped
    have succeeds := wrapped_iff.mpr wrapped
    have inBounds := exact.succeeds.mp succeeds
    have sends := processReadCommand_sends named backed succeeds
    rw [exact.sent succeeds] at sends
    have lengths :
        (namedBytes cmd ns).length =
          ((ns.backend.data.take
              (wrappedStart cmd ns + wrappedCount cmd ns)).drop
            (wrappedStart cmd ns)).length := by
      have outgoing :=
        congrArg (fun result => result.connection.conn.outgoing.length) sends
      simpa [completed, TargetConnection.write, Conn.write] using outgoing
    rw [namedBytes, List.length_drop, List.length_drop, List.length_take,
      List.length_take, backed] at lengths
    have within := (inBounds_iff cmd ns).mp inBounds
    apply inBounds.unwrapped
    omega
  · intro holds
    have agrees :
        (processReadCommand target connection cmd).succeeds = true →
          Unwrapped cmd ns := by
      intro succeeds
      exact
        holds.resolve_right (Nat.not_lt.mpr (wrapped_iff.mp succeeds))
    constructor
    case succeeds =>
      constructor
      · intro succeeds
        exact (agrees succeeds).inBounds (wrapped_iff.mp succeeds)
      · intro inBounds
        exact wrapped_iff.mpr inBounds.wrapped_le
    case sent =>
      intro succeeds
      have unwrapped := agrees succeeds
      rw [processReadCommand_sends named backed succeeds,
        unwrapped.wrappedStart_eq, unwrapped.wrappedCount_eq]
      rfl

end Reads

/-! ## Writes -/

section Writes

variable
    {target : NVMeoFTarget}
    {connection : TargetConnection}
    {cmd : NVMeCommand}
    {ns : TargetNamespace}

/-- The payload that a target receives for a write. -/
def writePayload
    (connection : TargetConnection) (cmd : NVMeCommand)
    (ns : TargetNamespace) : Bytes :=
  (connection.conn.read (extent cmd ns).2.toNat).1.getD []

/--
A write succeeds if its blocks are in the namespace, and then replaces them and
nothing else by the payload.
-/
structure WritesExactly
    (target : NVMeoFTarget) (connection : TargetConnection)
    (cmd : NVMeCommand) (ns : TargetNamespace) : Prop where
  succeeds :
    (processWriteCommand target connection cmd).succeeds = true ↔
      InBounds cmd ns
  whole :
    (processWriteCommand target connection cmd).succeeds = true →
      (writePayload connection cmd ns).length = byteCount cmd ns
  stored :
    (processWriteCommand target connection cmd).succeeds = true →
      (processWriteCommand target connection cmd).target.namespaceAt =
        namespacesWith target connection cmd
          { ns with
            backend :=
              { data :=
                  place ns.backend.data (firstByte cmd ns)
                    (writePayload connection cmd ns) } }

theorem length_writePayload
    (delivers : Delivers connection (extent cmd ns).2) :
    (writePayload connection cmd ns).length = wrappedCount cmd ns := by
  rw [writePayload, delivered_length delivers, toNat_extent_length]

theorem read_ne_none_of_delivers {length : UInt32}
    (delivers : Delivers connection length) :
    ¬ ((connection.conn.read length.toNat).1 = none ∨
        ((connection.conn.read length.toNat).1.getD []).length <
          length.toNat) := by
  intro short
  exact not_delivers_of_short short delivers

theorem processWriteCommand_of_write
    (named : namedNamespace target connection cmd = some ns)
    (delivers : Delivers connection (extent cmd ns).2)
    {backend : MemoryBackend}
    (written :
      ns.backend.write (extent cmd ns).1
          (writePayload connection cmd ns) =
        .ok backend) :
    (processWriteCommand target connection cmd).succeeds = true ∧
      (processWriteCommand target connection cmd).target.namespaceAt =
        namespacesWith target connection cmd
          { ns with backend := backend } := by
  rcases found_of_named named with ⟨subsystem, found, present⟩
  have enough := read_ne_none_of_delivers delivers
  rw [writePayload] at written
  simp only [processWriteCommand, found, present, if_neg enough, written]
  exact ⟨rfl, namespaceAt_set found _⟩

/-- A write succeeds if its wrapped range starts and ends in the storage. -/
theorem processWriteCommand_succeeds_iff_wrapped
    (named : namedNamespace target connection cmd = some ns)
    (backed : ns.Backed)
    (delivers : Delivers connection (extent cmd ns).2) :
    (processWriteCommand target connection cmd).succeeds = true ↔
      (wrappedStart cmd ns + wrappedCount cmd ns) % 2 ^ 64 ≤
          ns.size.toNat ∧
        wrappedStart cmd ns ≤ ns.size.toNat := by
  have length := length_writePayload delivers
  rw [← length, ← toNat_extent_start]
  constructor
  · intro succeeds
    rcases processWriteCommand_succeeds_iff.mp succeeds with
      ⟨other, data, backend, same, read, _, written⟩
    cases Option.some.inj (named.symm.trans same)
    rw [writePayload, read]
    exact ((write_eq_ok_iff backed).mp written).1
  · intro within
    have written :
        ns.backend.write (extent cmd ns).1
            (writePayload connection cmd ns) =
          .ok
            { data :=
                ns.backend.data.take (extent cmd ns).1.toNat ++
                  copy (ns.backend.data.drop (extent cmd ns).1.toNat)
                    (writePayload connection cmd ns) } := by
      rw [write_eq_ok_iff backed]
      exact ⟨within, rfl⟩
    exact (processWriteCommand_of_write named delivers written).1

/-- Bytes that are copied to an offset, where they fit. -/
theorem take_append_copy_drop
    {data payload : Bytes} {offset : Nat}
    (fits : offset + payload.length ≤ data.length) :
    data.take offset ++ copy (data.drop offset) payload =
      place data offset payload := by
  have room : payload.length ≤ (data.drop offset).length := by
    rw [List.length_drop]
    omega
  rw [copy, List.take_of_length_le room, List.drop_drop, place,
    List.append_assoc]

/-- Writing blocks that are in the namespace replaces them. -/
theorem write_of_inBounds
    (backed : ns.Backed)
    (delivers : Delivers connection (extent cmd ns).2)
    (inBounds : InBounds cmd ns) :
    ns.backend.write (extent cmd ns).1 (writePayload connection cmd ns) =
      .ok
        { data :=
            place ns.backend.data (firstByte cmd ns)
              (writePayload connection cmd ns) } := by
  have within := inBounds.wrapped_le
  rw [inBounds.wrappedStart_eq, ← length_writePayload delivers] at within
  have fits :
      firstByte cmd ns + (writePayload connection cmd ns).length ≤
        ns.backend.data.length := by
    rw [backed]
    exact within
  rw [write_eq_ok_iff backed, toNat_extent_start, inBounds.wrappedStart_eq,
    take_append_copy_drop fits]
  refine ⟨⟨?_, ?_⟩, rfl⟩
  · exact (Nat.mod_le _ _).trans within
  · exact (Nat.le_add_right _ _).trans within

/-- A write is exact unless its range wraps to one in the storage. -/
theorem writesExactly_iff
    (named : namedNamespace target connection cmd = some ns)
    (backed : ns.Backed)
    (delivers : Delivers connection (extent cmd ns).2) :
    WritesExactly target connection cmd ns ↔
      Unwrapped cmd ns ∨
        ns.size.toNat < wrappedStart cmd ns ∨
        ns.size.toNat <
          (wrappedStart cmd ns + wrappedCount cmd ns) % 2 ^ 64 := by
  have wrapped_iff :=
    processWriteCommand_succeeds_iff_wrapped named backed delivers
  have payload := length_writePayload delivers
  constructor
  · intro exact
    rw [or_iff_not_imp_right, not_or, Nat.not_lt, Nat.not_lt]
    rintro ⟨start, stop⟩
    have succeeds := wrapped_iff.mpr ⟨stop, start⟩
    apply (exact.succeeds.mp succeeds).unwrapped
    rw [← payload]
    exact exact.whole succeeds
  · intro holds
    have agrees :
        (processWriteCommand target connection cmd).succeeds = true →
          Unwrapped cmd ns := by
      intro succeeds
      have within := wrapped_iff.mp succeeds
      rcases holds with unwrapped | outside | beyond
      · exact unwrapped
      · exact absurd outside (Nat.not_lt.mpr within.2)
      · exact absurd beyond (Nat.not_lt.mpr within.1)
    have inBounds :
        (processWriteCommand target connection cmd).succeeds = true →
          InBounds cmd ns := by
      intro succeeds
      have unwrapped := agrees succeeds
      have sum :
          wrappedStart cmd ns + wrappedCount cmd ns < 2 ^ 64 := by
        rw [unwrapped.wrappedStart_eq, unwrapped.wrappedCount_eq]
        exact unwrapped.stop
      have within := (wrapped_iff.mp succeeds).1
      rw [Nat.mod_eq_of_lt sum] at within
      exact unwrapped.inBounds within
    constructor
    case succeeds =>
      refine ⟨inBounds, ?_⟩
      intro inBounds
      have within := inBounds.wrapped_le
      apply wrapped_iff.mpr
      exact
        ⟨(Nat.mod_le _ _).trans within,
          (Nat.le_add_right _ _).trans within⟩
    case whole =>
      intro succeeds
      rw [payload]
      exact (agrees succeeds).wrappedCount_eq
    case stored =>
      intro succeeds
      have written :=
        write_of_inBounds backed delivers (inBounds succeeds)
      exact (processWriteCommand_of_write named delivers written).2

end Writes

/-! ## Reads and writes -/

/--
Reads and writes are exact unless their range wraps to one that is found in the
storage.
-/
theorem extents_exact_iff
    {target : NVMeoFTarget} {connection : TargetConnection}
    {cmd : NVMeCommand} {ns : TargetNamespace}
    (reached : target.Reached)
    (named : namedNamespace target connection cmd = some ns) :
    (ReadsExactly target connection cmd ns ↔
        Unwrapped cmd ns ∨
          ns.size.toNat < wrappedStart cmd ns + wrappedCount cmd ns) ∧
      (Delivers connection (extent cmd ns).2 →
        (WritesExactly target connection cmd ns ↔
          Unwrapped cmd ns ∨
            ns.size.toNat < wrappedStart cmd ns ∨
            ns.size.toNat <
              (wrappedStart cmd ns + wrappedCount cmd ns) % 2 ^ 64)) := by
  have backed := reached.backed _ _ ns named
  refine ⟨readsExactly_iff named backed, ?_⟩
  intro delivers
  exact writesExactly_iff named backed delivers

/-- A command for some blocks of the first namespace. -/
def blocksCommand (opcode : UInt8) (slba : UInt64) (length : UInt16) :
    NVMeCommand where
  opcode := opcode
  nsid := 1
  rw := { slba := slba, length := length }

/-- Bytes that count from one. -/
def countedBytes (count : Nat) : Bytes :=
  (List.range count).map fun index => UInt8.ofNat (index + 1)

/-- A target with four blocks, of which a connection has written every byte. -/
def writtenTarget : NVMeoFTarget :=
  (handleConnection
    (run NVMeoFTarget.configure {}
      [.createSubsystem "", .addNamespace "" 1 64 16])
    [[nvmeCmdWrite, 0, 7, 0, 1] ++ zeros 43 ++ [3] ++ zeros 15,
      countedBytes 64]).target

def writtenNamespace : TargetNamespace where
  nsid := 1
  size := 64
  blockSize := 16
  backend := { data := countedBytes 64 }

/-- A connection with the bytes of two blocks to come. -/
def writingConnection : TargetConnection where
  conn := { incoming := [(countedBytes 32).reverse] }

/-- The two blocks in the middle are read and written exactly. -/
theorem middle_blocks_exact :
    ReadsExactly writtenTarget writingConnection
        (blocksCommand nvmeCmdRead 1 1) writtenNamespace ∧
      WritesExactly writtenTarget writingConnection
        (blocksCommand nvmeCmdWrite 1 1) writtenNamespace := by
  have reached : writtenTarget.Reached :=
    .served (.run _ .new) _
  have named :
      ∀ opcode,
        namedNamespace writtenTarget writingConnection
            (blocksCommand opcode 1 1) =
          some writtenNamespace := by
    intro opcode
    change writtenTarget.namespaceAt "" 1 = some writtenNamespace
    decide +kernel
  have delivers :
      Delivers writingConnection
        (extent (blocksCommand nvmeCmdWrite 1 1) writtenNamespace).2 := by
    rw [Delivers]
    decide +kernel
  refine ⟨?_, ?_⟩
  · apply (extents_exact_iff reached (named _)).1.mpr
    exact Or.inl ⟨by decide, by decide⟩
  · apply ((extents_exact_iff reached (named _)).2 delivers).mpr
    exact Or.inl ⟨by decide, by decide⟩

/-- A read or a write of one block. -/
def oneBlock (opcode : UInt8) (slba : UInt64) : NVMeCommand where
  opcode := opcode
  nsid := 1
  rw := { slba := slba }

/-- The namespace of the exposed target with blocks of 16 bytes. -/
def exposedNamespace : TargetNamespace where
  nsid := 1
  size := 16
  blockSize := 16
  backend := newMemoryBackend 16

theorem exposedNamespace_named (opcode : UInt8) (slba : UInt64) :
    namedNamespace exposedTarget exposedConnection (oneBlock opcode slba) =
      some exposedNamespace := by
  change exposedTarget.namespaceAt "s" 1 = some exposedNamespace
  decide +kernel

/-- Block `2 ^ 60` of this namespace of one block is its first block. -/
theorem far_block_found :
    namedNamespace exposedTarget exposedConnection
          (oneBlock nvmeCmdRead (2 ^ 60)) =
        some exposedNamespace ∧
      (¬ ReadsExactly exposedTarget exposedConnection
        (oneBlock nvmeCmdRead (2 ^ 60)) exposedNamespace) ∧
      ¬ WritesExactly exposedTarget exposedConnection
        (oneBlock nvmeCmdWrite (2 ^ 60)) exposedNamespace := by
  have far : ((2 : UInt64) ^ 60).toNat = 2 ^ 60 := by
    decide +kernel
  have outside (opcode : UInt8) :
      ¬ InBounds (oneBlock opcode (2 ^ 60)) exposedNamespace := by
    rw [InBounds, oneBlock, far]
    have size : exposedNamespace.size.toNat = 16 := rfl
    have blockSize : exposedNamespace.blockSize.toNat = 16 := rfl
    rw [size, blockSize]
    omega
  refine ⟨exposedNamespace_named _ _, ?_, ?_⟩
  · intro exact
    apply outside nvmeCmdRead
    apply exact.succeeds.mp
    decide +kernel
  · intro exact
    apply outside nvmeCmdWrite
    apply exact.succeeds.mp
    decide +kernel

end StorageAppliance.NVMeoF
