import Mathlib.Data.UInt
import StorageAppliance.Library.Run
import StorageAppliance.NVMeoF.Processing

/-!
# Commands that a target survives

The fields of a command come from the wire, and the sizes of a namespace from
its configuration.  A panic in a handler ends the whole target.

There are four ways to panic: a fabrics command is read from behind the end of
its buffer, a namespace with blocks of no bytes is identified, and the end of a
read or of a write wraps to one that is inside the storage.  `survives_iff` says
that there are no others.
-/

namespace StorageAppliance.NVMeoF

open StorageAppliance.Go
open StorageAppliance.Library

/-! ## Configuration -/

/-- A change of the configuration of a target. -/
inductive Configuration where
  | createSubsystem (nqn : String)
  | addNamespace (nqn : String) (nsid : UInt32) (size : UInt64)
      (blockSize : UInt32)
  | allowHost (nqn hostNqn : String)

/-- Configure a target. -/
def NVMeoFTarget.configure (target : NVMeoFTarget) :
    Configuration → NVMeoFTarget
  | .createSubsystem nqn =>
      match target.createSubsystem nqn with
      | .error _ => target
      | .ok created => created
  | .addNamespace nqn nsid size blockSize =>
      match target.subsystems.get? nqn with
      | none => target
      | some subsystem =>
          match subsystem.addNamespace nsid size blockSize with
          | .error _ => target
          | .ok added =>
              { target with subsystems := target.subsystems.set nqn added }
  | .allowHost nqn hostNqn =>
      match target.subsystems.get? nqn with
      | none => target
      | some subsystem =>
          { target with
            subsystems :=
              target.subsystems.set nqn (subsystem.allowHost hostNqn) }

/-! ## Surviving a command -/

section Survival

variable
    (target : NVMeoFTarget)
    (connection : TargetConnection)
    (buffer : CommandBuffer)

/-- What comes of the bytes of a command. -/
def answer : Except Fault NVMeCompletion :=
  match parseCommand buffer with
  | .error fault => .error fault
  | .ok cmd => (processCommand target connection cmd).completion

/-- The target answers with the number of the command. -/
def Survives : Prop :=
  ∃ completion,
    answer target connection buffer = .ok completion ∧
      completion.commandId = uint16At buffer.bytes 2

/-- The namespace that a command names. -/
def addressed : Option TargetNamespace :=
  target.namespaceAt connection.subsystemNqn (uint32At buffer.bytes 4)

/-- The offset and the length that a read or a write asks for. -/
def requested (ns : TargetNamespace) : UInt64 × UInt32 :=
  (uint64At buffer.bytes 40 * ns.blockSize.toUInt64,
    ((uint16At buffer.bytes 48).toUInt32 + 1) * ns.blockSize)

/-- The end of a range wraps to one that is inside the storage. -/
def WrapsInto (backend : MemoryBackend) (range : UInt64 × UInt32) : Prop :=
  2 ^ 64 ≤ range.1.toNat + range.2.toNat ∧
    range.1.toNat + range.2.toNat - 2 ^ 64 ≤ backend.size.toNat

/-- The next bytes of a connection are a whole payload. -/
def Delivers (length : UInt32) : Prop :=
  length.toNat ≤ ((connection.conn.read length.toNat).1.getD []).length

/-- The command is none of those that panic. -/
structure Survivable : Prop where
  fabrics : byteAt buffer.bytes 0 ≠ nvmeOpcodeFabrics
  identify :
    byteAt buffer.bytes 0 = nvmeAdminIdentify →
      byteAt buffer.bytes 40 = nvmeIdCnsNs →
        ∀ ns, addressed target connection buffer = some ns →
          ns.blockSize ≠ 0
  read :
    byteAt buffer.bytes 0 = nvmeCmdRead →
      ∀ ns, addressed target connection buffer = some ns →
        ¬ WrapsInto ns.backend (requested buffer ns)
  write :
    byteAt buffer.bytes 0 = nvmeCmdWrite →
      ∀ ns, addressed target connection buffer = some ns →
        Delivers connection (requested buffer ns).2 →
          ns.backend.size < (requested buffer ns).1 →
            ¬ WrapsInto ns.backend (requested buffer ns)

end Survival

/-! ## Ranges that wrap -/

section Ranges

variable
    {backend : MemoryBackend}
    {offset : UInt64}
    {length : UInt32}

/-- A range wraps into the storage if its end is there but before its start. -/
theorem wrapsInto_iff :
    WrapsInto backend (offset, length) ↔
      ¬ backend.size < offset + length.toUInt64 ∧
        offset + length.toUInt64 < offset := by
  have offsetBound := offset.toNat_lt
  have lengthBound := length.toNat_lt
  simp only [WrapsInto, UInt64.lt_iff_toNat_lt, UInt64.toNat_add,
    UInt32.toNat_toUInt64]
  omega

/-- A read panics exactly if its range wraps into the storage. -/
theorem read_panics_iff :
    (∃ message,
        backend.read offset length = .error (.panic message)) ↔
      WrapsInto backend (offset, length) := by
  rw [wrapsInto_iff, MemoryBackend.read]
  by_cases beyond : backend.size < offset + length.toUInt64
  · simp [beyond, errorf]
  · by_cases wraps : offset + length.toUInt64 < offset
    · simp [beyond, wraps]
    · simp [beyond, wraps]

/-- A write panics exactly if its range starts outside and wraps. -/
theorem write_panics_iff {data : Bytes}
    (whole : data.length = length.toNat) :
    (∃ message, backend.write offset data = .error (.panic message)) ↔
      backend.size < offset ∧ WrapsInto backend (offset, length) := by
  have size : UInt64.ofNat data.length = length.toUInt64 := by
    rw [whole, UInt64.ofNat_uInt32ToNat]
  rw [wrapsInto_iff, MemoryBackend.write, size]
  by_cases beyond : backend.size < offset + length.toUInt64
  · simp [beyond, errorf]
  · by_cases outside : backend.size < offset
    · have wraps :=
        UInt64.lt_of_le_of_lt (UInt64.not_lt.mp beyond) outside
      simp [beyond, outside, wraps]
    · simp [beyond, outside]

end Ranges

/-! ## Handlers that return -/

/-- A handler returns a completion. -/
def Returns (processed : Processed) : Prop :=
  ∃ completion, processed.completion = .ok completion

section Delivery

variable
    {connection : TargetConnection}
    {length : UInt32}

/-- A payload that is not delivered is short. -/
theorem not_delivers_of_short
    (short :
      (connection.conn.read length.toNat).1 = none ∨
        ((connection.conn.read length.toNat).1.getD []).length <
          length.toNat) :
    ¬ Delivers connection length := by
  rw [Delivers, Nat.not_le]
  rcases short with nothing | fewer
  · rw [nothing]
    by_contra empty
    have none : length.toNat = 0 := by
      simpa using empty
    rw [Conn.read, if_pos none] at nothing
    cases nothing
  · exact fewer

/-- No more bytes are read than asked for. -/
theorem delivered_length (delivers : Delivers connection length) :
    ((connection.conn.read length.toNat).1.getD []).length =
      length.toNat := by
  apply Nat.le_antisymm ?_ delivers
  rw [Conn.read]
  split
  · exact Nat.zero_le _
  · cases connection.conn.incoming with
    | nil => exact Nat.zero_le _
    | cons chunk rest => exact List.length_take_le _ chunk

end Delivery

section Handlers

variable
    {target : NVMeoFTarget}
    {connection : TargetConnection}
    {cmd : NVMeCommand}

theorem completed_returns (status : UInt16) :
    Returns (completed target connection cmd status) :=
  ⟨_, rfl⟩

/-- A handler that passes a panic on returns if there is none. -/
theorem returns_of_result_iff {α : Type}
    {handle : Except Fault α → Processed}
    (panicked : ∀ message, ¬ Returns (handle (.error (.panic message))))
    (failed : ∀ error, Returns (handle (.error (.error error))))
    (done : ∀ value, Returns (handle (.ok value)))
    (result : Except Fault α) :
    Returns (handle result) ↔
      ¬ ∃ message, result = .error (.panic message) := by
  cases result with
  | ok value =>
      refine iff_of_true (done value) ?_
      rintro ⟨message, ⟨⟩⟩
  | error fault =>
      cases fault with
      | error error =>
          refine iff_of_true (failed error) ?_
          rintro ⟨message, ⟨⟩⟩
      | panic message =>
          refine iff_of_false (panicked message) ?_
          exact not_not.mpr ⟨message, rfl⟩

/-- A panic is no completion. -/
theorem panic_not_returns {processed : Processed} {message : String}
    (panicked : processed.completion = .error (.panic message)) :
    ¬ Returns processed := by
  rintro ⟨completion, returned⟩
  cases panicked.symm.trans returned

theorem processFabricsCommand_returns :
    Returns (processFabricsCommand target connection cmd) := by
  rw [processFabricsCommand]
  split
  · split
    · exact completed_returns _
    · split
      · exact completed_returns _
      · exact ⟨_, rfl⟩
  · exact completed_returns _

/-- A namespace is identified if its blocks have bytes. -/
theorem processIdentifyCommand_returns_iff :
    Returns (processIdentifyCommand target connection cmd) ↔
      (cmd.identify.cns = nvmeIdCnsNs →
        ∀ ns,
          target.namespaceAt connection.subsystemNqn cmd.nsid = some ns →
            ns.blockSize ≠ 0) := by
  rw [processIdentifyCommand]
  cases found : target.subsystems.get? connection.subsystemNqn with
  | none =>
      rw [namespaceAt_of_absent found]
      exact iff_of_true (completed_returns _) (by rintro _ _ ⟨⟩)
  | some subsystem =>
      rw [namespaceAt_of_found found]
      by_cases controller : cmd.identify.cns = nvmeIdCnsCtrl
      · have other : nvmeIdCnsCtrl ≠ nvmeIdCnsNs := by
          decide
        simp only [controller, if_true]
        refine iff_of_true (completed_returns _) ?_
        intro same
        exact absurd same other
      · simp only [controller, if_false]
        by_cases named : cmd.identify.cns = nvmeIdCnsNs
        · simp only [named, if_true, true_implies]
          cases present : subsystem.namespaces.get? cmd.nsid with
          | none =>
              exact iff_of_true (completed_returns _) (by rintro _ ⟨⟩)
          | some ns =>
              by_cases empty : ns.blockSize = 0
              · simp [Returns, empty]
              · simp only [empty, if_false]
                refine iff_of_true (completed_returns _) ?_
                rintro _ ⟨⟩
                exact empty
        · simp only [named, if_false, false_implies, iff_true]
          exact completed_returns _

/-- A read returns if its range does not wrap into the storage. -/
theorem processReadCommand_returns_iff :
    Returns (processReadCommand target connection cmd) ↔
      ∀ ns,
        target.namespaceAt connection.subsystemNqn cmd.nsid = some ns →
          ¬ WrapsInto ns.backend (extent cmd ns) := by
  rw [processReadCommand]
  cases found : target.subsystems.get? connection.subsystemNqn with
  | none =>
      rw [namespaceAt_of_absent found]
      exact iff_of_true (completed_returns _) (by rintro _ ⟨⟩)
  | some subsystem =>
      rw [namespaceAt_of_found found]
      cases present : subsystem.namespaces.get? cmd.nsid with
      | none =>
          simp only [present]
          exact iff_of_true (completed_returns _) (by rintro _ ⟨⟩)
      | some ns =>
          simp only [present, Option.some.injEq, forall_eq']
          show
            _ ↔
              ¬ WrapsInto ns.backend
                ((extent cmd ns).1, (extent cmd ns).2)
          rw [← read_panics_iff]
          generalize
            ns.backend.read (extent cmd ns).1 (extent cmd ns).2 = result
          revert result
          refine returns_of_result_iff ?_ ?_ ?_
          · exact fun message => panic_not_returns rfl
          · exact fun error => completed_returns _
          · exact fun data => completed_returns _

/-- A write returns if its range, when it is delivered, does not wrap. -/
theorem processWriteCommand_returns_iff :
    Returns (processWriteCommand target connection cmd) ↔
      ∀ ns,
        target.namespaceAt connection.subsystemNqn cmd.nsid = some ns →
          Delivers connection (extent cmd ns).2 →
            ns.backend.size < (extent cmd ns).1 →
              ¬ WrapsInto ns.backend (extent cmd ns) := by
  rw [processWriteCommand]
  cases found : target.subsystems.get? connection.subsystemNqn with
  | none =>
      rw [namespaceAt_of_absent found]
      exact iff_of_true (completed_returns _) (by rintro _ ⟨⟩)
  | some subsystem =>
      rw [namespaceAt_of_found found]
      cases present : subsystem.namespaces.get? cmd.nsid with
      | none =>
          simp only [present]
          exact iff_of_true (completed_returns _) (by rintro _ ⟨⟩)
      | some ns =>
          simp only [present, Option.some.injEq, forall_eq']
          by_cases short :
              (connection.conn.read (extent cmd ns).2.toNat).1 = none ∨
                ((connection.conn.read
                  (extent cmd ns).2.toNat).1.getD []).length <
                  (extent cmd ns).2.toNat
          · rw [if_pos short]
            refine iff_of_true ⟨_, rfl⟩ ?_
            intro delivers
            exact absurd delivers (not_delivers_of_short short)
          · rw [if_neg short]
            rw [not_or, Nat.not_lt] at short
            have whole := delivered_length short.2
            have delivers : Delivers connection (extent cmd ns).2 :=
              short.2
            rw [iff_true_intro delivers, true_implies, ← not_and]
            show
              _ ↔
                ¬ (ns.backend.size < (extent cmd ns).1 ∧
                  WrapsInto ns.backend
                    ((extent cmd ns).1, (extent cmd ns).2))
            rw [← write_panics_iff whole]
            generalize
              ns.backend.write (extent cmd ns).1
                  ((connection.conn.read
                    (extent cmd ns).2.toNat).1.getD []) =
                result
            revert result
            refine returns_of_result_iff ?_ ?_ ?_
            · exact fun message => panic_not_returns rfl
            · exact fun error => ⟨_, rfl⟩
            · exact fun backend => ⟨_, rfl⟩

theorem processFlushCommand_returns :
    Returns (processFlushCommand target connection cmd) := by
  rw [processFlushCommand]
  split
  · exact completed_returns _
  · split
    · exact completed_returns _
    · exact completed_returns _

/-- Which commands are processed to a completion. -/
theorem processCommand_returns_iff :
    Returns (processCommand target connection cmd) ↔
      (cmd.opcode = nvmeAdminIdentify →
          Returns (processIdentifyCommand target connection cmd)) ∧
        (cmd.opcode = nvmeCmdRead →
          Returns (processReadCommand target connection cmd)) ∧
        (cmd.opcode = nvmeCmdWrite →
          Returns (processWriteCommand target connection cmd)) := by
  rw [processCommand]
  by_cases fabrics : cmd.opcode = nvmeOpcodeFabrics
  · rw [if_pos fabrics, fabrics]
    apply iff_of_true processFabricsCommand_returns
    refine ⟨?_, ?_, ?_⟩
    · exact fun same => absurd same (by decide)
    · exact fun same => absurd same (by decide)
    · exact fun same => absurd same (by decide)
  rw [if_neg fabrics]
  by_cases identify : cmd.opcode = nvmeAdminIdentify
  · rw [if_pos identify, identify]
    constructor
    · intro returns
      refine ⟨fun _ => returns, ?_, ?_⟩
      · exact fun same => absurd same (by decide)
      · exact fun same => absurd same (by decide)
    · intro handlers
      exact handlers.1 rfl
  rw [if_neg identify]
  by_cases read : cmd.opcode = nvmeCmdRead
  · rw [if_pos read, read]
    constructor
    · intro returns
      refine ⟨?_, fun _ => returns, ?_⟩
      · exact fun same => absurd same (by decide)
      · exact fun same => absurd same (by decide)
    · intro handlers
      exact handlers.2.1 rfl
  rw [if_neg read]
  by_cases write : cmd.opcode = nvmeCmdWrite
  · rw [if_pos write, write]
    constructor
    · intro returns
      refine ⟨?_, ?_, fun _ => returns⟩
      · exact fun same => absurd same (by decide)
      · exact fun same => absurd same (by decide)
    · intro handlers
      exact handlers.2.2 rfl
  rw [if_neg write]
  refine
    iff_of_true ?_
      ⟨(absurd · identify), (absurd · read), (absurd · write)⟩
  split
  · exact processFlushCommand_returns
  · exact completed_returns _

end Handlers

/-! ## Every command -/

section Commands

variable
    {target : NVMeoFTarget}
    {connection : TargetConnection}
    {buffer : CommandBuffer}

/-- The fields of a command that is not a fabrics command. -/
theorem parseCommand_fields
    (other : byteAt buffer.bytes 0 ≠ nvmeOpcodeFabrics) :
    ∃ cmd,
      parseCommand buffer = .ok cmd ∧
        cmd.opcode = byteAt buffer.bytes 0 ∧
        cmd.commandId = uint16At buffer.bytes 2 ∧
        cmd.nsid = uint32At buffer.bytes 4 ∧
        (cmd.opcode = nvmeCmdRead ∨ cmd.opcode = nvmeCmdWrite →
          extent cmd = requested buffer) ∧
        (cmd.opcode = nvmeAdminIdentify →
          cmd.identify.cns = byteAt buffer.bytes 40) := by
  simp only [parseCommand, if_neg other]
  by_cases ranged :
      byteAt buffer.bytes 0 = nvmeCmdRead ∨
        byteAt buffer.bytes 0 = nvmeCmdWrite
  · rw [if_pos ranged]
    refine ⟨_, rfl, rfl, rfl, rfl, fun _ => rfl, ?_⟩
    intro identify
    simp only at identify
    rw [identify] at ranged
    exact absurd ranged (by decide)
  · rw [if_neg ranged]
    by_cases identify : byteAt buffer.bytes 0 = nvmeAdminIdentify
    · rw [if_pos identify]
      exact
        ⟨_, rfl, rfl, rfl, rfl, (absurd · ranged), fun _ => rfl⟩
    · rw [if_neg identify]
      exact
        ⟨_, rfl, rfl, rfl, rfl, (absurd · ranged), (absurd · identify)⟩

/-- A command is survived if it is parsed, and its handler returns. -/
theorem survives_iff_returns {cmd : NVMeCommand}
    (parsed : parseCommand buffer = .ok cmd)
    (commandId : cmd.commandId = uint16At buffer.bytes 2) :
    Survives target connection buffer ↔
      Returns (processCommand target connection cmd) := by
  rw [Survives, answer, parsed, Returns]
  constructor
  · rintro ⟨completion, returned, _⟩
    exact ⟨completion, returned⟩
  · rintro ⟨completion, returned⟩
    refine ⟨completion, returned, ?_⟩
    rw [← commandId]
    exact (processCommand_answers completion returned).1

/-- A target survives a command exactly if it is none of those that panic. -/
theorem survives_iff :
    Survives target connection buffer ↔
      Survivable target connection buffer := by
  by_cases fabrics : byteAt buffer.bytes 0 = nvmeOpcodeFabrics
  · rcases parseCommand_fabrics fabrics with ⟨message, panicked⟩
    apply iff_of_false
    · rintro ⟨completion, returned, _⟩
      rw [answer, panicked] at returned
      cases returned
    · intro survivable
      exact survivable.fabrics fabrics
  · rcases parseCommand_fields fabrics with
      ⟨cmd, parsed, opcode, commandId, nsid, range, cns⟩
    rw [survives_iff_returns parsed commandId, processCommand_returns_iff,
      processIdentifyCommand_returns_iff, processReadCommand_returns_iff,
      processWriteCommand_returns_iff, nsid]
    constructor
    · rintro ⟨identify, read, write⟩
      refine
        { fabrics := fabrics
          identify := ?_
          read := ?_
          write := ?_ }
      · intro same
        rw [← opcode] at same
        rw [← cns same]
        exact identify same
      · intro same
        rw [← opcode] at same
        rw [← range (Or.inl same)]
        exact read same
      · intro same
        rw [← opcode] at same
        rw [← range (Or.inr same)]
        exact write same
    · intro survivable
      refine ⟨?_, ?_, ?_⟩
      · intro same
        rw [cns same]
        exact survivable.identify (opcode.symm.trans same)
      · intro same
        rw [range (Or.inl same)]
        exact survivable.read (opcode.symm.trans same)
      · intro same
        rw [range (Or.inr same)]
        exact survivable.write (opcode.symm.trans same)

end Commands

/-- A target with a namespace of 16 bytes, and one with blocks of no bytes. -/
def exposedTarget : NVMeoFTarget :=
  run NVMeoFTarget.configure {}
    [.createSubsystem "s", .addNamespace "s" 1 16 16,
      .addNamespace "s" 2 16 0, .allowHost "s" "h"]

/-- A connection to the target with 16 bytes to come. -/
def exposedConnection : TargetConnection where
  conn := { incoming := [zeros 16] }
  hostNqn := "h"
  subsystemNqn := "s"

/-- A command with an opcode, a namespace and an operation. -/
def commandBytes (opcode nsid : UInt8) (operation : UInt64) :
    CommandBuffer where
  bytes :=
    [opcode, 0, 7, 0, nsid] ++ zeros 35 ++ putUint64 operation ++ zeros 16
  size := by
    simp

/-- Each of these commands ends the target. -/
theorem commands_not_survived :
    (¬ Survives exposedTarget exposedConnection
        (commandBytes nvmeOpcodeFabrics 0 0)) ∧
      (¬ Survives exposedTarget exposedConnection
        (commandBytes nvmeAdminIdentify 2 0)) ∧
      (¬ Survives exposedTarget exposedConnection
        (commandBytes nvmeCmdRead 1 (2 ^ 60 - 1))) ∧
      ¬ Survives exposedTarget exposedConnection
        (commandBytes nvmeCmdWrite 1 (2 ^ 60 - 1)) := by
  have fabrics :
      answer exposedTarget exposedConnection
          (commandBytes nvmeOpcodeFabrics 0 0) =
        .error
          (.panic "slice bounds out of range [:88] with capacity 64") := by
    decide +kernel
  have identify :
      answer exposedTarget exposedConnection
          (commandBytes nvmeAdminIdentify 2 0) =
        .error (.panic "runtime error: integer divide by zero") := by
    decide +kernel
  have read :
      answer exposedTarget exposedConnection
          (commandBytes nvmeCmdRead 1 (2 ^ 60 - 1)) =
        .error
          (.panic
            "slice bounds out of range [18446744073709551600:0]") := by
    decide +kernel
  have write :
      answer exposedTarget exposedConnection
          (commandBytes nvmeCmdWrite 1 (2 ^ 60 - 1)) =
        .error
          (.panic
            "slice bounds out of range [18446744073709551600:16]") := by
    decide +kernel
  refine ⟨?_, ?_, ?_, ?_⟩
  · rintro ⟨completion, returned, _⟩
    cases fabrics.symm.trans returned
  · rintro ⟨completion, returned, _⟩
    cases identify.symm.trans returned
  · rintro ⟨completion, returned, _⟩
    cases read.symm.trans returned
  · rintro ⟨completion, returned, _⟩
    cases write.symm.trans returned

end StorageAppliance.NVMeoF
