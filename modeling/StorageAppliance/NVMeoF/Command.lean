import StorageAppliance.Go
import StorageAppliance.Library.LittleEndian

/-!
# NVMe-oF commands and completions

The commands that an initiator sends to a target and the completions it gets
back (`nvmeof/initiator.go`, `nvmeof/target.go`), with their layouts on the
wire.  A command takes 64 bytes and a completion 16, least significant bytes
first.

The fields of an operation share the last six words of a command.  The target
reads them from there (`parseCommand`), but the initiator writes only the words
themselves (`serializeCommand`), which it never sets.  The fields of a fabrics
command are read from behind the end of the buffer.

Fields that neither side reads are left out.
-/

namespace StorageAppliance.NVMeoF

open StorageAppliance.Go
open StorageAppliance.Library

/-! ## Structures -/

/-- Fields of a read or a write. -/
structure NVMeRWCommand where
  slba : UInt64 := 0
  length : UInt16 := 0
deriving DecidableEq

/-- Fields of an identify command. -/
structure NVMeIdentifyCommand where
  cns : UInt8 := 0
deriving DecidableEq

/-- Fields of a fabrics command. -/
structure NVMeFabricsCommand where
  fcType : UInt8 := 0
  sqSize : UInt16 := 0
  qid : UInt16 := 0
deriving DecidableEq

/-- A command. -/
structure NVMeCommand where
  opcode : UInt8
  flags : UInt8 := 0
  commandId : UInt16 := 0
  nsid : UInt32 := 0
  mptr : UInt64 := 0
  prp1 : UInt64 := 0
  prp2 : UInt64 := 0
  cdw10 : UInt32 := 0
  cdw11 : UInt32 := 0
  cdw12 : UInt32 := 0
  cdw13 : UInt32 := 0
  cdw14 : UInt32 := 0
  cdw15 : UInt32 := 0
  rw : NVMeRWCommand := {}
  identify : NVMeIdentifyCommand := {}
  fabrics : NVMeFabricsCommand := {}
deriving DecidableEq

/-- A completion queue entry. -/
structure NVMeCompletion where
  dw0 : UInt32 := 0
  sqhd : UInt16 := 0
  sqid : UInt16 := 0
  commandId : UInt16
  status : UInt16
deriving DecidableEq

/-- The bytes of a command. -/
structure CommandBuffer where
  bytes : Bytes
  size : bytes.length = 64
deriving DecidableEq

/-- The bytes of a completion. -/
structure CompletionBuffer where
  bytes : Bytes
  size : bytes.length = 16
deriving DecidableEq

/-! ## Codes -/

def nvmeCmdFlush : UInt8 := 0x00
def nvmeCmdWrite : UInt8 := 0x01
def nvmeCmdRead : UInt8 := 0x02
def nvmeAdminIdentify : UInt8 := 0x06
def nvmeOpcodeFabrics : UInt8 := 0x7f

def nvmeFabricsTypeConnect : UInt8 := 0x01

def nvmeIdCnsNs : UInt8 := 0x00
def nvmeIdCnsCtrl : UInt8 := 0x01

def nvmeStatusSuccess : UInt16 := 0x0000
def nvmeStatusInvalidOpcode : UInt16 := 0x0001
def nvmeStatusInvalidField : UInt16 := 0x0002
def nvmeStatusDataXferError : UInt16 := 0x0004
def nvmeStatusInternalError : UInt16 := 0x0006

/-! ## Numbers in a buffer -/

def putUint16 (value : UInt16) : Bytes :=
  toLittleEndian 2 value.toNat

def putUint32 (value : UInt32) : Bytes :=
  toLittleEndian 4 value.toNat

def putUint64 (value : UInt64) : Bytes :=
  toLittleEndian 8 value.toNat

/-- The byte at an index. -/
def byteAt (bytes : Bytes) (index : Nat) : UInt8 :=
  bytes.getD index 0

/-- The number that starts at an index. -/
def uint16At (bytes : Bytes) (index : Nat) : UInt16 :=
  UInt16.ofNat (ofLittleEndian ((bytes.drop index).take 2))

def uint32At (bytes : Bytes) (index : Nat) : UInt32 :=
  UInt32.ofNat (ofLittleEndian ((bytes.drop index).take 4))

def uint64At (bytes : Bytes) (index : Nat) : UInt64 :=
  UInt64.ofNat (ofLittleEndian ((bytes.drop index).take 8))

/-- A part of a slice that has no capacity beyond its length. -/
def slice (bytes : Bytes) (low high : Nat) : Except Fault Bytes :=
  if high ≤ bytes.length then
    .ok ((bytes.take high).drop low)
  else
    .error
      (.panic
        ("slice bounds out of range [:" ++ decimal high ++
          "] with capacity " ++ decimal bytes.length))

/-! ## Commands -/

/-- Serialize a command. -/
def serializeCommand (cmd : NVMeCommand) : CommandBuffer where
  bytes :=
    [cmd.opcode, cmd.flags] ++ (putUint16 cmd.commandId ++
      (putUint32 cmd.nsid ++ (zeros 8 ++ (putUint64 cmd.mptr ++
        (putUint64 cmd.prp1 ++ (putUint64 cmd.prp2 ++
          (putUint32 cmd.cdw10 ++ (putUint32 cmd.cdw11 ++
            (putUint32 cmd.cdw12 ++ (putUint32 cmd.cdw13 ++
              (putUint32 cmd.cdw14 ++ putUint32 cmd.cdw15)))))))))))
  size := by
    simp [putUint16, putUint32, putUint64, zeros]

/-- Parse the bytes of a command. -/
def parseCommand (buf : CommandBuffer) : Except Fault NVMeCommand :=
  let bytes := buf.bytes
  let cmd : NVMeCommand :=
    { opcode := byteAt bytes 0
      flags := byteAt bytes 1
      commandId := uint16At bytes 2
      nsid := uint32At bytes 4
      mptr := uint64At bytes 16
      prp1 := uint64At bytes 24
      prp2 := uint64At bytes 32
      cdw10 := uint32At bytes 40
      cdw11 := uint32At bytes 44
      cdw12 := uint32At bytes 48
      cdw13 := uint32At bytes 52
      cdw14 := uint32At bytes 56
      cdw15 := uint32At bytes 60 }
  if cmd.opcode = nvmeCmdRead ∨ cmd.opcode = nvmeCmdWrite then
    .ok
      { cmd with
        rw :=
          { slba := uint64At bytes 40
            length := uint16At bytes 48 } }
  else if cmd.opcode = nvmeAdminIdentify then
    .ok { cmd with identify := { cns := byteAt bytes 40 } }
  else if cmd.opcode = nvmeOpcodeFabrics then
    match slice bytes 86 88 with
    | .error fault => .error fault
    | .ok qid =>
        match slice bytes 84 86 with
        | .error fault => .error fault
        | .ok sqSize =>
            .ok
              { cmd with
                fabrics :=
                  { fcType := byteAt bytes 40
                    sqSize := uint16At sqSize 0
                    qid := uint16At qid 0 } }
  else
    .ok cmd

/-! ## Completions -/

/-- Serialize a completion. -/
def serializeCompletion (comp : NVMeCompletion) : CompletionBuffer where
  bytes :=
    putUint32 comp.dw0 ++ (zeros 4 ++ (putUint16 comp.sqhd ++
      (putUint16 comp.sqid ++ (putUint16 comp.commandId ++
        putUint16 comp.status))))
  size := by
    simp [putUint16, putUint32, zeros]

/-- Parse the bytes of a completion. -/
def parseCompletion (buf : CompletionBuffer) : NVMeCompletion where
  dw0 := uint32At buf.bytes 0
  sqhd := uint16At buf.bytes 8
  sqid := uint16At buf.bytes 10
  commandId := uint16At buf.bytes 12
  status := uint16At buf.bytes 14

/-! ## Reading what was written -/

@[simp]
theorem length_putUint16 (value : UInt16) :
    (putUint16 value).length = 2 :=
  length_toLittleEndian _ _

@[simp]
theorem length_putUint32 (value : UInt32) :
    (putUint32 value).length = 4 :=
  length_toLittleEndian _ _

@[simp]
theorem length_putUint64 (value : UInt64) :
    (putUint64 value).length = 8 :=
  length_toLittleEndian _ _

@[simp]
theorem uint16_putUint16 (value : UInt16) :
    UInt16.ofNat (ofLittleEndian (putUint16 value)) = value := by
  rw [putUint16, ofLittleEndian_toLittleEndian (UInt16.toNat_lt value)]
  exact UInt16.ofNat_toNat

@[simp]
theorem uint32_putUint32 (value : UInt32) :
    UInt32.ofNat (ofLittleEndian (putUint32 value)) = value := by
  rw [putUint32, ofLittleEndian_toLittleEndian (UInt32.toNat_lt value)]
  exact UInt32.ofNat_toNat

@[simp]
theorem uint64_putUint64 (value : UInt64) :
    UInt64.ofNat (ofLittleEndian (putUint64 value)) = value := by
  rw [putUint64, ofLittleEndian_toLittleEndian (UInt64.toNat_lt value)]
  exact UInt64.ofNat_toNat

@[simp]
theorem length_zeros (length : Nat) : (zeros length).length = length :=
  List.length_replicate

/-- A completion is carried exactly. -/
theorem parseCompletion_serializeCompletion (comp : NVMeCompletion) :
    parseCompletion (serializeCompletion comp) = comp := by
  simp [parseCompletion, serializeCompletion, uint32At, uint16At,
    List.drop_append, List.drop_of_length_le, List.take_of_length_le]

/-- What a command says of its operation on the wire. -/
def NVMeCommand.carried (cmd : NVMeCommand) : NVMeCommand :=
  { cmd with
    rw :=
      if cmd.opcode = nvmeCmdRead ∨ cmd.opcode = nvmeCmdWrite then
        { slba :=
            UInt64.ofNat
              (ofLittleEndian (putUint32 cmd.cdw10 ++ putUint32 cmd.cdw11))
          length :=
            UInt16.ofNat (ofLittleEndian ((putUint32 cmd.cdw12).take 2)) }
      else
        {}
    identify :=
      if cmd.opcode = nvmeAdminIdentify then
        { cns := byteAt (putUint32 cmd.cdw10) 0 }
      else
        {}
    fabrics := {} }

theorem byteAt_eq_drop (bytes : Bytes) (index : Nat) :
    byteAt bytes index = byteAt (bytes.drop index) 0 := by
  simp [byteAt]

theorem byteAt_append {first : Bytes} (present : first ≠ []) (rest : Bytes) :
    byteAt (first ++ rest) 0 = byteAt first 0 := by
  cases first with
  | nil => exact absurd rfl present
  | cons head tail => rfl

/-- The words of a command, and the operation fields that lie in them. -/
theorem serializeCommand_words (cmd : NVMeCommand) :
    let bytes := (serializeCommand cmd).bytes
    (byteAt bytes 0 = cmd.opcode ∧ byteAt bytes 1 = cmd.flags ∧
        uint16At bytes 2 = cmd.commandId ∧ uint32At bytes 4 = cmd.nsid) ∧
      (uint64At bytes 16 = cmd.mptr ∧ uint64At bytes 24 = cmd.prp1 ∧
        uint64At bytes 32 = cmd.prp2) ∧
      (uint32At bytes 40 = cmd.cdw10 ∧ uint32At bytes 44 = cmd.cdw11 ∧
        uint32At bytes 48 = cmd.cdw12 ∧ uint32At bytes 52 = cmd.cdw13 ∧
        uint32At bytes 56 = cmd.cdw14 ∧ uint32At bytes 60 = cmd.cdw15) ∧
      uint64At bytes 40 =
          UInt64.ofNat
            (ofLittleEndian
              (putUint32 cmd.cdw10 ++ putUint32 cmd.cdw11)) ∧
      uint16At bytes 48 =
          UInt16.ofNat (ofLittleEndian ((putUint32 cmd.cdw12).take 2)) ∧
      byteAt bytes 40 = byteAt (putUint32 cmd.cdw10) 0 := by
  have cns :
      byteAt (serializeCommand cmd).bytes 40 =
        byteAt (putUint32 cmd.cdw10) 0 := by
    have present : putUint32 cmd.cdw10 ≠ [] := by
      intro empty
      cases empty
    rw [byteAt_eq_drop]
    simp [serializeCommand, List.drop_append, List.drop_of_length_le,
      byteAt_append present]
  refine ⟨⟨rfl, rfl, ?_, ?_⟩, ?_, ?_, ?_, ?_, cns⟩
  all_goals
    simp [serializeCommand, uint16At, uint32At, uint64At,
      List.drop_append, List.drop_of_length_le, List.take_append,
      List.take_of_length_le]

/-- A command that is not a fabrics command carries its words. -/
theorem parseCommand_serializeCommand
    {cmd : NVMeCommand} (other : cmd.opcode ≠ nvmeOpcodeFabrics) :
    parseCommand (serializeCommand cmd) = .ok cmd.carried := by
  rcases serializeCommand_words cmd with
    ⟨⟨opcode, flags, commandId, nsid⟩, ⟨mptr, prp1, prp2⟩,
      ⟨cdw10, cdw11, cdw12, cdw13, cdw14, cdw15⟩, slba, length, cns⟩
  simp only [parseCommand, opcode, flags, commandId, nsid, mptr, prp1, prp2,
    cdw10, cdw11, cdw12, cdw13, cdw14, cdw15, slba, length, cns, other,
    if_false, NVMeCommand.carried]
  by_cases rw : cmd.opcode = nvmeCmdRead ∨ cmd.opcode = nvmeCmdWrite
  · have notIdentify : cmd.opcode ≠ nvmeAdminIdentify := by
      rcases rw with same | same
      · rw [same]
        decide
      · rw [same]
        decide
    simp only [if_pos rw, if_neg notIdentify]
  · simp only [if_neg rw]
    split
    · rfl
    · rfl

/-- Parsing a fabrics command panics. -/
theorem parseCommand_fabrics
    {buf : CommandBuffer} (opcode : byteAt buf.bytes 0 = nvmeOpcodeFabrics) :
    ∃ message, parseCommand buf = .error (.panic message) := by
  have notRead : nvmeOpcodeFabrics ≠ nvmeCmdRead := by decide
  have notWrite : nvmeOpcodeFabrics ≠ nvmeCmdWrite := by decide
  have notIdentify : nvmeOpcodeFabrics ≠ nvmeAdminIdentify := by decide
  have short : ¬ 88 ≤ buf.bytes.length := by
    rw [buf.size]
    decide
  simp only [parseCommand, opcode, notRead, notWrite, notIdentify, or_self,
    if_false, if_true, slice, if_neg short]
  exact ⟨_, rfl⟩

/-- Other commands are parsed. -/
theorem parseCommand_ok
    {buf : CommandBuffer} (other : byteAt buf.bytes 0 ≠ nvmeOpcodeFabrics) :
    ∃ cmd, parseCommand buf = .ok cmd := by
  simp only [parseCommand, if_neg other]
  split
  · exact ⟨_, rfl⟩
  · split
    · exact ⟨_, rfl⟩
    · exact ⟨_, rfl⟩

/-! ## What the initiator sends -/

/-- The commands that the initiator builds for an operation. -/
inductive Built : NVMeCommand → Prop where
  | read (commandId : UInt16) (nsid : UInt32) (slba : UInt64)
      (length : UInt16) :
      Built
        { opcode := nvmeCmdRead
          commandId := commandId
          nsid := nsid
          rw := { slba := slba, length := length } }
  | write (commandId : UInt16) (nsid : UInt32) (slba : UInt64)
      (length : UInt16) :
      Built
        { opcode := nvmeCmdWrite
          commandId := commandId
          nsid := nsid
          rw := { slba := slba, length := length } }
  | identify (commandId : UInt16) (nsid : UInt32) (cns : UInt8) :
      Built
        { opcode := nvmeAdminIdentify
          commandId := commandId
          nsid := nsid
          identify := { cns := cns } }

/-- The fields that the target acts on are those of the command. -/
structure Agrees (cmd parsed : NVMeCommand) : Prop where
  opcode : parsed.opcode = cmd.opcode
  flags : parsed.flags = cmd.flags
  commandId : parsed.commandId = cmd.commandId
  nsid : parsed.nsid = cmd.nsid
  rw :
    cmd.opcode = nvmeCmdRead ∨ cmd.opcode = nvmeCmdWrite →
      parsed.rw = cmd.rw
  identify :
    cmd.opcode = nvmeAdminIdentify → parsed.identify = cmd.identify

/-- The words that the initiator leaves unset carry zeros. -/
theorem carried_of_unset
    {cmd : NVMeCommand} (cdw10 : cmd.cdw10 = 0) (cdw11 : cmd.cdw11 = 0)
    (cdw12 : cmd.cdw12 = 0) :
    cmd.carried = { cmd with rw := {}, identify := {}, fabrics := {} } := by
  have slba :
      UInt64.ofNat (ofLittleEndian (putUint32 0 ++ putUint32 0)) = 0 := by
    decide
  have length :
      UInt16.ofNat (ofLittleEndian ((putUint32 0).take 2)) = 0 := by
    decide
  have cns : byteAt (putUint32 0) 0 = 0 := by
    decide
  simp only [NVMeCommand.carried, cdw10, cdw11, cdw12, slba, length, cns,
    ite_self]

theorem parseCommand_built {cmd : NVMeCommand} (built : Built cmd) :
    parseCommand (serializeCommand cmd) =
      .ok { cmd with rw := {}, identify := {} } := by
  have read : nvmeCmdRead ≠ nvmeOpcodeFabrics := by decide
  have write : nvmeCmdWrite ≠ nvmeOpcodeFabrics := by decide
  have identify : nvmeAdminIdentify ≠ nvmeOpcodeFabrics := by decide
  cases built with
  | read commandId nsid slba length =>
      rw [parseCommand_serializeCommand read,
        carried_of_unset rfl rfl rfl]
  | write commandId nsid slba length =>
      rw [parseCommand_serializeCommand write,
        carried_of_unset rfl rfl rfl]
  | identify commandId nsid cns =>
      rw [parseCommand_serializeCommand identify,
        carried_of_unset rfl rfl rfl]

/--
A command that the initiator builds reaches the target as it was exactly if all
the fields of its operation are zero.
-/
theorem parseCommand_agrees_iff {cmd : NVMeCommand} (built : Built cmd) :
    (∃ parsed,
        parseCommand (serializeCommand cmd) = .ok parsed ∧
          Agrees cmd parsed) ↔
      cmd.rw = {} ∧ cmd.identify = {} := by
  rw [parseCommand_built built]
  constructor
  · rintro ⟨parsed, same, agrees⟩
    cases same
    cases built with
    | read commandId nsid slba length =>
        exact ⟨(agrees.rw (Or.inl rfl)).symm, rfl⟩
    | write commandId nsid slba length =>
        exact ⟨(agrees.rw (Or.inr rfl)).symm, rfl⟩
    | identify commandId nsid cns =>
        exact ⟨rfl, (agrees.identify rfl).symm⟩
  · rintro ⟨rw, identify⟩
    exact
      ⟨_, rfl, rfl, rfl, rfl, rfl, fun _ => rw.symm,
        fun _ => identify.symm⟩

theorem parseCommand_agrees_read :
    ∃ parsed,
      parseCommand (serializeCommand { opcode := nvmeCmdRead, nsid := 1 }) =
          .ok parsed ∧
        Agrees { opcode := nvmeCmdRead, nsid := 1 } parsed :=
  (parseCommand_agrees_iff (.read 0 1 0 0)).mpr ⟨rfl, rfl⟩

/-- A read of two blocks from block 5 arrives as one of block 0. -/
theorem readCommand_altered :
    Built
        { opcode := nvmeCmdRead
          nsid := 1
          rw := { slba := 5, length := 1 } } ∧
      ∃ parsed,
        parseCommand
            (serializeCommand
              { opcode := nvmeCmdRead
                nsid := 1
                rw := { slba := 5, length := 1 } }) =
            .ok parsed ∧
          parsed.rw = { slba := 0, length := 0 } := by
  refine ⟨.read 0 1 5 1, { opcode := nvmeCmdRead, nsid := 1 }, ?_, rfl⟩
  decide +kernel

/-! ## Writing what was read -/

section Rewriting

variable
    {bytes : Bytes}
    {index : Nat}

theorem length_take_drop
    {width : Nat} (inside : index + width ≤ bytes.length) :
    ((bytes.drop index).take width).length = width := by
  rw [List.length_take, List.length_drop]
  omega

/-- The number that some bytes hold is written as these bytes. -/
theorem toLittleEndian_take_drop
    {width : Nat} (inside : index + width ≤ bytes.length) :
    toLittleEndian width
        (ofLittleEndian ((bytes.drop index).take width) % 256 ^ width) =
      (bytes.drop index).take width := by
  have length := length_take_drop inside
  have fits := ofLittleEndian_lt ((bytes.drop index).take width)
  have same := toLittleEndian_ofLittleEndian ((bytes.drop index).take width)
  rw [length] at fits same
  rw [Nat.mod_eq_of_lt fits, same]

theorem putUint16_uint16At (inside : index + 2 ≤ bytes.length) :
    putUint16 (uint16At bytes index) = (bytes.drop index).take 2 := by
  rw [putUint16, uint16At, UInt16.toNat_ofNat']
  exact toLittleEndian_take_drop inside

theorem putUint32_uint32At (inside : index + 4 ≤ bytes.length) :
    putUint32 (uint32At bytes index) = (bytes.drop index).take 4 := by
  rw [putUint32, uint32At, UInt32.toNat_ofNat']
  exact toLittleEndian_take_drop inside

theorem putUint64_uint64At (inside : index + 8 ≤ bytes.length) :
    putUint64 (uint64At bytes index) = (bytes.drop index).take 8 := by
  rw [putUint64, uint64At, UInt64.toNat_ofNat']
  exact toLittleEndian_take_drop inside

/-- Bytes that are read as zeros are zeros. -/
theorem take_drop_eq_zeros
    {width : Nat} (inside : index + width ≤ bytes.length)
    (zero :
      ∀ offset,
        index ≤ offset → offset < index + width →
          byteAt bytes offset = 0) :
    (bytes.drop index).take width = zeros width := by
  rw [zeros, List.eq_replicate_iff]
  refine ⟨length_take_drop inside, ?_⟩
  intro byte member
  rcases List.mem_iff_getElem.mp member with ⟨offset, bound, same⟩
  rw [length_take_drop inside] at bound
  have read := zero (index + offset) (by omega) (by omega)
  rw [byteAt, List.getD_eq_getElem?_getD,
    List.getElem?_eq_getElem (by omega), Option.getD_some] at read
  rw [← same, List.getElem_take, List.getElem_drop]
  exact read

/-- Consecutive bytes of a buffer. -/
theorem take_append_drop_drop (bytes : Bytes) (index width : Nat) :
    (bytes.drop index).take width ++ bytes.drop (index + width) =
      bytes.drop index := by
  rw [← List.drop_drop, List.take_append_drop]

end Rewriting

/-- The words of a command that was parsed are those of its buffer. -/
theorem serializeCommand_of_parseCommand
    {buf : CommandBuffer} {cmd : NVMeCommand}
    (parsed : parseCommand buf = .ok cmd) :
    (serializeCommand cmd).bytes =
      [byteAt buf.bytes 0, byteAt buf.bytes 1] ++
        (putUint16 (uint16At buf.bytes 2) ++
          (putUint32 (uint32At buf.bytes 4) ++ (zeros 8 ++
            (putUint64 (uint64At buf.bytes 16) ++
              (putUint64 (uint64At buf.bytes 24) ++
                (putUint64 (uint64At buf.bytes 32) ++
                  (putUint32 (uint32At buf.bytes 40) ++
                    (putUint32 (uint32At buf.bytes 44) ++
                      (putUint32 (uint32At buf.bytes 48) ++
                        (putUint32 (uint32At buf.bytes 52) ++
                          (putUint32 (uint32At buf.bytes 56) ++
                            putUint32 (uint32At buf.bytes 60)))))))))))) := by
  rw [parseCommand] at parsed
  simp only at parsed
  split at parsed
  · cases parsed
    rfl
  · split at parsed
    · cases parsed
      rfl
    · split at parsed
      · split at parsed
        · cases parsed
        · split at parsed
          · cases parsed
          · cases parsed
            rfl
      · cases parsed
        rfl

/--
A command is written as the bytes it was parsed from, if the bytes that hold no
field are zeros.
-/
theorem serializeCommand_parseCommand
    {buf : CommandBuffer}
    (other : byteAt buf.bytes 0 ≠ nvmeOpcodeFabrics)
    (reserved :
      ∀ index, 8 ≤ index → index < 16 → byteAt buf.bytes index = 0) :
    (parseCommand buf).map serializeCommand = .ok buf := by
  rcases parseCommand_ok other with ⟨cmd, parsed⟩
  have size := buf.size
  have head :
      [byteAt buf.bytes 0, byteAt buf.bytes 1] ++ buf.bytes.drop 2 =
        buf.bytes := by
    cases bytes : buf.bytes with
    | nil =>
        rw [bytes] at size
        cases size
    | cons first rest =>
        cases rest with
        | nil =>
            rw [bytes] at size
            cases size
        | cons second rest => rfl
  have gap : zeros 8 = (buf.bytes.drop 8).take 8 :=
    (take_drop_eq_zeros (by omega) reserved).symm
  have last : (buf.bytes.drop 60).take 4 = buf.bytes.drop 60 := by
    apply List.take_of_length_le
    rw [List.length_drop]
    omega
  have same : (serializeCommand cmd).bytes = buf.bytes := by
    rw [serializeCommand_of_parseCommand parsed,
      putUint16_uint16At (by omega), putUint32_uint32At (by omega),
      putUint64_uint64At (by omega), putUint64_uint64At (by omega),
      putUint64_uint64At (by omega), putUint32_uint32At (by omega),
      putUint32_uint32At (by omega), putUint32_uint32At (by omega),
      putUint32_uint32At (by omega), putUint32_uint32At (by omega),
      putUint32_uint32At (by omega), gap, last]
    have join := take_append_drop_drop buf.bytes
    rw [join 56 4, join 52 4, join 48 4, join 44 4, join 40 4, join 32 8,
      join 24 8, join 16 8, join 8 8, join 4 4, join 2 2, head]
  rw [parsed]
  change Except.ok (serializeCommand cmd) = .ok buf
  rw [Except.ok.injEq, CommandBuffer.mk.injEq]
  exact same

/-- The bytes of a command that reads block 5. -/
def readBytes : CommandBuffer :=
  serializeCommand
    { opcode := nvmeCmdRead
      commandId := 7
      nsid := 1
      cdw10 := 5 }

theorem readBytes_rewritten :
    (parseCommand readBytes).map serializeCommand = .ok readBytes := by
  have reserved :
      ∀ index < 16, 8 ≤ index → byteAt readBytes.bytes index = 0 := by
    decide
  apply serializeCommand_parseCommand
  · decide
  · intro index low high
    exact reserved index high low

end StorageAppliance.NVMeoF
