import StorageAppliance.NVMeoF.Fragmentation
import StorageAppliance.NVMeoF.Initiator

/-!
# Framing from the host to the target

Neither side says how many bytes follow a command.  The initiator appends the
buffer of a read or a write, of any number of blocks.  The target takes a
payload for a write only, and as the fields of the operation do not reach it, it
takes one block of the namespace that it finds.  The record of a new connection
names no subsystem, so that this is a namespace of the subsystem with the empty
name.

`framed_iff` compares the commands and payloads that the target takes from the
stream with those that were submitted, when every read of the connection returns
all bytes asked for.
-/

namespace StorageAppliance.NVMeoF

open StorageAppliance.Go
open StorageAppliance.Library

/-! ## Calls of a host -/

/-- A call that reads, writes or flushes. -/
inductive Call where
  | read (nqn : String) (nsid : UInt32) (lba : UInt64) (numBlocks : UInt32)
      (buffer : Bytes)
  | write (nqn : String) (nsid : UInt32) (lba : UInt64) (numBlocks : UInt32)
      (buffer : Bytes)
  | flush (nqn : String) (nsid : UInt32)
deriving DecidableEq

namespace Call

def perform (initiator : NVMeoFInitiator) (callback : Nat) :
    Call → Except Fault Submission × NVMeoFInitiator
  | .read nqn nsid lba numBlocks buffer =>
      initiator.read nqn nsid lba numBlocks buffer callback
  | .write nqn nsid lba numBlocks buffer =>
      initiator.write nqn nsid lba numBlocks buffer callback
  | .flush nqn nsid => initiator.flush nqn nsid callback

/-- The data that a call sends after its command. -/
def data : Call → Bytes
  | .read _ _ _ _ buffer => buffer
  | .write _ _ _ _ buffer => buffer
  | .flush _ _ => []

/-- The command that a call sends, before it has an identifier. -/
def command : Call → NVMeCommand
  | .read _ nsid lba numBlocks _ =>
      { opcode := nvmeCmdRead
        nsid := nsid
        rw := { slba := lba, length := (numBlocks - 1).toUInt16 } }
  | .write _ nsid lba numBlocks _ =>
      { opcode := nvmeCmdWrite
        nsid := nsid
        rw := { slba := lba, length := (numBlocks - 1).toUInt16 } }
  | .flush _ nsid =>
      { opcode := nvmeCmdFlush
        nsid := nsid }

/-- The namespace of a transfer is connected, and its buffer large enough. -/
def Valid (initiator : NVMeoFInitiator) : Call → Prop
  | .read nqn nsid _ numBlocks buffer
  | .write nqn nsid _ numBlocks buffer =>
      ∃ subsys ns,
        initiator.subsystems.get? nqn = some subsys ∧
          subsys.namespaces.get? nsid = some ns ∧
          numBlocks.toNat * ns.blockSize.toNat ≤ buffer.length
  | .flush _ _ => True

/-- A call that is not refused. -/
def Accepted (initiator : NVMeoFInitiator) (call : Call) : Prop :=
  initiator.ioQueues ≠ [] ∧ call.Valid initiator

end Call

/-- The commands that are submitted by calls made one after the other. -/
def submissions (initiator : NVMeoFInitiator) : List Call → List Submission
  | [] => []
  | call :: rest =>
      match call.perform initiator rest.length with
      | (.error _, initiator) => submissions initiator rest
      | (.ok submission, initiator) =>
          submission :: submissions initiator rest

/-- The bytes that submissions put on the connection. -/
def sent (submitted : List Submission) : Bytes :=
  submitted.flatMap Submission.bytes

/-! ## Messages -/

/-- The bytes of a command, and the payload that is taken for it. -/
structure Message where
  buffer : CommandBuffer
  asked : Nat
  payload : Bytes
deriving DecidableEq

def Submission.message (submission : Submission) : Message where
  buffer := serializeCommand submission.command
  asked := submission.data.length
  payload := submission.data

def Executed.message (executed : Executed) : Message where
  buffer := executed.buffer
  asked := executed.asked
  payload := executed.payload

/-- The size of a block of a namespace, which is zero if it is missing. -/
def NVMeoFTarget.blockLength
    (target : NVMeoFTarget) (nsid : UInt32) : Nat :=
  ((target.blockSizeAt "" nsid).map UInt32.toNat).getD 0

/-- The length of the payload that the target takes for a command. -/
def NVMeoFTarget.takes (target : NVMeoFTarget) (cmd : NVMeCommand) : Nat :=
  if cmd.opcode = nvmeCmdWrite then target.blockLength cmd.nsid else 0

/-! ## Commands as they arrive -/

/-- A command as the calls build it. -/
structure Plain (cmd : NVMeCommand) : Prop where
  opcode :
    cmd.opcode = nvmeCmdRead ∨ cmd.opcode = nvmeCmdWrite ∨
      cmd.opcode = nvmeCmdFlush
  cdw10 : cmd.cdw10 = 0
  cdw11 : cmd.cdw11 = 0
  cdw12 : cmd.cdw12 = 0

/-- A command without the fields of its operation. -/
def NVMeCommand.bare (cmd : NVMeCommand) : NVMeCommand :=
  { cmd with rw := {}, identify := {}, fabrics := {} }

section Commands

variable
    {target : NVMeoFTarget}
    {connection : TargetConnection}
    {cmd : NVMeCommand}

theorem Plain.ne_fabrics (plain : Plain cmd) :
    cmd.opcode ≠ nvmeOpcodeFabrics := by
  rcases plain.opcode with same | same | same
  · rw [same]
    decide
  · rw [same]
    decide
  · rw [same]
    decide

theorem Plain.parse (plain : Plain cmd) :
    parseCommand (serializeCommand cmd) = .ok cmd.bare := by
  rw [parseCommand_serializeCommand plain.ne_fabrics,
    carried_of_unset plain.cdw10 plain.cdw11 plain.cdw12]
  rfl

/-- A command without fields names one block at the start. -/
theorem extent_bare (ns : TargetNamespace) :
    extent cmd.bare ns = (0, ns.blockSize) := by
  have offset : (0 : UInt64) * ns.blockSize.toUInt64 = 0 := by
    simp
  have length :
      ((0 : UInt16).toUInt32 + 1) * ns.blockSize = ns.blockSize := by
    simp
  exact Prod.ext offset length

theorem payloadLength_bare (nameless : connection.subsystemNqn = "") :
    payloadLength target connection cmd.bare = target.takes cmd := by
  rw [payloadLength, NVMeoFTarget.takes, NVMeoFTarget.blockLength,
    NVMeoFTarget.blockSizeAt, nameless]
  have opcode : cmd.bare.opcode = cmd.opcode := rfl
  have nsid : cmd.bare.nsid = cmd.nsid := rfl
  rw [opcode, nsid]
  split
  · cases target.namespaceAt "" cmd.nsid with
    | none => rfl
    | some ns =>
        change (extent cmd.bare ns).2.toNat = ns.blockSize.toNat
        rw [extent_bare]
  · rfl

theorem read_start_ne_panic
    (backend : MemoryBackend) (length : UInt32) (message : String) :
    backend.read 0 length ≠ .error (.panic message) := by
  rw [MemoryBackend.read]
  split
  · simp [errorf]
  · split
    · rename_i below
      simp at below
    · simp

theorem write_start_ne_panic
    (backend : MemoryBackend) (data : Bytes) (message : String) :
    backend.write 0 data ≠ .error (.panic message) := by
  rw [MemoryBackend.write]
  split
  · simp [errorf]
  · split
    · rename_i below
      simp at below
    · simp

theorem processReadCommand_bare :
    ∃ completion,
      (processReadCommand target connection cmd.bare).completion =
        .ok completion := by
  rw [processReadCommand]
  split
  · exact ⟨_, rfl⟩
  · split
    · exact ⟨_, rfl⟩
    · rename_i ns _
      simp only [extent_bare]
      split
      · rename_i message panics
        exact absurd panics (read_start_ne_panic _ _ _)
      · exact ⟨_, rfl⟩
      · exact ⟨_, rfl⟩

theorem processWriteCommand_bare :
    ∃ completion,
      (processWriteCommand target connection cmd.bare).completion =
        .ok completion := by
  rw [processWriteCommand]
  split
  · exact ⟨_, rfl⟩
  · split
    · exact ⟨_, rfl⟩
    · rename_i ns _
      simp only [extent_bare]
      split
      · exact ⟨_, rfl⟩
      · split
        · rename_i message panics
          exact absurd panics (write_start_ne_panic _ _ _)
        · exact ⟨_, rfl⟩
        · exact ⟨_, rfl⟩

theorem processFlushCommand_answers :
    ∃ completion,
      (processFlushCommand target connection cmd).completion =
        .ok completion := by
  rw [processFlushCommand]
  split
  · exact ⟨_, rfl⟩
  · split
    · exact ⟨_, rfl⟩
    · exact ⟨_, rfl⟩

/-- Processing a command without fields does not panic. -/
theorem processCommand_bare (plain : Plain cmd) :
    ∃ completion,
      (processCommand target connection cmd.bare).completion =
        .ok completion := by
  have readIdentify : nvmeCmdRead ≠ nvmeAdminIdentify := by decide
  have writeIdentify : nvmeCmdWrite ≠ nvmeAdminIdentify := by decide
  have writeRead : nvmeCmdWrite ≠ nvmeCmdRead := by decide
  have flushIdentify : nvmeCmdFlush ≠ nvmeAdminIdentify := by decide
  have flushRead : nvmeCmdFlush ≠ nvmeCmdRead := by decide
  have flushWrite : nvmeCmdFlush ≠ nvmeCmdWrite := by decide
  have opcode : cmd.bare.opcode = cmd.opcode := rfl
  rw [processCommand, opcode, if_neg plain.ne_fabrics]
  rcases plain.opcode with same | same | same
  · rw [same, if_neg readIdentify, if_pos rfl]
    exact processReadCommand_bare
  · rw [same, if_neg writeIdentify, if_neg writeRead, if_pos rfl]
    exact processWriteCommand_bare
  · rw [same, if_neg flushIdentify, if_neg flushRead, if_neg flushWrite,
      if_pos rfl]
    exact processFlushCommand_answers

end Commands

/-! ## Submissions in a stream -/

section Streams

variable
    {rounds : Nat}
    {target : NVMeoFTarget}
    {connection : TargetConnection}
    {submission : Submission}
    {rest : Bytes}

/-- The command at the front of the stream is read. -/
theorem readCommand_of_stream
    (fills : connection.conn.Fills 64)
    (stream : connection.conn.stream = submission.bytes ++ rest) :
    connection.conn.readCommand.1 =
      some (serializeCommand submission.command) := by
  have size := (serializeCommand submission.command).size
  rw [readCommand_eq_some_iff, fills, stream, Submission.bytes,
    List.append_assoc, ← size, List.take_left]

theorem stream_afterCommand
    (fills : connection.conn.Fills 64)
    (stream : connection.conn.stream = submission.bytes ++ rest) :
    connection.afterCommand.conn.stream = submission.data ++ rest := by
  have size := (serializeCommand submission.command).size
  change (connection.conn.read 64).2.stream = _
  rw [fills.stream_read, stream, Submission.bytes, List.append_assoc,
    ← size, List.drop_left]

/-- What the target takes for a command does not change. -/
theorem takes_processCommand (cmd other : NVMeCommand) :
    (processCommand target connection cmd).target.takes other =
      target.takes other := by
  have keeps : Keeps target connection (processCommand target connection cmd) :=
    processCommand_keeps
  rw [NVMeoFTarget.takes, NVMeoFTarget.takes, NVMeoFTarget.blockLength,
    NVMeoFTarget.blockLength, keeps.blockSizeAt]

/-- The message that is taken from the bytes of a submission. -/
theorem message_record
    (nameless : connection.subsystemNqn = "")
    (stream : connection.conn.stream = submission.data ++ rest)
    (fills :
      connection.conn.Fills
        (payloadLength target connection submission.command.bare)) :
    ((processCommand target connection submission.command.bare).record
          (serializeCommand submission.command)
          submission.command.bare).message =
      { buffer := serializeCommand submission.command
        asked := target.takes submission.command
        payload :=
          (submission.data ++ rest).take
            (target.takes submission.command) } := by
  have consumes :
      Consumes target connection submission.command.bare
        (processCommand target connection submission.command.bare) :=
    processCommand_consumes
  rw [Executed.message, Processed.record]
  simp only [consumes.asked, consumes.payload,
    receivedPayload_of_fills fills, stream, payloadLength_bare nameless]

theorem message_eq_iff :
    ({ buffer := serializeCommand submission.command
       asked := target.takes submission.command
       payload :=
        (submission.data ++ rest).take
          (target.takes submission.command) } : Message) =
        submission.message ↔
      submission.data.length = target.takes submission.command := by
  constructor
  · intro same
    exact (congrArg Message.asked same).symm
  · intro same
    rw [Submission.message, ← same, List.take_left]

/-- The target takes the data of a submission, and the rest is left. -/
theorem stream_answered
    (nameless : connection.subsystemNqn = "")
    (stream : connection.conn.stream = submission.data ++ rest)
    (fills :
      connection.conn.Fills
        (payloadLength target connection submission.command.bare))
    (taken : submission.data.length = target.takes submission.command)
    (completion : NVMeCompletion) :
    ((processCommand target connection submission.command.bare).answered
        completion).conn.stream =
      rest := by
  change
    (processCommand target connection
        submission.command.bare).connection.conn.stream =
      _
  rw [stream_processCommand fills, stream, payloadLength_bare nameless,
    ← taken, List.drop_left]

theorem subsystemNqn_answered
    (cmd : NVMeCommand) (completion : NVMeCompletion) :
    ((processCommand target connection cmd).answered
        completion).subsystemNqn =
      connection.subsystemNqn := by
  have keeps :
      Keeps target connection (processCommand target connection cmd) :=
    processCommand_keeps
  exact keeps.subsystemNqn

/--
The messages that the target takes from the bytes of submissions are those of
the submissions exactly if it takes the data of each.
-/
theorem messages_eq_iff
    {submitted : List Submission}
    (plain : ∀ submission ∈ submitted, Plain submission.command)
    (nameless : connection.subsystemNqn = "")
    (stream : connection.conn.stream = sent submitted)
    (fills : FillsReads rounds target connection)
    (enough : connection.conn.stream.length ≤ rounds) :
    (processCommands rounds target connection).executed.map
          Executed.message =
        submitted.map Submission.message ↔
      ∀ submission ∈ submitted,
        submission.data.length = target.takes submission.command := by
  induction submitted generalizing rounds target connection with
  | nil =>
      have unread : connection.conn.readCommand.1 = none := by
        cases read : connection.conn.readCommand.1 with
        | none => rfl
        | some buffer =>
            have long := length_stream_of_read read
            rw [stream] at long
            exact absurd long (by decide)
      simp [executed_of_unread unread]
  | cons submission later induction =>
      have split :
          connection.conn.stream = submission.bytes ++ sent later := by
        rw [stream, sent, List.flatMap_cons]
        rfl
      cases rounds with
      | zero =>
          have read := serializeCommand submission.command |>.size
          rw [split, Submission.bytes] at enough
          simp only [List.length_append, read] at enough
          omega
      | succ rounds =>
          have plainHead := plain submission (by simp)
          have read := readCommand_of_stream fills.1 split
          have after := stream_afterCommand fills.1 split
          have named : connection.afterCommand.subsystemNqn = "" := nameless
          rcases fills.2 _ _ read plainHead.parse with
            ⟨fillsPayload, fillsLater⟩
          rw [executed_of_parsed read plainHead.parse, List.map_cons,
            List.map_cons, List.cons.injEq, List.forall_mem_cons,
            message_record named after fillsPayload, message_eq_iff]
          apply and_congr_right
          intro taken
          rcases processCommand_bare plainHead with ⟨completion, completed⟩
          have nextStream :=
            stream_answered named after fillsPayload taken completion
          have sameNqn :=
            @subsystemNqn_answered target connection.afterCommand
              submission.command.bare completion
          have nextNamed := sameNqn.trans named
          have shorter :
              ((processCommand target connection.afterCommand
                      submission.command.bare).answered
                    completion).conn.stream.length + 64 ≤
                connection.conn.stream.length :=
            length_stream_answered read completion
          have fewer :
              ((processCommand target connection.afterCommand
                    submission.command.bare).answered
                  completion).conn.stream.length ≤
                rounds := by
            omega
          have next :=
            induction (fun other member => plain other (by simp [member]))
              nextNamed nextStream (fillsLater completion completed) fewer
          rw [Processed.later, completed]
          simp only [takes_processCommand] at next
          exact next

end Streams

/-! ## Submissions of calls -/

/-- What calls leave unchanged in an initiator. -/
structure SameCalls (initiator next : NVMeoFInitiator) : Prop where
  subsystems : next.subsystems = initiator.subsystems
  ioQueues : next.ioQueues.length = initiator.ioQueues.length

section Calls

variable
    {initiator : NVMeoFInitiator}
    {callback : Nat}
    {call : Call}

theorem SameCalls.accepted_iff
    {next : NVMeoFInitiator} (same : SameCalls initiator next) :
    call.Accepted next ↔ call.Accepted initiator := by
  have queues : next.ioQueues ≠ [] ↔ initiator.ioQueues ≠ [] := by
    rw [← List.length_pos_iff, ← List.length_pos_iff, same.ioQueues]
  cases call with
  | read nqn nsid lba numBlocks buffer =>
      rw [Call.Accepted, Call.Accepted, queues, Call.Valid, Call.Valid,
        same.subsystems]
  | write nqn nsid lba numBlocks buffer =>
      rw [Call.Accepted, Call.Accepted, queues, Call.Valid, Call.Valid,
        same.subsystems]
  | flush nqn nsid =>
      rw [Call.Accepted, Call.Accepted, queues, Call.Valid, Call.Valid]

/-- A command that is submitted on the queue in turn. -/
theorem pickQueue_submitOn
    (queues : initiator.ioQueues ≠ []) (cmd : NVMeCommand) (data : Bytes) :
    ∃ index picked commandId next,
      initiator.pickQueue = .ok (index, picked) ∧
        picked.submitOn index cmd data callback =
          (.ok
              { command := { cmd with commandId := commandId }
                data := data },
            next) ∧
        SameCalls initiator next := by
  have positive := List.length_pos_iff.mpr queues
  have below :
      initiator.queueCursor.toNat % initiator.ioQueues.length <
        initiator.ioQueues.length :=
    Nat.mod_lt _ positive
  have pick :
      initiator.pickQueue =
        .ok
          (initiator.queueCursor.toNat % initiator.ioQueues.length,
            { initiator with
              queueCursor := initiator.queueCursor + 1 }) := by
    rw [NVMeoFInitiator.pickQueue,
      if_neg (Nat.pos_iff_ne_zero.mp positive)]
  let queue :=
    initiator.ioQueues[initiator.queueCursor.toNat %
      initiator.ioQueues.length]
  refine
    ⟨_, _, queue.nextCmdId,
      { initiator with
        queueCursor := initiator.queueCursor + 1
        ioQueues :=
          initiator.ioQueues.set
            (initiator.queueCursor.toNat % initiator.ioQueues.length)
            (queue.submitCommand cmd data callback).2 },
      pick, ?_, rfl, List.length_set⟩
  rw [NVMeoFInitiator.submitOn]
  simp only [List.getElem?_eq_getElem below]
  rfl

theorem transfer_refused
    {opcode : UInt8} {nqn : String} {nsid : UInt32} {lba : UInt64}
    {numBlocks : UInt32} {buffer : Bytes}
    (refused :
      ¬ (initiator.ioQueues ≠ [] ∧
          ∃ subsys ns,
            initiator.subsystems.get? nqn = some subsys ∧
              subsys.namespaces.get? nsid = some ns ∧
              numBlocks.toNat * ns.blockSize.toNat ≤ buffer.length)) :
    ∃ fault,
      initiator.transfer opcode nqn nsid lba numBlocks buffer callback =
        (.error fault, initiator) := by
  rw [NVMeoFInitiator.transfer]
  cases found : initiator.subsystems.get? nqn with
  | none => exact ⟨_, rfl⟩
  | some subsys =>
      cases present : subsys.namespaces.get? nsid with
      | none =>
          simp only [present]
          exact ⟨_, rfl⟩
      | some ns =>
          simp only [present]
          split
          · exact ⟨_, rfl⟩
          · rename_i enough
            have empty : initiator.ioQueues.length = 0 := by
              rw [List.length_eq_zero_iff]
              by_contra queues
              exact
                refused
                  ⟨queues, subsys, ns, found, present,
                    Nat.le_of_not_lt enough⟩
            rw [NVMeoFInitiator.pickQueue, if_pos empty]
            exact ⟨_, rfl⟩

theorem transfer_accepted
    {opcode : UInt8} {nqn : String} {nsid : UInt32} (lba : UInt64)
    {numBlocks : UInt32} {buffer : Bytes}
    {subsys : ConnectedSubsystem} {ns : Namespace}
    (queues : initiator.ioQueues ≠ [])
    (found : initiator.subsystems.get? nqn = some subsys)
    (present : subsys.namespaces.get? nsid = some ns)
    (enough : numBlocks.toNat * ns.blockSize.toNat ≤ buffer.length) :
    ∃ commandId next,
      initiator.transfer opcode nqn nsid lba numBlocks buffer callback =
          (.ok
              { command :=
                  { opcode := opcode
                    nsid := nsid
                    rw :=
                      { slba := lba
                        length := (numBlocks - 1).toUInt16 }
                    commandId := commandId }
                data := buffer },
            next) ∧
        SameCalls initiator next := by
  rcases pickQueue_submitOn queues
      { opcode := opcode
        nsid := nsid
        rw := { slba := lba, length := (numBlocks - 1).toUInt16 } }
      buffer with
    ⟨index, picked, commandId, next, pick, submit, same⟩
  refine ⟨commandId, next, ?_, same⟩
  rw [NVMeoFInitiator.transfer, found]
  simp only [present]
  rw [if_neg (Nat.not_lt.mpr enough), pick]
  exact submit

/-- A call that is accepted submits its command and data. -/
theorem perform_accepted
    (accepted : call.Accepted initiator) (callback : Nat) :
    ∃ commandId next,
      call.perform initiator callback =
          (.ok
              { command := { call.command with commandId := commandId }
                data := call.data },
            next) ∧
        SameCalls initiator next := by
  rcases accepted with ⟨queues, valid⟩
  cases call with
  | read nqn nsid lba numBlocks buffer =>
      rcases valid with ⟨subsys, ns, found, present, enough⟩
      exact transfer_accepted lba queues found present enough
  | write nqn nsid lba numBlocks buffer =>
      rcases valid with ⟨subsys, ns, found, present, enough⟩
      exact transfer_accepted lba queues found present enough
  | flush nqn nsid =>
      rcases pickQueue_submitOn queues
          { opcode := nvmeCmdFlush, nsid := nsid } [] with
        ⟨index, picked, commandId, next, pick, submit, same⟩
      refine ⟨commandId, next, ?_, same⟩
      rw [Call.perform, NVMeoFInitiator.flush, pick]
      exact submit

theorem perform_refused
    (refused : ¬ call.Accepted initiator) (callback : Nat) :
    ∃ fault, call.perform initiator callback = (.error fault, initiator) := by
  cases call with
  | read nqn nsid lba numBlocks buffer => exact transfer_refused refused
  | write nqn nsid lba numBlocks buffer => exact transfer_refused refused
  | flush nqn nsid =>
      have empty : initiator.ioQueues.length = 0 := by
        rw [List.length_eq_zero_iff]
        by_contra queues
        exact refused ⟨queues, trivial⟩
      rw [Call.perform, NVMeoFInitiator.flush, NVMeoFInitiator.pickQueue,
        if_pos empty]
      exact ⟨_, rfl⟩

theorem plain_command (call : Call) (commandId : UInt16) :
    Plain { call.command with commandId := commandId } := by
  cases call with
  | read nqn nsid lba numBlocks buffer =>
      exact ⟨Or.inl rfl, rfl, rfl, rfl⟩
  | write nqn nsid lba numBlocks buffer =>
      exact ⟨Or.inr (Or.inl rfl), rfl, rfl, rfl⟩
  | flush nqn nsid => exact ⟨Or.inr (Or.inr rfl), rfl, rfl, rfl⟩

/-- What holds of the submissions, in terms of the calls. -/
theorem forall_submissions_iff
    {calls : List Call} (property : Submission → Prop)
    (requirement : Call → Prop)
    (agree :
      ∀ call commandId,
        property
            { command := { call.command with commandId := commandId }
              data := call.data } ↔
          requirement call) :
    (∀ submission ∈ submissions initiator calls, property submission) ↔
      ∀ call ∈ calls, call.Accepted initiator → requirement call := by
  induction calls generalizing initiator with
  | nil => simp [submissions]
  | cons call rest induction =>
      rw [submissions, List.forall_mem_cons]
      by_cases accepted : call.Accepted initiator
      · rcases perform_accepted accepted rest.length with
          ⟨commandId, next, performed, same⟩
        simp only [performed, List.forall_mem_cons, agree, induction,
          same.accepted_iff, accepted, forall_const]
      · rcases perform_refused accepted rest.length with
          ⟨fault, performed⟩
        simp only [performed, induction, accepted, false_implies, true_and]

end Calls

/-! ## Streams of calls -/

/-- What has not been read arrives at once. -/
def Conn.Single (conn : Conn) : Prop :=
  ∃ stream, conn.incoming = [stream] ∨ conn.incoming = []

theorem Conn.Single.fills
    {conn : Conn} (single : conn.Single) (length : Nat) :
    conn.Fills length := by
  rcases single with ⟨stream, incoming⟩
  exact fills_of_single incoming length

theorem Conn.Single.read
    {conn : Conn} (single : conn.Single) (length : Nat) :
    (conn.read length).2.Single := by
  rcases single with ⟨stream, incoming⟩
  rw [Conn.read]
  split
  · exact ⟨stream, incoming⟩
  · rcases incoming with incoming | incoming
    · simp only [incoming]
      split
      · exact ⟨[], Or.inr rfl⟩
      · exact ⟨stream.drop length, Or.inl rfl⟩
    · simp only [incoming]
      exact ⟨[], Or.inr incoming⟩

/-- A connection whose bytes arrive at once fills every read. -/
theorem fillsReads_of_single
    {rounds : Nat} {target : NVMeoFTarget} {connection : TargetConnection}
    (single : connection.conn.Single) :
    FillsReads rounds target connection := by
  induction rounds generalizing target connection with
  | zero => trivial
  | succ rounds induction =>
      have after : connection.afterCommand.conn.Single := single.read 64
      refine ⟨single.fills 64, ?_⟩
      intro buffer command read parsed
      refine ⟨after.fills _, ?_⟩
      intro completion completed
      have consumes :
          Consumes target connection.afterCommand command
            (processCommand target connection.afterCommand command) :=
        processCommand_consumes
      rcases after.read
          (payloadLength target connection.afterCommand command) with
        ⟨stream, incoming⟩
      have answered :
          ((processCommand target connection.afterCommand
              command).answered completion).conn.Single := by
        refine ⟨stream, ?_⟩
        change
          (processCommand target connection.afterCommand
                command).connection.conn.incoming =
              [stream] ∨
            (processCommand target connection.afterCommand
                command).connection.conn.incoming =
              []
        rw [consumes.incoming]
        exact incoming
      exact induction answered

/-- A stream that arrives at once fills every read. -/
theorem whole_of_single (target : NVMeoFTarget) (stream : Bytes) :
    Whole target [stream] :=
  fillsReads_of_single ⟨stream, Or.inl rfl⟩

/--
When every read returns all bytes asked for, the target takes exactly the
commands and data of the calls if and only if each call that is accepted sends
as much data as the target takes for its command.
-/
theorem framed_iff
    {initiator : NVMeoFInitiator} {target : NVMeoFTarget}
    {calls : List Call} {incoming : List Bytes}
    (delivered : incoming.flatten = sent (submissions initiator calls))
    (whole : Whole target incoming) :
    (handleConnection target incoming).executed.map Executed.message =
        (submissions initiator calls).map Submission.message ↔
      ∀ call ∈ calls,
        call.Accepted initiator →
          call.data.length = target.takes call.command := by
  have plain :
      ∀ submission ∈ submissions initiator calls,
        Plain submission.command := by
    rw [forall_submissions_iff (fun submission => Plain submission.command)
      (fun _ => True)
      (fun call commandId =>
        ⟨fun _ => trivial, fun _ => plain_command call commandId⟩)]
    exact fun _ _ _ => trivial
  have stream :
      (newConnection incoming).conn.stream =
        sent (submissions initiator calls) :=
    delivered
  have messages :=
    messages_eq_iff plain rfl stream whole (Nat.le_refl _)
  exact messages.trans (forall_submissions_iff _ _ fun _ _ => Iff.rfl)

/-- A host with one queue that is connected to a namespace. -/
def connectedHost : NVMeoFInitiator where
  subsystems :=
    Dict.empty.set "data"
      { nqn := "data"
        namespaces := Dict.empty.set 1 { nsid := 1, blockSize := 4096 } }
  ioQueues := [{ qid := 1 }]

theorem flush_framed :
    let calls : List Call := [.flush "data" 1, .flush "data" 1]
    (handleConnection {} [sent (submissions connectedHost calls)]
          ).executed.map Executed.message =
      (submissions connectedHost calls).map Submission.message := by
  apply (framed_iff (List.append_nil _) (whole_of_single _ _)).mpr
  simp [Call.data, Call.command, NVMeoFTarget.takes, nvmeCmdFlush,
    nvmeCmdWrite]

/-- The block of a write is executed as commands. -/
theorem write_unframed :
    let calls : List Call := [.write "data" 1 0 1 (zeros 4096)]
    (handleConnection {} [sent (submissions connectedHost calls)]
          ).executed.map Executed.message ≠
      (submissions connectedHost calls).map Submission.message := by
  decide +kernel

end StorageAppliance.NVMeoF
