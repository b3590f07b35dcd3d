import StorageAppliance.Library.Dict
import StorageAppliance.NVMeoF.Command

/-!
# The NVMe-oF initiator

The host side of `nvmeof/initiator.go`: queues of pending commands, the calls
that read, write and flush, and the dispatch of completions.

Command identifiers are counted by each queue on its own and wrap at 16 bits.  A
command is sent as its 64 bytes, followed by the buffer of the call if there is
one.  A callback is represented by a number.  Times, queue sizes, statistics and
the results that a caller waits for are left out.
-/

namespace StorageAppliance.NVMeoF

open StorageAppliance.Go
open StorageAppliance.Library

/-! ## Structures -/

structure Namespace where
  nsid : UInt32
  capacityBlocks : UInt64 := 0
  blockSize : UInt32
deriving DecidableEq

structure ConnectedSubsystem where
  nqn : String
  namespaces : Dict UInt32 Namespace := Dict.empty
deriving DecidableEq

/-- A command that waits for its completion. -/
structure PendingCommand where
  commandId : UInt16
  callback : Nat
  dataBuffer : Bytes := []
deriving DecidableEq

/-- The commands of an I/O queue or of the admin queue. -/
structure CommandQueue where
  qid : UInt16
  nextCmdId : UInt16 := 0
  pending : Dict UInt16 PendingCommand := Dict.empty
deriving DecidableEq

structure NVMeoFInitiator where
  subsystems : Dict String ConnectedSubsystem := Dict.empty
  ioQueues : List CommandQueue := []
  adminQueue : CommandQueue := { qid := 0 }
  queueCursor : UInt32 := 0
deriving DecidableEq

/-- A command that was sent on a queue, with the data sent after it. -/
structure Submission where
  command : NVMeCommand
  data : Bytes := []
deriving DecidableEq

/-- The bytes that a submission puts on the connection. -/
def Submission.bytes (submission : Submission) : Bytes :=
  (serializeCommand submission.command).bytes ++ submission.data

/-- A callback with the arguments that it is called with. -/
structure Invocation where
  callback : Nat
  status : UInt16
  result : UInt64
deriving DecidableEq

/-! ## Queues -/

/-- Give a command the next identifier and store it as pending. -/
def CommandQueue.enqueue
    (queue : CommandQueue) (cmd : NVMeCommand) (data : Bytes)
    (callback : Nat) : NVMeCommand × CommandQueue :=
  let cid := queue.nextCmdId
  ({ cmd with commandId := cid },
    { queue with
      nextCmdId := cid + 1
      pending :=
        queue.pending.set cid
          { commandId := cid
            callback := callback
            dataBuffer := data } })

/-- `IOQueue.SubmitCommand`. -/
def CommandQueue.submitCommand
    (queue : CommandQueue) (cmd : NVMeCommand) (data : Bytes)
    (callback : Nat) : Submission × CommandQueue :=
  let (command, queue) := queue.enqueue cmd data callback
  ({ command := command, data := data }, queue)

/-- `AdminQueue.SubmitCommandSync`, which sends no data. -/
def CommandQueue.submitCommandSync
    (queue : CommandQueue) (cmd : NVMeCommand) (callback : Nat) :
    Submission × CommandQueue :=
  let (command, queue) := queue.enqueue cmd [] callback
  ({ command := command }, queue)

/-- Remove the command that a completion names, and call its callback. -/
def CommandQueue.handleCompletion
    (queue : CommandQueue) (completion : NVMeCompletion) :
    Option Invocation × CommandQueue :=
  match queue.pending.get? completion.commandId with
  | none => (none, queue)
  | some pending =>
      (some
          { callback := pending.callback
            status := completion.status
            result := completion.dw0.toUInt64 },
        { queue with
          pending := queue.pending.erase completion.commandId })

namespace NVMeoFInitiator

variable (initiator : NVMeoFInitiator)

/-! ## Calls -/

/-- The index of the next queue in turn. -/
def pickQueue : Except Fault (Nat × NVMeoFInitiator) :=
  if initiator.ioQueues.length = 0 then
    .error (errorf "no I/O queues available")
  else
    .ok
      (initiator.queueCursor.toNat % initiator.ioQueues.length,
        { initiator with queueCursor := initiator.queueCursor + 1 })

/-- Submit a command on an I/O queue. -/
def submitOn
    (index : Nat) (cmd : NVMeCommand) (data : Bytes) (callback : Nat) :
    Except Fault Submission × NVMeoFInitiator :=
  match initiator.ioQueues[index]? with
  | none => (.error (.panic "index out of range"), initiator)
  | some queue =>
      let (submission, queue) := queue.submitCommand cmd data callback
      (.ok submission,
        { initiator with ioQueues := initiator.ioQueues.set index queue })

/-- The common part of `Read` and `Write`. -/
def transfer
    (opcode : UInt8) (nqn : String) (nsid : UInt32) (lba : UInt64)
    (numBlocks : UInt32) (buffer : Bytes) (callback : Nat) :
    Except Fault Submission × NVMeoFInitiator :=
  match initiator.subsystems.get? nqn with
  | none => (.error (errorf "subsystem not connected"), initiator)
  | some subsys =>
      match subsys.namespaces.get? nsid with
      | none => (.error (errorf "namespace not found"), initiator)
      | some ns =>
          if buffer.length < numBlocks.toNat * ns.blockSize.toNat then
            (.error (errorf "buffer too small"), initiator)
          else
            match initiator.pickQueue with
            | .error fault => (.error fault, initiator)
            | .ok (index, initiator) =>
                initiator.submitOn index
                  { opcode := opcode
                    nsid := nsid
                    rw :=
                      { slba := lba
                        length := (numBlocks - 1).toUInt16 } }
                  buffer callback

def read
    (nqn : String) (nsid : UInt32) (lba : UInt64) (numBlocks : UInt32)
    (buffer : Bytes) (callback : Nat) :
    Except Fault Submission × NVMeoFInitiator :=
  initiator.transfer nvmeCmdRead nqn nsid lba numBlocks buffer callback

def write
    (nqn : String) (nsid : UInt32) (lba : UInt64) (numBlocks : UInt32)
    (buffer : Bytes) (callback : Nat) :
    Except Fault Submission × NVMeoFInitiator :=
  initiator.transfer nvmeCmdWrite nqn nsid lba numBlocks buffer callback

/-- A flush does not look at the subsystem that it names. -/
def flush (_nqn : String) (nsid : UInt32) (callback : Nat) :
    Except Fault Submission × NVMeoFInitiator :=
  match initiator.pickQueue with
  | .error fault => (.error fault, initiator)
  | .ok (index, initiator) =>
      initiator.submitOn index { opcode := nvmeCmdFlush, nsid := nsid } []
        callback

/-! ## Completions -/

/-- Hand a completion to the queue that it names. -/
def dispatchCompletion (completion : NVMeCompletion) :
    Option Invocation × NVMeoFInitiator :=
  if completion.sqid = 0 then
    let (invoked, queue) := initiator.adminQueue.handleCompletion completion
    (invoked, { initiator with adminQueue := queue })
  else
    match
      initiator.ioQueues.findIdx? fun queue => queue.qid = completion.sqid
    with
    | none => (none, initiator)
    | some index =>
        match initiator.ioQueues[index]? with
        | none => (none, initiator)
        | some queue =>
            let (invoked, queue) := queue.handleCompletion completion
            (invoked,
              { initiator with
                ioQueues := initiator.ioQueues.set index queue })

/-- One round of `createIOQueues`, after its connect was accepted. -/
def createIoQueue (index : Nat) : NVMeoFInitiator :=
  { initiator with
    ioQueues :=
      initiator.ioQueues ++ [{ qid := UInt16.ofNat (index + 1) }] }

end NVMeoFInitiator

end StorageAppliance.NVMeoF
