import StorageAppliance.Library.Dict
import StorageAppliance.NVMeoF.Command

/-!
# The NVMe-oF target

The server side of `nvmeof/target.go`: subsystems with their namespaces in
memory, the handlers of the five kinds of commands, and the loop that serves a
connection.

A connection is the list of the byte sequences that arrive one after the other.
A read takes bytes from the first of them only, so that it can return fewer
bytes than it asks for.  The record of a processed command keeps the payload
that was read for it, which the target itself does not.

A panic ends the whole program.  Times, unread identifiers and statistics that
no function reads are left out.
-/

namespace StorageAppliance.NVMeoF

open StorageAppliance.Go
open StorageAppliance.Library

/-! ## Storage -/

/-- In-memory storage. -/
structure MemoryBackend where
  data : Bytes
deriving DecidableEq

def newMemoryBackend (size : UInt64) : MemoryBackend where
  data := zeros size.toNat

def MemoryBackend.size (backend : MemoryBackend) : UInt64 :=
  UInt64.ofNat backend.data.length

def MemoryBackend.read
    (backend : MemoryBackend) (offset : UInt64) (length : UInt32) :
    Except Fault Bytes :=
  let stop := offset + length.toUInt64
  if backend.size < stop then
    .error (errorf "read beyond end of device")
  else if stop < offset then
    .error
      (.panic
        ("slice bounds out of range [" ++ decimal offset.toNat ++ ":" ++
          decimal stop.toNat ++ "]"))
  else
    .ok ((backend.data.take stop.toNat).drop offset.toNat)

def MemoryBackend.write
    (backend : MemoryBackend) (offset : UInt64) (data : Bytes) :
    Except Fault MemoryBackend :=
  if backend.size < offset + UInt64.ofNat data.length then
    .error (errorf "write beyond end of device")
  else if backend.size < offset then
    .error
      (.panic
        ("slice bounds out of range [" ++ decimal offset.toNat ++ ":" ++
          decimal backend.data.length ++ "]"))
  else
    .ok
      { data :=
          backend.data.take offset.toNat ++
            copy (backend.data.drop offset.toNat) data }

/-- Flushing memory never fails. -/
def MemoryBackend.flush (_ : MemoryBackend) : Except Fault Unit :=
  .ok ()

/-! ## Structures -/

structure TargetNamespace where
  nsid : UInt32
  size : UInt64
  blockSize : UInt32
  backend : MemoryBackend
deriving DecidableEq

structure TargetQueue where
  queueId : UInt16
  queueSize : UInt16
deriving DecidableEq

structure TargetController where
  controllerId : UInt16
  hostNqn : String
  adminQueue : Option TargetQueue := none
  ioQueues : Dict UInt16 TargetQueue := Dict.empty
deriving DecidableEq

structure Subsystem where
  subsystemNqn : String
  namespaces : Dict UInt32 TargetNamespace := Dict.empty
  controllers : Dict UInt16 TargetController := Dict.empty
  nextCtrlId : UInt16 := 1
  allowedHosts : Dict String Bool := Dict.empty
deriving DecidableEq

structure NVMeoFTarget where
  subsystems : Dict String Subsystem := Dict.empty
deriving DecidableEq

/-- The bytes that arrive in successive reads, and those that were sent. -/
structure Conn where
  incoming : List Bytes := []
  outgoing : Bytes := []
deriving DecidableEq

structure TargetConnection where
  conn : Conn := {}
  hostNqn : String := ""
  subsystemNqn : String := ""
  controller : Option TargetController := none
deriving DecidableEq

/-! ## Configuration -/

def NVMeoFTarget.createSubsystem (target : NVMeoFTarget) (nqn : String) :
    Except Fault NVMeoFTarget :=
  match target.subsystems.get? nqn with
  | some _ => .error (errorf ("subsystem already exists: " ++ nqn))
  | none =>
      .ok
        { target with
          subsystems := target.subsystems.set nqn { subsystemNqn := nqn } }

def Subsystem.addNamespace
    (subsystem : Subsystem) (nsid : UInt32) (size : UInt64)
    (blockSize : UInt32) : Except Fault Subsystem :=
  match subsystem.namespaces.get? nsid with
  | some _ =>
      .error
        (errorf ("namespace " ++ decimal nsid.toNat ++ " already exists"))
  | none =>
      .ok
        { subsystem with
          namespaces :=
            subsystem.namespaces.set nsid
              { nsid := nsid
                size := size
                blockSize := blockSize
                backend := newMemoryBackend size } }

def Subsystem.allowHost (subsystem : Subsystem) (hostNqn : String) :
    Subsystem :=
  { subsystem with
    allowedHosts := subsystem.allowedHosts.set hostNqn true }

/-- Whether a host is allowed, which a host without an entry is not. -/
def Subsystem.allows (subsystem : Subsystem) (hostNqn : String) : Bool :=
  (subsystem.allowedHosts.get? hostNqn).getD false

/-! ## Connections -/

/-- `conn.Read` into a buffer of a given length, without a result at the end. -/
def Conn.read (conn : Conn) (length : Nat) : Option Bytes × Conn :=
  if length = 0 then
    (some [], conn)
  else
    match conn.incoming with
    | [] => (none, conn)
    | chunk :: rest =>
        (some (chunk.take length),
          { conn with
            incoming :=
              if chunk.length ≤ length then
                rest
              else
                chunk.drop length :: rest })

/-- `conn.Write`. -/
def Conn.write (conn : Conn) (data : Bytes) : Conn :=
  { conn with outgoing := conn.outgoing ++ data }

def TargetConnection.write (connection : TargetConnection) (data : Bytes) :
    TargetConnection :=
  { connection with conn := connection.conn.write data }

/-! ## Commands -/

/-- What processing a command leaves behind. -/
structure Processed where
  completion : Except Fault NVMeCompletion
  target : NVMeoFTarget
  connection : TargetConnection
  asked : Nat := 0
  payload : Bytes := []
deriving DecidableEq

/-- A buffer with bytes placed at an offset. -/
def place (buffer : Bytes) (offset : Nat) (bytes : Bytes) : Bytes :=
  buffer.take offset ++ bytes ++ buffer.drop (offset + bytes.length)

section Processing

variable
    (target : NVMeoFTarget)
    (connection : TargetConnection)
    (cmd : NVMeCommand)

/-- A command that completes with a status and changes nothing. -/
def completed (status : UInt16) : Processed where
  completion := .ok { commandId := cmd.commandId, status := status }
  target := target
  connection := connection

def processFabricsCommand : Processed :=
  if cmd.fabrics.fcType = nvmeFabricsTypeConnect then
    match target.subsystems.get? connection.subsystemNqn with
    | none => completed target connection cmd nvmeStatusInvalidField
    | some subsystem =>
        if subsystem.allows connection.hostNqn = false then
          completed target connection cmd nvmeStatusInvalidField
        else
          let ctrlId := subsystem.nextCtrlId
          let controller : TargetController :=
            if cmd.fabrics.qid = 0 then
              { controllerId := ctrlId
                hostNqn := connection.hostNqn
                adminQueue := some { queueId := 0, queueSize := 32 } }
            else
              { controllerId := ctrlId
                hostNqn := connection.hostNqn
                ioQueues :=
                  Dict.empty.set cmd.fabrics.qid
                    { queueId := cmd.fabrics.qid
                      queueSize := cmd.fabrics.sqSize } }
          { completion :=
              .ok
                { commandId := cmd.commandId
                  status := nvmeStatusSuccess
                  dw0 := ctrlId.toUInt32 }
            target :=
              { target with
                subsystems :=
                  target.subsystems.set connection.subsystemNqn
                    { subsystem with
                      nextCtrlId := ctrlId + 1
                      controllers :=
                        subsystem.controllers.set ctrlId controller } }
            connection :=
              { connection with controller := some controller } }
  else
    completed target connection cmd nvmeStatusSuccess

def processIdentifyCommand : Processed :=
  match target.subsystems.get? connection.subsystemNqn with
  | none => completed target connection cmd nvmeStatusInternalError
  | some subsystem =>
      if cmd.identify.cns = nvmeIdCnsCtrl then
        let nn := UInt32.ofNat subsystem.namespaces.items.length
        completed target
          (connection.write (place (zeros 4096) 516 (putUint32 nn))) cmd
          nvmeStatusSuccess
      else if cmd.identify.cns = nvmeIdCnsNs then
        match subsystem.namespaces.get? cmd.nsid with
        | none => completed target connection cmd nvmeStatusInvalidField
        | some ns =>
            if ns.blockSize = 0 then
              { completion :=
                  .error (.panic "runtime error: integer divide by zero")
                target := target
                connection := connection }
            else
              let nsze := ns.size / ns.blockSize.toUInt64
              completed target
                (connection.write
                  (place (place (zeros 4096) 0 (putUint64 nsze)) 128 [12]))
                cmd nvmeStatusSuccess
      else
        completed target connection cmd nvmeStatusSuccess

/-- The offset and length of a read or a write in a namespace. -/
def extent (ns : TargetNamespace) : UInt64 × UInt32 :=
  (cmd.rw.slba * ns.blockSize.toUInt64,
    (cmd.rw.length.toUInt32 + 1) * ns.blockSize)

def processReadCommand : Processed :=
  match target.subsystems.get? connection.subsystemNqn with
  | none => completed target connection cmd nvmeStatusInternalError
  | some subsystem =>
      match subsystem.namespaces.get? cmd.nsid with
      | none => completed target connection cmd nvmeStatusInvalidField
      | some ns =>
          let (offset, length) := extent cmd ns
          match ns.backend.read offset length with
          | .error (.panic message) =>
              { completion := .error (.panic message)
                target := target
                connection := connection }
          | .error (.error _) =>
              completed target connection cmd nvmeStatusDataXferError
          | .ok data =>
              completed target (connection.write data) cmd nvmeStatusSuccess

def processWriteCommand : Processed :=
  match target.subsystems.get? connection.subsystemNqn with
  | none => completed target connection cmd nvmeStatusInternalError
  | some subsystem =>
      match subsystem.namespaces.get? cmd.nsid with
      | none => completed target connection cmd nvmeStatusInvalidField
      | some ns =>
          let (offset, length) := extent cmd ns
          let (read, conn) := connection.conn.read length.toNat
          let data := read.getD []
          let connection := { connection with conn := conn }
          if read = none ∨ data.length < length.toNat then
            { completed target connection cmd nvmeStatusDataXferError with
              asked := length.toNat
              payload := data }
          else
            match ns.backend.write offset data with
            | .error (.panic message) =>
                { completion := .error (.panic message)
                  target := target
                  connection := connection
                  asked := length.toNat
                  payload := data }
            | .error (.error _) =>
                { completed target connection cmd nvmeStatusDataXferError with
                  asked := length.toNat
                  payload := data }
            | .ok backend =>
                { completion :=
                    .ok
                      { commandId := cmd.commandId
                        status := nvmeStatusSuccess }
                  target :=
                    { target with
                      subsystems :=
                        target.subsystems.set connection.subsystemNqn
                          { subsystem with
                            namespaces :=
                              subsystem.namespaces.set cmd.nsid
                                { ns with backend := backend } } }
                  connection := connection
                  asked := length.toNat
                  payload := data }

def processFlushCommand : Processed :=
  match target.subsystems.get? connection.subsystemNqn with
  | none => completed target connection cmd nvmeStatusInternalError
  | some subsystem =>
      match subsystem.namespaces.get? cmd.nsid with
      | none => completed target connection cmd nvmeStatusInvalidField
      | some ns =>
          match ns.backend.flush with
          | .error _ => completed target connection cmd nvmeStatusInternalError
          | .ok () => completed target connection cmd nvmeStatusSuccess

def processCommand : Processed :=
  if cmd.opcode = nvmeOpcodeFabrics then
    processFabricsCommand target connection cmd
  else if cmd.opcode = nvmeAdminIdentify then
    processIdentifyCommand target connection cmd
  else if cmd.opcode = nvmeCmdRead then
    processReadCommand target connection cmd
  else if cmd.opcode = nvmeCmdWrite then
    processWriteCommand target connection cmd
  else if cmd.opcode = nvmeCmdFlush then
    processFlushCommand target connection cmd
  else
    completed target connection cmd nvmeStatusInvalidOpcode

end Processing

/-! ## Serving a connection -/

/-- A command that the target processed. -/
structure Executed where
  buffer : CommandBuffer
  command : NVMeCommand
  asked : Nat
  payload : Bytes
  completion : Except Fault NVMeCompletion
deriving DecidableEq

/-- What serving a connection leaves behind. -/
structure Served where
  executed : List Executed := []
  target : NVMeoFTarget
  connection : TargetConnection
deriving DecidableEq

/-- The next command, unless the read fails or is short. -/
def Conn.readCommand (conn : Conn) : Option CommandBuffer × Conn :=
  match conn.read 64 with
  | (none, rest) => (none, rest)
  | (some bytes, rest) =>
      if size : bytes.length = 64 then
        (some { bytes := bytes, size := size }, rest)
      else
        (none, rest)

/-- At most the given number of rounds of the loop that processes commands. -/
def processCommands : Nat → NVMeoFTarget → TargetConnection → Served
  | 0, target, connection => { target := target, connection := connection }
  | rounds + 1, target, connection =>
      match connection.conn.readCommand with
      | (none, conn) =>
          { target := target
            connection := { connection with conn := conn } }
      | (some buffer, conn) =>
          let connection := { connection with conn := conn }
          match parseCommand buffer with
          | .error _ => { target := target, connection := connection }
          | .ok command =>
              let processed := processCommand target connection command
              let executed : Executed :=
                { buffer := buffer
                  command := command
                  asked := processed.asked
                  payload := processed.payload
                  completion := processed.completion }
              match processed.completion with
              | .error _ =>
                  { executed := [executed]
                    target := processed.target
                    connection := processed.connection }
              | .ok completion =>
                  let served :=
                    processCommands rounds processed.target
                      (processed.connection.write
                        (serializeCompletion completion).bytes)
                  { served with executed := executed :: served.executed }

/-- The number of bytes that have not been read. -/
def Conn.available (conn : Conn) : Nat :=
  conn.incoming.flatten.length

/-- Serve a connection to its end.  A round takes at least one byte. -/
def handleConnection (target : NVMeoFTarget) (incoming : List Bytes) :
    Served :=
  let connection : TargetConnection := { conn := { incoming := incoming } }
  processCommands connection.conn.available target connection

end StorageAppliance.NVMeoF
