import StorageAppliance.NVMeoF.BlockCounts
import StorageAppliance.NVMeoF.Fragmentation
import StorageAppliance.NVMeoF.Geometry

/-!
# Hosts that connect

A host connects to a subsystem in steps (`ConnectSubsystem`): a connect command,
an identification of the controller and of each namespace, and a connect command
for each I/O queue.  Each step sends a command on the admin queue and waits for
the callback of its completion, for the end of its context or for a timer.  Any
number of calls may be under way, and completions arrive in between.

The identify buffers are handed to a queue that neither sends nor fills them.  So
whatever completions a peer sends, no subsystem gets a namespace, and no read and
no write is ever sent (`host_transfers_nothing`).  With a target of this
repository the host does not come so far: its first command makes the target
panic, and no call connects (`host_never_connects`).

A record of a subsystem is shared with the call that made it, so the host knows
whose record stands in its map.  `ConnectedAt` and the identifiers of controllers
are left out, as no function reads them.
-/

namespace StorageAppliance.NVMeoF

open StorageAppliance.Go
open StorageAppliance.Library

/-! ## Hosts -/

/-- What a call of `ConnectSubsystem` waits for, or what it has returned. -/
inductive ConnectStage where
  | connecting
  | identifyingController
  | identifyingNamespace (nsid count : UInt32)
  | creatingQueue (index : Nat)
  | returned (failure : Option Fault)
deriving DecidableEq

/-- A call of `ConnectSubsystem`, with the callback that it waits for. -/
structure ConnectCall where
  nqn : String
  callback : Nat
  stage : ConnectStage
deriving DecidableEq

/-- A host, with its calls and all that it has sent. -/
structure Host where
  ioQueueCount : Nat
  ioQueueSize : UInt16
  initiator : NVMeoFInitiator := {}
  calls : List ConnectCall := []
  owners : Dict String Nat := Dict.empty
  results : Dict Nat Invocation := Dict.empty
  callbacks : Nat := 0
  sent : List Submission := []
deriving DecidableEq

/-- What ends a wait. -/
inductive Wakeup where
  | completed
  | cancelled (error : GoError)
  | timedOut
deriving DecidableEq

/-- What happens at a host. -/
inductive HostStep where
  | connectSubsystem (nqn : String)
  | resume (index : Nat) (wakeup : Wakeup)
  | complete (completion : NVMeCompletion)
  | transfer (transfer : Transfer) (nqn : String) (nsid : UInt32)
      (lba : UInt64) (numBlocks : UInt32) (buffer : Bytes)
  | flush (nqn : String) (nsid : UInt32)
  | flushWithQueue (nqn : String) (nsid : UInt32) (queueIndex : ℤ)

/-- `NewNVMeoFInitiatorWithConfig`, for the fields that are used later. -/
def newHost (ioQueueCount : ℤ) (ioQueueSize : UInt16) : Host where
  ioQueueCount := if ioQueueCount ≤ 0 then 1 else ioQueueCount.toNat
  ioQueueSize := if ioQueueSize = 0 then 128 else ioQueueSize

/-- `FlushWithQueue`. -/
def NVMeoFInitiator.flushWithQueue (initiator : NVMeoFInitiator)
    (_nqn : String) (nsid : UInt32) (queueIndex : ℤ) (callback : Nat) :
    Except Fault Submission × NVMeoFInitiator :=
  if queueIndex < 0 ∨ initiator.ioQueues.length ≤ queueIndex then
    (.error (errorf "invalid queue index"), initiator)
  else
    initiator.submitOn queueIndex.toNat
      { opcode := nvmeCmdFlush, nsid := nsid } [] callback

/-- The buffer of an identify command.  Nothing is ever written to it. -/
def identifyBuf : Bytes :=
  zeros 4096

namespace Host

variable (self : Host)

/-! ## Waiting -/

/-- Send a command on the admin queue and wait for it at a stage. -/
def await (index : Nat) (call : ConnectCall) (cmd : NVMeCommand)
    (stage : ConnectStage) : Host :=
  let (submission, queue) :=
    self.initiator.adminQueue.submitCommandSync cmd self.callbacks
  { self with
    initiator := { self.initiator with adminQueue := queue }
    calls :=
      self.calls.set index
        { call with callback := self.callbacks, stage := stage }
    callbacks := self.callbacks + 1
    sent := self.sent ++ [submission] }

/-- A call returns. -/
def finish (index : Nat) (call : ConnectCall) (failure : Option Fault) :
    Host :=
  { self with
    calls := self.calls.set index { call with stage := .returned failure } }

/-! ## Connecting -/

/-- The connect command of a queue. -/
def connectCommand (qid sqSize : UInt16) : NVMeCommand where
  opcode := nvmeOpcodeFabrics
  fabrics := { fcType := nvmeFabricsTypeConnect, qid := qid, sqSize := sqSize }

/-- Call `ConnectSubsystem`. -/
def connectSubsystem (nqn : String) : Host :=
  let call : ConnectCall :=
    { nqn := nqn, callback := self.callbacks, stage := .connecting }
  { self with calls := self.calls ++ [call] }.await self.calls.length call
    (connectCommand 0 0) .connecting

/-- The loop of `createIOQueues`, from an index on. -/
def createIoQueues (index : Nat) (call : ConnectCall) (queue : Nat) : Host :=
  if queue < self.ioQueueCount then
    self.await index call
      (connectCommand (UInt16.ofNat (queue + 1)) self.ioQueueSize)
      (.creatingQueue queue)
  else
    self.finish index call none

/-- The loop of `identifyController` over the namespaces, from one on. -/
def identifyNamespaces (index : Nat) (call : ConnectCall)
    (nsid count : UInt32) : Host :=
  if nsid ≤ count then
    self.await index call
      { opcode := nvmeAdminIdentify
        nsid := nsid
        identify := { cns := nvmeIdCnsNs } }
      (.identifyingNamespace nsid count)
  else
    self.createIoQueues index call 0

/-- Record a namespace, which others see if the record of the call is in use. -/
def recordNamespace (index : Nat) (call : ConnectCall) (nsid : UInt32)
    (answer : Except Fault Invocation) : Host :=
  match self.initiator.subsystems.get? call.nqn with
  | none => self
  | some subsys =>
      match
        subsys.identifyNamespace nsid (answer.map Invocation.status)
          identifyBuf with
      | .error _ => self
      | .ok identified =>
          if self.owners.get? call.nqn = some index then
            { self with
              initiator :=
                { self.initiator with
                  subsystems :=
                    self.initiator.subsystems.set call.nqn identified } }
          else
            self

/-- A call goes on with the answer to its command. -/
def proceed (index : Nat) (call : ConnectCall)
    (answer : Except Fault Invocation) : Host :=
  match call.stage with
  | .connecting =>
      match answer with
      | .error fault => self.finish index call (some fault)
      | .ok invoked =>
          if invoked.status ≠ nvmeStatusSuccess then
            self.finish index call
              (some
                (errorf
                  ("connect failed with status: 0x" ++
                    hexadecimal invoked.status.toNat)))
          else
            let connected :=
              { self with
                initiator :=
                  { self.initiator with
                    subsystems :=
                      self.initiator.subsystems.set call.nqn
                        { nqn := call.nqn } }
                owners := self.owners.set call.nqn index }
            connected.await index call
              { opcode := nvmeAdminIdentify
                identify := { cns := nvmeIdCnsCtrl } }
              .identifyingController
  | .identifyingController =>
      match answer with
      | .error fault => self.finish index call (some fault)
      | .ok invoked =>
          if invoked.status ≠ nvmeStatusSuccess then
            self.finish index call
              (some
                (errorf
                  ("identify failed: 0x" ++
                    hexadecimal invoked.status.toNat)))
          else
            self.identifyNamespaces index call 1 (uint32At identifyBuf 516)
  | .identifyingNamespace nsid count =>
      -- A namespace whose identification fails is skipped.
      (self.recordNamespace index call nsid answer).identifyNamespaces index
        call (nsid + 1) count
  | .creatingQueue queue =>
      match answer with
      | .error fault => self.finish index call (some fault)
      | .ok invoked =>
          if invoked.status ≠ nvmeStatusSuccess then
            self.finish index call
              (some
                (errorf
                  ("I/O queue connect failed: 0x" ++
                    hexadecimal invoked.status.toNat)))
          else
            { self with
              initiator :=
                self.initiator.createIoQueue queue }.createIoQueues index
              call (queue + 1)
  | .returned _ => self

/-- The wait of a call ends, if there is what ends it. -/
def resume (index : Nat) (wakeup : Wakeup) : Host :=
  match self.calls[index]? with
  | none => self
  | some call =>
      match wakeup with
      | .completed =>
          match self.results.get? call.callback with
          | none => self
          | some invoked => self.proceed index call (.ok invoked)
      | .cancelled error => self.proceed index call (.error (.error error))
      | .timedOut =>
          self.proceed index call (.error (errorf "command timeout"))

/-- Dispatch a completion.  A callback puts its arguments on a channel. -/
def complete (completion : NVMeCompletion) : Host :=
  let (invoked, initiator) := self.initiator.dispatchCompletion completion
  { self with
    initiator := initiator
    results :=
      match invoked with
      | none => self.results
      | some invoked => self.results.set invoked.callback invoked }

/-! ## Transferring -/

/-- What was submitted is sent. -/
def submit (submitted : Except Fault Submission × NVMeoFInitiator) :
    Except Fault Unit × Host :=
  match submitted with
  | (.error fault, initiator) =>
      (.error fault, { self with initiator := initiator })
  | (.ok submission, initiator) =>
      (.ok (),
        { self with
          initiator := initiator
          callbacks := self.callbacks + 1
          sent := self.sent ++ [submission] })

/-- One step. -/
def serve : HostStep → Except Fault Unit × Host
  | .connectSubsystem nqn => (.ok (), self.connectSubsystem nqn)
  | .resume index wakeup => (.ok (), self.resume index wakeup)
  | .complete completion => (.ok (), self.complete completion)
  | .transfer transfer nqn nsid lba numBlocks buffer =>
      self.submit
        (transfer.submit self.initiator nqn nsid lba numBlocks buffer
          self.callbacks)
  | .flush nqn nsid =>
      self.submit (self.initiator.flush nqn nsid self.callbacks)
  | .flushWithQueue nqn nsid queueIndex =>
      self.submit
        (self.initiator.flushWithQueue nqn nsid queueIndex self.callbacks)

/-- The host after a step. -/
def step (self : Host) (action : HostStep) : Host :=
  (self.serve action).2

/-- The bytes that a host has sent. -/
def stream : Bytes :=
  self.sent.flatMap Submission.bytes

end Host

/-! ## What the parts leave alone -/

section Parts

variable
    {host : Host}
    {initiator : NVMeoFInitiator}
    {call : ConnectCall}

/-- The identify buffer counts no namespaces. -/
theorem identifyBuf_count : uint32At identifyBuf 516 = 0 := by
  rw [uint32At, identifyBuf, zeros, List.drop_replicate,
    List.take_replicate]
  decide

theorem subsystems_dispatchCompletion (completion : NVMeCompletion) :
    (initiator.dispatchCompletion completion).2.subsystems =
      initiator.subsystems := by
  rw [NVMeoFInitiator.dispatchCompletion]
  split
  · rfl
  · split
    · rfl
    · split
      · rfl
      · rfl

theorem submitOn_cases
    (index : Nat) (cmd : NVMeCommand) (data : Bytes) (callback : Nat) :
    (initiator.submitOn index cmd data callback).2.subsystems =
        initiator.subsystems ∧
      ∀ submission,
        (initiator.submitOn index cmd data callback).1 = .ok submission →
          submission.data = data ∧
            submission.command.opcode = cmd.opcode := by
  rw [NVMeoFInitiator.submitOn]
  split
  · refine ⟨rfl, ?_⟩
    intro submission submitted
    cases submitted
  · refine ⟨rfl, ?_⟩
    intro submission submitted
    cases submitted
    exact ⟨rfl, rfl⟩

theorem subsystems_pickQueue {index : Nat} {picked : NVMeoFInitiator}
    (taken : initiator.pickQueue = .ok (index, picked)) :
    picked.subsystems = initiator.subsystems := by
  rw [NVMeoFInitiator.pickQueue] at taken
  split at taken
  · cases taken
  · cases taken
    rfl

/-- A flush sends its command and nothing else. -/
theorem flush_cases (nqn : String) (nsid : UInt32) (callback : Nat) :
    (initiator.flush nqn nsid callback).2.subsystems =
        initiator.subsystems ∧
      ∀ submission,
        (initiator.flush nqn nsid callback).1 = .ok submission →
          submission.data = [] ∧
            submission.command.opcode = nvmeCmdFlush := by
  rw [NVMeoFInitiator.flush]
  cases picked : initiator.pickQueue with
  | error fault =>
      refine ⟨rfl, ?_⟩
      intro submission submitted
      cases submitted
  | ok taken =>
      rcases taken with ⟨index, next⟩
      have cases :=
        @submitOn_cases next index { opcode := nvmeCmdFlush, nsid := nsid }
          [] callback
      exact ⟨cases.1.trans (subsystems_pickQueue picked), cases.2⟩

theorem flushWithQueue_cases
    (nqn : String) (nsid : UInt32) (queueIndex : ℤ) (callback : Nat) :
    (initiator.flushWithQueue nqn nsid queueIndex callback).2.subsystems =
        initiator.subsystems ∧
      ∀ submission,
        (initiator.flushWithQueue nqn nsid queueIndex callback).1 =
            .ok submission →
          submission.data = [] ∧
            submission.command.opcode = nvmeCmdFlush := by
  rw [NVMeoFInitiator.flushWithQueue]
  split
  · refine ⟨rfl, ?_⟩
    intro submission submitted
    cases submitted
  · exact submitOn_cases _ _ _ _

/-- The error of a transfer on a subsystem without namespaces. -/
def NVMeoFInitiator.transferError (initiator : NVMeoFInitiator)
    (nqn : String) : Fault :=
  match initiator.subsystems.get? nqn with
  | none => errorf "subsystem not connected"
  | some _ => errorf "namespace not found"

/-- Without namespaces no transfer is submitted. -/
theorem submit_of_barren
    (barren :
      ∀ nqn subsys,
        initiator.subsystems.get? nqn = some subsys →
          subsys.namespaces = Dict.empty)
    (transfer : Transfer) (nqn : String) (nsid : UInt32) (lba : UInt64)
    (numBlocks : UInt32) (buffer : Bytes) (callback : Nat) :
    transfer.submit initiator nqn nsid lba numBlocks buffer callback =
      (.error (initiator.transferError nqn), initiator) := by
  have direct :
      ∀ opcode,
        initiator.transfer opcode nqn nsid lba numBlocks buffer callback =
          (.error (initiator.transferError nqn), initiator) := by
    intro opcode
    rw [NVMeoFInitiator.transfer, NVMeoFInitiator.transferError]
    cases found : initiator.subsystems.get? nqn with
    | none => rfl
    | some subsys =>
        dsimp only
        rw [barren nqn subsys found, Dict.get?_empty]
  have queued :
      ∀ opcode queueIndex,
        initiator.transferWithQueue opcode nqn nsid lba numBlocks buffer
            callback queueIndex =
          (.error (initiator.transferError nqn), initiator) := by
    intro opcode queueIndex
    rw [NVMeoFInitiator.transferWithQueue, NVMeoFInitiator.transferError]
    cases found : initiator.subsystems.get? nqn with
    | none => rfl
    | some subsys =>
        dsimp only
        rw [barren nqn subsys found, Dict.get?_empty]
  cases transfer with
  | read => exact direct nvmeCmdRead
  | readWithQueue queueIndex => exact queued nvmeCmdRead queueIndex
  | write => exact direct nvmeCmdWrite
  | writeWithQueue queueIndex => exact queued nvmeCmdWrite queueIndex

end Parts

/-! ## Hosts without namespaces -/

/-- A connect command. -/
def Connects (cmd : NVMeCommand) : Prop :=
  cmd.opcode = nvmeOpcodeFabrics ∧
    cmd.fabrics.fcType = nvmeFabricsTypeConnect

/-- A submission that transfers no blocks. -/
structure Harmless (submission : Submission) : Prop where
  data : submission.data = []
  command :
    Connects submission.command ∨
      submission.command.opcode = nvmeAdminIdentify ∨
      submission.command.opcode = nvmeCmdFlush

/-- No subsystem has a namespace, and none is about to be identified. -/
structure Barren (host : Host) : Prop where
  namespaces :
    ∀ nqn subsys,
      host.initiator.subsystems.get? nqn = some subsys →
        subsys.namespaces = Dict.empty
  stages :
    ∀ call ∈ host.calls,
      ∀ nsid count, call.stage ≠ .identifyingNamespace nsid count
  sent : ∀ submission ∈ host.sent, Harmless submission

section Barrenness

variable
    {host : Host}
    {call : ConnectCall}

/-- A wait for a command that is neither a read nor a write. -/
theorem Barren.await (barren : Barren host) (index : Nat)
    (call : ConnectCall) {cmd : NVMeCommand} {stage : ConnectStage}
    (command : Connects cmd ∨ cmd.opcode = nvmeAdminIdentify)
    (elsewhere :
      ∀ nsid count, stage ≠ .identifyingNamespace nsid count) :
    Barren (host.await index call cmd stage) where
  namespaces := barren.namespaces
  stages := by
    intro other listed
    rcases List.mem_or_eq_of_mem_set listed with before | rfl
    · exact barren.stages other before
    · exact elsewhere
  sent := by
    intro submission listed
    rcases List.mem_append.mp listed with before | last
    · exact barren.sent submission before
    · rw [List.mem_singleton.mp last]
      refine ⟨rfl, ?_⟩
      rcases command with connects | identify
      · exact Or.inl connects
      · exact Or.inr (Or.inl identify)

theorem Barren.finish (barren : Barren host) (index : Nat)
    (call : ConnectCall) (failure : Option Fault) :
    Barren (host.finish index call failure) where
  namespaces := barren.namespaces
  stages := by
    intro other listed
    rcases List.mem_or_eq_of_mem_set listed with before | rfl
    · exact barren.stages other before
    · exact fun _ _ => nofun
  sent := barren.sent

theorem Barren.createIoQueues (barren : Barren host) (index : Nat)
    (call : ConnectCall) (queue : Nat) :
    Barren (host.createIoQueues index call queue) := by
  rw [Host.createIoQueues]
  split
  · exact barren.await index call (Or.inl ⟨rfl, rfl⟩) fun _ _ => nofun
  · exact barren.finish index call none

/-- The buffer counts no namespaces, so none is identified. -/
theorem Barren.identifyNamespaces (barren : Barren host) (index : Nat)
    (call : ConnectCall) :
    Barren
      (host.identifyNamespaces index call 1 (uint32At identifyBuf 516)) := by
  rw [Host.identifyNamespaces, identifyBuf_count, if_neg (by decide)]
  exact barren.createIoQueues index call 0

/-- A subsystem is connected without namespaces. -/
theorem Barren.connected (barren : Barren host) (nqn : String)
    (owners : Dict String Nat) :
    Barren
      { host with
        initiator :=
          { host.initiator with
            subsystems := host.initiator.subsystems.set nqn { nqn := nqn } }
        owners := owners } where
  namespaces := by
    intro other subsys found
    rw [Dict.get?_set] at found
    split at found
    · cases found
      rfl
    · exact barren.namespaces other subsys found
  stages := barren.stages
  sent := barren.sent

theorem Barren.proceed (barren : Barren host) {index : Nat}
    (listed : host.calls[index]? = some call)
    (answer : Except Fault Invocation) :
    Barren (host.proceed index call answer) := by
  have elsewhere :=
    barren.stages call (List.mem_of_getElem? listed)
  unfold Host.proceed
  cases stage : call.stage with
  | connecting =>
      cases answer with
      | error fault => exact barren.finish index call _
      | ok invoked =>
          dsimp only
          split
          · exact barren.finish index call _
          · exact
              (barren.connected call.nqn _).await index call
                (Or.inr rfl) fun _ _ => nofun
  | identifyingController =>
      cases answer with
      | error fault => exact barren.finish index call _
      | ok invoked =>
          dsimp only
          split
          · exact barren.finish index call _
          · exact barren.identifyNamespaces index call
  | identifyingNamespace nsid count =>
      exact absurd stage (elsewhere nsid count)
  | creatingQueue queue =>
      cases answer with
      | error fault => exact barren.finish index call _
      | ok invoked =>
          dsimp only
          split
          · exact barren.finish index call _
          · have created :
                Barren
                  { host with
                    initiator := host.initiator.createIoQueue queue } :=
              ⟨barren.namespaces, barren.stages, barren.sent⟩
            exact created.createIoQueues index call (queue + 1)
  | returned failure => exact barren

theorem Barren.resume (barren : Barren host) (index : Nat)
    (wakeup : Wakeup) : Barren (host.resume index wakeup) := by
  rw [Host.resume]
  cases listed : host.calls[index]? with
  | none => exact barren
  | some call =>
      cases wakeup with
      | completed =>
          dsimp only
          split
          · exact barren
          · exact barren.proceed listed _
      | cancelled error => exact barren.proceed listed _
      | timedOut => exact barren.proceed listed _

theorem Barren.connectSubsystem (barren : Barren host) (nqn : String) :
    Barren (host.connectSubsystem nqn) := by
  rw [Host.connectSubsystem]
  apply Barren.await
  · refine ⟨barren.namespaces, ?_, barren.sent⟩
    intro call listed
    rcases List.mem_append.mp listed with before | last
    · exact barren.stages call before
    · rw [List.mem_singleton.mp last]
      exact fun _ _ => nofun
  · exact Or.inl ⟨rfl, rfl⟩
  · exact fun _ _ => nofun

theorem Barren.complete (barren : Barren host)
    (completion : NVMeCompletion) : Barren (host.complete completion) where
  namespaces := by
    intro nqn subsys found
    apply barren.namespaces nqn subsys
    rw [← subsystems_dispatchCompletion completion]
    exact found
  stages := barren.stages
  sent := barren.sent

/-- A submission without data that changes no subsystem. -/
theorem Barren.submit (barren : Barren host)
    {submitted : Except Fault Submission × NVMeoFInitiator}
    (subsystems : submitted.2.subsystems = host.initiator.subsystems)
    (flushes :
      ∀ submission,
        submitted.1 = .ok submission →
          submission.data = [] ∧
            submission.command.opcode = nvmeCmdFlush) :
    Barren (host.submit submitted).2 := by
  have namespaces :
      ∀ nqn subsys,
        submitted.2.subsystems.get? nqn = some subsys →
          subsys.namespaces = Dict.empty := by
    rw [subsystems]
    exact barren.namespaces
  rcases submitted with ⟨result, initiator⟩
  cases result with
  | error fault => exact ⟨namespaces, barren.stages, barren.sent⟩
  | ok submission =>
      refine ⟨namespaces, barren.stages, ?_⟩
      intro other listed
      rcases List.mem_append.mp listed with before | last
      · exact barren.sent other before
      · rw [List.mem_singleton.mp last]
        have flush := flushes submission rfl
        exact ⟨flush.1, Or.inr (Or.inr flush.2)⟩

/-- A transfer fails and changes nothing. -/
theorem Barren.transfer (barren : Barren host) (transfer : Transfer)
    (nqn : String) (nsid : UInt32) (lba : UInt64) (numBlocks : UInt32)
    (buffer : Bytes) :
    host.serve (.transfer transfer nqn nsid lba numBlocks buffer) =
      (.error (host.initiator.transferError nqn), host) := by
  rw [Host.serve, submit_of_barren barren.namespaces]
  rfl

theorem Barren.step (barren : Barren host) (action : HostStep) :
    Barren (host.step action) := by
  rw [Host.step]
  cases action with
  | connectSubsystem nqn => exact barren.connectSubsystem nqn
  | resume index wakeup => exact barren.resume index wakeup
  | complete completion => exact barren.complete completion
  | transfer transfer nqn nsid lba numBlocks buffer =>
      rw [barren.transfer]
      exact barren
  | flush nqn nsid =>
      have flush :=
        @flush_cases host.initiator nqn nsid host.callbacks
      exact barren.submit flush.1 flush.2
  | flushWithQueue nqn nsid queueIndex =>
      have flush :=
        @flushWithQueue_cases host.initiator nqn nsid queueIndex
          host.callbacks
      exact barren.submit flush.1 flush.2

theorem barren_newHost (ioQueueCount : ℤ) (ioQueueSize : UInt16) :
    Barren (newHost ioQueueCount ioQueueSize) :=
  ⟨fun _ _ => nofun, fun _ => nofun, fun _ => nofun⟩

end Barrenness

/--
Whatever completions a peer sends and however calls are interleaved, a host sends
connects, identifications and flushes only.  Every read and every write fails and
changes nothing.
-/
theorem host_transfers_nothing (ioQueueCount : ℤ) (ioQueueSize : UInt16)
    (steps : List HostStep) :
    let host := run Host.step (newHost ioQueueCount ioQueueSize) steps
    (∀ submission ∈ host.sent, Harmless submission) ∧
      ∀ transfer nqn nsid lba numBlocks buffer,
        host.serve (.transfer transfer nqn nsid lba numBlocks buffer) =
          (.error (host.initiator.transferError nqn), host) := by
  intro host
  have keeps :
      ∀ host action, Barren host → Barren (host.step action) :=
    fun _ action barren => barren.step action
  have barren : Barren host :=
    run_invariant_of_step keeps steps
      (barren_newHost ioQueueCount ioQueueSize)
  exact ⟨barren.sent, barren.transfer⟩

/-! ## Hosts and the target -/

/--
A completion that is dispatched was made by a target that was served what the
host had sent, in any chunks.
-/
def FromTarget (host : Host) : HostStep → Prop
  | .complete completion =>
      ∃ target chunks,
        chunks.flatten <+: host.stream ∧
          ∃ executed ∈ (handleConnection target chunks).executed,
            executed.completion = .ok completion
  | _ => True

/-- A host that has heard nothing has sent connects only. -/
structure Unanswered (host : Host) : Prop where
  subsystems : host.initiator.subsystems = Dict.empty
  ioQueues : host.initiator.ioQueues = []
  results : host.results = Dict.empty
  stages :
    ∀ call ∈ host.calls,
      call.stage = .connecting ∨
        ∃ fault, call.stage = .returned (some fault)
  sent : ∀ submission ∈ host.sent, Connects submission.command

section Unconnected

variable
    {host : Host}

/-- The stream of a host that sends connects begins with their opcode. -/
theorem Unanswered.stream (unanswered : Unanswered host)
    (nonempty : host.stream ≠ []) :
    byteAt host.stream 0 = nvmeOpcodeFabrics := by
  rw [Host.stream] at nonempty ⊢
  cases sent : host.sent with
  | nil =>
      rw [sent] at nonempty
      exact absurd rfl nonempty
  | cons first rest =>
      have opcode := (unanswered.sent first (by simp [sent])).1
      rw [← opcode]
      rfl

/-- A target executes nothing of what it is sent. -/
theorem Unanswered.executed (unanswered : Unanswered host)
    (target : NVMeoFTarget) {chunks : List Bytes}
    (arrived : chunks.flatten <+: host.stream) :
    (handleConnection target chunks).executed = [] := by
  rcases arrived with ⟨rest, split⟩
  cases flat : chunks.flatten with
  | nil =>
      apply executed_of_short
      rw [flat]
      decide
  | cons byte others =>
      apply executed_of_fabrics
      have nonempty : host.stream ≠ [] := by
        rw [← split, flat]
        exact List.cons_ne_nil _ _
      rw [← unanswered.stream nonempty, ← split, flat]
      rfl

/-- Nothing is ever dispatched. -/
theorem Unanswered.not_complete (unanswered : Unanswered host)
    (completion : NVMeCompletion) :
    ¬ FromTarget host (.complete completion) := by
  rintro ⟨target, chunks, arrived, executed, listed, _⟩
  rw [unanswered.executed target arrived] at listed
  cases listed

theorem Unanswered.await (unanswered : Unanswered host) (index : Nat)
    (call : ConnectCall) (qid sqSize : UInt16) :
    Unanswered
      (host.await index call (Host.connectCommand qid sqSize)
        .connecting) where
  subsystems := unanswered.subsystems
  ioQueues := unanswered.ioQueues
  results := unanswered.results
  stages := by
    intro other listed
    rcases List.mem_or_eq_of_mem_set listed with before | rfl
    · exact unanswered.stages other before
    · exact Or.inl rfl
  sent := by
    intro submission listed
    rcases List.mem_append.mp listed with before | last
    · exact unanswered.sent submission before
    · rw [List.mem_singleton.mp last]
      exact ⟨rfl, rfl⟩

theorem Unanswered.connectSubsystem (unanswered : Unanswered host)
    (nqn : String) : Unanswered (host.connectSubsystem nqn) := by
  rw [Host.connectSubsystem]
  apply Unanswered.await
  refine
    ⟨unanswered.subsystems, unanswered.ioQueues, unanswered.results, ?_,
      unanswered.sent⟩
  intro call listed
  rcases List.mem_append.mp listed with before | last
  · exact unanswered.stages call before
  · rw [List.mem_singleton.mp last]
    exact Or.inl rfl

/-- A call that waits for its connect can only fail. -/
theorem Unanswered.proceed (unanswered : Unanswered host) {index : Nat}
    {call : ConnectCall} (listed : host.calls[index]? = some call)
    (fault : Fault) :
    Unanswered (host.proceed index call (.error fault)) := by
  unfold Host.proceed
  rcases unanswered.stages call (List.mem_of_getElem? listed) with
    connecting | ⟨failure, returned⟩
  · rw [connecting]
    refine
      ⟨unanswered.subsystems, unanswered.ioQueues, unanswered.results, ?_,
        unanswered.sent⟩
    intro other member
    rcases List.mem_or_eq_of_mem_set member with before | rfl
    · exact unanswered.stages other before
    · exact Or.inr ⟨fault, rfl⟩
  · rw [returned]
    exact unanswered

theorem Unanswered.resume (unanswered : Unanswered host) (index : Nat)
    (wakeup : Wakeup) : Unanswered (host.resume index wakeup) := by
  rw [Host.resume]
  cases listed : host.calls[index]? with
  | none => exact unanswered
  | some call =>
      cases wakeup with
      | completed =>
          dsimp only
          rw [unanswered.results, Dict.get?_empty]
          exact unanswered
      | cancelled error => exact unanswered.proceed listed _
      | timedOut => exact unanswered.proceed listed _

/-- No call that needs a subsystem or a queue gets through. -/
theorem Unanswered.refuses (unanswered : Unanswered host) :
    (∀ transfer nqn nsid lba numBlocks buffer,
        host.serve (.transfer transfer nqn nsid lba numBlocks buffer) =
          (.error (errorf "subsystem not connected"), host)) ∧
      (∀ nqn nsid,
        host.serve (.flush nqn nsid) =
          (.error (errorf "no I/O queues available"), host)) ∧
      ∀ nqn nsid queueIndex,
        host.serve (.flushWithQueue nqn nsid queueIndex) =
          (.error (errorf "invalid queue index"), host) := by
  refine ⟨?_, ?_, ?_⟩
  · intro transfer nqn nsid lba numBlocks buffer
    have barren :
        ∀ nqn subsys,
          host.initiator.subsystems.get? nqn = some subsys →
            subsys.namespaces = Dict.empty := by
      intro nqn subsys found
      rw [unanswered.subsystems] at found
      cases found
    rw [Host.serve, submit_of_barren barren,
      NVMeoFInitiator.transferError, unanswered.subsystems]
    rfl
  · intro nqn nsid
    rw [Host.serve, NVMeoFInitiator.flush, NVMeoFInitiator.pickQueue,
      unanswered.ioQueues]
    rfl
  · intro nqn nsid queueIndex
    have outside :
        queueIndex < 0 ∨
          (([] : List CommandQueue).length : ℤ) ≤ queueIndex := by
      rw [List.length_nil]
      omega
    rw [Host.serve, NVMeoFInitiator.flushWithQueue, unanswered.ioQueues,
      if_pos outside]
    rfl

theorem Unanswered.step (unanswered : Unanswered host) {action : HostStep}
    (fromTarget : FromTarget host action) :
    Unanswered (host.step action) := by
  rw [Host.step]
  cases action with
  | connectSubsystem nqn => exact unanswered.connectSubsystem nqn
  | resume index wakeup => exact unanswered.resume index wakeup
  | complete completion =>
      exact absurd fromTarget (unanswered.not_complete completion)
  | transfer transfer nqn nsid lba numBlocks buffer =>
      rw [unanswered.refuses.1]
      exact unanswered
  | flush nqn nsid =>
      rw [unanswered.refuses.2.1]
      exact unanswered
  | flushWithQueue nqn nsid queueIndex =>
      rw [unanswered.refuses.2.2]
      exact unanswered

theorem unanswered_newHost (ioQueueCount : ℤ) (ioQueueSize : UInt16) :
    Unanswered (newHost ioQueueCount ioQueueSize) :=
  ⟨rfl, rfl, rfl, fun _ => nofun, fun _ => nofun⟩

/-- A connect command makes the target panic. -/
theorem Unanswered.panics (unanswered : Unanswered host)
    {submission : Submission} (listed : submission ∈ host.sent) :
    ∃ message,
      parseCommand (serializeCommand submission.command) =
        .error (.panic message) :=
  parseCommand_fabrics (unanswered.sent submission listed).1

end Unconnected

/--
A host that hears from targets of this repository only never connects.  Every
command that it sends makes them panic and none is executed; every transfer and
every flush fails.
-/
theorem host_never_connects (ioQueueCount : ℤ) (ioQueueSize : UInt16)
    {steps : List HostStep}
    (fromTarget :
      AllSteps Host.step FromTarget (newHost ioQueueCount ioQueueSize)
        steps) :
    let host := run Host.step (newHost ioQueueCount ioQueueSize) steps
    (∀ call ∈ host.calls, call.stage ≠ .returned none) ∧
      (∀ submission ∈ host.sent,
        Connects submission.command ∧
          ∃ message,
            parseCommand (serializeCommand submission.command) =
              .error (.panic message)) ∧
      (∀ target chunks,
        chunks.flatten <+: host.stream →
          (handleConnection target chunks).executed = []) ∧
      (∀ transfer nqn nsid lba numBlocks buffer,
        host.serve (.transfer transfer nqn nsid lba numBlocks buffer) =
          (.error (errorf "subsystem not connected"), host)) ∧
      (∀ nqn nsid,
        host.serve (.flush nqn nsid) =
          (.error (errorf "no I/O queues available"), host)) ∧
      ∀ nqn nsid queueIndex,
        host.serve (.flushWithQueue nqn nsid queueIndex) =
          (.error (errorf "invalid queue index"), host) := by
  intro host
  have keeps :
      ∀ host action,
        Unanswered host → FromTarget host action →
          Unanswered (host.step action) :=
    fun _ _ unanswered fromTarget => unanswered.step fromTarget
  have unanswered : Unanswered host :=
    run_invariant keeps (unanswered_newHost ioQueueCount ioQueueSize)
      fromTarget
  refine
    ⟨?_,
      fun submission listed =>
        ⟨unanswered.sent submission listed, unanswered.panics listed⟩,
      fun target _ => unanswered.executed target, unanswered.refuses⟩
  intro call listed returned
  rcases unanswered.stages call listed with connecting | ⟨fault, failed⟩
  · rw [connecting] at returned
    cases returned
  · rw [failed] at returned
    cases returned

/-- A host that connects, gives up and reads. -/
def givingUp : List HostStep :=
  [.connectSubsystem "nqn", .resume 0 .completed, .resume 0 .timedOut,
    .transfer .read "nqn" 1 0 1 []]

theorem host_never_connects_givingUp :
    (run Host.step (newHost 4 128) givingUp).sent.length = 1 ∧
      (run Host.step (newHost 4 128) givingUp).serve
          (.flushWithQueue "nqn" 1 0) =
        (.error (errorf "invalid queue index"),
          run Host.step (newHost 4 128) givingUp) := by
  have fromTarget :
      AllSteps Host.step FromTarget (newHost 4 128) givingUp :=
    ⟨trivial, trivial, trivial, trivial, trivial⟩
  have never := host_never_connects 4 128 fromTarget
  exact ⟨by decide +kernel, never.2.2.2.2.2 "nqn" 1 0⟩

end StorageAppliance.NVMeoF
