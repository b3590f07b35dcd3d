import StorageAppliance.Library.Run
import StorageAppliance.NVMeoF.Processing

/-!
# Access control on a connection

A connect is refused if the host is not allowed.  No other handler asks whether
a connect was accepted: each looks the subsystem up by the name in the record of
the connection.

A session is a connection on which commands are processed one after the other.
It records whether a connect was processed and whether one was accepted.
`Serves` describes the commands that the handlers carry out.  These succeed
(`processCommand_succeeds_iff`), so that a session obeys access control exactly
if each of them comes from an allowed host and after a connect.
-/

namespace StorageAppliance.NVMeoF

open StorageAppliance.Go
open StorageAppliance.Library

/-! ## Sessions -/

/-- A command, and what arrives on the connection while it is processed. -/
structure Request where
  command : NVMeCommand
  arrivals : List Bytes := []

/-- A connection with the target that serves it. -/
structure Session where
  target : NVMeoFTarget
  connection : TargetConnection
  connects : Bool := false
  accepted : Bool := false
  down : Bool := false

/-- Whether a command is a connect. -/
def NVMeCommand.isConnect (cmd : NVMeCommand) : Bool :=
  cmd.opcode = nvmeOpcodeFabrics ∧
    cmd.fabrics.fcType = nvmeFabricsTypeConnect

/-- Whether a command is a read, write, flush or identify command. -/
def NVMeCommand.isAccess (cmd : NVMeCommand) : Bool :=
  cmd.opcode = nvmeCmdRead ∨ cmd.opcode = nvmeCmdWrite ∨
    cmd.opcode = nvmeCmdFlush ∨ cmd.opcode = nvmeAdminIdentify

/-- Whether a command completed with success. -/
def Processed.succeeds (processed : Processed) : Bool :=
  match processed.completion with
  | .ok entry => entry.status = nvmeStatusSuccess
  | .error _ => false

namespace Session

/-- The connection when a request is processed. -/
def arrived (session : Session) (request : Request) : TargetConnection :=
  { session.connection with
    conn :=
      { session.connection.conn with
        incoming :=
          session.connection.conn.incoming ++ request.arrivals } }

/-- What processing a request leaves behind. -/
def processed (session : Session) (request : Request) : Processed :=
  processCommand session.target (session.arrived request) request.command

/-- Process a request, unless the program has panicked. -/
def step (session : Session) (request : Request) : Session :=
  if session.down then
    session
  else
    let processed := session.processed request
    { target := processed.target
      connection := processed.connection
      connects := session.connects || request.command.isConnect
      accepted :=
        session.accepted ||
          (request.command.isConnect && processed.succeeds)
      down := !processed.completion.isOk }

/-- An access succeeds only after an accepted connect, for an allowed host. -/
def Authorized (session : Session) (request : Request) : Prop :=
  session.down = false →
    request.command.isAccess →
      (session.processed request).succeeds →
        session.accepted ∧
          session.target.allows session.connection.subsystemNqn
            session.connection.hostNqn

end Session

/-! ## Commands that are carried out -/

section Serving

variable
    (target : NVMeoFTarget)
    (connection : TargetConnection)
    (cmd : NVMeCommand)

/-- The namespace that a command names. -/
def namedNamespace : Option TargetNamespace :=
  target.namespaceAt connection.subsystemNqn cmd.nsid

/-- An identify command is refused if it names a namespace that is missing. -/
def ServesIdentify : Prop :=
  (target.subsystems.get? connection.subsystemNqn).isSome ∧
    (cmd.identify.cns = nvmeIdCnsNs →
      ∃ ns,
        namedNamespace target connection cmd = some ns ∧ ns.blockSize ≠ 0)

/-- A read lies within the namespace. -/
def ServesRead : Prop :=
  ∃ ns data,
    namedNamespace target connection cmd = some ns ∧
      ns.backend.read (extent cmd ns).1 (extent cmd ns).2 = .ok data

/-- A write lies within the namespace, and one read returns all its data. -/
def ServesWrite : Prop :=
  ∃ ns data backend,
    namedNamespace target connection cmd = some ns ∧
      (connection.conn.read (extent cmd ns).2.toNat).1 = some data ∧
      (extent cmd ns).2.toNat ≤ data.length ∧
      ns.backend.write (extent cmd ns).1 data = .ok backend

/-- A flush names a namespace. -/
def ServesFlush : Prop :=
  (namedNamespace target connection cmd).isSome

/-- The accesses that a target carries out on a connection. -/
def Serves : Prop :=
  (cmd.opcode = nvmeAdminIdentify ∧ ServesIdentify target connection cmd) ∨
    (cmd.opcode = nvmeCmdRead ∧ ServesRead target connection cmd) ∨
    (cmd.opcode = nvmeCmdWrite ∧ ServesWrite target connection cmd) ∨
    (cmd.opcode = nvmeCmdFlush ∧ ServesFlush target connection cmd)

variable
    {target : NVMeoFTarget}
    {connection : TargetConnection}
    {cmd : NVMeCommand}

@[simp]
theorem succeeds_completed (status : UInt16) :
    (completed target connection cmd status).succeeds =
      decide (status = nvmeStatusSuccess) :=
  rfl

theorem internalError_ne : nvmeStatusInternalError ≠ nvmeStatusSuccess := by
  decide

theorem invalidField_ne : nvmeStatusInvalidField ≠ nvmeStatusSuccess := by
  decide

theorem dataXferError_ne : nvmeStatusDataXferError ≠ nvmeStatusSuccess := by
  decide

theorem processIdentifyCommand_succeeds_iff :
    (processIdentifyCommand target connection cmd).succeeds = true ↔
      ServesIdentify target connection cmd := by
  rw [processIdentifyCommand, ServesIdentify, namedNamespace]
  cases found : target.subsystems.get? connection.subsystemNqn with
  | none => simp [internalError_ne]
  | some subsystem =>
      rw [namespaceAt_of_found found]
      by_cases controller : cmd.identify.cns = nvmeIdCnsCtrl
      · have other : nvmeIdCnsCtrl ≠ nvmeIdCnsNs := by decide
        simp [controller, other]
      · by_cases namespaced : cmd.identify.cns = nvmeIdCnsNs
        · cases present : subsystem.namespaces.get? cmd.nsid with
          | none =>
              have other : nvmeIdCnsNs ≠ nvmeIdCnsCtrl := by decide
              simp [namespaced, other, present, invalidField_ne]
          | some ns =>
              have other : nvmeIdCnsNs ≠ nvmeIdCnsCtrl := by decide
              by_cases zero : ns.blockSize = 0
              · simp [namespaced, other, present, zero,
                  Processed.succeeds]
              · simp [namespaced, other, present, zero]
        · simp [controller, namespaced]

theorem processReadCommand_succeeds_iff :
    (processReadCommand target connection cmd).succeeds = true ↔
      ServesRead target connection cmd := by
  rw [processReadCommand, ServesRead, namedNamespace]
  cases found : target.subsystems.get? connection.subsystemNqn with
  | none => simp [namespaceAt_of_absent found, internalError_ne]
  | some subsystem =>
      rw [namespaceAt_of_found found]
      cases present : subsystem.namespaces.get? cmd.nsid with
      | none => simp [present, invalidField_ne]
      | some ns =>
          simp only [present, Option.some.injEq, exists_and_left,
            exists_eq_left']
          cases read :
              ns.backend.read (extent cmd ns).1 (extent cmd ns).2 with
          | error fault =>
              cases fault with
              | error error => simp [dataXferError_ne]
              | panic message => simp [Processed.succeeds]
          | ok data => simp

theorem processWriteCommand_succeeds_iff :
    (processWriteCommand target connection cmd).succeeds = true ↔
      ServesWrite target connection cmd := by
  rw [processWriteCommand, ServesWrite, namedNamespace]
  cases found : target.subsystems.get? connection.subsystemNqn with
  | none => simp [namespaceAt_of_absent found, internalError_ne]
  | some subsystem =>
      rw [namespaceAt_of_found found]
      cases present : subsystem.namespaces.get? cmd.nsid with
      | none => simp [present, invalidField_ne]
      | some ns =>
          simp only [present, Option.some.injEq, exists_and_left,
            exists_eq_left']
          cases read :
              (connection.conn.read (extent cmd ns).2.toNat).1 with
          | none => simp [Processed.succeeds, completed, dataXferError_ne]
          | some data =>
              by_cases short : data.length < (extent cmd ns).2.toNat
              · simp [short, Processed.succeeds, completed,
                  dataXferError_ne]
              · cases write :
                    ns.backend.write (extent cmd ns).1 data with
                | error fault =>
                    cases fault with
                    | error error =>
                        simp [short, write, Processed.succeeds, completed,
                          dataXferError_ne]
                    | panic message =>
                        simp [short, write, Processed.succeeds]
                | ok backend =>
                    have whole :
                        (extent cmd ns).2.toNat ≤ data.length := by
                      omega
                    simp [short, whole, write, Processed.succeeds]

theorem processFlushCommand_succeeds_iff :
    (processFlushCommand target connection cmd).succeeds = true ↔
      ServesFlush target connection cmd := by
  rw [processFlushCommand, ServesFlush, namedNamespace]
  cases found : target.subsystems.get? connection.subsystemNqn with
  | none => simp [namespaceAt_of_absent found, internalError_ne]
  | some subsystem =>
      rw [namespaceAt_of_found found]
      cases present : subsystem.namespaces.get? cmd.nsid with
      | none => simp [present, invalidField_ne]
      | some ns => simp [present, MemoryBackend.flush]

/-- An access succeeds exactly if it is carried out. -/
theorem processCommand_succeeds_iff (access : cmd.isAccess = true) :
    (processCommand target connection cmd).succeeds = true ↔
      Serves target connection cmd := by
  have readWrite : nvmeCmdRead ≠ nvmeCmdWrite := by decide
  have readFlush : nvmeCmdRead ≠ nvmeCmdFlush := by decide
  have readIdentify : nvmeCmdRead ≠ nvmeAdminIdentify := by decide
  have readFabrics : nvmeCmdRead ≠ nvmeOpcodeFabrics := by decide
  have writeFlush : nvmeCmdWrite ≠ nvmeCmdFlush := by decide
  have writeIdentify : nvmeCmdWrite ≠ nvmeAdminIdentify := by decide
  have writeFabrics : nvmeCmdWrite ≠ nvmeOpcodeFabrics := by decide
  have flushIdentify : nvmeCmdFlush ≠ nvmeAdminIdentify := by decide
  have flushFabrics : nvmeCmdFlush ≠ nvmeOpcodeFabrics := by decide
  have identifyFabrics : nvmeAdminIdentify ≠ nvmeOpcodeFabrics := by decide
  simp only [NVMeCommand.isAccess, decide_eq_true_eq] at access
  rw [processCommand, Serves]
  rcases access with opcode | opcode | opcode | opcode
  · simp [opcode, readWrite, readFlush, readIdentify, readFabrics,
      processReadCommand_succeeds_iff]
  · simp [opcode, readWrite.symm, writeFlush, writeIdentify, writeFabrics,
      processWriteCommand_succeeds_iff]
  · simp [opcode, readFlush.symm, writeFlush.symm, flushIdentify,
      flushFabrics, processFlushCommand_succeeds_iff]
  · simp [opcode, readIdentify.symm, writeIdentify.symm,
      flushIdentify.symm, identifyFabrics,
      processIdentifyCommand_succeeds_iff]

/-- A connect is accepted exactly if the host is allowed. -/
theorem processCommand_connect (connect : cmd.isConnect = true) :
    (processCommand target connection cmd).succeeds =
      target.allows connection.subsystemNqn connection.hostNqn := by
  simp only [NVMeCommand.isConnect, decide_eq_true_eq] at connect
  rw [processCommand, if_pos connect.1, processFabricsCommand,
    if_pos connect.2]
  cases found : target.subsystems.get? connection.subsystemNqn with
  | none => simp [allows_of_absent found, invalidField_ne]
  | some subsystem =>
      rw [allows_of_found found]
      cases allowed : subsystem.allows connection.hostNqn with
      | false => simp [allowed, invalidField_ne]
      | true => simp [allowed, Processed.succeeds]

theorem not_serves_of_absent
    (absent : target.subsystems.get? connection.subsystemNqn = none) :
    ¬ Serves target connection cmd := by
  rintro (⟨_, served⟩ | ⟨_, ns, _, present, _⟩ | ⟨_, ns, _, _, present, _⟩ |
    ⟨_, served⟩)
  · rw [ServesIdentify, absent] at served
    exact absurd served.1 (by decide)
  · rw [namedNamespace, namespaceAt_of_absent absent] at present
    cases present
  · rw [namedNamespace, namespaceAt_of_absent absent] at present
    cases present
  · rw [ServesFlush, namedNamespace, namespaceAt_of_absent absent] at served
    exact absurd served (by decide)

end Serving

/-! ## Sessions that obey access control -/

namespace Session

/-- The session's host is allowed on its subsystem. -/
def hostAllowed (session : Session) : Bool :=
  session.target.allows session.connection.subsystemNqn
    session.connection.hostNqn

/-- An access that is carried out follows a connect, from an allowed host. -/
def Ordered (session : Session) (request : Request) : Prop :=
  session.down = false →
    request.command.isAccess →
      Serves session.target (session.arrived request) request.command →
        session.connects ∧ session.hostAllowed

/-- A connect was accepted if it was from an allowed host. -/
def Recorded (session : Session) : Prop :=
  session.accepted = (session.connects && session.hostAllowed)

section Steps

variable
    (session : Session)
    (request : Request)

theorem processed_keeps :
    Keeps session.target (session.arrived request)
      (session.processed request) :=
  processCommand_keeps

theorem hostAllowed_step :
    (session.step request).hostAllowed = session.hostAllowed := by
  rw [step]
  split
  · rfl
  · have keeps := session.processed_keeps request
    rw [hostAllowed, hostAllowed]
    change
      (session.processed request).target.allows
          (session.processed request).connection.subsystemNqn
          (session.processed request).connection.hostNqn =
        _
    rw [keeps.allows, keeps.subsystemNqn, keeps.hostNqn]
    rfl

theorem recorded_step (recorded : session.Recorded) :
    (session.step request).Recorded := by
  rw [Recorded, hostAllowed_step, step]
  split
  · exact recorded
  · change
      (session.accepted ||
          (request.command.isConnect &&
            (session.processed request).succeeds)) =
        ((session.connects || request.command.isConnect) &&
          session.hostAllowed)
    rw [recorded]
    cases connect : request.command.isConnect with
    | false => simp
    | true =>
        have accepted :
            (session.processed request).succeeds = session.hostAllowed :=
          processCommand_connect connect
        rw [accepted]
        cases session.connects with
        | false => simp
        | true => simp

theorem authorized_iff_ordered (recorded : session.Recorded) :
    session.Authorized request ↔ session.Ordered request := by
  have same :
      (session.accepted = true ∧ session.hostAllowed = true) ↔
        session.connects = true ∧ session.hostAllowed = true := by
    rw [recorded, Bool.and_eq_true]
    tauto
  constructor
  · intro authorized up access serves
    exact
      same.mp
        (authorized up access
          ((processCommand_succeeds_iff access).mpr serves))
  · intro ordered up access succeeds
    exact
      same.mpr
        (ordered up access
          ((processCommand_succeeds_iff access).mp succeeds))

theorem absent_step
    (absent :
      session.target.subsystems.get? session.connection.subsystemNqn =
        none) :
    (session.step request).target.subsystems.get?
        (session.step request).connection.subsystemNqn =
      none := by
  rw [step]
  split
  · exact absent
  · have keeps := session.processed_keeps request
    change
      (session.processed request).target.subsystems.get?
          (session.processed request).connection.subsystemNqn =
        none
    rw [← Option.isNone_iff_eq_none, ← Option.not_isSome, keeps.isSome,
      keeps.subsystemNqn]
    change
      (!(session.target.subsystems.get?
            session.connection.subsystemNqn).isSome) =
        true
    rw [absent]
    rfl

end Steps

/-- A connection as it is before its first command. -/
def start (target : NVMeoFTarget) (connection : TargetConnection) :
    Session where
  target := target
  connection := connection

/-- An identify command that names neither a controller nor a namespace. -/
def identifyAny : Request where
  command :=
    { opcode := nvmeAdminIdentify
      identify := { cns := 2 } }

theorem identifyAny_unauthorized
    {target : NVMeoFTarget} {connection : TargetConnection}
    {subsystem : Subsystem}
    (found :
      target.subsystems.get? connection.subsystemNqn = some subsystem) :
    ¬ (start target connection).Authorized identifyAny := by
  intro authorized
  have serves :
      Serves target ((start target connection).arrived identifyAny)
        identifyAny.command := by
    refine Or.inl ⟨rfl, ?_, ?_⟩
    · change (target.subsystems.get? connection.subsystemNqn).isSome = true
      rw [found]
      rfl
    · intro namespaced
      exact absurd namespaced (by decide)
  have accepted :=
    authorized rfl (by decide)
      ((processCommand_succeeds_iff (by decide)).mpr serves)
  exact Bool.false_ne_true accepted.1

/--
Along a session, accesses succeed only after an accepted connect exactly if each
access that the target carries out comes from an allowed host and after a
connect.  A target obeys this for all sequences of commands exactly if it does
not have the subsystem of the connection.
-/
theorem authorized_iff
    (target : NVMeoFTarget) (connection : TargetConnection) :
    (∀ requests,
        AllSteps step Authorized (start target connection) requests ↔
          AllSteps step Ordered (start target connection) requests) ∧
      ((∀ requests,
          AllSteps step Authorized (start target connection) requests) ↔
        target.subsystems.get? connection.subsystemNqn = none) := by
  have exact :
      ∀ requests,
        AllSteps step Authorized (start target connection) requests ↔
          AllSteps step Ordered (start target connection) requests := by
    intro requests
    exact
      allSteps_iff_of_invariant recorded_step authorized_iff_ordered
        requests rfl
  refine ⟨exact, ?_, ?_⟩
  · intro authorized
    cases found : target.subsystems.get? connection.subsystemNqn with
    | none => rfl
    | some subsystem =>
        exact
          absurd (authorized [identifyAny]).1
            (identifyAny_unauthorized found)
  · intro absent requests
    rw [exact]
    apply allSteps_of_invariant absent_step _ requests absent
    intro session request missing _ _ serves
    exact absurd serves (not_serves_of_absent missing)

/-- A target with a subsystem that allows no host. -/
def closedTarget : NVMeoFTarget where
  subsystems :=
    Dict.empty.set "data"
      { subsystemNqn := "data"
        namespaces :=
          Dict.empty.set 1
            { nsid := 1
              size := 4
              blockSize := 4
              backend := newMemoryBackend 4 } }

/-- A host that is not allowed reads without a connect. -/
theorem read_unauthorized :
    ¬ AllSteps step Authorized
        (start closedTarget { hostNqn := "host", subsystemNqn := "data" })
        [{ command := { opcode := nvmeCmdRead, nsid := 1 } }] := by
  intro authorized
  have accepted := authorized.1 rfl (by decide) (by decide)
  exact Bool.false_ne_true accepted.1

end Session

end StorageAppliance.NVMeoF
