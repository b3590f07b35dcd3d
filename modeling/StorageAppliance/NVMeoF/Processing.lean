import StorageAppliance.NVMeoF.Target

/-!
# What processing a command does

The handlers have four kinds of results: a reply that changes nothing, an
accepted connect, a payload that was read and dropped, and a payload that was
read and stored.  `processCommand_outcome` says which command has which result,
and the facts about all commands follow by cases: what the completion repeats of
the command, which bytes are taken from the connection, and what stays as it
was.
-/

namespace StorageAppliance.NVMeoF

open StorageAppliance.Go
open StorageAppliance.Library

/-! ## Views of a target -/

/-- The namespace of a subsystem. -/
def NVMeoFTarget.namespaceAt
    (target : NVMeoFTarget) (nqn : String) (nsid : UInt32) :
    Option TargetNamespace :=
  (target.subsystems.get? nqn).bind fun subsystem =>
    subsystem.namespaces.get? nsid

def NVMeoFTarget.blockSizeAt
    (target : NVMeoFTarget) (nqn : String) (nsid : UInt32) : Option UInt32 :=
  (target.namespaceAt nqn nsid).map TargetNamespace.blockSize

/-- Whether a subsystem allows a host. -/
def NVMeoFTarget.allows
    (target : NVMeoFTarget) (nqn hostNqn : String) : Bool :=
  ((target.subsystems.get? nqn).map fun subsystem =>
    subsystem.allows hostNqn).getD false

section Lookups

variable
    {target : NVMeoFTarget}
    {subsystem : Subsystem}
    {nqn : String}
    {nsid : UInt32}

theorem namespaceAt_of_absent
    (absent : target.subsystems.get? nqn = none) :
    target.namespaceAt nqn nsid = none := by
  rw [NVMeoFTarget.namespaceAt, absent]
  rfl

theorem namespaceAt_of_found
    (found : target.subsystems.get? nqn = some subsystem) :
    target.namespaceAt nqn nsid = subsystem.namespaces.get? nsid := by
  rw [NVMeoFTarget.namespaceAt, found]
  rfl

theorem allows_of_absent
    (absent : target.subsystems.get? nqn = none) (hostNqn : String) :
    target.allows nqn hostNqn = false := by
  rw [NVMeoFTarget.allows, absent]
  rfl

theorem allows_of_found
    (found : target.subsystems.get? nqn = some subsystem)
    (hostNqn : String) :
    target.allows nqn hostNqn = subsystem.allows hostNqn := by
  rw [NVMeoFTarget.allows, found]
  rfl

end Lookups

/-! ## Outcomes -/

/-- A completion names the command, and no queue. -/
def Answers
    (cmd : NVMeCommand) (completion : Except Fault NVMeCompletion) : Prop :=
  ∀ entry,
    completion = .ok entry →
      entry.commandId = cmd.commandId ∧ entry.sqid = 0

section Outcomes

variable
    (target : NVMeoFTarget)
    (connection : TargetConnection)
    (cmd : NVMeCommand)

/-- The number of payload bytes that the target asks for. -/
def payloadLength : Nat :=
  if cmd.opcode = nvmeCmdWrite then
    match target.namespaceAt connection.subsystemNqn cmd.nsid with
    | none => 0
    | some ns => (extent cmd ns).2.toNat
  else
    0

/-- The connection after the payload was read. -/
def received : TargetConnection :=
  { connection with
    conn :=
      (connection.conn.read (payloadLength target connection cmd)).2 }

/-- The payload that was read. -/
def receivedPayload : Bytes :=
  (connection.conn.read (payloadLength target connection cmd)).1.getD []

/-- The results of processing a command. -/
inductive Outcome : Processed → Prop where
  | replied (completion : Except Fault NVMeCompletion) (sent : Bytes)
      (answers : Answers cmd completion)
      (unread : payloadLength target connection cmd = 0) :
      Outcome
        { completion := completion
          target := target
          connection := connection.write sent }
  | connected (subsystem : Subsystem) (ctrlId : UInt16)
      (controllers : Dict UInt16 TargetController)
      (controller : TargetController)
      (opcode : cmd.opcode = nvmeOpcodeFabrics)
      (found :
        target.subsystems.get? connection.subsystemNqn = some subsystem) :
      Outcome
        { completion :=
            .ok
              { commandId := cmd.commandId
                status := nvmeStatusSuccess
                dw0 := ctrlId.toUInt32 }
          target :=
            { target with
              subsystems :=
                target.subsystems.set connection.subsystemNqn
                  { subsystem with
                    nextCtrlId := ctrlId + 1
                    controllers := controllers } }
          connection := { connection with controller := some controller } }
  | dropped (completion : Except Fault NVMeCompletion)
      (answers : Answers cmd completion) :
      Outcome
        { completion := completion
          target := target
          connection := received target connection cmd
          asked := payloadLength target connection cmd
          payload := receivedPayload target connection cmd }
  | stored (subsystem : Subsystem) (ns : TargetNamespace)
      (backend : MemoryBackend)
      (found :
        target.subsystems.get? connection.subsystemNqn = some subsystem)
      (present : subsystem.namespaces.get? cmd.nsid = some ns) :
      Outcome
        { completion :=
            .ok
              { commandId := cmd.commandId
                status := nvmeStatusSuccess }
          target :=
            { target with
              subsystems :=
                target.subsystems.set connection.subsystemNqn
                  { subsystem with
                    namespaces :=
                      subsystem.namespaces.set cmd.nsid
                        { ns with backend := backend } } }
          connection := received target connection cmd
          asked := payloadLength target connection cmd
          payload := receivedPayload target connection cmd }

variable
    {target : NVMeoFTarget}
    {connection : TargetConnection}
    {cmd : NVMeCommand}

theorem answers_panic (message : String) :
    Answers cmd (.error (.panic message)) := by
  intro entry same
  cases same

theorem answers_status (status : UInt16) :
    Answers cmd (.ok { commandId := cmd.commandId, status := status }) := by
  intro entry same
  cases same
  exact ⟨rfl, rfl⟩

theorem outcome_panic
    (message : String)
    (unread : payloadLength target connection cmd = 0) :
    Outcome target connection cmd
      { completion := .error (.panic message)
        target := target
        connection := connection } := by
  have outcome :=
    Outcome.replied (.error (.panic message)) [] (answers_panic message)
      unread
  rw [TargetConnection.write, Conn.write, List.append_nil] at outcome
  exact outcome

theorem outcome_sent
    (status : UInt16) (sent : Bytes)
    (unread : payloadLength target connection cmd = 0) :
    Outcome target connection cmd
      (completed target (connection.write sent) cmd status) :=
  .replied _ sent (answers_status status) unread

theorem outcome_completed
    (status : UInt16)
    (unread : payloadLength target connection cmd = 0) :
    Outcome target connection cmd
      (completed target connection cmd status) := by
  have outcome := outcome_sent status [] unread
  rw [TargetConnection.write, Conn.write, List.append_nil] at outcome
  exact outcome

theorem payloadLength_of_ne (other : cmd.opcode ≠ nvmeCmdWrite) :
    payloadLength target connection cmd = 0 := by
  rw [payloadLength, if_neg other]

theorem payloadLength_of_absent
    (absent :
      target.namespaceAt connection.subsystemNqn cmd.nsid = none) :
    payloadLength target connection cmd = 0 := by
  rw [payloadLength, absent]
  exact ite_self 0

theorem payloadLength_of_present
    {ns : TargetNamespace} (opcode : cmd.opcode = nvmeCmdWrite)
    (present :
      target.namespaceAt connection.subsystemNqn cmd.nsid = some ns) :
    payloadLength target connection cmd = (extent cmd ns).2.toNat := by
  rw [payloadLength, if_pos opcode, present]

theorem processFabricsCommand_outcome
    (opcode : cmd.opcode = nvmeOpcodeFabrics) :
    Outcome target connection cmd
      (processFabricsCommand target connection cmd) := by
  have unread : payloadLength target connection cmd = 0 := by
    apply payloadLength_of_ne
    rw [opcode]
    decide
  rw [processFabricsCommand]
  split
  · cases found : target.subsystems.get? connection.subsystemNqn with
    | none => exact outcome_completed _ unread
    | some subsystem =>
        by_cases refused : subsystem.allows connection.hostNqn = false
        · simp only [if_pos refused]
          exact outcome_completed _ unread
        · simp only [if_neg refused]
          exact .connected subsystem _ _ _ opcode found
  · exact outcome_completed _ unread

theorem processIdentifyCommand_outcome
    (opcode : cmd.opcode = nvmeAdminIdentify) :
    Outcome target connection cmd
      (processIdentifyCommand target connection cmd) := by
  have unread : payloadLength target connection cmd = 0 := by
    apply payloadLength_of_ne
    rw [opcode]
    decide
  rw [processIdentifyCommand]
  cases target.subsystems.get? connection.subsystemNqn with
  | none => exact outcome_completed _ unread
  | some subsystem =>
      change Outcome target connection cmd (if _ then _ else _)
      split
      · exact outcome_sent _ _ unread
      · split
        · cases subsystem.namespaces.get? cmd.nsid with
          | none => exact outcome_completed _ unread
          | some ns =>
              change Outcome target connection cmd (if _ then _ else _)
              split
              · exact outcome_panic _ unread
              · exact outcome_sent _ _ unread
        · exact outcome_completed _ unread

theorem processReadCommand_outcome (opcode : cmd.opcode = nvmeCmdRead) :
    Outcome target connection cmd
      (processReadCommand target connection cmd) := by
  have unread : payloadLength target connection cmd = 0 := by
    apply payloadLength_of_ne
    rw [opcode]
    decide
  rw [processReadCommand]
  cases target.subsystems.get? connection.subsystemNqn with
  | none => exact outcome_completed _ unread
  | some subsystem =>
      cases found : subsystem.namespaces.get? cmd.nsid with
      | none =>
          simp only [found]
          exact outcome_completed _ unread
      | some ns =>
          simp only [found]
          split
          · exact outcome_panic _ unread
          · exact outcome_completed _ unread
          · exact outcome_sent _ _ unread

theorem processFlushCommand_outcome (opcode : cmd.opcode = nvmeCmdFlush) :
    Outcome target connection cmd
      (processFlushCommand target connection cmd) := by
  have unread : payloadLength target connection cmd = 0 := by
    apply payloadLength_of_ne
    rw [opcode]
    decide
  rw [processFlushCommand]
  cases target.subsystems.get? connection.subsystemNqn with
  | none => exact outcome_completed _ unread
  | some subsystem =>
      cases found : subsystem.namespaces.get? cmd.nsid with
      | none =>
          simp only [found]
          exact outcome_completed _ unread
      | some ns =>
          simp only [found]
          exact outcome_completed _ unread

theorem processWriteCommand_outcome (opcode : cmd.opcode = nvmeCmdWrite) :
    Outcome target connection cmd
      (processWriteCommand target connection cmd) := by
  rw [processWriteCommand]
  cases found : target.subsystems.get? connection.subsystemNqn with
  | none =>
      exact outcome_completed _
        (payloadLength_of_absent (namespaceAt_of_absent found))
  | some subsystem =>
      have lookup :
          target.namespaceAt connection.subsystemNqn cmd.nsid =
            subsystem.namespaces.get? cmd.nsid :=
        namespaceAt_of_found found
      cases present : subsystem.namespaces.get? cmd.nsid with
      | none =>
          simp only [present]
          exact outcome_completed _
            (payloadLength_of_absent (lookup.trans present))
      | some ns =>
          have asked :=
            payloadLength_of_present opcode (lookup.trans present)
          simp only [present]
          rw [← asked]
          split
          · exact .dropped _ (answers_status _)
          · split
            · exact .dropped _ (answers_panic _)
            · exact .dropped _ (answers_status _)
            · exact .stored subsystem ns _ found present

/-- Every command has one of the outcomes. -/
theorem processCommand_outcome :
    Outcome target connection cmd
      (processCommand target connection cmd) := by
  rw [processCommand]
  split
  · rename_i opcode
    exact processFabricsCommand_outcome opcode
  · split
    · rename_i opcode
      exact processIdentifyCommand_outcome opcode
    · split
      · rename_i opcode
        exact processReadCommand_outcome opcode
      · split
        · rename_i opcode
          exact processWriteCommand_outcome opcode
        · rename_i other
          split
          · rename_i opcode
            exact processFlushCommand_outcome opcode
          · exact outcome_completed _ (payloadLength_of_ne other)

end Outcomes

/-! ## What follows for every command -/

section Facts

variable
    {target : NVMeoFTarget}
    {connection : TargetConnection}
    {cmd : NVMeCommand}

/-- Replacing a subsystem by one with the same hosts keeps who is allowed. -/
theorem allows_set
    {subsystem next : Subsystem} {nqn : String}
    (found : target.subsystems.get? nqn = some subsystem)
    (hosts : next.allowedHosts = subsystem.allowedHosts)
    (other hostNqn : String) :
    NVMeoFTarget.allows { subsystems := target.subsystems.set nqn next }
        other hostNqn =
      target.allows other hostNqn := by
  rw [NVMeoFTarget.allows, NVMeoFTarget.allows, Dict.get?_set]
  split
  · rename_i same
    rw [same, found]
    simp only [Option.map_some, Subsystem.allows, hosts]
  · rfl

/-- Replacing a subsystem by one with the same block sizes keeps them. -/
theorem blockSizeAt_set
    {subsystem next : Subsystem} {nqn : String}
    (found : target.subsystems.get? nqn = some subsystem)
    (sizes :
      ∀ nsid,
        (next.namespaces.get? nsid).map TargetNamespace.blockSize =
          (subsystem.namespaces.get? nsid).map TargetNamespace.blockSize)
    (other : String) (nsid : UInt32) :
    NVMeoFTarget.blockSizeAt { subsystems := target.subsystems.set nqn next }
        other nsid =
      target.blockSizeAt other nsid := by
  rw [NVMeoFTarget.blockSizeAt, NVMeoFTarget.namespaceAt, Dict.get?_set]
  split
  · rename_i same
    rw [NVMeoFTarget.blockSizeAt, NVMeoFTarget.namespaceAt, same, found]
    exact sizes nsid
  · rfl

theorem isSome_set
    {subsystem next : Subsystem} {nqn : String}
    (found : target.subsystems.get? nqn = some subsystem) (other : String) :
    ((target.subsystems.set nqn next).get? other).isSome =
      (target.subsystems.get? other).isSome := by
  rw [Dict.get?_set]
  split
  · rename_i same
    rw [same, found]
    rfl
  · rfl

/-- What no command changes. -/
structure Keeps
    (target : NVMeoFTarget) (connection : TargetConnection)
    (processed : Processed) : Prop where
  subsystemNqn : processed.connection.subsystemNqn = connection.subsystemNqn
  hostNqn : processed.connection.hostNqn = connection.hostNqn
  isSome :
    ∀ nqn,
      (processed.target.subsystems.get? nqn).isSome =
        (target.subsystems.get? nqn).isSome
  allows :
    ∀ nqn hostNqn,
      processed.target.allows nqn hostNqn = target.allows nqn hostNqn
  blockSizeAt :
    ∀ nqn nsid,
      processed.target.blockSizeAt nqn nsid = target.blockSizeAt nqn nsid

/-- What is read for a command. -/
structure Consumes
    (target : NVMeoFTarget) (connection : TargetConnection)
    (cmd : NVMeCommand) (processed : Processed) : Prop where
  asked : processed.asked = payloadLength target connection cmd
  payload : processed.payload = receivedPayload target connection cmd
  incoming :
    processed.connection.conn.incoming =
      (received target connection cmd).conn.incoming

theorem consumes_nothing
    {processed : Processed}
    (unread : payloadLength target connection cmd = 0)
    (asked : processed.asked = 0)
    (payload : processed.payload = [])
    (incoming :
      processed.connection.conn.incoming = connection.conn.incoming) :
    Consumes target connection cmd processed := by
  constructor
  · rw [asked, unread]
  · rw [payload, receivedPayload, unread]
    rfl
  · rw [incoming, received, unread]
    rfl

namespace Outcome

variable {processed : Processed}

/-- The completion of a command has its identifier and no queue. -/
theorem answers (outcome : Outcome target connection cmd processed) :
    Answers cmd processed.completion := by
  cases outcome with
  | replied completion sent answers unread => exact answers
  | connected subsystem ctrlId controllers controller opcode found =>
      intro entry same
      cases same
      exact ⟨rfl, rfl⟩
  | dropped completion answers => exact answers
  | stored subsystem ns backend found present => exact answers_status _

theorem consumes (outcome : Outcome target connection cmd processed) :
    Consumes target connection cmd processed := by
  cases outcome with
  | replied completion sent answers unread =>
      exact consumes_nothing unread rfl rfl rfl
  | connected subsystem ctrlId controllers controller opcode found =>
      refine consumes_nothing (payloadLength_of_ne ?_) rfl rfl rfl
      rw [opcode]
      decide
  | dropped completion answers => exact ⟨rfl, rfl, rfl⟩
  | stored subsystem ns backend found present => exact ⟨rfl, rfl, rfl⟩

theorem keeps (outcome : Outcome target connection cmd processed) :
    Keeps target connection processed := by
  cases outcome with
  | replied completion sent answers unread =>
      exact
        ⟨rfl, rfl, fun _ => rfl, fun _ _ => rfl, fun _ _ => rfl⟩
  | connected subsystem ctrlId controllers controller opcode found =>
      exact
        ⟨rfl, rfl, isSome_set found, allows_set found rfl,
          blockSizeAt_set found fun _ => rfl⟩
  | dropped completion answers =>
      exact
        ⟨rfl, rfl, fun _ => rfl, fun _ _ => rfl, fun _ _ => rfl⟩
  | stored subsystem ns backend found present =>
      refine
        ⟨rfl, rfl, isSome_set found, allows_set found rfl,
          blockSizeAt_set found ?_⟩
      intro nsid
      rw [Dict.get?_set]
      split
      · rename_i same
        rw [same, present]
        rfl
      · rfl

end Outcome

theorem processCommand_answers :
    Answers cmd (processCommand target connection cmd).completion :=
  processCommand_outcome.answers

theorem processCommand_consumes :
    Consumes target connection cmd
      (processCommand target connection cmd) :=
  processCommand_outcome.consumes

theorem processCommand_keeps :
    Keeps target connection (processCommand target connection cmd) :=
  Outcome.keeps (processCommand_outcome : Outcome target connection cmd _)

end Facts

end StorageAppliance.NVMeoF
