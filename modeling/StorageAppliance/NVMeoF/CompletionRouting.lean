import StorageAppliance.Library.Run
import StorageAppliance.NVMeoF.Initiator
import StorageAppliance.NVMeoF.Processing

/-!
# Routing of completions

An initiator submits commands on its admin queue and its I/O queues, the target
processes them one after the other, and the initiator dispatches the completions
that come back.  Each queue counts its command identifiers on its own, so that a
completion has to say which queue it belongs to.  The target never does: all its
completions name queue 0, and all are dispatched to the admin queue.

An exchange records for each message which command it belongs to.  Every
completion reaches the entry of its command exactly if each belongs to a command
of the admin queue whose identifier was not given to a later one
(`routed_iff`).
-/

namespace StorageAppliance.NVMeoF

open StorageAppliance.Go
open StorageAppliance.Library

/-! ## Exchanges -/

inductive QueueRef where
  | admin
  | io (index : Nat)
deriving DecidableEq

/-- The submission that a message belongs to. -/
structure Origin where
  queue : QueueRef
  commandId : UInt16
  callback : Nat
deriving DecidableEq

def NVMeoFInitiator.pendingAt
    (initiator : NVMeoFInitiator) (queue : QueueRef) (commandId : UInt16) :
    Option PendingCommand :=
  match queue with
  | .admin => initiator.adminQueue.pending.get? commandId
  | .io index =>
      initiator.ioQueues[index]?.bind fun queue =>
        queue.pending.get? commandId

/-- An initiator and a target, with the messages between them. -/
structure Exchange where
  initiator : NVMeoFInitiator
  target : NVMeoFTarget
  connection : TargetConnection
  down : Bool := false
  commands : List (Origin × CommandBuffer) := []
  completions : List (Origin × CompletionBuffer) := []
  callbacks : Nat := 0
  adminSubmitted : List (UInt16 × Nat) := []

inductive ExchangeStep where
  | submitAdmin (cmd : NVMeCommand)
  | submitIo (index : Nat) (cmd : NVMeCommand) (data : Bytes)
  | createIoQueue (index : Nat)
  | process (arrivals : List Bytes)
  | dispatch

namespace Exchange

/-- Submit a command on the admin queue. -/
def submitAdmin (exchange : Exchange) (cmd : NVMeCommand) : Exchange :=
  let (submission, queue) :=
    exchange.initiator.adminQueue.submitCommandSync cmd exchange.callbacks
  let commandId := submission.command.commandId
  { exchange with
    initiator := { exchange.initiator with adminQueue := queue }
    commands :=
      exchange.commands ++
        [(⟨.admin, commandId, exchange.callbacks⟩,
          serializeCommand submission.command)]
    callbacks := exchange.callbacks + 1
    adminSubmitted :=
      exchange.adminSubmitted ++ [(commandId, exchange.callbacks)] }

/-- Submit a command on an I/O queue. -/
def submitIo
    (exchange : Exchange) (index : Nat) (cmd : NVMeCommand)
    (data : Bytes) : Exchange :=
  match exchange.initiator.submitOn index cmd data exchange.callbacks with
  | (.error _, initiator) => { exchange with initiator := initiator }
  | (.ok submission, initiator) =>
      { exchange with
        initiator := initiator
        commands :=
          exchange.commands ++
            [(⟨.io index, submission.command.commandId,
                exchange.callbacks⟩,
              serializeCommand submission.command)]
        callbacks := exchange.callbacks + 1 }

/-- The connection after more bytes have arrived. -/
def arrived (exchange : Exchange) (arrivals : List Bytes) :
    TargetConnection :=
  { exchange.connection with
    conn :=
      { exchange.connection.conn with
        incoming := exchange.connection.conn.incoming ++ arrivals } }

/-- The target processes the next command, unless it has panicked. -/
def process (exchange : Exchange) (arrivals : List Bytes) : Exchange :=
  match exchange.down, exchange.commands with
  | true, _ => exchange
  | false, [] => exchange
  | false, (origin, buffer) :: rest =>
      match parseCommand buffer with
      | .error _ => { exchange with commands := rest, down := true }
      | .ok cmd =>
          let processed :=
            processCommand exchange.target (exchange.arrived arrivals) cmd
          match processed.completion with
          | .error _ => { exchange with commands := rest, down := true }
          | .ok completion =>
              { exchange with
                target := processed.target
                connection := processed.connection
                commands := rest
                completions :=
                  exchange.completions ++
                    [(origin, serializeCompletion completion)] }

/-- The initiator dispatches the next completion. -/
def dispatch (exchange : Exchange) : Exchange :=
  match exchange.completions with
  | [] => exchange
  | (_, buffer) :: rest =>
      { exchange with
        initiator :=
          (exchange.initiator.dispatchCompletion (parseCompletion buffer)).2
        completions := rest }

def step (exchange : Exchange) : ExchangeStep → Exchange
  | .submitAdmin cmd => exchange.submitAdmin cmd
  | .submitIo index cmd data => exchange.submitIo index cmd data
  | .createIoQueue index =>
      { exchange with
        initiator := exchange.initiator.createIoQueue index }
  | .process arrivals => exchange.process arrivals
  | .dispatch => exchange.dispatch

end Exchange

/-! ## Routing -/

/-- A completion reaches exactly the entry of its command. -/
structure Delivered
    (initiator : NVMeoFInitiator) (origin : Origin)
    (dispatched : Option Invocation × NVMeoFInitiator) : Prop where
  pending :
    (initiator.pendingAt origin.queue origin.commandId).map
        PendingCommand.callback =
      some origin.callback
  invoked :
    dispatched.1.map Invocation.callback = some origin.callback
  removed :
    dispatched.2.pendingAt origin.queue origin.commandId = none
  others :
    ∀ queue commandId,
      (queue, commandId) ≠ (origin.queue, origin.commandId) →
        dispatched.2.pendingAt queue commandId =
          initiator.pendingAt queue commandId

namespace Exchange

/-- A completion that is dispatched reaches the entry of its command. -/
def Routed (exchange : Exchange) : ExchangeStep → Prop
  | .dispatch =>
      ∀ origin buffer rest,
        exchange.completions = (origin, buffer) :: rest →
          Delivered exchange.initiator origin
            (exchange.initiator.dispatchCompletion (parseCompletion buffer))
  | _ => True

/-- The identifier of an admin command was not given to a later one. -/
def Latest (exchange : Exchange) (origin : Origin) : Prop :=
  ∀ entry ∈ exchange.adminSubmitted,
    entry.1 = origin.commandId → entry.2 ≤ origin.callback

/-- A completion that is dispatched belongs to the latest such command. -/
def ForAdmin (exchange : Exchange) : ExchangeStep → Prop
  | .dispatch =>
      ∀ origin buffer rest,
        exchange.completions = (origin, buffer) :: rest →
          origin.queue = .admin ∧ exchange.Latest origin
  | _ => True

/-! ## Messages and their commands -/

/-- The submissions whose completion has not been dispatched. -/
def inFlight (exchange : Exchange) : List Origin :=
  exchange.completions.map Prod.fst ++ exchange.commands.map Prod.fst

/-- The admin command that waits under an identifier. -/
def adminPending (exchange : Exchange) (commandId : UInt16) : Option Nat :=
  (exchange.initiator.adminQueue.pending.get? commandId).map
    PendingCommand.callback

/-- The messages carry the identifiers of their commands, and no queue. -/
structure Carried (exchange : Exchange) : Prop where
  commands :
    ∀ origin buffer,
      (origin, buffer) ∈ exchange.commands →
        ∀ cmd,
          parseCommand buffer = .ok cmd →
            cmd.commandId = origin.commandId
  completions :
    ∀ origin buffer,
      (origin, buffer) ∈ exchange.completions →
        (parseCompletion buffer).commandId = origin.commandId ∧
          (parseCompletion buffer).sqid = 0

/-- The admin queue holds the latest command of each identifier in flight. -/
structure Consistent (exchange : Exchange) : Prop where
  submittedBelow :
    ∀ entry ∈ exchange.adminSubmitted, entry.2 < exchange.callbacks
  flightBelow :
    ∀ origin ∈ exchange.inFlight, origin.callback < exchange.callbacks
  distinct : (exchange.inFlight.map Origin.callback).Nodup
  recorded :
    ∀ origin ∈ exchange.inFlight,
      origin.queue = .admin →
        (origin.commandId, origin.callback) ∈ exchange.adminSubmitted
  latest :
    ∀ commandId callback,
      exchange.adminPending commandId = some callback →
        ∀ entry ∈ exchange.adminSubmitted,
          entry.1 = commandId → entry.2 ≤ callback
  waiting :
    ∀ origin ∈ exchange.inFlight,
      origin.queue = .admin →
        exchange.Latest origin →
          exchange.adminPending origin.commandId = some origin.callback

end Exchange

section Messages

theorem parse_commandId
    {cmd parsed : NVMeCommand}
    (found : parseCommand (serializeCommand cmd) = .ok parsed) :
    parsed.commandId = cmd.commandId := by
  by_cases fabrics : cmd.opcode = nvmeOpcodeFabrics
  · have opcode :
        byteAt (serializeCommand cmd).bytes 0 = nvmeOpcodeFabrics :=
      (serializeCommand_words cmd).1.1.trans fabrics
    rcases parseCommand_fabrics opcode with ⟨message, panics⟩
    rw [panics] at found
    cases found
  · rw [parseCommand_serializeCommand fabrics] at found
    cases found
    rfl

theorem dispatchCompletion_admin
    {initiator : NVMeoFInitiator} {completion : NVMeCompletion}
    (unnamed : completion.sqid = 0) :
    initiator.dispatchCompletion completion =
      ((initiator.adminQueue.handleCompletion completion).1,
        { initiator with
          adminQueue :=
            (initiator.adminQueue.handleCompletion completion).2 }) := by
  rw [NVMeoFInitiator.dispatchCompletion, if_pos unnamed]

theorem handleCompletion_found
    {queue : CommandQueue} {completion : NVMeCompletion}
    {pending : PendingCommand}
    (found : queue.pending.get? completion.commandId = some pending) :
    queue.handleCompletion completion =
      (some
          { callback := pending.callback
            status := completion.status
            result := completion.dw0.toUInt64 },
        { queue with
          pending := queue.pending.erase completion.commandId }) := by
  rw [CommandQueue.handleCompletion, found]

end Messages

namespace Exchange

section Steps

variable {exchange : Exchange}

/-- What dispatching a completion of an admin command does. -/
theorem dispatchCompletion_pending
    {buffer : CompletionBuffer} {commandId : UInt16} {callback : Nat}
    (named : (parseCompletion buffer).commandId = commandId)
    (unnamed : (parseCompletion buffer).sqid = 0)
    (waits : exchange.adminPending commandId = some callback) :
    ∃ status result,
      exchange.initiator.dispatchCompletion (parseCompletion buffer) =
        (some
            { callback := callback
              status := status
              result := result },
          { exchange.initiator with
            adminQueue :=
              { exchange.initiator.adminQueue with
                pending :=
                  exchange.initiator.adminQueue.pending.erase
                    commandId } }) := by
  rcases Option.map_eq_some_iff.mp waits with ⟨pending, found, rfl⟩
  rw [← named] at found
  rw [dispatchCompletion_admin unnamed, handleCompletion_found found, named]
  exact ⟨_, _, rfl⟩

/-- A completion reaches its command exactly if that is the latest there. -/
theorem routed_iff_forAdmin
    (carried : exchange.Carried) (consistent : exchange.Consistent)
    (input : ExchangeStep) :
    exchange.Routed input ↔ exchange.ForAdmin input := by
  cases input with
  | submitAdmin cmd => exact Iff.rfl
  | submitIo index cmd data => exact Iff.rfl
  | createIoQueue index => exact Iff.rfl
  | process arrivals => exact Iff.rfl
  | dispatch =>
      constructor
      · intro routed origin buffer rest completions
        have delivered := routed origin buffer rest completions
        have member : (origin, buffer) ∈ exchange.completions := by
          simp [completions]
        have pending := delivered.pending
        have removed := delivered.removed
        rw [dispatchCompletion_admin
          (carried.completions origin buffer member).2] at removed
        cases queue : origin.queue with
        | admin =>
            rw [queue] at pending
            exact ⟨rfl, consistent.latest _ _ pending⟩
        | io index =>
            rw [queue] at pending removed
            have absent :
                exchange.initiator.pendingAt (.io index)
                    origin.commandId =
                  none :=
              removed
            rw [absent] at pending
            cases pending
      · intro forAdmin origin buffer rest completions
        rcases forAdmin origin buffer rest completions with
          ⟨queue, latest⟩
        have member : (origin, buffer) ∈ exchange.completions := by
          simp [completions]
        have flight : origin ∈ exchange.inFlight := by
          simp [inFlight, completions]
        rcases carried.completions origin buffer member with
          ⟨named, unnamed⟩
        have waits := consistent.waiting origin flight queue latest
        rcases dispatchCompletion_pending named unnamed waits with
          ⟨status, result, dispatched⟩
        rw [dispatched]
        constructor
        · rw [queue]
          exact waits
        · rfl
        · rw [queue]
          exact Dict.get?_erase_self _ _
        · intro other commandId apart
          cases other with
          | admin =>
              have distinct : commandId ≠ origin.commandId := by
                intro same
                exact apart (by rw [queue, same])
              exact Dict.get?_erase_ne _ distinct
          | io index => rfl

/-- What processing a command does. -/
theorem process_cases (exchange : Exchange) (arrivals : List Bytes) :
    exchange.process arrivals = exchange ∨
      (∃ flight rest,
          exchange.commands = flight :: rest ∧
            exchange.process arrivals =
              { exchange with commands := rest, down := true }) ∨
        ∃ origin buffer rest cmd completion target connection,
          exchange.commands = (origin, buffer) :: rest ∧
            parseCommand buffer = .ok cmd ∧
            completion.commandId = cmd.commandId ∧
            completion.sqid = 0 ∧
            exchange.process arrivals =
              { exchange with
                target := target
                connection := connection
                commands := rest
                completions :=
                  exchange.completions ++
                    [(origin, serializeCompletion completion)] } := by
  cases down : exchange.down with
  | true => exact Or.inl (by simp only [process, down])
  | false =>
      cases commands : exchange.commands with
      | nil => exact Or.inl (by simp only [process, down, commands])
      | cons flight rest =>
          rcases flight with ⟨origin, buffer⟩
          cases parsed : parseCommand buffer with
          | error fault =>
              refine Or.inr (Or.inl ⟨(origin, buffer), rest, rfl, ?_⟩)
              simp only [process, down, commands, parsed]
          | ok cmd =>
              have answers :
                  Answers cmd
                    (processCommand exchange.target
                      (exchange.arrived arrivals) cmd).completion :=
                processCommand_answers
              cases completed :
                  (processCommand exchange.target
                    (exchange.arrived arrivals) cmd).completion with
              | error fault =>
                  refine Or.inr (Or.inl ⟨(origin, buffer), rest, rfl, ?_⟩)
                  simp only [process, down, commands, parsed, completed]
              | ok completion =>
                  rcases answers completion completed with
                    ⟨named, unnamed⟩
                  refine
                    Or.inr
                      (Or.inr
                        ⟨origin, buffer, rest, cmd, completion,
                          (processCommand exchange.target
                            (exchange.arrived arrivals) cmd).target,
                          (processCommand exchange.target
                            (exchange.arrived arrivals) cmd).connection,
                          rfl, parsed, named, unnamed, ?_⟩)
                  simp only [process, down, commands, parsed, completed]

/-- What submitting a command on an I/O queue does. -/
theorem submitIo_cases
    (exchange : Exchange) (index : Nat) (cmd : NVMeCommand)
    (data : Bytes) :
    exchange.submitIo index cmd data = exchange ∨
      ∃ ioQueues command,
        exchange.submitIo index cmd data =
          { exchange with
            initiator := { exchange.initiator with ioQueues := ioQueues }
            commands :=
              exchange.commands ++
                [(⟨.io index, command.commandId, exchange.callbacks⟩,
                  serializeCommand command)]
            callbacks := exchange.callbacks + 1 } := by
  rw [submitIo, NVMeoFInitiator.submitOn]
  cases exchange.initiator.ioQueues[index]? with
  | none => exact Or.inl rfl
  | some queue => exact Or.inr ⟨_, _, rfl⟩

/-! ## Invariants -/

theorem Carried.submit
    (carried : exchange.Carried) {next : Exchange}
    {origin : Origin} {command : NVMeCommand}
    (named : command.commandId = origin.commandId)
    (commands :
      next.commands =
        exchange.commands ++ [(origin, serializeCommand command)])
    (completions : next.completions = exchange.completions) :
    next.Carried := by
  constructor
  · intro other buffer member cmd parsed
    rw [commands, List.mem_append, List.mem_singleton] at member
    rcases member with old | new
    · exact carried.commands other buffer old cmd parsed
    · cases new
      exact (parse_commandId parsed).trans named
  · rw [completions]
    exact carried.completions

theorem carried_step
    (carried : exchange.Carried) (input : ExchangeStep) :
    (exchange.step input).Carried := by
  cases input with
  | submitAdmin cmd => exact carried.submit rfl rfl rfl
  | submitIo index cmd data =>
      rw [step]
      rcases submitIo_cases exchange index cmd data with
        refused | ⟨ioQueues, command, submitted⟩
      · rw [refused]
        exact carried
      · rw [submitted]
        exact carried.submit rfl rfl rfl
  | createIoQueue index => exact ⟨carried.commands, carried.completions⟩
  | process arrivals =>
      rw [step]
      rcases process_cases exchange arrivals with
        idle | ⟨flight, rest, commands, panicked⟩ |
          ⟨origin, buffer, rest, cmd, completion, target, connection,
            commands, parsed, named, unnamed, answered⟩
      · rw [idle]
        exact carried
      · rw [panicked]
        refine ⟨?_, carried.completions⟩
        intro origin buffer member
        exact carried.commands origin buffer (by simp [commands, member])
      · rw [answered]
        constructor
        · intro other otherBuffer member
          exact
            carried.commands other otherBuffer (by simp [commands, member])
        · intro other otherBuffer member
          rcases List.mem_append.mp member with old | new
          · exact carried.completions other otherBuffer old
          · cases List.mem_singleton.mp new
            rw [parseCompletion_serializeCompletion]
            have front : (origin, buffer) ∈ exchange.commands := by
              simp [commands]
            exact
              ⟨named.trans
                  (carried.commands origin buffer front cmd parsed),
                unnamed⟩
  | dispatch =>
      rw [step, dispatch]
      split
      · exact carried
      · rename_i origin buffer rest completions
        refine ⟨carried.commands, ?_⟩
        intro other otherBuffer member
        exact
          carried.completions other otherBuffer
            (by simp [completions, member])

/-- Messages can be lost. -/
theorem Consistent.lose
    (consistent : exchange.Consistent) {next : Exchange}
    (fewer : next.inFlight.Sublist exchange.inFlight)
    (callbacks : next.callbacks = exchange.callbacks)
    (submitted : next.adminSubmitted = exchange.adminSubmitted)
    (pending :
      ∀ commandId,
        next.adminPending commandId = exchange.adminPending commandId) :
    next.Consistent := by
  constructor
  · rw [submitted, callbacks]
    exact consistent.submittedBelow
  · intro origin member
    rw [callbacks]
    exact consistent.flightBelow origin (fewer.subset member)
  · exact (fewer.map _).nodup consistent.distinct
  · intro origin member queue
    rw [submitted]
    exact consistent.recorded origin (fewer.subset member) queue
  · intro commandId callback
    rw [pending, submitted]
    exact consistent.latest commandId callback
  · intro origin member queue latest
    rw [pending]
    rw [Latest, submitted] at latest
    exact consistent.waiting origin (fewer.subset member) queue latest

theorem Consistent.distinct_submit
    (consistent : exchange.Consistent) {next : Exchange} {origin : Origin}
    (named : origin.callback = exchange.callbacks)
    (flight : next.inFlight = exchange.inFlight ++ [origin]) :
    (next.inFlight.map Origin.callback).Nodup := by
  rw [flight, List.map_append, List.nodup_append]
  refine ⟨consistent.distinct, List.nodup_singleton _, ?_⟩
  intro old oldMember new newMember
  rcases List.mem_map.mp oldMember with ⟨other, otherMember, rfl⟩
  have below := consistent.flightBelow other otherMember
  rw [List.map_singleton, List.mem_singleton] at newMember
  rw [newMember, named]
  exact Nat.ne_of_lt below

theorem Consistent.flightBelow_submit
    (consistent : exchange.Consistent) {next : Exchange} {origin : Origin}
    (named : origin.callback = exchange.callbacks)
    (flight : next.inFlight = exchange.inFlight ++ [origin])
    (callbacks : next.callbacks = exchange.callbacks + 1) :
    ∀ other ∈ next.inFlight, other.callback < next.callbacks := by
  intro other member
  rw [flight, List.mem_append, List.mem_singleton] at member
  rw [callbacks]
  rcases member with old | new
  · exact Nat.lt_succ_of_lt (consistent.flightBelow other old)
  · rw [new, named]
    exact Nat.lt_succ_self _

/-- A submission on an I/O queue does not concern the admin queue. -/
theorem Consistent.submitIo
    (consistent : exchange.Consistent) {next : Exchange} {origin : Origin}
    {index : Nat} (queue : origin.queue = .io index)
    (named : origin.callback = exchange.callbacks)
    (flight : next.inFlight = exchange.inFlight ++ [origin])
    (callbacks : next.callbacks = exchange.callbacks + 1)
    (submitted : next.adminSubmitted = exchange.adminSubmitted)
    (pending :
      ∀ commandId,
        next.adminPending commandId = exchange.adminPending commandId) :
    next.Consistent := by
  have admin :
      ∀ other ∈ next.inFlight,
        other.queue = .admin → other ∈ exchange.inFlight := by
    intro other member isAdmin
    rw [flight, List.mem_append, List.mem_singleton] at member
    rcases member with old | new
    · exact old
    · rw [new, queue] at isAdmin
      cases isAdmin
  constructor
  · intro entry member
    rw [submitted] at member
    rw [callbacks]
    exact Nat.lt_succ_of_lt (consistent.submittedBelow entry member)
  · exact consistent.flightBelow_submit named flight callbacks
  · exact consistent.distinct_submit named flight
  · intro other member isAdmin
    rw [submitted]
    exact consistent.recorded other (admin other member isAdmin) isAdmin
  · intro commandId callback
    rw [pending, submitted]
    exact consistent.latest commandId callback
  · intro other member isAdmin latest
    rw [pending]
    rw [Latest, submitted] at latest
    exact
      consistent.waiting other (admin other member isAdmin) isAdmin latest

/-- A submission on the admin queue waits as the latest of its identifier. -/
theorem Consistent.submitAdmin
    (consistent : exchange.Consistent) {next : Exchange}
    {commandId : UInt16}
    (flight :
      next.inFlight =
        exchange.inFlight ++ [⟨.admin, commandId, exchange.callbacks⟩])
    (callbacks : next.callbacks = exchange.callbacks + 1)
    (submitted :
      next.adminSubmitted =
        exchange.adminSubmitted ++ [(commandId, exchange.callbacks)])
    (pending :
      ∀ other,
        next.adminPending other =
          if other = commandId then
            some exchange.callbacks
          else
            exchange.adminPending other) :
    next.Consistent := by
  constructor
  · intro entry member
    rw [submitted, List.mem_append, List.mem_singleton] at member
    rw [callbacks]
    rcases member with old | new
    · exact Nat.lt_succ_of_lt (consistent.submittedBelow entry old)
    · rw [new]
      exact Nat.lt_succ_self _
  · exact consistent.flightBelow_submit rfl flight callbacks
  · exact consistent.distinct_submit rfl flight
  · intro origin member queue
    rw [flight, List.mem_append, List.mem_singleton] at member
    rw [submitted, List.mem_append, List.mem_singleton]
    rcases member with old | new
    · exact Or.inl (consistent.recorded origin old queue)
    · rw [new]
      exact Or.inr rfl
  · intro other callback waits entry member same
    rw [submitted, List.mem_append, List.mem_singleton] at member
    rw [pending] at waits
    split at waits
    · cases waits
      rcases member with old | new
      · exact Nat.le_of_lt (consistent.submittedBelow entry old)
      · rw [new]
    · rename_i apart
      rcases member with old | new
      · exact consistent.latest other callback waits entry old same
      · rw [new] at same
        exact absurd same.symm apart
  · intro origin member queue latest
    rw [flight, List.mem_append, List.mem_singleton] at member
    rw [pending]
    rcases member with old | new
    · have apart : origin.commandId ≠ commandId := by
        intro same
        have above :=
          latest (commandId, exchange.callbacks) (by simp [submitted])
            same.symm
        have below := consistent.flightBelow origin old
        exact Nat.not_le_of_lt below above
      rw [if_neg apart]
      apply consistent.waiting origin old queue
      intro entry recorded
      exact latest entry (by simp [submitted, recorded])
    · rw [new, if_pos rfl]

/-- Dispatching to the latest command of an identifier keeps the others. -/
theorem Consistent.dispatch
    (consistent : exchange.Consistent) {next : Exchange} {origin : Origin}
    (flight : exchange.inFlight = origin :: next.inFlight)
    (queue : origin.queue = .admin) (latest : exchange.Latest origin)
    (callbacks : next.callbacks = exchange.callbacks)
    (submitted : next.adminSubmitted = exchange.adminSubmitted)
    (pending :
      ∀ other,
        next.adminPending other =
          if other = origin.commandId then
            none
          else
            exchange.adminPending other) :
    next.Consistent := by
  have distinct := consistent.distinct
  rw [flight, List.map_cons, List.nodup_cons] at distinct
  have waited :
      ∀ other ∈ next.inFlight, other ∈ exchange.inFlight := by
    intro other member
    rw [flight]
    exact List.mem_cons_of_mem _ member
  constructor
  · rw [submitted, callbacks]
    exact consistent.submittedBelow
  · intro other member
    rw [callbacks]
    exact consistent.flightBelow other (waited other member)
  · exact distinct.2
  · intro other member isAdmin
    rw [submitted]
    exact consistent.recorded other (waited other member) isAdmin
  · intro commandId callback waits
    rw [pending] at waits
    rw [submitted]
    split at waits
    · cases waits
    · exact consistent.latest commandId callback waits
  · intro other member isAdmin otherLatest
    rw [Latest, submitted] at otherLatest
    have front : origin ∈ exchange.inFlight := by
      simp [flight]
    have apart : other.commandId ≠ origin.commandId := by
      intro same
      have first :=
        latest _ (consistent.recorded other (waited other member) isAdmin)
          same
      have second :=
        otherLatest _ (consistent.recorded origin front queue) same.symm
      have equal : other.callback = origin.callback :=
        Nat.le_antisymm first second
      exact distinct.1 (List.mem_map.mpr ⟨other, member, equal⟩)
    rw [pending, if_neg apart]
    exact
      consistent.waiting other (waited other member) isAdmin otherLatest

theorem consistent_step
    (carried : exchange.Carried) (consistent : exchange.Consistent)
    {input : ExchangeStep} (forAdmin : exchange.ForAdmin input) :
    (exchange.step input).Consistent := by
  cases input with
  | submitAdmin cmd =>
      refine consistent.submitAdmin ?_ rfl rfl ?_
      · rw [inFlight, inFlight, List.append_assoc]
        change _ ++ List.map Prod.fst (exchange.commands ++ _) = _
        rw [List.map_append]
        rfl
      · intro other
        change Option.map _ ((Dict.set _ _ _).get? other) = _
        rw [Dict.get?_set]
        split
        · rfl
        · rfl
  | submitIo index cmd data =>
      rw [step]
      rcases submitIo_cases exchange index cmd data with
        refused | ⟨ioQueues, command, submitted⟩
      · rw [refused]
        exact consistent
      · rw [submitted]
        have queue :
            Origin.queue
                ⟨.io index, command.commandId, exchange.callbacks⟩ =
              .io index :=
          rfl
        refine consistent.submitIo queue rfl ?_ rfl rfl fun _ => rfl
        simp [inFlight]
  | createIoQueue index =>
      exact consistent.lose (List.Sublist.refl _) rfl rfl fun _ => rfl
  | process arrivals =>
      rw [step]
      rcases process_cases exchange arrivals with
        idle | ⟨flight, rest, commands, panicked⟩ |
          ⟨origin, buffer, rest, cmd, completion, target, connection,
            commands, parsed, named, unnamed, answered⟩
      · rw [idle]
        exact consistent
      · rw [panicked]
        refine consistent.lose ?_ rfl rfl fun _ => rfl
        simp [inFlight, commands]
      · rw [answered]
        refine consistent.lose ?_ rfl rfl fun _ => rfl
        simp [inFlight, commands]
  | dispatch =>
      rw [step, dispatch]
      split
      · exact consistent
      · rename_i origin buffer rest completions
        rcases forAdmin origin buffer rest completions with
          ⟨queue, latest⟩
        have member : (origin, buffer) ∈ exchange.completions := by
          simp [completions]
        have front : origin ∈ exchange.inFlight := by
          simp [inFlight, completions]
        rcases carried.completions origin buffer member with
          ⟨named, unnamed⟩
        rcases dispatchCompletion_pending named unnamed
            (consistent.waiting origin front queue latest) with
          ⟨status, result, dispatched⟩
        rw [dispatched]
        refine consistent.dispatch ?_ queue latest rfl rfl ?_
        · simp [inFlight, completions]
        · intro other
          change Option.map _ ((Dict.erase _ _).get? other) = _
          rw [Dict.get?_erase]
          split
          · rfl
          · rfl

end Steps

/-- An exchange before its first command. -/
def start
    (initiator : NVMeoFInitiator) (target : NVMeoFTarget)
    (connection : TargetConnection) : Exchange where
  initiator := initiator
  target := target
  connection := connection

theorem start_consistent
    (initiator : NVMeoFInitiator) (target : NVMeoFTarget)
    (connection : TargetConnection) :
    (start initiator target connection).Carried ∧
      (start initiator target connection).Consistent := by
  constructor
  · constructor
    · intro origin buffer member
      cases member
    · intro origin buffer member
      cases member
  · constructor
    · intro entry member
      cases member
    · intro origin member
      cases member
    · exact List.nodup_nil
    · intro origin member
      cases member
    · intro commandId callback waits entry member
      cases member
    · intro origin member
      cases member

end Exchange

end StorageAppliance.NVMeoF
