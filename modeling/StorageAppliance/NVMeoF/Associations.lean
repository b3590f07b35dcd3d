import Mathlib.Data.List.Dedup
import Mathlib.Data.List.Induction
import Mathlib.Data.List.Nodup
import Mathlib.Logic.Function.Basic
import StorageAppliance.Library.Run
import StorageAppliance.Library.Tickets
import StorageAppliance.NVMeoF.Processing

/-!
# Associations of hosts and controllers

A host connects its admin queue, which is queue 0, and then its I/O queues, one
connect command each.  The target handles every connect in the same way: it
takes the next identifier of the subsystem and makes a new controller, which has
only the queue that is connected, and which replaces the controller of the
connection.

The connects of any number of connections come in any order.  The queues of each
connection share one controller exactly if no I/O queue is connected
(`associated_iff`).
-/

namespace StorageAppliance.NVMeoF

open StorageAppliance.Go
open StorageAppliance.Library

/-! ## Connects -/

/-- A connect command, with the number of the connection it arrives on. -/
structure Connect where
  connection : Nat
  commandId : UInt16 := 0
  qid : UInt16
  sqSize : UInt16 := 0
deriving DecidableEq

def Connect.command (connect : Connect) : NVMeCommand where
  opcode := nvmeOpcodeFabrics
  commandId := connect.commandId
  fabrics :=
    { fcType := nvmeFabricsTypeConnect
      sqSize := connect.sqSize
      qid := connect.qid }

/-- A target with its connections and the completions sent on each. -/
structure Associations where
  target : NVMeoFTarget
  connections : Nat → TargetConnection
  answers : Nat → List (Except Fault NVMeCompletion) := fun _ => []

namespace Associations

variable
    (hosts : Associations)
    (connects : List Connect)

/-- What processing a connect leaves behind. -/
def processed (connect : Connect) : Processed :=
  processCommand hosts.target (hosts.connections connect.connection)
    connect.command

def step (connect : Connect) : Associations where
  target := (hosts.processed connect).target
  connections :=
    Function.update hosts.connections connect.connection
      (hosts.processed connect).connection
  answers :=
    Function.update hosts.answers connect.connection
      (hosts.answers connect.connection ++
        [(hosts.processed connect).completion])

/-- The subsystem of a connection exists and allows its host. -/
def Accepts (connection : Nat) : Prop :=
  hosts.target.allows (hosts.connections connection).subsystemNqn
      (hosts.connections connection).hostNqn =
    true

/-- The queues that are connected on a connection, in order. -/
def queueIds (connection : Nat) : List UInt16 :=
  (connects.filter fun connect => connect.connection = connection).map
    Connect.qid

/-- An admin queue is connected first, and no queue twice. -/
def Handshake (qids : List UInt16) : Prop :=
  qids.Nodup ∧ ∀ first, qids.head? = some first → first = 0

/-- The connections on which a host is associated with a subsystem. -/
def associations (nqn : String) : List Nat :=
  (connects.map Connect.connection).dedup.filter fun connection =>
    (hosts.connections connection).subsystemNqn = nqn

/-- A completion accepts a queue for a controller. -/
def Answered
    (controllerId : UInt16) (answer : Except Fault NVMeCompletion) : Prop :=
  ∃ entry,
    answer = .ok entry ∧ entry.status = nvmeStatusSuccess ∧
      entry.dw0 = controllerId.toUInt32

/-- A connection shares a controller among the queues connected on it. -/
structure Established
    (connection : Nat) (controller : TargetController) : Prop where
  current : (hosts.connections connection).controller = some controller
  admin : controller.adminQueue.isSome
  io :
    ∀ qid,
      qid ∈ controller.ioQueues.keys ↔
        qid ∈ queueIds connects connection ∧ qid ≠ 0
  answered :
    ∀ answer ∈ hosts.answers connection,
      Answered controller.controllerId answer
  registered :
    ∃ subsystem,
      hosts.target.subsystems.get?
          (hosts.connections connection).subsystemNqn =
        some subsystem ∧
      subsystem.controllers.get? controller.controllerId = some controller

/-- Different connections to a subsystem have different identifiers. -/
def Apart (first second : Nat) : Prop :=
  first ≠ second →
    (hosts.connections first).subsystemNqn =
        (hosts.connections second).subsystemNqn →
      ∀ left right,
        (hosts.connections first).controller = some left →
          (hosts.connections second).controller = some right →
            left.controllerId ≠ right.controllerId

/-- What connecting the queues has to lead to. -/
structure Associated : Prop where
  established :
    ∀ connect ∈ connects,
      ∃ controller,
        hosts.Established connects connect.connection controller
  apart :
    ∀ first ∈ connects, ∀ second ∈ connects,
      hosts.Apart first.connection second.connection

/-! ## One connect -/

/-- The next identifier of a subsystem. -/
def nextId (nqn : String) : UInt16 :=
  ((hosts.target.subsystems.get? nqn).map Subsystem.nextCtrlId).getD 0

/-- The controller that a connect makes. -/
def made (connect : Connect) : TargetController :=
  let connection := hosts.connections connect.connection
  let ctrlId := hosts.nextId connection.subsystemNqn
  if connect.qid = 0 then
    { controllerId := ctrlId
      hostNqn := connection.hostNqn
      adminQueue := some { queueId := 0, queueSize := 32 } }
  else
    { controllerId := ctrlId
      hostNqn := connection.hostNqn
      ioQueues :=
        Dict.empty.set connect.qid
          { queueId := connect.qid
            queueSize := connect.sqSize } }

variable
    {hosts : Associations}
    {connects : List Connect}

theorem made_controllerId (connect : Connect) :
    (hosts.made connect).controllerId =
      hosts.nextId
        (hosts.connections connect.connection).subsystemNqn := by
  unfold made
  split
  · rfl
  · rfl

/-- Only an I/O queue leaves the controller without an admin queue. -/
theorem made_adminQueue (connect : Connect) :
    (hosts.made connect).adminQueue.isSome ↔ connect.qid = 0 := by
  unfold made
  split
  · rename_i admin
    simp [admin]
  · rename_i io
    simp [io]

theorem made_ioQueues
    {connect : Connect} (admin : connect.qid = 0) :
    (hosts.made connect).ioQueues = Dict.empty := by
  simp only [made, if_pos admin]

/-- The effect of a connect that passes the checks. -/
theorem processed_eq
    {connect : Connect} (accepts : hosts.Accepts connect.connection) :
    ∃ subsystem,
      hosts.target.subsystems.get?
          (hosts.connections connect.connection).subsystemNqn =
        some subsystem ∧
      hosts.processed connect =
        { completion :=
            .ok
              { commandId := connect.commandId
                status := nvmeStatusSuccess
                dw0 := (hosts.made connect).controllerId.toUInt32 }
          target :=
            { hosts.target with
              subsystems :=
                hosts.target.subsystems.set
                  (hosts.connections connect.connection).subsystemNqn
                  { subsystem with
                    nextCtrlId := subsystem.nextCtrlId + 1
                    controllers :=
                      subsystem.controllers.set
                        (hosts.made connect).controllerId
                        (hosts.made connect) } }
          connection :=
            { hosts.connections connect.connection with
              controller := some (hosts.made connect) } } := by
  unfold Accepts at accepts
  rcases found :
      hosts.target.subsystems.get?
        (hosts.connections connect.connection).subsystemNqn with
    _ | subsystem
  · rw [allows_of_absent found] at accepts
    cases accepts
  · rw [allows_of_found found] at accepts
    have next :
        hosts.nextId (hosts.connections connect.connection).subsystemNqn =
          subsystem.nextCtrlId := by
      rw [nextId, found]
      rfl
    refine ⟨subsystem, rfl, ?_⟩
    rw [made_controllerId, next]
    simp only [processed, processCommand, processFabricsCommand,
      Connect.command, if_true, found, accepts, Bool.true_eq_false,
      if_false, made, next]
    rfl

/-- A connect changes neither names nor who is accepted. -/
theorem step_names (connect : Connect) (connection : Nat) :
    ((hosts.step connect).connections connection).subsystemNqn =
        (hosts.connections connection).subsystemNqn ∧
      ((hosts.step connect).connections connection).hostNqn =
        (hosts.connections connection).hostNqn := by
  have keeps :
      Keeps hosts.target (hosts.connections connect.connection)
        (hosts.processed connect) :=
    processCommand_keeps
  by_cases same : connection = connect.connection
  · subst same
    simp only [step, Function.update_self]
    exact ⟨keeps.subsystemNqn, keeps.hostNqn⟩
  · simp only [step, Function.update_of_ne same, and_self]

theorem step_accepts (connect : Connect) (connection : Nat) :
    (hosts.step connect).Accepts connection ↔
      hosts.Accepts connection := by
  have keeps :
      Keeps hosts.target (hosts.connections connect.connection)
        (hosts.processed connect) :=
    processCommand_keeps
  have names := @step_names hosts connect connection
  unfold Accepts
  rw [names.1, names.2]
  exact iff_of_eq (congrArg (· = true) (keeps.allows _ _))

/-- A connect takes the next identifier of its subsystem. -/
theorem step_nextId
    {connect : Connect} (accepts : hosts.Accepts connect.connection)
    (nqn : String) :
    (hosts.step connect).nextId nqn =
      if (hosts.connections connect.connection).subsystemNqn = nqn then
        hosts.nextId nqn + 1
      else
        hosts.nextId nqn := by
  obtain ⟨subsystem, found, processed⟩ := processed_eq accepts
  simp only [nextId, step, processed]
  split
  · rename_i same
    rw [← same, Dict.get?_set_self, found]
    rfl
  · rename_i other
    rw [Dict.get?_set_ne _ _ (Ne.symm other)]

theorem step_controller_self
    {connect : Connect} (accepts : hosts.Accepts connect.connection) :
    ((hosts.step connect).connections connect.connection).controller =
      some (hosts.made connect) := by
  obtain ⟨subsystem, -, processed⟩ := processed_eq accepts
  simp only [step, Function.update_self, processed]

theorem step_connections_ne
    {connect : Connect} {connection : Nat}
    (other : connection ≠ connect.connection) :
    (hosts.step connect).connections connection =
      hosts.connections connection :=
  Function.update_of_ne other _ _

theorem step_answers_ne
    {connect : Connect} {connection : Nat}
    (other : connection ≠ connect.connection) :
    (hosts.step connect).answers connection = hosts.answers connection :=
  Function.update_of_ne other _ _

/-! ## Successive connects -/

theorem run_subsystemNqn (connection : Nat) :
    ((run step hosts connects).connections connection).subsystemNqn =
      (hosts.connections connection).subsystemNqn := by
  induction connects generalizing hosts with
  | nil => rfl
  | cons connect rest induction =>
      rw [run_cons, induction]
      exact (step_names connect connection).1

theorem run_accepts (connection : Nat) :
    (run step hosts connects).Accepts connection ↔
      hosts.Accepts connection := by
  induction connects generalizing hosts with
  | nil => rfl
  | cons connect rest induction =>
      rw [run_cons, induction]
      exact step_accepts connect connection

theorem run_snoc (connect : Connect) :
    run step hosts (connects ++ [connect]) =
      (run step hosts connects).step connect := by
  rw [run_append]
  rfl

theorem queueIds_snoc (connect : Connect) (connection : Nat) :
    queueIds (connects ++ [connect]) connection =
      queueIds connects connection ++
        if connect.connection = connection then [connect.qid] else [] := by
  unfold queueIds
  rw [List.filter_append, List.map_append, List.filter_singleton]
  by_cases same : connect.connection = connection
  · simp [same]
  · simp [same]

/-- The number of connects to a subsystem. -/
def taken (hosts : Associations) (connects : List Connect) (nqn : String) :
    Nat :=
  (connects.filter fun connect =>
    (hosts.connections connect.connection).subsystemNqn = nqn).length

theorem taken_snoc (connect : Connect) (nqn : String) :
    hosts.taken (connects ++ [connect]) nqn =
      if (hosts.connections connect.connection).subsystemNqn = nqn then
        hosts.taken connects nqn + 1
      else
        hosts.taken connects nqn := by
  unfold taken
  rw [List.filter_append, List.length_append, List.filter_singleton]
  split
  · rename_i same
    simp [same]
  · rename_i other
    simp [other]

/-- The identifiers of a subsystem are the tickets of its connects. -/
theorem run_nextId
    (accepted : ∀ connect ∈ connects, hosts.Accepts connect.connection)
    (nqn : String) :
    (run step hosts connects).nextId nqn =
      ticket (hosts.nextId nqn) (hosts.taken connects nqn) := by
  induction connects using List.reverseRecOn with
  | nil => exact (ticket_zero _).symm
  | append_singleton before connect induction =>
      have earlier :=
        induction fun other member => accepted other (by simp [member])
      have accepts :
          (run step hosts before).Accepts connect.connection :=
        (run_accepts _).mpr (accepted connect (by simp))
      rw [run_snoc, step_nextId accepts, run_subsystemNqn, taken_snoc,
        earlier]
      split
      · rw [ticket_succ]
      · rfl

/-- The last connect on a connection decides whether it has an admin queue. -/
theorem run_controller
    (accepted : ∀ connect ∈ connects, hosts.Accepts connect.connection)
    {connection : Nat} {qid : UInt16}
    (last : (queueIds connects connection).getLast? = some qid) :
    ∃ controller,
      ((run step hosts connects).connections connection).controller =
          some controller ∧
        (controller.adminQueue.isSome ↔ qid = 0) := by
  induction connects using List.reverseRecOn with
  | nil => cases last
  | append_singleton before connect induction =>
      have accepts :
          (run step hosts before).Accepts connect.connection :=
        (run_accepts _).mpr (accepted connect (by simp))
      rw [queueIds_snoc] at last
      rw [run_snoc]
      by_cases same : connect.connection = connection
      · rw [if_pos same, List.getLast?_concat] at last
        cases last
        rw [← same]
        exact ⟨_, step_controller_self accepts, made_adminQueue connect⟩
      · rw [if_neg same, List.append_nil] at last
        rw [step_connections_ne (Ne.symm same)]
        exact
          induction (fun other member => accepted other (by simp [member]))
            last

/-- The controller of a connection has a ticket that was taken. -/
theorem run_ticket
    (accepted : ∀ connect ∈ connects, hosts.Accepts connect.connection)
    {connection : Nat} (member : connection ∈ connects.map Connect.connection) :
    ∃ controller number,
      ((run step hosts connects).connections connection).controller =
          some controller ∧
        number <
            hosts.taken connects
              (hosts.connections connection).subsystemNqn ∧
          controller.controllerId =
            ticket
              (hosts.nextId (hosts.connections connection).subsystemNqn)
              number := by
  induction connects using List.reverseRecOn with
  | nil => cases member
  | append_singleton before connect induction =>
      have acceptedBefore :
          ∀ other ∈ before, hosts.Accepts other.connection :=
        fun other listed => accepted other (by simp [listed])
      have accepts :
          (run step hosts before).Accepts connect.connection :=
        (run_accepts _).mpr (accepted connect (by simp))
      rw [run_snoc, taken_snoc]
      by_cases same : connection = connect.connection
      · rw [same, if_pos rfl]
        refine
          ⟨_, _, step_controller_self accepts, Nat.lt_succ_self _, ?_⟩
        rw [made_controllerId, run_subsystemNqn, run_nextId acceptedBefore]
      · have listed : connection ∈ before.map Connect.connection := by
          simpa [same] using member
        obtain ⟨controller, number, current, below, identifier⟩ :=
          induction acceptedBefore listed
        rw [step_connections_ne same]
        refine ⟨controller, number, current, ?_, identifier⟩
        split
        · exact Nat.lt_succ_of_lt below
        · exact below

theorem run_answers_of_absent
    {connection : Nat}
    (absent : connection ∉ connects.map Connect.connection) :
    (run step hosts connects).answers connection =
      hosts.answers connection := by
  induction connects generalizing hosts with
  | nil => rfl
  | cons connect rest induction =>
      rw [List.map_cons, List.mem_cons, not_or] at absent
      rw [run_cons, induction absent.2, step_answers_ne absent.1]

theorem queueIds_of_absent
    {connection : Nat}
    (absent : connection ∉ connects.map Connect.connection) :
    queueIds connects connection = [] := by
  rw [queueIds, List.map_eq_nil_iff, List.filter_eq_nil_iff]
  intro connect member same
  exact
    absent
      (List.mem_map.mpr ⟨connect, member, of_decide_eq_true same⟩)

/-! ## Admin queues only -/

/-- The first connect of a connection establishes an admin queue. -/
theorem established_made
    {connect : Connect}
    (accepts : hosts.Accepts connect.connection)
    (admin : connect.qid = 0)
    (silent : hosts.answers connect.connection = [])
    (first : queueIds connects connect.connection = []) :
    (hosts.step connect).Established (connects ++ [connect])
      connect.connection (hosts.made connect) := by
  obtain ⟨subsystem, found, processed⟩ := processed_eq accepts
  constructor
  case current => exact step_controller_self accepts
  case admin => exact (made_adminQueue connect).mpr admin
  case io =>
    intro qid
    rw [made_ioQueues admin, queueIds_snoc, first, if_pos rfl, admin]
    simp [Dict.keys, Dict.empty]
  case answered =>
    intro answer member
    simp only [step, Function.update_self, silent, processed,
      List.nil_append, List.mem_singleton] at member
    exact ⟨_, member, rfl, rfl⟩
  case registered =>
    simp only [step, Function.update_self, processed, Dict.get?_set_self]
    exact ⟨_, rfl, Dict.get?_set_self _ _ _⟩

/-- A connect elsewhere takes nothing from a connection. -/
theorem Established.step
    {connection : Nat} {controller : TargetController}
    (established : hosts.Established connects connection controller)
    {connect : Connect}
    (accepts : hosts.Accepts connect.connection)
    (other : connection ≠ connect.connection)
    (fresh :
      (hosts.connections connection).subsystemNqn =
          (hosts.connections connect.connection).subsystemNqn →
        controller.controllerId ≠ (hosts.made connect).controllerId) :
    (hosts.step connect).Established (connects ++ [connect]) connection
      controller := by
  obtain ⟨subsystem, found, processed⟩ := processed_eq accepts
  constructor
  case current =>
    rw [step_connections_ne other]
    exact established.current
  case admin => exact established.admin
  case io =>
    intro qid
    rw [queueIds_snoc, if_neg (Ne.symm other), List.append_nil]
    exact established.io qid
  case answered =>
    rw [step_answers_ne other]
    exact established.answered
  case registered =>
    obtain ⟨own, present, stored⟩ := established.registered
    rw [step_connections_ne other]
    simp only [Associations.step, processed]
    by_cases same :
        (hosts.connections connection).subsystemNqn =
          (hosts.connections connect.connection).subsystemNqn
    · have equal : own = subsystem := by
        rw [same, found] at present
        exact (Option.some.inj present).symm
      rw [same, Dict.get?_set_self]
      refine ⟨_, rfl, ?_⟩
      rw [Dict.get?_set_ne _ _ (fresh same), ← equal]
      exact stored
    · rw [Dict.get?_set_ne _ _ same]
      exact ⟨own, present, stored⟩

/-- A connect gets an identifier that no other connection has. -/
theorem run_fresh
    (accepted : ∀ connect ∈ connects, hosts.Accepts connect.connection)
    {connection : Nat} (member : connection ∈ connects.map Connect.connection)
    {controller : TargetController}
    (current :
      ((run step hosts connects).connections connection).controller =
        some controller)
    {connect : Connect}
    (same :
      (hosts.connections connection).subsystemNqn =
        (hosts.connections connect.connection).subsystemNqn)
    (few :
      hosts.taken connects
          (hosts.connections connect.connection).subsystemNqn <
        65536) :
    controller.controllerId ≠
      ((run step hosts connects).made connect).controllerId := by
  obtain ⟨_, number, found, below, identifier⟩ :=
    run_ticket accepted member
  rw [current, Option.some.injEq] at found
  subst found
  rw [same] at below identifier
  rw [made_controllerId, run_subsystemNqn, run_nextId accepted, identifier]
  apply Ne.symm
  apply ticket_ne_ticket below
  omega

theorem Apart.symm
    {first second : Nat} (apart : hosts.Apart first second) :
    hosts.Apart second first := by
  intro other same left right leftCurrent rightCurrent
  exact
    (apart other.symm same.symm right left rightCurrent leftCurrent).symm

/-- A fresh identifier sets a connection apart. -/
theorem apart_step
    {connect : Connect} {connection : Nat}
    (accepts : hosts.Accepts connect.connection)
    (fresh :
      ∀ controller,
        (hosts.connections connection).controller = some controller →
          (hosts.connections connection).subsystemNqn =
              (hosts.connections connect.connection).subsystemNqn →
            controller.controllerId ≠ (hosts.made connect).controllerId) :
    (hosts.step connect).Apart connection connect.connection := by
  intro other same left right leftCurrent rightCurrent
  rw [step_controller_self accepts, Option.some.injEq] at rightCurrent
  rw [step_connections_ne other] at leftCurrent same
  rw [(step_names connect connect.connection).1] at same
  rw [← rightCurrent]
  exact fresh left leftCurrent same

/-- The admin queue of a new connection joins the associations. -/
theorem Associated.step
    (associated : hosts.Associated connects)
    {connect : Connect}
    (accepts : hosts.Accepts connect.connection)
    (admin : connect.qid = 0)
    (absent : connect.connection ∉ connects.map Connect.connection)
    (silent : hosts.answers connect.connection = [])
    (fresh :
      ∀ connection ∈ connects.map Connect.connection,
        ∀ controller,
          (hosts.connections connection).controller = some controller →
            (hosts.connections connection).subsystemNqn =
                (hosts.connections connect.connection).subsystemNqn →
              controller.controllerId ≠
                (hosts.made connect).controllerId) :
    (hosts.step connect).Associated (connects ++ [connect]) := by
  have listed :
      ∀ other ∈ connects,
        other.connection ∈ connects.map Connect.connection :=
    fun other member => List.mem_map_of_mem member
  have elsewhere :
      ∀ other ∈ connects, other.connection ≠ connect.connection := by
    intro other member same
    exact absent (same ▸ listed other member)
  have beside :
      ∀ other ∈ connects,
        (hosts.step connect).Apart other.connection
          connect.connection :=
    fun other member => apart_step accepts (fresh _ (listed other member))
  constructor
  case established =>
    intro other member
    rcases List.mem_append.mp member with older | newer
    · obtain ⟨controller, established⟩ :=
        associated.established other older
      have free :=
        fresh _ (listed other older) controller established.current
      exact
        ⟨controller,
          established.step accepts (elsewhere other older) free⟩
    · rw [List.mem_singleton.mp newer]
      exact
        ⟨_,
          established_made accepts admin silent (queueIds_of_absent absent)⟩
  case apart =>
    intro first firstMember second secondMember
    rcases List.mem_append.mp firstMember with older | newer
    · rcases List.mem_append.mp secondMember with alsoOlder | newer
      · have apart := associated.apart first older second alsoOlder
        unfold Apart at apart ⊢
        rw [step_connections_ne (elsewhere first older),
          step_connections_ne (elsewhere second alsoOlder)]
        exact apart
      · rw [List.mem_singleton.mp newer]
        exact beside first older
    · rw [List.mem_singleton.mp newer]
      rcases List.mem_append.mp secondMember with older | alsoNewer
      · exact (beside second older).symm
      · rw [List.mem_singleton.mp alsoNewer]
        intro other
        exact absurd rfl other

/-- Connecting at most 65536 admin queues to each subsystem works. -/
theorem associated_of_admin
    (accepted : ∀ connect ∈ connects, hosts.Accepts connect.connection)
    (admin : ∀ connect ∈ connects, connect.qid = 0)
    (once : (connects.map Connect.connection).Nodup)
    (few : ∀ nqn, hosts.taken connects nqn ≤ 65536)
    (silent : ∀ connection, hosts.answers connection = []) :
    (run step hosts connects).Associated connects := by
  induction connects using List.reverseRecOn with
  | nil =>
      constructor
      · intro connect member
        cases member
      · intro first member
        cases member
  | append_singleton before connect induction =>
      have acceptedBefore :
          ∀ other ∈ before, hosts.Accepts other.connection :=
        fun other listed => accepted other (by simp [listed])
      have accepts :
          (run step hosts before).Accepts connect.connection :=
        (run_accepts _).mpr (accepted connect (by simp))
      rw [List.map_append, List.nodup_append] at once
      obtain ⟨onceBefore, -, others⟩ := once
      have absent :
          connect.connection ∉ before.map Connect.connection := by
        intro listed
        exact others _ listed connect.connection (by simp) rfl
      have fewBefore :
          ∀ nqn, hosts.taken before nqn ≤ 65536 := by
        intro nqn
        have bound := few nqn
        rw [taken_snoc] at bound
        split at bound
        · exact Nat.le_of_succ_le bound
        · exact bound
      have room :
          hosts.taken before
              (hosts.connections connect.connection).subsystemNqn <
            65536 := by
        have bound :=
          few (hosts.connections connect.connection).subsystemNqn
        rwa [taken_snoc, if_pos rfl] at bound
      have earlier :=
        induction acceptedBefore
          (fun other listed => admin other (by simp [listed]))
          onceBefore fewBefore
      rw [run_snoc]
      apply earlier.step accepts (admin connect (by simp)) absent
      · rw [run_answers_of_absent absent]
        exact silent _
      · intro connection listed controller current same
        rw [run_subsystemNqn, run_subsystemNqn] at same
        exact run_fresh acceptedBefore listed current same room

/-! ## Handshakes -/

theorem eq_singleton_of_nodup
    {qids : List UInt16} {qid : UInt16}
    (nodup : qids.Nodup)
    (head : qids.head? = some qid) (last : qids.getLast? = some qid) :
    qids = [qid] := by
  cases qids with
  | nil => cases head
  | cons first rest =>
      cases head
      rw [List.nodup_cons] at nodup
      rcases rest with _ | ⟨second, rest⟩
      · rfl
      · rw [List.getLast?_cons_cons] at last
        exact absurd (List.mem_of_getLast? last) nodup.1

/-- A handshake of admin queues only is at most one connect. -/
theorem once_of_admin
    (handshakes :
      ∀ connection, Handshake (queueIds connects connection))
    (admin : ∀ connect ∈ connects, connect.qid = 0) :
    (connects.map Connect.connection).Nodup := by
  rw [List.nodup_iff_count_le_one]
  intro connection
  have zeros : ∀ qid ∈ queueIds connects connection, qid = 0 := by
    intro qid member
    obtain ⟨connect, listed, rfl⟩ := List.mem_map.mp member
    exact admin connect (List.mem_filter.mp listed).1
  have single := (handshakes connection).1
  rw [List.eq_replicate_of_mem zeros, List.nodup_replicate] at single
  rw [List.count_eq_countP, List.countP_map, List.countP_eq_length_filter]
  rw [queueIds, List.length_map] at single
  exact single

/-- If each connection connects once, the connects count the associations. -/
theorem taken_eq_associations
    (once : (connects.map Connect.connection).Nodup) (nqn : String) :
    hosts.taken connects nqn =
      (hosts.associations connects nqn).length := by
  rw [associations, once.dedup, List.filter_map, List.length_map]
  rfl

/-- A connection with an I/O queue ends without an admin queue. -/
theorem admin_of_established
    (accepted : ∀ connect ∈ connects, hosts.Accepts connect.connection)
    (handshakes :
      ∀ connection, Handshake (queueIds connects connection))
    (associated : (run step hosts connects).Associated connects) :
    ∀ connect ∈ connects, connect.qid = 0 := by
  intro connect member
  have listed :
      connect.qid ∈ queueIds connects connect.connection :=
    List.mem_map_of_mem
      (List.mem_filter.mpr ⟨member, decide_eq_true rfl⟩)
  have present : queueIds connects connect.connection ≠ [] :=
    List.ne_nil_of_mem listed
  obtain ⟨controller, established⟩ := associated.established connect member
  obtain ⟨other, current, decides⟩ :=
    run_controller accepted (List.getLast?_eq_some_getLast present)
  rw [established.current, Option.some.injEq] at current
  subst current
  have last := decides.mp established.admin
  have head :=
    (handshakes connect.connection).2 _
      (List.head?_eq_some_head present)
  have single :=
    eq_singleton_of_nodup (handshakes connect.connection).1
      (head ▸ List.head?_eq_some_head present)
      (last ▸ List.getLast?_eq_some_getLast present)
  rw [single] at listed
  exact List.mem_singleton.mp listed

/-! ## What the initiator sends -/

/-- The connect of `ConnectSubsystem`, and those of `createIOQueues`. -/
def connectSubsystem
    (connection numQueues : Nat) (ioQueueSize : UInt16)
    (commandId : Nat → UInt16) : List Connect :=
  { connection := connection, commandId := commandId 0, qid := 0 } ::
    (List.range numQueues).map fun index =>
      { connection := connection
        commandId := commandId (index + 1)
        qid := UInt16.ofNat (index + 1)
        sqSize := ioQueueSize }

theorem queueIds_connectSubsystem
    (connection numQueues : Nat) (ioQueueSize : UInt16)
    (commandId : Nat → UInt16) (other : Nat) :
    queueIds
        (connectSubsystem connection numQueues ioQueueSize commandId)
        other =
      if connection = other then
        (List.range (numQueues + 1)).map UInt16.ofNat
      else
        [] := by
  rw [queueIds, connectSubsystem, List.filter_cons, List.filter_map,
    List.range_succ_eq_map]
  by_cases same : connection = other
  · simp [same, Function.comp_def]
  · simp [same, Function.comp_def]

/-- Up to 65535 I/O queues are connected under different identifiers. -/
theorem handshake_connectSubsystem
    {numQueues : Nat} (few : numQueues < 65536)
    (connection : Nat) (ioQueueSize : UInt16)
    (commandId : Nat → UInt16) (other : Nat) :
    Handshake
      (queueIds
        (connectSubsystem connection numQueues ioQueueSize commandId)
        other) := by
  rw [queueIds_connectSubsystem]
  split
  · constructor
    · apply List.nodup_range.map_on
      intro left leftBelow right rightBelow same
      rw [List.mem_range] at leftBelow rightBelow
      have values := congrArg UInt16.toNat same
      rw [UInt16.toNat_ofNat', UInt16.toNat_ofNat'] at values
      omega
    · intro first head
      rw [List.range_succ_eq_map] at head
      cases head
      rfl
  · constructor
    · exact List.nodup_nil
    · intro first head
      cases head

/-- The first I/O queue that an initiator creates ends the association. -/
theorem not_associated_connectSubsystem
    {connection numQueues : Nat} {ioQueueSize : UInt16}
    {commandId : Nat → UInt16}
    (accepts : hosts.Accepts connection)
    (positive : 0 < numQueues) (few : numQueues < 65536) :
    ¬(run step hosts
        (connectSubsystem connection numQueues ioQueueSize
          commandId)).Associated
        (connectSubsystem connection numQueues ioQueueSize commandId) := by
  intro associated
  have accepted :
      ∀ connect ∈
          connectSubsystem connection numQueues ioQueueSize commandId,
        hosts.Accepts connect.connection := by
    intro connect member
    have same : connect.connection = connection := by
      rcases List.mem_cons.mp member with rfl | io
      · rfl
      · obtain ⟨index, -, rfl⟩ := List.mem_map.mp io
        rfl
    rw [same]
    exact accepts
  have admin :=
    admin_of_established accepted
      (handshake_connectSubsystem few connection ioQueueSize commandId)
      associated
  have first :
      ({ connection := connection
         commandId := commandId 1
         qid := 1
         sqSize := ioQueueSize } : Connect) ∈
        connectSubsystem connection numQueues ioQueueSize commandId :=
    List.mem_cons_of_mem _
      (List.mem_map.mpr ⟨0, List.mem_range.mpr positive, rfl⟩)
  cases admin _ first

/-! ## Associations -/

/--
Hosts connect their queues on any number of connections, fewer than 65536 to a
subsystem.  Each connection ends with a controller that has its queues, and with
an identifier of its own, exactly if only admin queues are connected.
-/
theorem associated_iff
    (target : NVMeoFTarget) (connections : Nat → TargetConnection)
    (connects : List Connect)
    (accepted :
      ∀ connect ∈ connects,
        Accepts { target := target, connections := connections }
          connect.connection)
    (handshakes :
      ∀ connection, Handshake (queueIds connects connection))
    (few :
      ∀ nqn,
        (associations { target := target, connections := connections }
          connects nqn).length <
          65536) :
    (run step { target := target, connections := connections }
          connects).Associated connects ↔
      ∀ connect ∈ connects, connect.qid = 0 := by
  constructor
  · intro associated
    exact admin_of_established accepted handshakes associated
  · intro admin
    have once := once_of_admin handshakes admin
    apply associated_of_admin accepted admin once
    · intro nqn
      rw [taken_eq_associations once]
      exact (few nqn).le
    · intro connection
      rfl

/-- A target with a subsystem that allows one host. -/
def openTarget : NVMeoFTarget where
  subsystems :=
    Dict.empty.set "s"
      (Subsystem.allowHost { subsystemNqn := "s" } "h")

/-- A connection of that host. -/
def openConnection : TargetConnection where
  hostNqn := "h"
  subsystemNqn := "s"

/-- An initiator with one I/O queue is left without its admin queue. -/
theorem not_associated_openTarget :
    ¬(run step
          { target := openTarget, connections := fun _ => openConnection }
          (connectSubsystem 0 1 128 UInt16.ofNat)).Associated
        (connectSubsystem 0 1 128 UInt16.ofNat) := by
  have accepts :
      Accepts
        { target := openTarget, connections := fun _ => openConnection }
        0 := by
    show openTarget.allows "s" "h" = true
    decide +kernel
  exact
    not_associated_connectSubsystem accepts (by decide) (by decide)

/-- Two initiators without I/O queues have a controller each. -/
theorem associated_openTarget :
    (run step
          { target := openTarget, connections := fun _ => openConnection }
          [{ connection := 0, qid := 0 },
            { connection := 1, qid := 0 }]).Associated
        [{ connection := 0, qid := 0 }, { connection := 1, qid := 0 }] := by
  apply
    (associated_iff openTarget (fun _ => openConnection) _ ?_ ?_ ?_).mpr
  · decide
  · intro connect _
    show openTarget.allows "s" "h" = true
    decide +kernel
  · intro connection
    match connection with
    | 0 => exact ⟨by decide, fun _ head => (Option.some.inj head).symm⟩
    | 1 => exact ⟨by decide, fun _ head => (Option.some.inj head).symm⟩
    | connection + 2 => exact ⟨List.nodup_nil, fun _ head => nomatch head⟩
  · intro nqn
    exact (List.length_filter_le _ _).trans_lt (by decide)

end Associations

end StorageAppliance.NVMeoF
