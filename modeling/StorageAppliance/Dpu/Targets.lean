import StorageAppliance.Library.References
import StorageAppliance.Library.Run
import StorageAppliance.NVMeoF.Target

/-!
# Targets on a DPU

The client of a DPU (`dpu/client.go`) keeps a registry of the targets that it
offloaded.  Each of them has a flag of its own, and a server below it that has
another one and a listener (`nvmeof/target.go`).  Whether a connection is made
in time and whether an address can be listened on is given with each call.

A target that was returned is referred to by its place among all that were
offloaded.  Times are left out.
-/

namespace StorageAppliance.Dpu

open StorageAppliance.Go
open StorageAppliance.Library

/-! ## Servers -/

/-- A listener, which is open until it is closed. -/
structure Listener where
  isOpen : Bool
deriving DecidableEq

/-- The server of a target, which runs while its listener is open. -/
structure TargetServer where
  target : NVMeoF.NVMeoFTarget
  listenAddr : String
  listener : Option Listener
  running : Bool
  running_iff : running = true ↔ listener = some { isOpen := true }

def newTargetServer (listenAddr : String) : TargetServer where
  target := {}
  listenAddr := listenAddr
  listener := none
  running := false
  running_iff := by decide

namespace TargetServer

variable
    (server : TargetServer)

def Listens : Prop :=
  server.listener = some { isOpen := true }

instance : Decidable server.Listens :=
  inferInstanceAs (Decidable (_ = _))

def start (listenError : Option String) :
    Except Fault Unit × TargetServer :=
  if server.running then
    (.error (errorf "target already running"), server)
  else
    match listenError with
    | some text => (.error (errorf ("failed to listen: " ++ text)), server)
    | none =>
        (.ok (),
          { server with
            listener := some { isOpen := true }
            running := true
            running_iff := iff_of_true rfl rfl })

def stop : TargetServer :=
  if server.running then
    { server with
      listener := server.listener.map fun _ => { isOpen := false }
      running := false
      running_iff := by
        apply iff_of_false
        · decide
        · intro stillOpen
          rcases Option.map_eq_some_iff.mp stillOpen with ⟨_, _, ⟨⟩⟩ }
  else
    server

variable
    {server}

/-- A server that is started listens, unless it did not and cannot. -/
theorem listens_start_iff (listenError : Option String) :
    (server.start listenError).2.Listens ↔
      server.Listens ∨ listenError = none := by
  by_cases running : server.running = true
  · have listens : server.Listens := server.running_iff.mp running
    rw [start.eq_def, if_pos running]
    exact iff_of_true listens (Or.inl listens)
  · have silent : ¬ server.Listens :=
      fun listens => running (server.running_iff.mpr listens)
    rw [start.eq_def, if_neg running]
    cases listenError with
    | some text =>
        apply iff_of_false silent
        exact not_or_intro silent (Option.some_ne_none text)
    | none => exact iff_of_true rfl (Or.inr rfl)

theorem not_listens_stop : ¬ server.stop.Listens := by
  rw [stop]
  split
  · intro listens
    rcases Option.map_eq_some_iff.mp listens with ⟨_, _, ⟨⟩⟩
  · rename_i idle
    exact fun listens => idle (server.running_iff.mpr listens)

end TargetServer

/-! ## Offloaded targets -/

structure NVMeTargetConfig where
  subsystemNqn : String
  listenAddr : String
  hostNqn : String := ""
  namespaceId : UInt32 := 0
  sizeBytes : UInt64 := 0
  blockSize : UInt32 := 0

/-- The values that are used for the fields that are not set. -/
def NVMeTargetConfig.withDefaults (cfg : NVMeTargetConfig) :
    NVMeTargetConfig :=
  { cfg with
    hostNqn := if cfg.hostNqn = "" then "nqn.host" else cfg.hostNqn
    blockSize := if cfg.blockSize = 0 then 4096 else cfg.blockSize
    sizeBytes :=
      if cfg.sizeBytes = 0 then 1024 * 1024 * 1024 else cfg.sizeBytes
    namespaceId := if cfg.namespaceId = 0 then 1 else cfg.namespaceId }

/-- A target that was offloaded. -/
structure NVMeoFTarget where
  config : NVMeTargetConfig
  target : TargetServer
  running : Bool

namespace NVMeoFTarget

variable
    (offload : NVMeoFTarget)

/-- Start the target, whatever its server returns. -/
def start (listenError : Option String) : NVMeoFTarget :=
  { offload with
    running := true
    target := (offload.target.start listenError).2 }

def stop : NVMeoFTarget :=
  { offload with
    running := false
    target := offload.target.stop }

def Listens : Prop :=
  offload.target.Listens

def Running : Prop :=
  offload.running = true

def nqn : String :=
  offload.config.subsystemNqn

end NVMeoFTarget

/-! ## The client -/

structure Metrics where
  requests : UInt64 := 0
  offloads : UInt64 := 0
  failures : UInt64 := 0
deriving DecidableEq

/-- A client, with all targets that it returned. -/
structure Client where
  connected : Bool := false
  metrics : Metrics := {}
  targets : Dict String Nat := Dict.empty
  returned : List NVMeoFTarget := []

def newClient : Client :=
  {}

namespace Client

variable
    (client : Client)

def touch : Client :=
  { client with
    metrics :=
      { client.metrics with requests := client.metrics.requests + 1 } }

def incrementOffload : Client :=
  { client with
    metrics :=
      { client.metrics with
        offloads := client.metrics.offloads + 1
        requests := client.metrics.requests + 1 } }

def incrementFailure : Client :=
  { client with
    metrics :=
      { client.metrics with
        failures := client.metrics.failures + 1
        requests := client.metrics.requests + 1 } }

/-- Connect, unless the context ends with an error before. -/
def connect (contextError : Option String) : Except Fault Unit × Client :=
  if client.connected then
    (.ok (), client)
  else
    match contextError with
    | some text => (.error (errorf text), client)
    | none => (.ok (), { client with connected := true }.touch)

def close : Client :=
  { client with connected := false }

def ensureConnected (contextError : Option String) :
    Except Fault Unit × Client :=
  if client.connected then
    (.ok (), client.touch)
  else
    client.connect contextError

/-- A server with one subsystem, which has one namespace and one host. -/
def serverOf (cfg : NVMeTargetConfig) :
    Except Fault TargetServer :=
  let server := newTargetServer cfg.listenAddr
  match server.target.createSubsystem cfg.subsystemNqn with
  | .error fault => .error fault
  | .ok target =>
      let created : NVMeoF.Subsystem :=
        (target.subsystems.get? cfg.subsystemNqn).getD
          { subsystemNqn := cfg.subsystemNqn }
      match
        created.addNamespace cfg.namespaceId cfg.sizeBytes cfg.blockSize
      with
      | .error fault => .error fault
      | .ok subsys =>
          match makeSlice cfg.sizeBytes.toNat with
          | .error panic => .error panic
          | .ok _ =>
              .ok
                { server with
                  target :=
                    { target with
                      subsystems :=
                        target.subsystems.set cfg.subsystemNqn
                          (subsys.allowHost cfg.hostNqn) } }

/-- A panic is not counted as a failure. -/
def countFailure : Fault → Client
  | .error _ => client.incrementFailure
  | .panic _ => client

/-- Offload a target, and return the reference to it. -/
def offloadNVMeTarget
    (cfg : NVMeTargetConfig) (contextError listenError : Option String) :
    Except Fault Nat × Client :=
  match client.ensureConnected contextError with
  | (.error fault, client) => (.error fault, client)
  | (.ok _, client) =>
      if cfg.subsystemNqn = "" ∨ cfg.listenAddr = "" then
        (.error (errorf "invalid NVMe target config"), client)
      else
        let cfg := cfg.withDefaults
        let client := client.incrementOffload
        match serverOf cfg with
        | .error fault => (.error fault, client.countFailure fault)
        | .ok server =>
            match server.start listenError with
            | (.error fault, _) => (.error fault, client.incrementFailure)
            | (.ok _, server) =>
                let ref := client.returned.length
                (.ok ref,
                  { client with
                    returned :=
                      client.returned ++
                        [{ config := cfg
                           target := server
                           running := true }]
                    targets := client.targets.set cfg.subsystemNqn ref })

def stopNVMeTarget (nqn : String) (contextError : Option String) :
    Except Fault Unit × Client :=
  match client.ensureConnected contextError with
  | (.error fault, client) => (.error fault, client)
  | (.ok _, client) =>
      match client.targets.get? nqn with
      | some ref =>
          (.ok (),
            { client with
              returned := client.returned.modify ref NVMeoFTarget.stop
              targets := client.targets.erase nqn }.touch)
      | none =>
          (.error (errorf ("target not found: " ++ nqn)), client.touch)

def listTargets : List String :=
  client.targets.keys

/-- `Start` of a target that was returned. -/
def startReturned (ref : Nat) (listenError : Option String) : Client :=
  { client with
    returned :=
      client.returned.modify ref fun offload => offload.start listenError }

/-- `Stop` of a target that was returned. -/
def stopReturned (ref : Nat) : Client :=
  { client with
    returned := client.returned.modify ref NVMeoFTarget.stop }

end Client

/-! ## Servers of offloaded targets -/

/-- The configuration of a target can be served, and is not too large. -/
def NVMeTargetConfig.Servable (cfg : NVMeTargetConfig) : Prop :=
  cfg.subsystemNqn ≠ "" ∧ cfg.listenAddr ≠ "" ∧
    (cfg.withDefaults.sizeBytes.toNat : ℤ) ≤ maxAlloc

/-- Configuring a server fails only if there is no room for its namespace. -/
theorem serverOf_cases (cfg : NVMeTargetConfig) :
    (∃ server,
        Client.serverOf cfg = .ok server ∧
          (cfg.sizeBytes.toNat : ℤ) ≤ maxAlloc ∧ ¬ server.Listens) ∨
      (∃ message, Client.serverOf cfg = .error (.panic message)) ∧
        ¬ (cfg.sizeBytes.toNat : ℤ) ≤ maxAlloc := by
  have sized := Int.natCast_nonneg cfg.sizeBytes.toNat
  by_cases room : (cfg.sizeBytes.toNat : ℤ) ≤ maxAlloc
  · simp only [Client.serverOf, NVMeoF.NVMeoFTarget.createSubsystem,
      newTargetServer, Dict.get?_empty, Dict.get?_set_self,
      Option.getD_some, NVMeoF.Subsystem.addNamespace, makeSlice_eq,
      if_pos (And.intro sized room)]
    refine Or.inl ⟨_, rfl, room, ?_⟩
    rintro ⟨⟩
  · have crowded := not_and_of_not_right (0 ≤ (cfg.sizeBytes.toNat : ℤ)) room
    simp only [Client.serverOf, NVMeoF.NVMeoFTarget.createSubsystem,
      newTargetServer, Dict.get?_empty, Dict.get?_set_self,
      Option.getD_some, NVMeoF.Subsystem.addNamespace, makeSlice_eq,
      if_neg crowded]
    exact Or.inr ⟨⟨_, rfl⟩, room⟩

/-! ## The registry and the targets -/

namespace Client

section Views

variable
    (client : Client)
    (ref : Nat)

def Registers : Prop :=
  client.targets.Refers ref

def Runs : Prop :=
  HoldsAt client.returned NVMeoFTarget.Running ref

def Listens : Prop :=
  HoldsAt client.returned NVMeoFTarget.Listens ref

/-- The targets that listen are those that are registered and run. -/
def MatchesReality : Prop :=
  {ref | client.Listens ref} =
    {ref | client.Registers ref ∧ client.Runs ref}

/-- Every target is registered under its own name. -/
def Named : Prop :=
  client.targets.Names client.returned NVMeoFTarget.nqn

theorem matchesReality_iff :
    client.MatchesReality ↔
      ∀ ref,
        client.Listens ref ↔ client.Registers ref ∧ client.Runs ref :=
  Set.ext_iff

end Views

variable
    {client after : Client}

/-- Both parts depend on the registry and the targets only. -/
theorem views_congr
    (targets : after.targets = client.targets)
    (returned : after.returned = client.returned) :
    (after.Named ↔ client.Named) ∧
      (after.MatchesReality ↔ client.MatchesReality) := by
  have same :
      after.Listens = client.Listens ∧ after.Registers = client.Registers ∧
        after.Runs = client.Runs := by
    refine ⟨?_, ?_, ?_⟩
    · funext ref
      rw [Listens, returned, Listens]
    · funext ref
      rw [Registers, targets, Registers]
    · funext ref
      rw [Runs, returned, Runs]
  constructor
  · rw [Named, targets, returned, Named]
  · rw [MatchesReality, same.1, same.2.1, same.2.2, MatchesReality]

/-- A change of one target keeps the match exactly if it does so there. -/
theorem matchesReality_iff_at
    {ref : Nat} (before : client.MatchesReality)
    (listens :
      ∀ other, other ≠ ref → (after.Listens other ↔ client.Listens other))
    (registers :
      ∀ other,
        other ≠ ref → (after.Registers other ↔ client.Registers other))
    (runs : ∀ other, other ≠ ref → (after.Runs other ↔ client.Runs other)) :
    after.MatchesReality ↔
      (after.Listens ref ↔ after.Registers ref ∧ after.Runs ref) := by
  rw [matchesReality_iff] at before ⊢
  constructor
  · exact fun always => always ref
  · intro changed other
    by_cases same : other = ref
    · rw [same]
      exact changed
    · rw [listens other same, registers other same, runs other same]
      exact before other

/-- A target that listens is listed, when reality is matched. -/
theorem nqn_mem_listTargets
    (named : client.Named) (before : client.MatchesReality)
    {ref : Nat} {offload : NVMeoFTarget}
    (found : client.returned[ref]? = some offload)
    (listens : offload.Listens) : offload.nqn ∈ client.listTargets := by
  rw [matchesReality_iff] at before
  rcases ((before ref).mp ⟨offload, found, listens⟩).1 with ⟨key, entry⟩
  have same := (holdsAt_iff_of_found found).mp (named key ref entry)
  rw [listTargets, Dict.mem_keys_iff, same]
  exact ⟨ref, entry⟩

end Client

/-! ## Calls -/

/-- The calls on a client, and on the targets that it returned. -/
inductive Call where
  | connect (contextError : Option String)
  | close
  | offload
      (cfg : NVMeTargetConfig) (contextError listenError : Option String)
  | stopTarget (nqn : String) (contextError : Option String)
  | start (ref : Nat) (listenError : Option String)
  | stop (ref : Nat)

namespace Client

def step (client : Client) : Call → Client
  | .connect contextError => (client.connect contextError).2
  | .close => client.close
  | .offload cfg contextError listenError =>
      (client.offloadNVMeTarget cfg contextError listenError).2
  | .stopTarget nqn contextError =>
      (client.stopNVMeTarget nqn contextError).2
  | .start ref listenError => client.startReturned ref listenError
  | .stop ref => client.stopReturned ref

/-- A target is offloaded. -/
def Accepts
    (client : Client) (cfg : NVMeTargetConfig)
    (contextError listenError : Option String) : Prop :=
  (client.connected = true ∨ contextError = none) ∧ cfg.Servable ∧
    listenError = none

/--
A target that is offloaded takes the place of none that runs, a registered
target that is started listens or can listen, and no other can.
-/
def KeepsReality (client : Client) : Call → Prop
  | .offload cfg contextError listenError =>
      client.Accepts cfg contextError listenError →
        ∀ ref,
          client.targets.get? cfg.subsystemNqn = some ref →
            ¬ client.Runs ref
  | .start ref listenError =>
      ref < client.returned.length →
        (client.Registers ref →
            client.Listens ref ∨ listenError = none) ∧
          (¬ client.Registers ref → listenError ≠ none)
  | _ => True

variable
    {client : Client}

/-! ## Effects -/

theorem connect_keeps {contextError : Option String} :
    (client.connect contextError).2.targets = client.targets ∧
      (client.connect contextError).2.returned = client.returned := by
  rw [connect.eq_def]
  split
  · exact ⟨rfl, rfl⟩
  · split
    · exact ⟨rfl, rfl⟩
    · exact ⟨rfl, rfl⟩

theorem ensureConnected_cases (contextError : Option String) :
    ((client.connected = true ∨ contextError = none) ∧
        ∃ after,
          client.ensureConnected contextError = (.ok (), after) ∧
            after.targets = client.targets ∧
            after.returned = client.returned) ∨
      (¬ (client.connected = true ∨ contextError = none) ∧
        ∃ fault,
          client.ensureConnected contextError = (.error fault, client)) := by
  by_cases connected : client.connected = true
  · refine Or.inl ⟨Or.inl connected, client.touch, ?_, rfl, rfl⟩
    rw [ensureConnected, if_pos connected]
  · rw [ensureConnected, if_neg connected, connect.eq_def,
      if_neg connected]
    cases contextError with
    | some text =>
        have ended := not_or_intro connected (Option.some_ne_none text)
        exact Or.inr ⟨ended, _, rfl⟩
    | none => exact Or.inl ⟨Or.inr rfl, _, rfl, rfl, rfl⟩

/-- An accepted target is returned and registered, and it listens and runs. -/
theorem offload_of_accepts
    {cfg : NVMeTargetConfig} {contextError listenError : Option String}
    (accepts : client.Accepts cfg contextError listenError) :
    ∃ offload : NVMeoFTarget,
      offload.nqn = cfg.subsystemNqn ∧ offload.Listens ∧ offload.Running ∧
        (client.step (.offload cfg contextError listenError)).targets =
          client.targets.set offload.nqn client.returned.length ∧
        (client.step (.offload cfg contextError listenError)).returned =
          client.returned ++ [offload] := by
  rcases accepts with ⟨connects, ⟨named, addressed, room⟩, rfl⟩
  rcases @ensureConnected_cases client contextError with
    ⟨_, between, reached, targets, returned⟩ | ⟨refused, _⟩
  · rcases serverOf_cases cfg.withDefaults with
      ⟨server, served, _, silent⟩ | ⟨_, crowded⟩
    · have idle : ¬ server.running = true :=
        fun running => silent (server.running_iff.mp running)
      rw [step, offloadNVMeTarget, reached]
      simp only [named, addressed, or_self, if_false, served,
        TargetServer.start, if_neg idle, incrementOffload, targets, returned]
      refine ⟨_, ?_, ?_, ?_, ?_, rfl⟩
      · rfl
      · rfl
      · rfl
      · rfl
    · exact absurd room crowded
  · exact absurd connects refused

/-- Otherwise nothing is registered or returned. -/
theorem offload_of_not_accepts
    {cfg : NVMeTargetConfig} {contextError listenError : Option String}
    (rejects : ¬ client.Accepts cfg contextError listenError) :
    (client.step (.offload cfg contextError listenError)).targets =
        client.targets ∧
      (client.step (.offload cfg contextError listenError)).returned =
        client.returned := by
  rcases @ensureConnected_cases client contextError with
    ⟨connects, between, reached, targets, returned⟩ | ⟨_, fault, refused⟩
  · rw [step, offloadNVMeTarget, reached]
    by_cases invalid : cfg.subsystemNqn = "" ∨ cfg.listenAddr = ""
    · simp only [if_pos invalid]
      exact ⟨targets, returned⟩
    · rcases serverOf_cases cfg.withDefaults with
        ⟨server, served, room, silent⟩ | ⟨⟨message, panics⟩, _⟩
      · have idle : ¬ server.running = true :=
          fun running => silent (server.running_iff.mp running)
        cases listenError with
        | some text =>
            simp only [if_neg invalid, served, TargetServer.start,
              if_neg idle]
            exact ⟨targets, returned⟩
        | none =>
            rw [not_or] at invalid
            have servable : cfg.Servable := ⟨invalid.1, invalid.2, room⟩
            exact absurd ⟨connects, servable, rfl⟩ rejects
      · simp only [if_neg invalid, panics, countFailure]
        exact ⟨targets, returned⟩
  · rw [step, offloadNVMeTarget, refused]
    exact ⟨rfl, rfl⟩

/-- A target that is stopped by its name is stopped and not registered. -/
theorem stopTarget_cases (nqn : String) (contextError : Option String) :
    ((client.step (.stopTarget nqn contextError)).targets =
          client.targets ∧
        (client.step (.stopTarget nqn contextError)).returned =
          client.returned) ∨
      ∃ ref,
        client.targets.get? nqn = some ref ∧
          (client.step (.stopTarget nqn contextError)).targets =
            client.targets.erase nqn ∧
          (client.step (.stopTarget nqn contextError)).returned =
            client.returned.modify ref NVMeoFTarget.stop := by
  rcases @ensureConnected_cases client contextError with
    ⟨_, between, reached, targets, returned⟩ | ⟨_, fault, refused⟩
  · rw [step, stopNVMeTarget, reached]
    simp only [targets]
    cases found : client.targets.get? nqn with
    | none => exact Or.inl ⟨targets, returned⟩
    | some ref =>
        refine Or.inr ⟨ref, rfl, rfl, ?_⟩
        show between.returned.modify ref NVMeoFTarget.stop = _
        rw [returned]
  · rw [step, stopNVMeTarget, refused]
    exact Or.inl ⟨rfl, rfl⟩

/-! ## Steps -/

/-- Every call keeps the names. -/
theorem named_step (named : client.Named) (call : Call) :
    (client.step call).Named := by
  cases call with
  | connect contextError =>
      exact
        (views_congr connect_keeps.1 connect_keeps.2).1.mpr named
  | close => exact named
  | offload cfg contextError listenError =>
      by_cases accepts : client.Accepts cfg contextError listenError
      · rcases offload_of_accepts accepts with
          ⟨offload, _, _, _, targets, returned⟩
        rw [Named, targets, returned]
        exact named.set_concat offload
      · rcases offload_of_not_accepts accepts with ⟨targets, returned⟩
        exact (views_congr targets returned).1.mpr named
  | stopTarget nqn contextError =>
      rcases @stopTarget_cases client nqn contextError with
        ⟨targets, returned⟩ | ⟨ref, _, targets, returned⟩
      · exact (views_congr targets returned).1.mpr named
      · rw [Named, targets, returned]
        exact
          @Dict.Names.modify _ _ _ _ _ _ (named.erase nqn)
            NVMeoFTarget.stop (fun _ => rfl) ref
  | start ref listenError =>
      exact
        @Dict.Names.modify _ _ _ _ _ _ named
          (fun offload => offload.start listenError) (fun _ => rfl) ref
  | stop ref =>
      exact
        @Dict.Names.modify _ _ _ _ _ _ named NVMeoFTarget.stop
          (fun _ => rfl) ref

/-- A registered target that is started listens, and no other does. -/
theorem start_matches_iff
    (before : client.MatchesReality) (ref : Nat)
    (listenError : Option String) :
    (client.step (.start ref listenError)).MatchesReality ↔
      client.KeepsReality (.start ref listenError) := by
  have others :
      ∀ (property : NVMeoFTarget → Prop) other,
        other ≠ ref →
          (HoldsAt (client.step (.start ref listenError)).returned property
              other ↔
            HoldsAt client.returned property other) :=
    fun _ _ apart => holdsAt_modify_ne apart
  rw [matchesReality_iff_at before (others _) (fun _ _ => Iff.rfl)
    (others _), KeepsReality]
  cases found : client.returned[ref]? with
  | none =>
      have outside := List.getElem?_eq_none_iff.mp found
      have kept :
          (client.step (.start ref listenError)).returned.length =
            client.returned.length :=
        List.length_modify _ _ _
      refine iff_of_true (iff_of_false ?_ ?_) ?_
      · intro listens
        have inside := HoldsAt.lt_length listens
        omega
      · rintro ⟨_, runs⟩
        have inside := HoldsAt.lt_length runs
        omega
      · intro inside
        omega
  | some offload =>
      have inside := (List.getElem?_eq_some_iff.mp found).1
      have started :
          (client.step (.start ref listenError)).returned[ref]? =
            some (offload.start listenError) := by
        rw [step, startReturned, List.getElem?_modify_eq, found]
        rfl
      have listensAfter :
          (client.step (.start ref listenError)).Listens ref ↔
            offload.Listens ∨ listenError = none :=
        (holdsAt_iff_of_found started).trans
          (TargetServer.listens_start_iff listenError)
      have runsAfter : (client.step (.start ref listenError)).Runs ref :=
        (holdsAt_iff_of_found started).mpr rfl
      have registersAfter :
          (client.step (.start ref listenError)).Registers ref ↔
            client.Registers ref :=
        Iff.rfl
      have listens : client.Listens ref ↔ offload.Listens :=
        holdsAt_iff_of_found found
      rw [listensAfter, registersAfter, and_iff_left runsAfter, listens,
        imp_iff_right inside]
      by_cases registered : client.Registers ref
      · simp only [registered, iff_true, true_implies, not_true,
          false_implies, and_true]
      · have silent : ¬ offload.Listens := by
          rw [← listens, (matchesReality_iff client).mp before ref]
          exact fun both => registered both.1
        simp only [registered, silent, false_or, iff_false, false_implies,
          not_false_iff, true_implies, true_and]

/-- A stopped target neither listens nor runs. -/
theorem not_holdsAt_modify_stop
    {objects : List NVMeoFTarget} {ref : Nat} :
    (¬ HoldsAt (objects.modify ref NVMeoFTarget.stop) NVMeoFTarget.Listens
        ref) ∧
      ¬ HoldsAt (objects.modify ref NVMeoFTarget.stop) NVMeoFTarget.Running
        ref := by
  rw [holdsAt_modify_self, holdsAt_modify_self]
  constructor
  · rintro ⟨offload, _, listens⟩
    exact TargetServer.not_listens_stop listens
  · rintro ⟨offload, _, ⟨⟩⟩

/-- Stopping a target keeps the match, if the others stay registered. -/
theorem matches_of_stopped
    {after : Client} {ref : Nat} (before : client.MatchesReality)
    (returned :
      after.returned = client.returned.modify ref NVMeoFTarget.stop)
    (registers :
      ∀ other,
        other ≠ ref → (after.Registers other ↔ client.Registers other)) :
    after.MatchesReality := by
  have kept :
      ∀ (property : NVMeoFTarget → Prop) other,
        other ≠ ref →
          (HoldsAt after.returned property other ↔
            HoldsAt client.returned property other) := by
    intro property other apart
    rw [returned]
    exact holdsAt_modify_ne apart
  rw [matchesReality_iff_at before (kept _) registers (kept _), Listens,
    Runs, returned]
  apply iff_of_false
  · exact not_holdsAt_modify_stop.1
  · exact fun both => not_holdsAt_modify_stop.2 both.2

theorem stopTarget_matches
    (named : client.Named) (before : client.MatchesReality) (nqn : String)
    (contextError : Option String) :
    (client.step (.stopTarget nqn contextError)).MatchesReality := by
  rcases @stopTarget_cases client nqn contextError with
    ⟨targets, returned⟩ | ⟨ref, found, targets, returned⟩
  · exact (views_congr targets returned).2.mpr before
  · apply matches_of_stopped before returned
    intro other apart
    rw [Registers, targets, Dict.Names.refers_erase_iff named, found]
    exact and_iff_left fun same => apart (Option.some.inj same).symm

/-- An offloaded target takes the place of none that runs. -/
theorem offload_matches_iff
    (named : client.Named) (before : client.MatchesReality)
    (cfg : NVMeTargetConfig) (contextError listenError : Option String) :
    (client.step
        (.offload cfg contextError listenError)).MatchesReality ↔
      client.KeepsReality (.offload cfg contextError listenError) := by
  by_cases accepts : client.Accepts cfg contextError listenError
  · rcases offload_of_accepts accepts with
      ⟨offload, nqn, listens, running, targets, returned⟩
    rw [KeepsReality, imp_iff_right accepts, matchesReality_iff, ← nqn]
    rw [matchesReality_iff] at before
    have listensAfter :
        ∀ ref,
          (client.step (.offload cfg contextError listenError)).Listens
              ref ↔
            client.Listens ref ∨ ref = client.returned.length := by
      intro ref
      rw [Listens, returned, holdsAt_concat_iff, and_iff_left listens,
        Listens]
    have runsAfter :
        ∀ ref,
          (client.step (.offload cfg contextError listenError)).Runs ref ↔
            client.Runs ref ∨ ref = client.returned.length := by
      intro ref
      rw [Runs, returned, holdsAt_concat_iff, and_iff_left running, Runs]
    have registersAfter :
        ∀ ref,
          (client.step (.offload cfg contextError listenError)).Registers
              ref ↔
            ref = client.returned.length ∨
              client.Registers ref ∧
                client.targets.get? offload.nqn ≠ some ref := by
      intro ref
      rw [Registers, targets, Dict.Names.refers_set_iff named, Registers]
    simp only [listensAfter, runsAfter, registersAfter, before]
    constructor
    · intro matched ref replaced runs
      have registered : client.Registers ref := ⟨offload.nqn, replaced⟩
      have earlier := Dict.Names.lt_length named registered
      rcases ((matched ref).mp (Or.inl ⟨registered, runs⟩)).1 with
        created | ⟨_, apart⟩
      · exact absurd created (Nat.ne_of_lt earlier)
      · exact apart replaced
    · intro idle ref
      constructor
      · rintro (⟨registered, runs⟩ | created)
        · refine ⟨Or.inr ⟨registered, ?_⟩, Or.inl runs⟩
          exact fun replaced => idle ref replaced runs
        · exact ⟨Or.inl created, Or.inr created⟩
      · rintro ⟨created | ⟨registered, _⟩, runs | created⟩
        · exact Or.inr created
        · exact Or.inr created
        · exact Or.inl ⟨registered, runs⟩
        · exact Or.inr created
  · rcases offload_of_not_accepts accepts with ⟨targets, returned⟩
    apply iff_of_true
    · exact (views_congr targets returned).2.mpr before
    · exact fun accepted => absurd accepted accepts

/-- A call keeps the match exactly if it meets the guard. -/
theorem step_matches_iff
    (named : client.Named) (before : client.MatchesReality) (call : Call) :
    (client.step call).MatchesReality ↔ client.KeepsReality call := by
  cases call with
  | connect contextError =>
      apply iff_of_true _ trivial
      exact (views_congr connect_keeps.1 connect_keeps.2).2.mpr before
  | close => exact iff_of_true before trivial
  | offload cfg contextError listenError =>
      exact offload_matches_iff named before cfg contextError listenError
  | stopTarget nqn contextError =>
      apply iff_of_true _ trivial
      exact stopTarget_matches named before nqn contextError
  | start ref listenError => exact start_matches_iff before ref listenError
  | stop ref =>
      apply iff_of_true _ trivial
      exact matches_of_stopped before rfl fun _ _ => Iff.rfl

/-! ## Runs -/

theorem newClient_matches : newClient.Named ∧ newClient.MatchesReality := by
  constructor
  · exact Dict.names_empty
  · rw [matchesReality_iff]
    intro ref
    apply iff_of_false
    · rintro ⟨offload, ⟨⟩, _⟩
    · rintro ⟨⟨nqn, ⟨⟩⟩, _⟩

/--
In a run of a new client, the targets that listen are always those that are
registered and run, exactly if no target that runs is replaced, no start of a
registered target fails silently and no other target is started.
-/
theorem targets_match_iff (calls : List Call) :
    AllSteps step (fun client call => (client.step call).MatchesReality)
        newClient calls ↔
      AllSteps step KeepsReality newClient calls :=
  @allSteps_property_iff _ _ _ _ Named MatchesReality
    (fun _ call named _ => named_step named call)
    (fun _ call named before => step_matches_iff named before call) newClient
    calls newClient_matches.1 newClient_matches.2

/-- A small target with some address. -/
def smallTarget (listenAddr : String) : NVMeTargetConfig where
  subsystemNqn := "n"
  listenAddr := listenAddr
  sizeBytes := 16

/-- The client that offloaded one of them. -/
def smallClient : Client :=
  newClient.step (.offload (smallTarget "a") none none)

theorem smallClient_named : smallClient.Named :=
  named_step newClient_matches.1 _

/--
Three orders in which the match is lost: a second target of the same name
replaces one that runs, a registered target is started and cannot listen, and a
target that is not registered any more is started.
-/
theorem targets_not_matched :
    (¬ AllSteps step (fun client call => (client.step call).MatchesReality)
        newClient
        [.offload (smallTarget "a") none none,
          .offload (smallTarget "b") none none]) ∧
      (¬ AllSteps step
        (fun client call => (client.step call).MatchesReality) newClient
        [.offload (smallTarget "a") none none, .stop 0,
          .start 0 (some "address already in use")]) ∧
      ¬ AllSteps step
        (fun client call => (client.step call).MatchesReality) newClient
        [.offload (smallTarget "a") none none, .stopTarget "n" none,
          .start 0 none] := by
  refine ⟨?_, ?_, ?_⟩
  · rintro ⟨first, second, _⟩
    have keeps :=
      (step_matches_iff smallClient_named first _).mp second
    have accepts :
        smallClient.Accepts (smallTarget "b") none none :=
      ⟨Or.inr rfl, by rw [NVMeTargetConfig.Servable]; decide, rfl⟩
    exact keeps accepts 0 rfl ⟨_, rfl, rfl⟩
  · rintro ⟨_, second, third, _⟩
    have named := named_step smallClient_named (.stop 0)
    have keeps := (step_matches_iff named second _).mp third
    have registered : (smallClient.step (.stop 0)).Registers 0 :=
      ⟨"n", rfl⟩
    rcases (keeps (by decide)).1 registered with listens | able
    · exact not_holdsAt_modify_stop.1 listens
    · cases able
  · rintro ⟨_, second, third, _⟩
    have named := named_step smallClient_named (.stopTarget "n" none)
    have keeps := (step_matches_iff named second _).mp third
    have gone :
        ¬ (smallClient.step (.stopTarget "n" none)).Registers 0 := by
      rintro ⟨key, ⟨⟩⟩
    exact (keeps (by decide)).2 gone rfl

end Client

end StorageAppliance.Dpu
