import StorageAppliance.NVMeoF.Survival

/-!
# The storage of a namespace

A namespace is made with as much storage as it says, and no command changes the
length of the storage.  `Reached` describes the targets that configuring and
serving lead to; all their namespaces are `Backed`.
-/

namespace StorageAppliance.NVMeoF

open StorageAppliance.Go
open StorageAppliance.Library

/-! ## Namespaces with storage -/

/-- A namespace has as much storage as it says. -/
def TargetNamespace.Backed (ns : TargetNamespace) : Prop :=
  ns.backend.data.length = ns.size.toNat

section Storage

variable
    {ns : TargetNamespace}
    {offset : UInt64}
    {length : UInt32}

theorem TargetNamespace.Backed.size (backed : ns.Backed) :
    ns.backend.size = ns.size := by
  rw [MemoryBackend.size, backed]
  exact UInt64.ofNat_toNat

/-- A range is read if it ends in the storage. -/
theorem read_eq_ok_iff (backed : ns.Backed) {data : Bytes} :
    ns.backend.read offset length = .ok data ↔
      offset.toNat + length.toNat ≤ ns.size.toNat ∧
        data =
          (ns.backend.data.take (offset.toNat + length.toNat)).drop
            offset.toNat := by
  have offsetBound := offset.toNat_lt
  have lengthBound := length.toNat_lt
  have sizeBound := ns.size.toNat_lt
  have stop :
      (offset + length.toUInt64).toNat =
        (offset.toNat + length.toNat) % 2 ^ 64 := by
    rw [UInt64.toNat_add, UInt32.toNat_toUInt64]
  rw [MemoryBackend.read, backed.size]
  by_cases inside : offset.toNat + length.toNat ≤ ns.size.toNat
  · have whole :
        (offset + length.toUInt64).toNat = offset.toNat + length.toNat := by
      omega
    have within : ¬ ns.size < offset + length.toUInt64 := by
      rw [UInt64.lt_iff_toNat_lt]
      omega
    have ordered : ¬ offset + length.toUInt64 < offset := by
      rw [UInt64.lt_iff_toNat_lt]
      omega
    simp only [if_neg within, if_neg ordered, Except.ok.injEq, whole, inside,
      true_and]
    exact eq_comm
  · apply iff_of_false
    · intro read
      split at read
      · cases read
      · split at read
        · cases read
        · rename_i within ordered
          rw [UInt64.lt_iff_toNat_lt] at within ordered
          omega
    · exact fun both => inside both.1

/-- A write is stored if it starts in the storage and its end wraps to it. -/
theorem write_eq_ok_iff
    (backed : ns.Backed) {data : Bytes} {backend : MemoryBackend} :
    ns.backend.write offset data = .ok backend ↔
      ((offset.toNat + data.length) % 2 ^ 64 ≤ ns.size.toNat ∧
          offset.toNat ≤ ns.size.toNat) ∧
        backend.data =
          ns.backend.data.take offset.toNat ++
            copy (ns.backend.data.drop offset.toNat) data := by
  have stop :
      (offset + UInt64.ofNat data.length).toNat =
        (offset.toNat + data.length) % 2 ^ 64 := by
    rw [UInt64.toNat_add, UInt64.toNat_ofNat', Nat.add_mod_mod]
  rw [MemoryBackend.write, backed.size]
  simp only [UInt64.lt_iff_toNat_lt, stop]
  by_cases beyond :
      ns.size.toNat < (offset.toNat + data.length) % 2 ^ 64
  · rw [if_pos beyond]
    apply iff_of_false
    · rintro ⟨⟩
    · exact fun both => absurd both.1.1 (Nat.not_le_of_lt beyond)
  · by_cases outside : ns.size.toNat < offset.toNat
    · rw [if_neg beyond, if_pos outside]
      apply iff_of_false
      · rintro ⟨⟩
      · exact fun both => absurd both.1.2 (Nat.not_le_of_lt outside)
    · have within := Nat.le_of_not_lt beyond
      have started := Nat.le_of_not_lt outside
      rw [if_neg beyond, if_neg outside, Except.ok.injEq,
        iff_true_intro within, iff_true_intro started, true_and, true_and]
      constructor
      · rintro rfl
        rfl
      · intro same
        cases backend
        cases same
        rfl

end Storage

/-! ## Targets with storage -/

/-- All namespaces of a target have as much storage as they say. -/
def NVMeoFTarget.Backed (target : NVMeoFTarget) : Prop :=
  ∀ nqn nsid ns, target.namespaceAt nqn nsid = some ns → ns.Backed

/-- The namespaces once one of them is another. -/
def namespacesWith
    (target : NVMeoFTarget) (connection : TargetConnection)
    (cmd : NVMeCommand) (stored : TargetNamespace)
    (nqn : String) (nsid : UInt32) : Option TargetNamespace :=
  if nqn = connection.subsystemNqn ∧ nsid = cmd.nsid then
    some stored
  else
    target.namespaceAt nqn nsid

section Targets

variable
    {target : NVMeoFTarget}
    {connection : TargetConnection}
    {cmd : NVMeCommand}
    {subsystem : Subsystem}

theorem namespaceAt_set_subsystem (nqn other : String) (nsid : UInt32) :
    NVMeoFTarget.namespaceAt
        { target with subsystems := target.subsystems.set nqn subsystem }
        other nsid =
      if other = nqn then
        subsystem.namespaces.get? nsid
      else
        target.namespaceAt other nsid := by
  rw [NVMeoFTarget.namespaceAt, Dict.get?_set]
  split
  · rfl
  · rfl

theorem namespaceAt_set
    (found :
      target.subsystems.get? connection.subsystemNqn = some subsystem)
    (stored : TargetNamespace) :
    NVMeoFTarget.namespaceAt
        { target with
          subsystems :=
            target.subsystems.set connection.subsystemNqn
              { subsystem with
                namespaces := subsystem.namespaces.set cmd.nsid stored } } =
      namespacesWith target connection cmd stored := by
  ext nqn nsid : 2
  rw [namespaceAt_set_subsystem, namespacesWith]
  by_cases same : nqn = connection.subsystemNqn
  · rw [if_pos same, Dict.get?_set, same, namespaceAt_of_found found]
    simp only [true_and]
  · rw [if_neg same, if_neg (fun both => same both.1)]

/-- Replacing a subsystem keeps storage if its namespaces have theirs. -/
theorem backed_set_subsystem
    {nqn : String} (backed : target.Backed)
    (namespaces :
      ∀ nsid ns, subsystem.namespaces.get? nsid = some ns → ns.Backed) :
    NVMeoFTarget.Backed
      { target with subsystems := target.subsystems.set nqn subsystem } := by
  intro other nsid ns present
  rw [namespaceAt_set_subsystem] at present
  split at present
  · exact namespaces nsid ns present
  · exact backed other nsid ns present

theorem NVMeoFTarget.Backed.namespaces
    {nqn : String} (backed : target.Backed)
    (found : target.subsystems.get? nqn = some subsystem)
    (nsid : UInt32) (ns : TargetNamespace)
    (present : subsystem.namespaces.get? nsid = some ns) :
    ns.Backed := by
  apply backed nqn nsid ns
  rw [namespaceAt_of_found found]
  exact present

/-- Configuring a target keeps storage. -/
theorem backed_configure
    (backed : target.Backed) (change : Configuration) :
    (target.configure change).Backed := by
  cases change with
  | createSubsystem nqn =>
      rw [NVMeoFTarget.configure, NVMeoFTarget.createSubsystem]
      cases target.subsystems.get? nqn with
      | some subsystem => exact backed
      | none =>
          apply backed_set_subsystem backed
          rintro nsid ns ⟨⟩
  | addNamespace nqn nsid size blockSize =>
      rw [NVMeoFTarget.configure]
      cases found : target.subsystems.get? nqn with
      | none => exact backed
      | some subsystem =>
          simp only [Subsystem.addNamespace]
          cases subsystem.namespaces.get? nsid with
          | some ns => exact backed
          | none =>
              apply backed_set_subsystem backed
              intro other ns present
              rcases Dict.get?_of_set present with same | before
              · rw [same, Dict.get?_set_self] at present
                cases present
                exact length_zeros _
              · exact backed.namespaces found other ns before
  | allowHost nqn hostNqn =>
      rw [NVMeoFTarget.configure]
      cases found : target.subsystems.get? nqn with
      | none => exact backed
      | some subsystem =>
          apply backed_set_subsystem backed
          intro nsid ns present
          exact backed.namespaces found nsid ns present

theorem length_copy (data source : Bytes) :
    (copy data source).length = data.length := by
  rw [copy, List.length_append, List.length_take, List.length_drop]
  omega

/-- Storage keeps its length when it is written. -/
theorem TargetNamespace.Backed.write
    {ns : TargetNamespace} {offset : UInt64} {data : Bytes}
    {backend : MemoryBackend} (backed : ns.Backed)
    (written : ns.backend.write offset data = .ok backend) :
    { ns with backend := backend : TargetNamespace }.Backed := by
  rcases (write_eq_ok_iff backed).mp written with ⟨within, same⟩
  change backend.data.length = ns.size.toNat
  rw [same, List.length_append, length_copy,
    List.length_take, List.length_drop, backed]
  omega

theorem backed_processFabricsCommand (backed : target.Backed) :
    (processFabricsCommand target connection cmd).target.Backed := by
  rw [processFabricsCommand]
  split
  · cases found : target.subsystems.get? connection.subsystemNqn with
    | none => exact backed
    | some subsystem =>
        simp only
        split
        · exact backed
        · apply backed_set_subsystem backed
          intro nsid ns present
          exact backed.namespaces found nsid ns present
  · exact backed

theorem target_processIdentifyCommand :
    (processIdentifyCommand target connection cmd).target = target := by
  rw [processIdentifyCommand]
  split
  · rfl
  · split
    · rfl
    · split
      · split
        · rfl
        · split
          · rfl
          · rfl
      · rfl

theorem target_processReadCommand :
    (processReadCommand target connection cmd).target = target := by
  rw [processReadCommand]
  split
  · rfl
  · split
    · rfl
    · simp only
      split
      · rfl
      · rfl
      · rfl

theorem target_processFlushCommand :
    (processFlushCommand target connection cmd).target = target := by
  rw [processFlushCommand]
  split
  · rfl
  · split
    · rfl
    · split
      · rfl
      · rfl

theorem backed_processWriteCommand (backed : target.Backed) :
    (processWriteCommand target connection cmd).target.Backed := by
  rw [processWriteCommand]
  cases found : target.subsystems.get? connection.subsystemNqn with
  | none => exact backed
  | some subsystem =>
      cases present : subsystem.namespaces.get? cmd.nsid with
      | none =>
          simp only [present]
          exact backed
      | some ns =>
          simp only [present]
          split
          · exact backed
          · split
            · exact backed
            · exact backed
            · rename_i backend written
              apply backed_set_subsystem backed
              intro nsid stored other
              rcases Dict.get?_of_set other with same | before
              · rw [same, Dict.get?_set_self] at other
                cases other
                exact (backed.namespaces found _ ns present).write written
              · exact backed.namespaces found nsid stored before

/-- Processing a command keeps storage. -/
theorem backed_processCommand (backed : target.Backed) :
    (processCommand target connection cmd).target.Backed := by
  rw [processCommand]
  split
  · exact backed_processFabricsCommand backed
  · split
    · rw [target_processIdentifyCommand]
      exact backed
    · split
      · rw [target_processReadCommand]
        exact backed
      · split
        · exact backed_processWriteCommand backed
        · split
          · rw [target_processFlushCommand]
            exact backed
          · exact backed

/-- Serving a connection keeps storage. -/
theorem backed_processCommands
    (rounds : Nat) {target : NVMeoFTarget} {connection : TargetConnection}
    (backed : target.Backed) :
    (processCommands rounds target connection).target.Backed := by
  induction rounds generalizing target connection with
  | zero => exact backed
  | succ rounds induction =>
      rw [processCommands]
      split
      · exact backed
      · simp only
        split
        · exact backed
        · split
          · exact backed_processCommand backed
          · exact induction (backed_processCommand backed)

/-- The targets that configuring and serving lead to. -/
inductive NVMeoFTarget.Reached : NVMeoFTarget → Prop where
  | new : NVMeoFTarget.Reached {}
  | configured {target : NVMeoFTarget} (reached : target.Reached)
      (change : Configuration) :
      NVMeoFTarget.Reached (target.configure change)
  | served {target : NVMeoFTarget} (reached : target.Reached)
      (incoming : List Bytes) :
      NVMeoFTarget.Reached (handleConnection target incoming).target

/-- A reached target that is configured further is reached. -/
theorem NVMeoFTarget.Reached.run
    (changes : List Configuration) (reached : target.Reached) :
    (run NVMeoFTarget.configure target changes).Reached :=
  run_invariant_of_step
    (fun _ change reached => reached.configured change) changes reached

/-- These targets have the storage that their namespaces say. -/
theorem NVMeoFTarget.Reached.backed (reached : target.Reached) :
    target.Backed := by
  induction reached with
  | new =>
      rintro nqn nsid ns ⟨⟩
  | configured reached change backed =>
      exact backed_configure backed change
  | served reached incoming backed =>
      exact backed_processCommands _ backed

end Targets

end StorageAppliance.NVMeoF
