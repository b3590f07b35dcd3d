import Mathlib.Data.List.GetD
import StorageAppliance.NVMeoF.AccessControl
import StorageAppliance.NVMeoF.Initiator
import StorageAppliance.NVMeoF.Survival

/-!
# The geometry of a namespace

A target describes a namespace by a page of 4096 bytes, and the initiator takes
from it the size of a block and the number of blocks.  The size is written as an
exponent, in the first of the formats that the page lists.

The target always writes the exponent of blocks of 4096 bytes, so that both
sides agree for namespaces with such blocks only.
-/

namespace StorageAppliance.NVMeoF

open StorageAppliance.Go
open StorageAppliance.Library

/-! ## The side of the initiator -/

/-- The verb `%x`. -/
def hexadecimal (number : Nat) : String :=
  String.ofList (Nat.toDigits 16 number)

/-- What the initiator takes from the description of a namespace. -/
def parseNamespace (nsid : UInt32) (identifyBuf : Bytes) : Namespace :=
  let nsze := uint64At identifyBuf 0
  let flbas := byteAt identifyBuf 26
  let lbaFormat := flbas &&& 0xf
  let lbafOffset := 128 + lbaFormat.toNat * 4
  let lbads := byteAt identifyBuf lbafOffset
  { nsid := nsid
    capacityBlocks := nsze
    blockSize := UInt32.ofNat (2 ^ lbads.toNat) }

/--
`identifyNamespace`, after the admin queue answered with a status and filled the
buffer.
-/
def ConnectedSubsystem.identifyNamespace
    (subsys : ConnectedSubsystem) (nsid : UInt32)
    (answer : Except Fault UInt16) (identifyBuf : Bytes) :
    Except Fault ConnectedSubsystem :=
  match answer with
  | .error fault => .error fault
  | .ok status =>
      if status ≠ nvmeStatusSuccess then
        .error
          (errorf
            ("identify namespace failed: 0x" ++ hexadecimal status.toNat))
      else
        .ok
          { subsys with
            namespaces :=
              subsys.namespaces.set nsid (parseNamespace nsid identifyBuf) }

/-! ## Pages -/

section Pages

variable
    {buffer bytes : Bytes}
    {offset index : Nat}

/-- The bytes before those that were placed. -/
theorem take_place (fits : offset ≤ buffer.length) (before : index ≤ offset) :
    (place buffer offset bytes).take index = buffer.take index := by
  have length : index ≤ (buffer.take offset).length := by
    rw [List.length_take]
    omega
  rw [place, List.append_assoc, List.take_append_of_le_length length,
    List.take_take, Nat.min_eq_left before]

theorem byteAt_place_of_lt
    (fits : offset ≤ buffer.length) (before : index < offset) :
    byteAt (place buffer offset bytes) index = byteAt buffer index := by
  have start : index < (buffer.take offset).length := by
    rw [List.length_take]
    omega
  rw [place, byteAt, byteAt, List.append_assoc,
    List.getD_append _ _ _ _ start]
  simp [List.getD_eq_getElem?_getD, before]

theorem byteAt_place_self
    (fits : offset ≤ buffer.length) (byte : UInt8) :
    byteAt (place buffer offset [byte]) offset = byte := by
  have length : (buffer.take offset).length = offset := by
    rw [List.length_take]
    omega
  rw [place, byteAt, List.append_assoc,
    List.getD_append_right _ _ _ _ (Nat.le_of_eq length), length,
    Nat.sub_self]
  rfl

theorem length_place (fits : offset + bytes.length ≤ buffer.length) :
    (place buffer offset bytes).length = buffer.length := by
  rw [place, List.length_append, List.length_append, List.length_take,
    List.length_drop]
  omega

end Pages

/-- The page that describes a namespace. -/
def namespacePage (ns : TargetNamespace) : Bytes :=
  place
    (place (zeros 4096) 0
      (putUint64 (ns.size / ns.blockSize.toUInt64)))
    128 [12]

/-- The initiator takes the right number of blocks, each of 4096 bytes. -/
theorem parseNamespace_namespacePage (nsid : UInt32) (ns : TargetNamespace) :
    parseNamespace nsid (namespacePage ns) =
      { nsid := nsid
        capacityBlocks := ns.size / ns.blockSize.toUInt64
        blockSize := 4096 } := by
  generalize blocks : ns.size / ns.blockSize.toUInt64 = nsze
  have first : (zeros 4096).length = 4096 := length_zeros 4096
  have inner :
      (place (zeros 4096) 0 (putUint64 nsze)).length = 4096 := by
    rw [length_place, first]
    rw [length_putUint64, first]
    decide
  have outer : 128 ≤ (place (zeros 4096) 0 (putUint64 nsze)).length := by
    rw [inner]
    decide
  have capacity : uint64At (namespacePage ns) 0 = nsze := by
    rw [uint64At, namespacePage, blocks, List.drop_zero,
      take_place outer (by decide), place, List.take_zero, List.nil_append,
      List.take_append_of_le_length (by rw [length_putUint64]),
      List.take_of_length_le (by rw [length_putUint64]), uint64_putUint64]
  have format : byteAt (namespacePage ns) 26 = 0 := by
    rw [namespacePage, blocks, byteAt_place_of_lt outer (by decide), place,
      List.take_zero, List.nil_append, byteAt,
      List.getD_append_right _ _ _ _ (by rw [length_putUint64]; decide),
      length_putUint64]
    rfl
  have exponent : byteAt (namespacePage ns) 128 = 12 :=
    byteAt_place_self (by rw [blocks]; exact outer) 12
  simp only [parseNamespace, capacity, format]
  change
    ({ nsid := nsid
       capacityBlocks := nsze
       blockSize :=
        UInt32.ofNat (2 ^ (byteAt (namespacePage ns) 128).toNat) } :
        Namespace) =
      _
  rw [exponent]
  rfl

/-! ## Both sides -/

/-- What processing a command sent. -/
def Processed.sent (processed : Processed) (connection : TargetConnection) :
    Bytes :=
  processed.connection.conn.outgoing.drop connection.conn.outgoing.length

/-- The status that a command completed with. -/
def Processed.status (processed : Processed) : Except Fault UInt16 :=
  processed.completion.map NVMeCompletion.status

section Agreement

variable
    (target : NVMeoFTarget)
    (connection : TargetConnection)
    (cmd : NVMeCommand)
    (subsys : ConnectedSubsystem)
    (ns : TargetNamespace)

/-- The initiator takes the target's description of a namespace as it is. -/
def SharesGeometry : Prop :=
  let processed := processIdentifyCommand target connection cmd
  ∃ connected found,
    subsys.identifyNamespace cmd.nsid processed.status
          (processed.sent connection) =
        .ok connected ∧
      connected.namespaces.get? cmd.nsid = some found ∧
      found.blockSize = ns.blockSize ∧
      found.capacityBlocks.toNat = ns.size.toNat / ns.blockSize.toNat

variable
    {target : NVMeoFTarget}
    {connection : TargetConnection}
    {cmd : NVMeCommand}
    {subsys : ConnectedSubsystem}
    {ns : TargetNamespace}

/-- The target sends the page of the namespace. -/
theorem processIdentifyCommand_of_named
    (cns : cmd.identify.cns = nvmeIdCnsNs)
    (named : namedNamespace target connection cmd = some ns)
    (blocks : ns.blockSize ≠ 0) :
    processIdentifyCommand target connection cmd =
      completed target (connection.write (namespacePage ns)) cmd
        nvmeStatusSuccess := by
  have other : nvmeIdCnsNs ≠ nvmeIdCnsCtrl := by decide
  rw [processIdentifyCommand]
  cases found : target.subsystems.get? connection.subsystemNqn with
  | none =>
      rw [namedNamespace, namespaceAt_of_absent found] at named
      cases named
  | some subsystem =>
      rw [namedNamespace, namespaceAt_of_found found] at named
      simp only [cns, if_neg other, if_true, named, if_neg blocks]
      rfl

/-- The namespace that the initiator then records has blocks of 4096 bytes. -/
theorem identifyNamespace_of_named
    (cns : cmd.identify.cns = nvmeIdCnsNs)
    (named : namedNamespace target connection cmd = some ns)
    (blocks : ns.blockSize ≠ 0) :
    subsys.identifyNamespace cmd.nsid
        (processIdentifyCommand target connection cmd).status
        ((processIdentifyCommand target connection cmd).sent connection) =
      .ok
        { subsys with
          namespaces :=
            subsys.namespaces.set cmd.nsid
              { nsid := cmd.nsid
                capacityBlocks := ns.size / ns.blockSize.toUInt64
                blockSize := 4096 } } := by
  have sent :
      (completed target (connection.write (namespacePage ns)) cmd
          nvmeStatusSuccess).sent connection =
        namespacePage ns :=
    List.drop_left
  rw [processIdentifyCommand_of_named cns named blocks, sent,
    ← parseNamespace_namespacePage]
  rfl

/-- Both sides agree on a namespace exactly if its blocks have 4096 bytes. -/
theorem sharesGeometry_iff
    (cns : cmd.identify.cns = nvmeIdCnsNs)
    (named : namedNamespace target connection cmd = some ns)
    (blocks : ns.blockSize ≠ 0) :
    SharesGeometry target connection cmd subsys ns ↔
      ns.blockSize = 4096 := by
  simp only [SharesGeometry, identifyNamespace_of_named cns named blocks]
  constructor
  · rintro ⟨connected, found, same, present, blockSize, _⟩
    cases same
    rw [Dict.get?_set_self] at present
    cases present
    exact blockSize.symm
  · intro blockSize
    refine ⟨_, _, rfl, Dict.get?_set_self _ _ _, blockSize.symm, ?_⟩
    rw [UInt64.toNat_div, UInt32.toNat_toUInt64]

end Agreement

/-- A target with a namespace for each of two sizes of blocks. -/
def mixedTarget : NVMeoFTarget :=
  run NVMeoFTarget.configure {}
    [.createSubsystem "s", .addNamespace "s" 1 8192 4096,
      .addNamespace "s" 2 8192 512]

/-- A connection to this target. -/
def mixedConnection : TargetConnection where
  subsystemNqn := "s"

/-- The command that asks for the description of a namespace. -/
def describe (nsid : UInt32) : NVMeCommand where
  opcode := nvmeAdminIdentify
  nsid := nsid
  identify := { cns := nvmeIdCnsNs }

/-- A namespace of this target. -/
def mixedNamespace (nsid blockSize : UInt32) : TargetNamespace where
  nsid := nsid
  size := 8192
  blockSize := blockSize
  backend := newMemoryBackend 8192

/-- The geometry of the first namespace is shared. -/
theorem first_namespace_shared :
    SharesGeometry mixedTarget mixedConnection (describe 1) { nqn := "s" }
      (mixedNamespace 1 4096) :=
  (sharesGeometry_iff rfl rfl (by decide)).mpr rfl

/-- The initiator takes the second for one with larger blocks. -/
theorem second_namespace_not_shared :
    namedNamespace mixedTarget mixedConnection (describe 2) =
        some (mixedNamespace 2 512) ∧
      ¬ SharesGeometry mixedTarget mixedConnection (describe 2)
        { nqn := "s" } (mixedNamespace 2 512) := by
  have named :
      namedNamespace mixedTarget mixedConnection (describe 2) =
        some (mixedNamespace 2 512) :=
    rfl
  refine ⟨named, ?_⟩
  rintro ⟨connected, found, same, present, blockSize, _⟩
  rw [identifyNamespace_of_named rfl named (by decide)] at same
  cases same
  rw [Dict.get?_set_self] at present
  cases present
  exact absurd blockSize (by decide)

end StorageAppliance.NVMeoF
