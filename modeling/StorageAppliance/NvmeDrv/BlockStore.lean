import StorageAppliance.Library.Overlays
import StorageAppliance.NvmeDrv.ClosedControllers

/-!
# The controllers are stores of blocks

`Drive` says what a controller is for: it holds a byte for each address, a write
that is accepted lays its blocks over them, and nothing is done after closing.
Whether a write is accepted depends on the request and the configuration only.

The controllers in Go, down to the memory of the device in C, simulate it
(`nvmedrv/pcie_cgo.go`, `nvmedrv/fabrics_cgo.go`, `nvmedrv/driver_cgo.go`).  The
address of a block is computed modulo `2 ^ 64`, so that far blocks are other
names for near ones; no request can see more of this than that.
-/

namespace StorageAppliance.NvmeDrv

open StorageAppliance.Go
open StorageAppliance.Library

/-! ## Drives -/

/-- The bytes of a drive, which can be closed. -/
structure Drive where
  isOpen : Bool := true
  bytes : Nat → UInt8 := fun _ => 0

section Addresses

variable
    (cfg : ControllerConfig)
    (lba : UInt64)
    (numBlocks : UInt32)

/-- The address of a block. -/
def startOf : Nat :=
  lba.toNat * cfg.usedBlockSize.toNat % 2 ^ 64

/-- The number of bytes of some blocks. -/
def lengthOf : Nat :=
  numBlocks.toNat * cfg.usedBlockSize.toNat

/-- A buffer that is not empty has the blocks, and the drive does. -/
def Accepts (buffer : NvmeBuffer) : Prop :=
  buffer.len ≠ 0 ∧ lengthOf cfg numBlocks ≤ buffer.len.toNat ∧
    startOf cfg lba + lengthOf cfg numBlocks ≤ cfg.usedSize.toNat

instance (buffer : NvmeBuffer) :
    Decidable (Accepts cfg lba numBlocks buffer) :=
  inferInstanceAs (Decidable (_ ∧ _ ∧ _))

end Addresses

/-- What a request does to a drive. -/
def Drive.step (cfg : ControllerConfig) (drive : Drive) : Request → Drive
  | .write lba numBlocks buffer =>
      if drive.isOpen ∧ Accepts cfg lba numBlocks buffer then
        { drive with
          bytes :=
            overlay drive.bytes (startOf cfg lba)
              (buffer.memory.load 0 (lengthOf cfg numBlocks)) }
      else
        drive
  | .close => { drive with isOpen := false }
  | _ => drive

/-- The drive after the requests of a run. -/
def Drive.after (cfg : ControllerConfig) (requests : List Request) :
    Drive :=
  run (Drive.step cfg) {} requests

/-! ## Transfers of a device -/

/-- The device is one of the configuration, and holds the bytes of the drive. -/
structure NvmeEmuDevice.Stores (dev : NvmeEmuDevice)
    (cfg : ControllerConfig) (bytes : Nat → UInt8) : Prop where
  blockSize : dev.blockSize = cfg.usedBlockSize
  sizeBytes : dev.sizeBytes = cfg.usedSize
  holds : Holds dev.data.bytes bytes

section Devices

variable
    {cfg : ControllerConfig}
    {bytes : Nat → UInt8}
    {ctrl : NvmeCtrl}
    {lba : UInt64}
    {numBlocks : UInt32}
    {buffer : NvmeBuffer}
    {called : Called NvmeCtrl}

/-- A range in the device does not wrap. -/
theorem not_beyond_of_inside
    {first count : Nat} {size : UInt64}
    (inside : first % 2 ^ 64 + count ≤ size.toNat) :
    ¬ size.toNat < (first + count) % 2 ^ 64 := by
  have small := size.toNat_lt
  have whole : (first + count) % 2 ^ 64 = first % 2 ^ 64 + count := by
    rw [Nat.add_mod]
    have few : count % 2 ^ 64 = count := Nat.mod_eq_of_lt (by omega)
    rw [few]
    exact Nat.mod_eq_of_lt (by omega)
  omega

/-- The codes of a refusal. -/
theorem shortCode : ¬ (-2 : ℤ) = 0 := by
  decide

theorem beyondCode : ¬ (-3 : ℤ) = 0 := by
  decide

theorem firstByte_of_stores (stores : ctrl.dev.Stores cfg bytes) :
    firstByte ctrl.dev lba % 2 ^ 64 = startOf cfg lba := by
  rw [firstByte, stores.blockSize, startOf]

theorem byteCount_of_stores (stores : ctrl.dev.Stores cfg bytes) :
    byteCount ctrl.dev numBlocks = lengthOf cfg numBlocks := by
  rw [byteCount, stores.blockSize, lengthOf]

/-- A read that returns has the bytes of the drive if it is accepted. -/
theorem nvmeCtrlRead_stores
    (stores : ctrl.dev.Stores cfg bytes) (nonempty : buffer.len ≠ 0)
    (returned :
      nvmeCtrlRead ctrl lba numBlocks (some buffer) = .ok called) :
    called.ctrl.dev = ctrl.dev ∧
      (called.code = 0 ↔ Accepts cfg lba numBlocks buffer) ∧
      (called.code = 0 →
        (called.buffer.getD buffer).memory.bytes =
          window bytes (startOf cfg lba) (lengthOf cfg numBlocks) ++
            buffer.memory.bytes.drop (lengthOf cfg numBlocks)) := by
  have size := congrArg UInt64.toNat stores.sizeBytes
  rw [nvmeCtrlRead, nvmeEmuRead_eq, byteCount_of_stores stores,
    firstByte_of_stores stores] at returned
  split at returned
  · cases returned
  · rename_i ret after outcome
    by_cases short : buffer.len.toNat < lengthOf cfg numBlocks
    · rw [if_pos short] at outcome
      cases outcome
      cases returned
      refine ⟨rfl, iff_of_false shortCode ?_, fun done => ?_⟩
      · intro accepts
        exact absurd accepts.2.1 (Nat.not_le_of_lt short)
      · cases done
    · rw [if_neg short] at outcome
      by_cases beyond :
          ctrl.dev.sizeBytes.toNat <
            (firstByte ctrl.dev lba + lengthOf cfg numBlocks) % 2 ^ 64
      · rw [if_pos beyond] at outcome
        cases outcome
        cases returned
        refine ⟨rfl, iff_of_false beyondCode ?_, fun done => ?_⟩
        · intro accepts
          have inside := accepts.2.2
          rw [← firstByte_of_stores stores, ← size] at inside
          exact not_beyond_of_inside inside beyond
        · cases done
      · rw [if_neg beyond] at outcome
        split at outcome
        · cases outcome
        · rename_i memory copied
          cases outcome
          cases returned
          have inside := Memory.inside_of_memcpy copied
          rcases Memory.memcpy_of_inside inside with
            ⟨same, again, contents⟩
          rw [copied] at again
          cases again
          have fits :
              startOf cfg lba + lengthOf cfg numBlocks ≤
                ctrl.dev.data.bytes.length := by
            rw [ctrl.dev.data.length_eq]
            exact inside.1
          refine ⟨rfl, iff_of_true rfl ?_, fun _ => ?_⟩
          · exact ⟨nonempty, by omega, by rw [← size]; exact inside.1⟩
          · show memory.bytes = _
            rw [contents, List.take_zero, List.nil_append, Memory.load,
              stores.holds.slice fits, Nat.zero_add]

/-- A write that returns stores its blocks exactly if it is accepted. -/
theorem nvmeCtrlWrite_stores
    (stores : ctrl.dev.Stores cfg bytes) (nonempty : buffer.len ≠ 0)
    (returned :
      nvmeCtrlWrite ctrl lba numBlocks (some buffer) = .ok called) :
    (called.code = 0 ↔ Accepts cfg lba numBlocks buffer) ∧
      called.ctrl.dev.Stores cfg
        (if Accepts cfg lba numBlocks buffer then
          overlay bytes (startOf cfg lba)
            (buffer.memory.load 0 (lengthOf cfg numBlocks))
        else
          bytes) := by
  have size := congrArg UInt64.toNat stores.sizeBytes
  rw [nvmeCtrlWrite, nvmeEmuWrite_eq, byteCount_of_stores stores,
    firstByte_of_stores stores] at returned
  split at returned
  · cases returned
  · rename_i ret after outcome
    by_cases short : buffer.len.toNat < lengthOf cfg numBlocks
    · rw [if_pos short] at outcome
      cases outcome
      cases returned
      have refused : ¬ Accepts cfg lba numBlocks buffer := fun accepts =>
        absurd accepts.2.1 (Nat.not_le_of_lt short)
      refine ⟨iff_of_false shortCode refused, ?_⟩
      rw [if_neg refused]
      exact stores
    · rw [if_neg short] at outcome
      by_cases beyond :
          ctrl.dev.sizeBytes.toNat <
            (firstByte ctrl.dev lba + lengthOf cfg numBlocks) % 2 ^ 64
      · rw [if_pos beyond] at outcome
        cases outcome
        cases returned
        have refused : ¬ Accepts cfg lba numBlocks buffer := by
          intro accepts
          have inside := accepts.2.2
          rw [← firstByte_of_stores stores, ← size] at inside
          exact not_beyond_of_inside inside beyond
        refine ⟨iff_of_false beyondCode refused, ?_⟩
        rw [if_neg refused]
        exact stores
      · rw [if_neg beyond] at outcome
        split at outcome
        · cases outcome
        · rename_i data copied
          cases outcome
          cases returned
          have inside := Memory.inside_of_memcpy copied
          rcases Memory.memcpy_of_inside inside with
            ⟨same, again, contents⟩
          rw [copied] at again
          cases again
          have length :
              (buffer.memory.load 0 (lengthOf cfg numBlocks)).length =
                lengthOf cfg numBlocks :=
            Memory.length_load inside.1
          have accepts : Accepts cfg lba numBlocks buffer :=
            ⟨nonempty, by omega, by rw [← size]; exact inside.2⟩
          refine ⟨iff_of_true rfl accepts, ?_⟩
          rw [if_pos accepts]
          refine
            { blockSize := stores.blockSize
              sizeBytes := stores.sizeBytes
              holds := ?_ }
          show Holds data.bytes _
          rw [contents]
          have spliced :=
            @Holds.splice _ _ (startOf cfg lba) _
              (buffer.memory.load 0 (lengthOf cfg numBlocks)) stores.holds
              (by
                rw [length, ctrl.dev.data.length_eq]
                exact inside.2)
          rw [length] at spliced
          exact spliced

end Devices

/-! ## Transfers of a controller -/

/--
A transfer through a pointer does an operation of the controller behind it, and
refuses if there is none.
-/
structure Performs {Ctrl : Type} (view : Ctrl → NvmeCtrl)
    (ready : Ctrl → Prop)
    (transfer :
      Option Ctrl → UInt64 → UInt32 → Option NvmeBuffer →
        Except CFault (Called (Option Ctrl)))
    (operation :
      NvmeCtrl → UInt64 → UInt32 → Option NvmeBuffer →
        Except CFault (Called NvmeCtrl)) : Prop where
  opened :
    ∀ ctrl lba numBlocks buffer called,
      ready ctrl →
        transfer (some ctrl) lba numBlocks buffer = .ok called →
          ∃ inner after,
            operation (view ctrl) lba numBlocks buffer = .ok inner ∧
              called.ctrl = some after ∧
              ready after ∧
              view after = inner.ctrl ∧
              called.code = inner.code ∧
              called.buffer = inner.buffer
  closed :
    ∀ lba numBlocks buffer called,
      transfer none lba numBlocks buffer = .ok called →
        called.code ≠ 0 ∧ called.ctrl = none

/-- Both transfers of a kind of controller perform. -/
structure Binding.Drives {Ctrl : Type} (binding : Binding Ctrl)
    (view : Ctrl → NvmeCtrl) (ready : Ctrl → Prop) : Prop where
  read : Performs view ready binding.read nvmeCtrlRead
  write : Performs view ready binding.write nvmeCtrlWrite

section Bindings

variable
    {operation :
      NvmeCtrl → UInt64 → UInt32 → Option NvmeBuffer →
        Except CFault (Called NvmeCtrl)}

/-- A null pointer is refused, if it is not used. -/
theorem transferThrough_closed
    {Ctrl : Type} (checked : Bool)
    {transfer :
      Ctrl → UInt64 → UInt32 → Option NvmeBuffer →
        Except CFault (Called Ctrl)}
    {lba : UInt64} {numBlocks : UInt32} {buffer : Option NvmeBuffer}
    {called : Called (Option Ctrl)}
    (returned :
      transferThrough (codeAtNull checked) transfer none lba numBlocks
          buffer =
        .ok called) :
    called.code ≠ 0 ∧ called.ctrl = none := by
  rw [transferThrough] at returned
  rcases ok_of_map_eq_ok returned with ⟨code, checks, rfl⟩
  cases checked with
  | true =>
      cases checks
      exact ⟨(by decide : (-5 : ℤ) ≠ 0), rfl⟩
  | false => cases checks

theorem performs_pcie :
    Performs id (fun _ => True)
      (transferThrough (codeAtNull false) operation) operation where
  opened := by
    intro ctrl lba numBlocks buffer called _ returned
    rw [transferThrough] at returned
    rcases ok_of_map_eq_ok returned with ⟨inner, performed, rfl⟩
    exact ⟨inner, inner.ctrl, performed, rfl, trivial, rfl, rfl, rfl⟩
  closed := fun _ _ _ _ returned => transferThrough_closed false returned

theorem performs_fabrics :
    Performs NvmeFabricsCtrl.toNvmeCtrl (fun ctrl => ctrl.connected = true)
      (transferThrough (codeAtNull true)
        fun ctrl lba numBlocks buffer =>
          ctrl.connectedCall buffer fun ctrl =>
            operation ctrl lba numBlocks buffer)
      operation where
  opened := by
    intro ctrl lba numBlocks buffer called connected returned
    rw [transferThrough] at returned
    rcases ok_of_map_eq_ok returned with ⟨middle, performed, rfl⟩
    rw [NvmeFabricsCtrl.connectedCall, if_pos connected] at performed
    split at performed
    · cases performed
    · rename_i inner done
      cases performed
      exact ⟨inner, _, done, rfl, connected, rfl, rfl, rfl⟩
  closed := fun _ _ _ _ returned => transferThrough_closed true returned

theorem pcieBinding_drives : pcieBinding.Drives id fun _ => True where
  read := performs_pcie
  write := performs_pcie

theorem fabricsBinding_drives :
    fabricsBinding.Drives NvmeFabricsCtrl.toNvmeCtrl
      fun ctrl => ctrl.connected = true where
  read := performs_fabrics
  write := performs_fabrics

end Bindings

/-! ## The simulation -/

/-- The controller is one of the configuration, and simulates the drive. -/
structure Simulates {Ctrl : Type} (view : Ctrl → NvmeCtrl)
    (ready : Ctrl → Prop) (cfg : ControllerConfig)
    (controller : Controller (Option Ctrl)) (drive : Drive) : Prop where
  configured : controller.cfg = cfg
  isOpen : drive.isOpen = true ↔ controller.handle ≠ none
  device :
    ∀ ctrl,
      controller.handle = some ctrl →
        ready ctrl ∧ (view ctrl).dev.Stores cfg drive.bytes

section Simulation

variable
    {Ctrl : Type}
    {view : Ctrl → NvmeCtrl}
    {ready : Ctrl → Prop}
    {cfg : ControllerConfig}
    {controller after : Controller (Option Ctrl)}
    {drive : Drive}
    {binding : Binding Ctrl}
    {name : String}
    {lba : UInt64}
    {numBlocks : UInt32}
    {buffer : NvmeBuffer}
    {transfer :
      Option Ctrl → UInt64 → UInt32 → Option NvmeBuffer →
        Except CFault (Called (Option Ctrl))}
    {operation :
      NvmeCtrl → UInt64 → UInt32 → Option NvmeBuffer →
        Except CFault (Called NvmeCtrl)}
    {transferred : Transferred (Option Ctrl)}

/-- What a transfer that returns has done. -/
inductive TransferOutcome (controller : Controller (Option Ctrl))
    (operation :
      NvmeCtrl → UInt64 → UInt32 → Option NvmeBuffer →
        Except CFault (Called NvmeCtrl))
    (view : Ctrl → NvmeCtrl) (ready : Ctrl → Prop)
    (lba : UInt64) (numBlocks : UInt32) (buffer : NvmeBuffer)
    (transferred : Transferred (Option Ctrl)) : Prop where
  | refused
      (failed : transferred.result ≠ .ok ())
      (same : transferred.controller = controller)
      (why :
        buffer.len = 0 ∨
          buffer.len.toNat < lengthOf controller.cfg numBlocks)
  | closed
      (failed : transferred.result ≠ .ok ())
      (same : transferred.controller = controller)
      (null : controller.handle = none)
  | done (ctrl next : Ctrl) (inner : Called NvmeCtrl)
      (nonempty : buffer.len ≠ 0)
      (opened : controller.handle = some ctrl)
      (performed :
        operation (view ctrl) lba numBlocks (some buffer) = .ok inner)
      (same :
        transferred.controller = { controller with handle := some next })
      (stillReady : ready next)
      (left : view next = inner.ctrl)
      (result : transferred.result = .ok () ↔ inner.code = 0)
      (contents : transferred.buffer = inner.buffer.getD buffer)

/-- The outcome is an error exactly if the code is not zero. -/
theorem result_of_code (text : String) (code : ℤ) :
    (if code ≠ 0 then .error (errorf text) else .ok () :
        Except Fault Unit) =
        .ok () ↔
      code = 0 := by
  by_cases zero : code = 0
  · rw [if_neg (not_not.mpr zero)]
    exact iff_of_true rfl zero
  · rw [if_pos zero]
    exact iff_of_false (fun same => by cases same) zero

theorem transferOutcome
    (performs : Performs view ready transfer operation)
    (readies :
      ∀ ctrl, controller.handle = some ctrl → ready ctrl)
    (returned :
      controller.transferWith transfer name lba numBlocks buffer =
        .ok transferred) :
    TransferOutcome controller operation view ready lba numBlocks buffer
      transferred := by
  by_cases short : TooShort controller.cfg numBlocks buffer
  · rw [transferWith_of_short short] at returned
    cases returned
    refine .refused (fun same => by cases same) rfl (Or.inr ?_)
    rw [TooShort, UInt64.lt_iff_toNat_lt, toNat_mul_toUInt64] at short
    exact short
  · by_cases empty : buffer.len = 0
    · rw [transferWith_of_empty short empty] at returned
      cases returned
      exact .refused (fun same => by cases same) rfl (Or.inl empty)
    · rw [transferWith_of_called short empty] at returned
      rcases ok_of_map_eq_ok returned with ⟨called, performed, rfl⟩
      cases opened : controller.handle with
      | none =>
          rw [opened] at performed
          have refusal := performs.closed _ _ _ _ performed
          refine .closed ?_ ?_ opened
          · intro succeeded
            exact refusal.1 ((result_of_code _ _).mp succeeded)
          · show { controller with handle := called.ctrl } = controller
            rw [refusal.2, ← opened]
      | some ctrl =>
          rw [opened] at performed
          rcases
            performs.opened _ _ _ _ _ (readies ctrl opened) performed with
            ⟨inner, next, done, left, stillReady, same, code, contents⟩
          refine
            .done ctrl next inner empty opened done ?_ stillReady same ?_
              ?_
          · show { controller with handle := called.ctrl } = _
            rw [left]
          · rw [← code]
            exact result_of_code _ _
          · show called.buffer.getD buffer = _
            rw [contents]

/-- An open controller has a handle. -/
theorem Simulates.of_handle
    (simulates : Simulates view ready cfg controller drive)
    {ctrl : Ctrl} (opened : controller.handle = some ctrl) :
    drive.isOpen = true := by
  rw [simulates.isOpen, opened]
  exact Option.some_ne_none ctrl

/-- A read returns the bytes of the drive if it is open and accepts it. -/
theorem simulates_read
    (performs : Performs view ready transfer nvmeCtrlRead)
    (simulates : Simulates view ready cfg controller drive)
    (returned :
      controller.transferWith transfer name lba numBlocks buffer =
        .ok transferred) :
    Simulates view ready cfg transferred.controller drive ∧
      (transferred.result = .ok () ↔
        drive.isOpen = true ∧ Accepts cfg lba numBlocks buffer) ∧
      (transferred.result = .ok () →
        transferred.buffer.memory.bytes =
          window drive.bytes (startOf cfg lba) (lengthOf cfg numBlocks) ++
            buffer.memory.bytes.drop (lengthOf cfg numBlocks)) := by
  have readies := fun ctrl opened => (simulates.device ctrl opened).1
  cases transferOutcome performs readies returned with
  | refused failed same why =>
      rw [same]
      refine ⟨simulates, iff_of_false failed ?_, fun ok => absurd ok failed⟩
      rintro ⟨_, nonempty, long, _⟩
      rw [simulates.configured] at why
      rcases why with empty | short
      · exact nonempty empty
      · omega
  | closed failed same null =>
      rw [same]
      refine ⟨simulates, iff_of_false failed ?_, fun ok => absurd ok failed⟩
      rintro ⟨isOpen, _⟩
      exact simulates.isOpen.mp isOpen null
  | done ctrl next inner nonempty opened performed same stillReady left
      result contents =>
      have stores := (simulates.device ctrl opened).2
      rcases nvmeCtrlRead_stores stores nonempty performed with
        ⟨kept, accepted, bytes⟩
      have isOpen := simulates.of_handle opened
      refine ⟨?_, ?_, ?_⟩
      · rw [same]
        refine
          { configured := simulates.configured
            isOpen := ?_
            device := ?_ }
        · exact iff_of_true isOpen (Option.some_ne_none next)
        · rintro _ ⟨⟩
          rw [left, kept]
          exact ⟨stillReady, stores⟩
      · rw [result, accepted]
        exact (and_iff_right isOpen).symm
      · intro succeeded
        rw [contents]
        exact bytes (result.mp succeeded)

/-- A write lays its blocks over the drive if it is open and accepts it. -/
theorem simulates_write
    (performs : Performs view ready transfer nvmeCtrlWrite)
    (simulates : Simulates view ready cfg controller drive)
    (returned :
      controller.transferWith transfer name lba numBlocks buffer =
        .ok transferred) :
    Simulates view ready cfg transferred.controller
        (drive.step cfg (.write lba numBlocks buffer)) ∧
      (transferred.result = .ok () ↔
        drive.isOpen = true ∧ Accepts cfg lba numBlocks buffer) := by
  have readies := fun ctrl opened => (simulates.device ctrl opened).1
  cases transferOutcome performs readies returned with
  | refused failed same why =>
      have refused :
          ¬ (drive.isOpen = true ∧ Accepts cfg lba numBlocks buffer) := by
        rintro ⟨_, nonempty, long, _⟩
        rw [simulates.configured] at why
        rcases why with empty | short
        · exact nonempty empty
        · omega
      rw [same, Drive.step, if_neg refused]
      exact ⟨simulates, iff_of_false failed refused⟩
  | closed failed same null =>
      have refused :
          ¬ (drive.isOpen = true ∧ Accepts cfg lba numBlocks buffer) :=
        fun both => simulates.isOpen.mp both.1 null
      rw [same, Drive.step, if_neg refused]
      exact ⟨simulates, iff_of_false failed refused⟩
  | done ctrl next inner nonempty opened performed same stillReady left
      result contents =>
      have isOpen := simulates.of_handle opened
      rcases
        nvmeCtrlWrite_stores (simulates.device ctrl opened).2 nonempty
          performed with
        ⟨accepted, stores⟩
      constructor
      · rw [same]
        refine
          { configured := simulates.configured
            isOpen := ?_
            device := ?_ }
        · refine iff_of_true ?_ (Option.some_ne_none next)
          rw [Drive.step]
          split
          · exact isOpen
          · exact isOpen
        · rintro _ ⟨⟩
          refine ⟨stillReady, ?_⟩
          rw [left, Drive.step]
          by_cases accepts : Accepts cfg lba numBlocks buffer
          · rw [if_pos accepts] at stores
            rw [if_pos ⟨isOpen, accepts⟩]
            exact stores
          · rw [if_neg accepts] at stores
            rw [if_neg fun both => accepts both.2]
            exact stores
      · rw [result, accepted]
        exact (and_iff_right isOpen).symm

/-- A request that returns leaves a controller that simulates the drive. -/
theorem simulates_serve
    (drives : binding.Drives view ready)
    (simulates : Simulates view ready cfg controller drive)
    {request : Request} {reply : Reply}
    (served : binding.serve controller request = .ok (reply, after)) :
    Simulates view ready cfg after (drive.step cfg request) := by
  cases request with
  | identify =>
      rcases ok_of_map_eq_ok served with ⟨info, _, ⟨⟩⟩
      exact simulates
  | read lba numBlocks buffer =>
      rcases ok_of_map_eq_ok served with ⟨transferred, done, ⟨⟩⟩
      exact (simulates_read drives.read simulates done).1
  | write lba numBlocks buffer =>
      rcases ok_of_map_eq_ok served with ⟨transferred, done, ⟨⟩⟩
      exact (simulates_write drives.write simulates done).1
  | flush =>
      cases served
      exact simulates
  | stats =>
      rcases ok_of_map_eq_ok served with ⟨stats, _, ⟨⟩⟩
      exact simulates
  | close =>
      cases served
      have null : controller.close.handle = none := by
        rw [Controller.close]
        split
        · assumption
        · rfl
      refine { configured := ?_, isOpen := ?_, device := ?_ }
      · rw [Controller.close]
        split
        · exact simulates.configured
        · exact simulates.configured
      · exact iff_of_false Bool.false_ne_true (not_not.mpr null)
      · intro ctrl opened
        rw [null] at opened
        cases opened

/-- A run that returns leaves a controller that simulates the drive. -/
theorem simulates_run
    (drives : binding.Drives view ready)
    (simulates : Simulates view ready cfg controller drive)
    {requests : List Request}
    (reached :
      run binding.step (some controller) requests = some after) :
    Simulates view ready cfg after
      (run (Drive.step cfg) drive requests) := by
  induction requests generalizing controller drive with
  | nil =>
      cases reached
      exact simulates
  | cons request rest induction =>
      rw [run_cons, Binding.step, Option.bind_some] at reached
      cases served : binding.serve controller request with
      | error fault =>
          rw [served] at reached
          cases (Binding.run_step_none rest).symm.trans reached
      | ok outcome =>
          rw [served] at reached
          exact induction (simulates_serve drives simulates served) reached

end Simulation

/-! ## New controllers -/

/-- A new device stores a drive of zeros. -/
theorem nvmeCtrlCreate_stores
    {allocates : UInt64 → Bool} {cfg : ControllerConfig} {ctrl : NvmeCtrl}
    (allocated :
      nvmeCtrlCreate allocates cfg.usedBlockSize cfg.usedSize =
        some ctrl) :
    ctrl.dev.Stores cfg fun _ => 0 := by
  rw [nvmeCtrlCreate, Option.map_eq_some_iff] at allocated
  rcases allocated with ⟨dev, created, rfl⟩
  rw [nvmeEmuCreate] at created
  split at created
  · cases created
    refine { blockSize := rfl, sizeBytes := rfl, holds := ?_ }
    intro address _
    exact List.getElem_replicate _
  · cases created

theorem newPCIeController_simulates
    {allocates : UInt64 → Bool} {cfg : ControllerConfig}
    {pc : PCIeController}
    (created : newPCIeController allocates cfg = .ok pc) :
    Simulates id (fun _ => True) cfg pc.opened {} := by
  rw [newPCIeController] at created
  rcases ok_of_guard (ok_of_guard created).2 with ⟨_, created⟩
  split at created
  · cases created
  · rename_i handle allocated
    cases created
    refine { configured := rfl, isOpen := ?_, device := ?_ }
    · exact iff_of_true rfl (Option.some_ne_none _)
    · rintro _ ⟨⟩
      have stores := nvmeCtrlCreate_stores allocated
      exact
        ⟨trivial,
          { blockSize := stores.blockSize
            sizeBytes := stores.sizeBytes
            holds := stores.holds }⟩

theorem newFabricsController_simulates
    {allocates : UInt64 → Bool} {cfg : ControllerConfig}
    {fc : FabricsController}
    (created : newFabricsController allocates cfg = .ok fc) :
    Simulates NvmeFabricsCtrl.toNvmeCtrl
      (fun ctrl => ctrl.connected = true) cfg fc.opened {} := by
  rw [newFabricsController] at created
  rcases ok_of_guard (ok_of_guard created).2 with ⟨_, created⟩
  rcases ok_of_guard (ok_of_guard created).2 with ⟨_, created⟩
  rcases ok_of_guard created with ⟨_, created⟩
  split at created
  · cases created
  · rename_i handle allocated
    rcases ok_of_guard created with ⟨_, created⟩
    rw [nvmeFabricsCreate, Option.map_eq_some_iff] at allocated
    rcases allocated with ⟨ctrl, allocated, rfl⟩
    cases created
    refine { configured := rfl, isOpen := ?_, device := ?_ }
    · exact iff_of_true rfl (Option.some_ne_none _)
    · rintro _ ⟨⟩
      have stores := nvmeCtrlCreate_stores allocated
      exact
        ⟨rfl,
          { blockSize := stores.blockSize
            sizeBytes := stores.sizeBytes
            holds := stores.holds }⟩

/--
After every run, the transfers that return succeed exactly if the drive is open
and accepts them, and then a read returns the bytes of the drive.
-/
def StoresBlocks {Ctrl : Type} (binding : Binding Ctrl)
    (cfg : ControllerConfig) (opened : Controller (Option Ctrl)) : Prop :=
  ∀ requests controller lba numBlocks buffer result left next,
    run binding.step (some opened) requests = some controller →
      (binding.serve controller (.read lba numBlocks buffer) =
          .ok (.transferred result left, next) →
        (result = .ok () ↔
            (Drive.after cfg requests).isOpen = true ∧
              Accepts cfg lba numBlocks buffer) ∧
          (result = .ok () →
            left.memory.bytes =
              window (Drive.after cfg requests).bytes (startOf cfg lba)
                  (lengthOf cfg numBlocks) ++
                buffer.memory.bytes.drop (lengthOf cfg numBlocks))) ∧
        (binding.serve controller (.write lba numBlocks buffer) =
            .ok (.transferred result left, next) →
          (result = .ok () ↔
            (Drive.after cfg requests).isOpen = true ∧
              Accepts cfg lba numBlocks buffer))

theorem storesBlocks_of_simulates
    {Ctrl : Type} {view : Ctrl → NvmeCtrl} {ready : Ctrl → Prop}
    {binding : Binding Ctrl} {cfg : ControllerConfig}
    {opened : Controller (Option Ctrl)}
    (drives : binding.Drives view ready)
    (simulates : Simulates view ready cfg opened {}) :
    StoresBlocks binding cfg opened := by
  intro requests controller lba numBlocks buffer result left next reached
  have reaches := simulates_run drives simulates reached
  constructor
  · intro served
    rcases ok_of_map_eq_ok served with ⟨transferred, done, ⟨⟩⟩
    exact (simulates_read drives.read reaches done).2
  · intro served
    rcases ok_of_map_eq_ok served with ⟨transferred, done, ⟨⟩⟩
    exact (simulates_write drives.write reaches done).2

/-- New controllers of both kinds are stores of blocks. -/
theorem controllers_store_blocks
    {allocates : UInt64 → Bool} {pcieCfg fabricsCfg : ControllerConfig}
    {pc : PCIeController} {fc : FabricsController}
    (pcieCreated : newPCIeController allocates pcieCfg = .ok pc)
    (fabricsCreated : newFabricsController allocates fabricsCfg = .ok fc) :
    StoresBlocks pcieBinding pcieCfg pc.opened ∧
      StoresBlocks fabricsBinding fabricsCfg fc.opened :=
  ⟨storesBlocks_of_simulates pcieBinding_drives
      (newPCIeController_simulates pcieCreated),
    storesBlocks_of_simulates fabricsBinding_drives
      (newFabricsController_simulates fabricsCreated)⟩

/-- Controllers for blocks of 512 bytes are such stores. -/
theorem controllers_store_small_blocks :
    StoresBlocks pcieBinding (smallConfig 512)
        (smallController 512).opened ∧
      StoresBlocks fabricsBinding (smallConfig 512) smallFabrics.opened :=
  controllers_store_blocks
    (rfl :
      newPCIeController (fun _ => true) (smallConfig 512) =
        .ok (smallController 512))
    rfl

end StorageAppliance.NvmeDrv
