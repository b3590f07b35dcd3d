import StorageAppliance.Library.Run
import StorageAppliance.NvmeDrv.BlockSizes
import StorageAppliance.NvmeDrv.DeviceBounds

/-!
# Controllers that are closed

Closing a controller in Go clears its handle, a pointer that later calls pass to
C (`nvmedrv/pcie_cgo.go`, `nvmedrv/fabrics_cgo.go`, `nvmedrv/driver_cgo.go`).
Some functions in C check the pointer and return a code, the others use it as it
is.

An empty buffer has no first byte to point to, so that a transfer of no blocks
panics with it.
-/

namespace StorageAppliance.NvmeDrv

open StorageAppliance.Go
open StorageAppliance.Library

/-! ## Calls through a pointer -/

/-- A null pointer points to no object, and its use is outside of all. -/
def nullAccess {Result : Type} : Except CFault Result :=
  .error .outOfBounds

section Pointers

variable
    {Ctrl : Type}

/-- A transfer through a pointer, and the code that it returns if that is null. -/
def transferThrough
    (codeAtNull : Except CFault ℤ)
    (operation :
      Ctrl → UInt64 → UInt32 → Option NvmeBuffer →
        Except CFault (Called Ctrl))
    (ctrl : Option Ctrl) (lba : UInt64) (numBlocks : UInt32)
    (buffer : Option NvmeBuffer) : Except CFault (Called (Option Ctrl)) :=
  match ctrl with
  | none =>
      codeAtNull.map fun code =>
        { code := code, ctrl := none, buffer := buffer }
  | some ctrl =>
      (operation ctrl lba numBlocks buffer).map fun called =>
        { code := called.code
          ctrl := some called.ctrl
          buffer := called.buffer }

/-- Identifying through a pointer, which is checked. -/
def identifyThrough
    (identify :
      Ctrl → UInt8 → Option NvmeBuffer →
        Except CFault (ℤ × Option NvmeBuffer))
    (ctrl : Option Ctrl) (cns : UInt8) (buffer : Option NvmeBuffer) :
    Except CFault (ℤ × Option NvmeBuffer) :=
  match ctrl with
  | none => .ok (-1, buffer)
  | some ctrl => identify ctrl cns buffer

/-- The counters behind a pointer, which is used as it is. -/
def statsThrough (common : Ctrl → NvmeCtrl) (ctrl : Option Ctrl) :
    Except CFault NvmeStats :=
  match ctrl with
  | none => nullAccess
  | some ctrl => .ok (common ctrl).stats

end Pointers

namespace Pointer

def nvmePcieIdentify :
    Option NvmePcieCtrl → UInt8 → Option NvmeBuffer →
      Except CFault (ℤ × Option NvmeBuffer) :=
  identifyThrough NvmeDrv.nvmePcieIdentify

def nvmePcieRead :
    Option NvmePcieCtrl → UInt64 → UInt32 → Option NvmeBuffer →
      Except CFault (Called (Option NvmePcieCtrl)) :=
  transferThrough nullAccess NvmeDrv.nvmePcieRead

def nvmePcieWrite :
    Option NvmePcieCtrl → UInt64 → UInt32 → Option NvmeBuffer →
      Except CFault (Called (Option NvmePcieCtrl)) :=
  transferThrough nullAccess NvmeDrv.nvmePcieWrite

def nvmePcieStats : Option NvmePcieCtrl → Except CFault NvmeStats :=
  statsThrough id

def nvmeFabricsIdentify :
    Option NvmeFabricsCtrl → UInt8 → Option NvmeBuffer →
      Except CFault (ℤ × Option NvmeBuffer) :=
  identifyThrough NvmeDrv.nvmeFabricsIdentify

def nvmeFabricsRead :
    Option NvmeFabricsCtrl → UInt64 → UInt32 → Option NvmeBuffer →
      Except CFault (Called (Option NvmeFabricsCtrl)) :=
  transferThrough (.ok (-5)) NvmeDrv.nvmeFabricsRead

def nvmeFabricsWrite :
    Option NvmeFabricsCtrl → UInt64 → UInt32 → Option NvmeBuffer →
      Except CFault (Called (Option NvmeFabricsCtrl)) :=
  transferThrough (.ok (-5)) NvmeDrv.nvmeFabricsWrite

def nvmeFabricsStats : Option NvmeFabricsCtrl → Except CFault NvmeStats :=
  statsThrough NvmeFabricsCtrl.toNvmeCtrl

end Pointer

/-! ## Requests -/

structure IOStats where
  readOps : UInt64
  writeOps : UInt64
  bytesRead : UInt64
  bytesWritten : UInt64
  queueCount : ℤ

/-- The methods of a controller, with what they are given. -/
inductive Request where
  | identify
  | read (lba : UInt64) (numBlocks : UInt32) (buffer : NvmeBuffer)
  | write (lba : UInt64) (numBlocks : UInt32) (buffer : NvmeBuffer)
  | flush
  | stats
  | close

/-- What the methods return, and the buffer that a transfer leaves behind. -/
inductive Reply where
  | identified (info : ControllerInfo)
  | transferred (result : Except Fault Unit) (buffer : NvmeBuffer)
  | flushed
  | counted (stats : IOStats)
  | closed

/-- What the methods of a kind of controller call, and how they name it. -/
structure Binding (Ctrl : Type) where
  model : String
  serial : ControllerConfig → String
  identify :
    Option Ctrl → UInt8 → Option NvmeBuffer →
      Except CFault (ℤ × Option NvmeBuffer)
  read :
    Option Ctrl → UInt64 → UInt32 → Option NvmeBuffer →
      Except CFault (Called (Option Ctrl))
  write :
    Option Ctrl → UInt64 → UInt32 → Option NvmeBuffer →
      Except CFault (Called (Option Ctrl))
  stats : Option Ctrl → Except CFault NvmeStats

def pcieBinding : Binding NvmePcieCtrl where
  model := "nvme-pcie-c"
  serial := ControllerConfig.pciAddress
  identify := Pointer.nvmePcieIdentify
  read := Pointer.nvmePcieRead
  write := Pointer.nvmePcieWrite
  stats := Pointer.nvmePcieStats

def fabricsBinding : Binding NvmeFabricsCtrl where
  model := "nvme-of-c"
  serial := ControllerConfig.subsystemNqn
  identify := Pointer.nvmeFabricsIdentify
  read := Pointer.nvmeFabricsRead
  write := Pointer.nvmeFabricsWrite
  stats := Pointer.nvmeFabricsStats

/-- A controller with a handle, which it has until it is closed. -/
def Controller.opened {Ctrl : Type} (controller : Controller Ctrl) :
    Controller (Option Ctrl) where
  cfg := controller.cfg
  handle := some controller.handle
  queueCount := controller.queueCount

/-- Destroy the controller in C, if there is one, and clear the handle. -/
def Controller.close {Ctrl : Type} (controller : Controller (Option Ctrl)) :
    Controller (Option Ctrl) :=
  match controller.handle with
  | none => controller
  | some _ => { controller with handle := none }

def Controller.statsWith
    {Ctrl : Type} (controller : Controller (Option Ctrl))
    (stats : Option Ctrl → Except CFault NvmeStats) :
    Except CFault IOStats :=
  (stats controller.handle).map fun stats =>
    { readOps := stats.readOps
      writeOps := stats.writeOps
      bytesRead := stats.bytesRead
      bytesWritten := stats.bytesWritten
      queueCount := controller.queueCount }

namespace Binding

variable
    {Ctrl : Type}
    (binding : Binding Ctrl)
    (controller : Controller (Option Ctrl))

/-- The reply to a request, and the controller after it. -/
def serve :
    Request → Except CFault (Reply × Controller (Option Ctrl))
  | .identify =>
      (controller.identifyWith binding.identify binding.model
          (binding.serial controller.cfg)).map fun info =>
        (.identified info, controller)
  | .read lba numBlocks buffer =>
      (controller.transferWith binding.read "read" lba numBlocks
          buffer).map fun transferred =>
        (.transferred transferred.result transferred.buffer,
          transferred.controller)
  | .write lba numBlocks buffer =>
      (controller.transferWith binding.write "write" lba numBlocks
          buffer).map fun transferred =>
        (.transferred transferred.result transferred.buffer,
          transferred.controller)
  | .flush => .ok (.flushed, controller)
  | .stats =>
      (controller.statsWith binding.stats).map fun stats =>
        (.counted stats, controller)
  | .close => .ok (.closed, controller.close)

/-- One step of a run, which ends when an outcome is not defined. -/
def step (state : Option (Controller (Option Ctrl))) (request : Request) :
    Option (Controller (Option Ctrl)) :=
  state.bind fun controller =>
    (binding.serve controller request).toOption.map Prod.snd

end Binding

/-! ## Safe calls -/

/-- An empty buffer was indexed. -/
def Reply.IsPanic : Reply → Prop
  | .transferred result _ => ∃ message, result = .error (.panic message)
  | _ => False

/-- A transfer returned an error. -/
def Reply.IsRefusal : Reply → Prop
  | .transferred result _ => ∃ error, result = .error (.error error)
  | _ => False

def Request.IsTransfer : Request → Prop
  | .read _ _ _ => True
  | .write _ _ _ => True
  | _ => False

section Safety

variable
    {Ctrl : Type}

/--
With some handle, a call neither uses a null handle nor indexes an empty buffer,
and a transfer without a handle returns an error.
-/
def SafeOutcome (handle : Option Ctrl) (request : Request) :
    Except CFault (Reply × Controller (Option Ctrl)) → Prop
  | .error _ => handle ≠ none
  | .ok (reply, _) =>
      ¬ reply.IsPanic ∧
        (handle = none → request.IsTransfer → reply.IsRefusal)

namespace Binding

variable
    (binding : Binding Ctrl)

def SafeCall (controller : Controller (Option Ctrl)) (request : Request) :
    Prop :=
  SafeOutcome controller.handle request (binding.serve controller request)

def SafeStep (state : Option (Controller (Option Ctrl)))
    (request : Request) : Prop :=
  ∀ controller,
    state = some controller → binding.SafeCall controller request

end Binding

end Safety

/-! ## Usable requests -/

section Usable

variable
    {Ctrl : Type}

/-- A buffer is too short for some blocks. -/
def TooShort
    (cfg : ControllerConfig) (numBlocks : UInt32) (buffer : NvmeBuffer) :
    Prop :=
  buffer.len < numBlocks.toUInt64 * cfg.usedBlockSize.toUInt64

/--
A transfer has blocks or a byte to point to, and a handle unless C checks the
pointer or the buffer is too short.
-/
def UsableTransfer
    (checked : Bool) (controller : Controller (Option Ctrl))
    (numBlocks : UInt32) (buffer : NvmeBuffer) : Prop :=
  (numBlocks = 0 → buffer.len ≠ 0) ∧
    (checked = true ∨ controller.handle ≠ none ∨
      TooShort controller.cfg numBlocks buffer)

/-- The counters of a controller are asked for before it is closed. -/
def Usable
    (checked : Bool) (controller : Controller (Option Ctrl)) :
    Request → Prop
  | .read _ numBlocks buffer =>
      UsableTransfer checked controller numBlocks buffer
  | .write _ numBlocks buffer =>
      UsableTransfer checked controller numBlocks buffer
  | .stats => controller.handle ≠ none
  | _ => True

def UsableStep
    (checked : Bool) (state : Option (Controller (Option Ctrl)))
    (request : Request) : Prop :=
  ∀ controller, state = some controller → Usable checked controller request

end Usable

/-! ## Transfers -/

section Checks

variable
    {Ctrl : Type}
    {controller : Controller Ctrl}
    {operation :
      Ctrl → UInt64 → UInt32 → Option NvmeBuffer →
        Except CFault (Called Ctrl)}
    {name : String}
    {lba : UInt64}
    {numBlocks : UInt32}
    {buffer : NvmeBuffer}

/-- A buffer without bytes is too short for some blocks, unless they are none. -/
theorem tooShort_of_empty_iff
    {cfg : ControllerConfig} (empty : buffer.len = 0) :
    TooShort cfg numBlocks buffer ↔ numBlocks ≠ 0 := by
  have nonzero : 0 < cfg.usedBlockSize.toNat :=
    Nat.pos_of_ne_zero fun zero =>
      usedBlockSize_ne_zero cfg (UInt32.toNat_inj.mp zero)
  rw [TooShort, empty, UInt64.lt_iff_toNat_lt, toNat_mul_toUInt64,
    UInt64.toNat_zero, Nat.mul_pos_iff_of_pos_right nonzero,
    Nat.pos_iff_ne_zero, ← UInt32.toNat_zero, Ne, UInt32.toNat_inj]

/-- A buffer that is too short is refused before the call. -/
theorem transferWith_of_short
    (short : TooShort controller.cfg numBlocks buffer) :
    controller.transferWith operation name lba numBlocks buffer =
      .ok
        { result := .error (errorf ("buffer too small for " ++ name))
          controller := controller
          buffer := buffer } :=
  if_pos short

/-- A buffer without bytes that passes is indexed. -/
theorem transferWith_of_empty
    (fits : ¬ TooShort controller.cfg numBlocks buffer)
    (empty : buffer.len = 0) :
    controller.transferWith operation name lba numBlocks buffer =
      .ok
        { result :=
            .error
              (.panic
                "runtime error: index out of range [0] with length 0")
          controller := controller
          buffer := buffer } :=
  (if_neg fits).trans (if_pos empty)

/-- The other buffers are passed on. -/
theorem transferWith_of_called
    (fits : ¬ TooShort controller.cfg numBlocks buffer)
    (nonempty : buffer.len ≠ 0) :
    controller.transferWith operation name lba numBlocks buffer =
      (operation controller.handle lba numBlocks (some buffer)).map
        fun called =>
          { result :=
              if called.code ≠ 0 then
                .error
                  (errorf (name ++ " failed: " ++ decimal called.code))
              else
                .ok ()
            controller := { controller with handle := called.ctrl }
            buffer := called.buffer.getD buffer } := by
  refine (if_neg fits).trans ((if_neg nonempty).trans ?_)
  cases operation controller.handle lba numBlocks (some buffer) with
  | error fault => rfl
  | ok called => rfl

end Checks

section Transfers

variable
    {Ctrl : Type}
    {controller : Controller (Option Ctrl)}
    {name : String}
    {lba : UInt64}
    {numBlocks : UInt32}
    {buffer : NvmeBuffer}

/-- What `SafeOutcome` says of a transfer. -/
def SafeTransfer (handle : Option Ctrl) :
    Except CFault (Transferred (Option Ctrl)) → Prop
  | .error _ => handle ≠ none
  | .ok transferred =>
      (¬ ∃ message, transferred.result = .error (.panic message)) ∧
        (handle = none →
          ∃ error, transferred.result = .error (.error error))

theorem safeOutcome_transfer_iff
    {handle : Option Ctrl} {request : Request}
    (transfer : request.IsTransfer)
    (transferred : Except CFault (Transferred (Option Ctrl))) :
    SafeOutcome handle request
        (transferred.map fun transferred =>
          (.transferred transferred.result transferred.buffer,
            transferred.controller)) ↔
      SafeTransfer handle transferred := by
  cases transferred with
  | error fault => exact Iff.rfl
  | ok transferred =>
      refine and_congr_right fun _ => forall_congr' fun _ => ?_
      exact ⟨fun refused => refused transfer, fun refused _ => refused⟩

/-- What a transfer returns at a null pointer that is checked or not. -/
def codeAtNull (checked : Bool) : Except CFault ℤ :=
  if checked then .ok (-5) else nullAccess

/-- What is returned after a call is no panic. -/
theorem not_panic_of_called {text : String} {code : ℤ} :
    ¬ ∃ message,
      (if code ≠ 0 then .error (errorf text) else .ok () :
          Except Fault Unit) =
        .error (.panic message) := by
  rintro ⟨message, panics⟩
  split at panics
  · cases panics
  · cases panics

/-- A transfer through a pointer is safe exactly if it is usable. -/
theorem transferThrough_safe_iff
    (checked : Bool)
    (operation :
      Ctrl → UInt64 → UInt32 → Option NvmeBuffer →
        Except CFault (Called Ctrl)) :
    SafeTransfer controller.handle
        (controller.transferWith
          (transferThrough (codeAtNull checked) operation) name lba
          numBlocks buffer) ↔
      UsableTransfer checked controller numBlocks buffer := by
  by_cases short : TooShort controller.cfg numBlocks buffer
  · rw [transferWith_of_short short]
    apply iff_of_true
    · refine ⟨?_, fun _ => ⟨_, rfl⟩⟩
      rintro ⟨message, ⟨⟩⟩
    · refine ⟨?_, Or.inr (Or.inr short)⟩
      intro noBlocks empty
      exact (tooShort_of_empty_iff empty).mp short noBlocks
  · by_cases empty : buffer.len = 0
    · rw [transferWith_of_empty short empty]
      have noBlocks : numBlocks = 0 := by
        rw [tooShort_of_empty_iff empty] at short
        exact not_not.mp short
      apply iff_of_false
      · intro safe
        exact safe.1 ⟨_, rfl⟩
      · intro usable
        exact usable.1 noBlocks empty
    · rw [transferWith_of_called short empty]
      have pointed : numBlocks = 0 → buffer.len ≠ 0 := fun _ => empty
      cases opened : controller.handle with
      | some ctrl =>
          have usable :
              UsableTransfer checked controller numBlocks buffer := by
            refine ⟨pointed, Or.inr (Or.inl ?_)⟩
            rw [opened]
            exact Option.some_ne_none ctrl
          refine iff_of_true ?_ usable
          rw [transferThrough]
          cases operation ctrl lba numBlocks (some buffer) with
          | error fault => exact Option.some_ne_none ctrl
          | ok called =>
              refine ⟨not_panic_of_called, ?_⟩
              rintro ⟨⟩
      | none =>
          rw [transferThrough]
          cases checked with
          | true =>
              refine iff_of_true ?_ ⟨pointed, Or.inl rfl⟩
              exact ⟨@not_panic_of_called _ (-5), fun _ => ⟨_, rfl⟩⟩
          | false =>
              apply iff_of_false
              · exact fun safe => safe rfl
              · rintro ⟨_, unchecked | open_ | tooShort⟩
                · cases unchecked
                · exact open_ opened
                · exact short tooShort

end Transfers

/-! ## Requests that are safe -/

section Requests

variable
    {Ctrl : Type}

/-- Whether the calls of a kind of controller check the pointer. -/
structure Binding.Follows (binding : Binding Ctrl) (checked : Bool) :
    Prop where
  identify : ∃ identify, binding.identify = identifyThrough identify
  read :
    ∃ operation,
      binding.read = transferThrough (codeAtNull checked) operation
  write :
    ∃ operation,
      binding.write = transferThrough (codeAtNull checked) operation
  stats : ∃ common, binding.stats = statsThrough common

theorem pcieBinding_follows : pcieBinding.Follows false where
  identify := ⟨_, rfl⟩
  read := ⟨_, rfl⟩
  write := ⟨_, rfl⟩
  stats := ⟨_, rfl⟩

theorem fabricsBinding_follows : fabricsBinding.Follows true where
  identify := ⟨_, rfl⟩
  read := ⟨_, rfl⟩
  write := ⟨_, rfl⟩
  stats := ⟨_, rfl⟩

variable
    {binding : Binding Ctrl}
    {checked : Bool}

/-- Identifying a controller without a handle returns what is configured. -/
theorem identifyWith_of_closed
    {controller : Controller (Option Ctrl)}
    (identify :
      Ctrl → UInt8 → Option NvmeBuffer →
        Except CFault (ℤ × Option NvmeBuffer))
    (model serial : String) (closed : controller.handle = none) :
    ∃ info,
      controller.identifyWith (identifyThrough identify) model serial =
        .ok info := by
  rw [Controller.identifyWith, closed]
  exact ⟨_, rfl⟩

/-- A request is safe exactly if it is usable. -/
theorem Binding.Follows.safeCall_iff
    (follows : binding.Follows checked)
    (controller : Controller (Option Ctrl)) (request : Request) :
    binding.SafeCall controller request ↔
      Usable checked controller request := by
  cases request with
  | identify =>
      refine iff_of_true ?_ trivial
      rcases follows.identify with ⟨identify, same⟩
      rw [Binding.SafeCall, Binding.serve, same]
      cases identified :
          controller.identifyWith (identifyThrough identify) binding.model
            (binding.serial controller.cfg) with
      | error fault =>
          intro closed
          rcases identifyWith_of_closed identify _ _ closed with
            ⟨info, returned⟩
          cases identified.symm.trans returned
      | ok info => exact ⟨id, fun _ transfer => transfer.elim⟩
  | read lba numBlocks buffer =>
      rcases follows.read with ⟨operation, same⟩
      have transfer : (Request.read lba numBlocks buffer).IsTransfer :=
        trivial
      rw [Binding.SafeCall, Binding.serve, same]
      refine (safeOutcome_transfer_iff transfer _).trans ?_
      exact transferThrough_safe_iff checked operation
  | write lba numBlocks buffer =>
      rcases follows.write with ⟨operation, same⟩
      have transfer : (Request.write lba numBlocks buffer).IsTransfer :=
        trivial
      rw [Binding.SafeCall, Binding.serve, same]
      refine (safeOutcome_transfer_iff transfer _).trans ?_
      exact transferThrough_safe_iff checked operation
  | flush => exact iff_of_true ⟨id, fun _ transfer => transfer.elim⟩ trivial
  | stats =>
      rcases follows.stats with ⟨common, same⟩
      rw [Binding.SafeCall, Binding.serve, same, Controller.statsWith, Usable]
      cases controller.handle with
      | none => exact Iff.rfl
      | some ctrl =>
          apply iff_of_true
          · exact ⟨id, fun _ transfer => transfer.elim⟩
          · exact Option.some_ne_none ctrl
  | close => exact iff_of_true ⟨id, fun _ transfer => transfer.elim⟩ trivial

/-! ## Handles -/

/-- A transfer through a pointer leaves it null or not, as it was. -/
theorem transferThrough_ctrl_eq_none_iff
    {codeAtNull : Except CFault ℤ}
    {operation :
      Ctrl → UInt64 → UInt32 → Option NvmeBuffer →
        Except CFault (Called Ctrl)}
    {ctrl : Option Ctrl} {lba : UInt64} {numBlocks : UInt32}
    {buffer : Option NvmeBuffer} {called : Called (Option Ctrl)}
    (returned :
      transferThrough codeAtNull operation ctrl lba numBlocks buffer =
        .ok called) :
    called.ctrl = none ↔ ctrl = none := by
  cases ctrl with
  | none =>
      rw [transferThrough] at returned
      rcases ok_of_map_eq_ok returned with ⟨code, _, rfl⟩
      exact Iff.rfl
  | some ctrl =>
      rw [transferThrough] at returned
      rcases ok_of_map_eq_ok returned with ⟨inner, _, rfl⟩
      exact iff_of_false (Option.some_ne_none _) (Option.some_ne_none _)

theorem transferWith_handle_eq_none_iff
    {codeAtNull : Except CFault ℤ}
    {operation :
      Ctrl → UInt64 → UInt32 → Option NvmeBuffer →
        Except CFault (Called Ctrl)}
    {controller : Controller (Option Ctrl)} {name : String} {lba : UInt64}
    {numBlocks : UInt32} {buffer : NvmeBuffer}
    {transferred : Transferred (Option Ctrl)}
    (done :
      controller.transferWith (transferThrough codeAtNull operation) name lba
          numBlocks buffer =
        .ok transferred) :
    transferred.controller.handle = none ↔ controller.handle = none := by
  by_cases closed : controller.handle = none
  · have kept :=
      @transferWith_keeps controller.cfg _ (fun ctrl => ctrl = none) _ _ _ _
        _ _ _
        (fun _ _ _ _ _ returned =>
          (transferThrough_ctrl_eq_none_iff returned).mpr)
        done ⟨rfl, closed⟩
    exact iff_of_true kept.2 closed
  · have kept :=
      @transferWith_keeps controller.cfg _ (fun ctrl => ctrl ≠ none) _ _ _ _
        _ _ _
        (fun _ _ _ _ _ returned =>
          (transferThrough_ctrl_eq_none_iff returned).not.mpr)
        done ⟨rfl, closed⟩
    exact iff_of_false kept.2 closed

/-- A request leaves a controller without a handle if it closes it. -/
theorem Binding.Follows.handle_serve
    (follows : binding.Follows checked)
    {controller after : Controller (Option Ctrl)} {request : Request}
    {reply : Reply}
    (served : binding.serve controller request = .ok (reply, after)) :
    after.handle = none ↔ controller.handle = none ∨ request = .close := by
  cases request with
  | identify =>
      rcases ok_of_map_eq_ok served with ⟨info, _, ⟨⟩⟩
      exact (or_iff_left Request.noConfusion).symm
  | read lba numBlocks buffer =>
      rcases follows.read with ⟨operation, same⟩
      rw [Binding.serve, same] at served
      rcases ok_of_map_eq_ok served with ⟨transferred, done, ⟨⟩⟩
      rw [transferWith_handle_eq_none_iff done]
      exact (or_iff_left Request.noConfusion).symm
  | write lba numBlocks buffer =>
      rcases follows.write with ⟨operation, same⟩
      rw [Binding.serve, same] at served
      rcases ok_of_map_eq_ok served with ⟨transferred, done, ⟨⟩⟩
      rw [transferWith_handle_eq_none_iff done]
      exact (or_iff_left Request.noConfusion).symm
  | flush =>
      cases served
      exact (or_iff_left Request.noConfusion).symm
  | stats =>
      rcases ok_of_map_eq_ok served with ⟨stats, _, ⟨⟩⟩
      exact (or_iff_left Request.noConfusion).symm
  | close =>
      cases served
      apply iff_of_true
      · rw [Controller.close]
        split
        · assumption
        · rfl
      · exact Or.inr rfl

/-- A run that ended stays ended. -/
theorem Binding.run_step_none (requests : List Request) :
    run binding.step none requests = none := by
  induction requests with
  | nil => rfl
  | cons request rest induction => exact induction

/-- In a run, the handle is null exactly after a close. -/
theorem Binding.Follows.handle_run
    (follows : binding.Follows checked) {requests : List Request}
    {controller after : Controller (Option Ctrl)}
    (reached : run binding.step (some controller) requests = some after) :
    after.handle = none ↔
      controller.handle = none ∨ Request.close ∈ requests := by
  induction requests generalizing controller with
  | nil =>
      cases reached
      exact (or_iff_left List.not_mem_nil).symm
  | cons request rest induction =>
      rw [run_cons, Binding.step, Option.bind_some] at reached
      cases served : binding.serve controller request with
      | error fault =>
          rw [served] at reached
          cases (Binding.run_step_none rest).symm.trans reached
      | ok outcome =>
          rcases outcome with ⟨reply, next⟩
          rw [served] at reached
          rw [induction reached, follows.handle_serve served, List.mem_cons,
            or_assoc, @eq_comm _ request]

/-! ## Safe runs -/

/-- The steps of a run are safe exactly if they are usable. -/
theorem Binding.Follows.allSteps_safe_iff
    (follows : binding.Follows checked)
    (state : Option (Controller (Option Ctrl))) (requests : List Request) :
    AllSteps binding.step binding.SafeStep state requests ↔
      AllSteps binding.step (UsableStep checked) state requests := by
  refine
    @allSteps_iff_of_invariant _ _ _ _ _ (fun _ => True)
      (fun _ _ _ => trivial) ?_ state requests trivial
  intro state request _
  rw [Binding.SafeStep, UsableStep]
  simp only [follows.safeCall_iff]

end Requests

/--
In a run of a controller of either kind, no call uses a null handle or indexes
an empty buffer, and transfers after closing return errors, exactly if every
request is usable.
-/
theorem controllers_safe_iff
    (pc : PCIeController) (fc : FabricsController)
    (requests : List Request) :
    (AllSteps pcieBinding.step pcieBinding.SafeStep (some pc.opened)
          requests ↔
        AllSteps pcieBinding.step (UsableStep false) (some pc.opened)
          requests) ∧
      (AllSteps fabricsBinding.step fabricsBinding.SafeStep
          (some fc.opened) requests ↔
        AllSteps fabricsBinding.step (UsableStep true) (some fc.opened)
          requests) :=
  ⟨pcieBinding_follows.allSteps_safe_iff (some pc.opened) requests,
    fabricsBinding_follows.allSteps_safe_iff (some fc.opened) requests⟩

/-- A fabrics controller that is created for small blocks. -/
def smallFabrics : FabricsController where
  cfg := smallConfig 512
  handle := { toNvmeCtrl := smallHandle 512, connected := true }
  queueCount := 4

/-- A buffer for one of these blocks. -/
def blockBuffer : NvmeBuffer where
  len := 512
  memory := Memory.zeroed 512

/-- A buffer without bytes. -/
def emptyBuffer : NvmeBuffer where
  len := 0
  memory := Memory.zeroed 0

/--
Controllers of both kinds use a null handle for the counters after closing, and
index an empty buffer to read no blocks.  A closed PCIe controller uses it for a
read as well.
-/
theorem closed_controllers_unsafe :
    newPCIeController (fun _ => true) (smallConfig 512) =
        .ok (smallController 512) ∧
      newFabricsController (fun _ => true) (smallConfig 512) =
        .ok smallFabrics ∧
      (¬ AllSteps pcieBinding.step pcieBinding.SafeStep
        (some (smallController 512).opened) [.close, .stats]) ∧
      (¬ AllSteps pcieBinding.step pcieBinding.SafeStep
        (some (smallController 512).opened)
        [.close, .read 0 1 blockBuffer]) ∧
      (¬ AllSteps fabricsBinding.step fabricsBinding.SafeStep
        (some smallFabrics.opened) [.close, .stats]) ∧
      (¬ AllSteps pcieBinding.step pcieBinding.SafeStep
        (some (smallController 512).opened) [.read 0 0 emptyBuffer]) ∧
      ¬ AllSteps fabricsBinding.step fabricsBinding.SafeStep
        (some smallFabrics.opened) [.read 0 0 emptyBuffer] := by
  refine ⟨rfl, rfl, ?_, ?_, ?_, ?_, ?_⟩
  · intro safe
    rw [pcieBinding_follows.allSteps_safe_iff] at safe
    exact safe.2.1 _ rfl rfl
  · intro safe
    rw [pcieBinding_follows.allSteps_safe_iff] at safe
    have room :
        ¬ TooShort (smallController 512).cfg 1 blockBuffer := by
      rw [TooShort]
      decide
    rcases (safe.2.1 _ rfl).2 with unchecked | opened | short
    · cases unchecked
    · exact opened rfl
    · exact room short
  · intro safe
    rw [fabricsBinding_follows.allSteps_safe_iff] at safe
    exact safe.2.1 _ rfl rfl
  · intro safe
    rw [pcieBinding_follows.allSteps_safe_iff] at safe
    exact (safe.1 _ rfl).1 rfl rfl
  · intro safe
    rw [fabricsBinding_follows.allSteps_safe_iff] at safe
    exact (safe.1 _ rfl).1 rfl rfl

end StorageAppliance.NvmeDrv
