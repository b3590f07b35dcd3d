import Mathlib.Data.List.GetD
import StorageAppliance.NvmeDrv.Driver

/-!
# The block size that a controller reports

The wrappers of the driver in Go (`nvmedrv/pcie_cgo.go`,
`nvmedrv/fabrics_cgo.go`, `nvmedrv/config.go`).  Reads and writes use the
configured block size, or 4096 if none is configured.  Identifying takes the
block size from a page that holds an exponent of two.

The exponent is rounded down, so that a block size that is no power of two is
reported as a smaller one.

The settings that have no effect on a controller, and the queue that a fabrics
controller picks and does not use, are left out.
-/

namespace StorageAppliance.NvmeDrv

open StorageAppliance.Go
open StorageAppliance.Library

/-! ## Configuration -/

inductive TransportType where
  | pcie
  | tcp
  | roce
  | fc
  | other (name : String)
deriving DecidableEq

def TransportType.text : TransportType → String
  | .pcie => "pcie"
  | .tcp => "tcp"
  | .roce => "roce"
  | .fc => "fc"
  | .other name => name

structure ControllerConfig where
  transport : TransportType := .pcie
  address : String := ""
  hostNqn : String := ""
  subsystemNqn : String := ""
  pciAddress : String := ""
  blockSize : UInt32 := 0
  ioQueueDepth : UInt16 := 0
  ioQueues : ℤ := 0
  allowSoftwareFallback : Bool := false
  emulatedSizeBytes : UInt64 := 0

structure ControllerInfo where
  model : String
  serial : String
  firmware : String
  namespaceCount : ℤ
  blockSize : UInt32
  maxQueues : ℤ
  maxQueueDepth : UInt16

def defaultBlockSize : UInt32 := 4096
def defaultEmulatedSize : UInt64 := 64 * 1024 * 1024

namespace ControllerConfig

variable (cfg : ControllerConfig)

/-- The block size of a configuration, which zero leaves to the default. -/
def usedBlockSize : UInt32 :=
  if cfg.blockSize = 0 then defaultBlockSize else cfg.blockSize

def usedSize : UInt64 :=
  if cfg.emulatedSizeBytes = 0 then
    defaultEmulatedSize
  else
    cfg.emulatedSizeBytes

def queueCount : ℤ :=
  if cfg.ioQueues ≤ 0 then 4 else cfg.ioQueues

end ControllerConfig

/-! ## Controllers -/

/-- A controller in Go, with its handle in C. -/
structure Controller (Ctrl : Type) where
  cfg : ControllerConfig
  handle : Ctrl
  queueCount : ℤ

abbrev PCIeController :=
  Controller NvmePcieCtrl

abbrev FabricsController :=
  Controller NvmeFabricsCtrl

def newPCIeController
    (allocates : UInt64 → Bool) (cfg : ControllerConfig) :
    Except Fault PCIeController :=
  if cfg.pciAddress = "" then
    .error (errorf "pci address is required for PCIe transport")
  else if cfg.allowSoftwareFallback = false then
    .error (errorf "hardware controller not available in C driver")
  else
    match nvmePcieCreate allocates cfg.usedBlockSize cfg.usedSize with
    | none => .error (errorf "failed to create PCIe controller")
    | some handle =>
        .ok
          { cfg := cfg
            handle := nvmePcieQueueInit handle cfg.ioQueueDepth
            queueCount := cfg.queueCount }

def newFabricsController
    (allocates : UInt64 → Bool) (cfg : ControllerConfig) :
    Except Fault FabricsController :=
  if cfg.address = "" then
    .error (errorf "address is required for fabrics transport")
  else if cfg.hostNqn = "" ∨ cfg.subsystemNqn = "" then
    .error (errorf "host and subsystem NQN are required")
  else if cfg.transport = .roce ∨ cfg.transport = .fc then
    .error
      (errorf
        ("transport " ++ cfg.transport.text ++
          " not implemented; use TCP"))
  else if cfg.transport ≠ .tcp then
    .error
      (errorf ("unsupported fabrics transport: " ++ cfg.transport.text))
  else if cfg.allowSoftwareFallback = false then
    .error (errorf "hardware fabrics path not available in C driver")
  else
    match nvmeFabricsCreate allocates cfg.usedBlockSize cfg.usedSize with
    | none => .error (errorf "failed to create fabrics controller")
    | some handle =>
        let (ret, _, handle) := nvmeFabricsConnect handle
        if ret ≠ 0 then
          .error (errorf ("fabrics connect failed: " ++ decimal ret))
        else
          .ok
            { cfg := cfg
              handle := nvmeFabricsQueueInit handle cfg.ioQueueDepth
              queueCount := cfg.queueCount }

/-! ## Identifying -/

/-- A page of zeros. -/
def identifyBuffer : NvmeBuffer where
  len := 4096
  memory := Memory.zeroed 4096

/-- The block size that a page holds, if its exponent is in range. -/
def pageBlockSize (buffer : Option NvmeBuffer) (blockSize : UInt32) : UInt32 :=
  match buffer with
  | none => blockSize
  | some page =>
      let lbads := page.memory.bytes.getD 128 0
      if 0 < lbads ∧ lbads < 32 then
        1 <<< lbads.toUInt32
      else
        blockSize

section Wrappers

variable
    {Ctrl : Type}
    (controller : Controller Ctrl)

/-- `Identify` of a controller with a name, through its call in C. -/
def Controller.identifyWith
    (identify :
      Ctrl → UInt8 → Option NvmeBuffer →
        Except CFault (ℤ × Option NvmeBuffer))
    (model serial : String) : Except CFault ControllerInfo :=
  let cfg := controller.cfg
  match identify controller.handle 0x01 (some identifyBuffer) with
  | .error fault => .error fault
  | .ok _ =>
      match identify controller.handle 0x00 (some identifyBuffer) with
      | .error fault => .error fault
      | .ok (ret, page) =>
          .ok
            { model := model
              serial := serial
              firmware := "emulated"
              namespaceCount := 1
              blockSize :=
                if ret = 0 then
                  pageBlockSize page cfg.usedBlockSize
                else
                  cfg.usedBlockSize
              maxQueues := controller.queueCount
              maxQueueDepth :=
                if cfg.ioQueueDepth = 0 then 128 else cfg.ioQueueDepth }

/-- What a read or a write in Go leaves behind. -/
structure Transferred (Ctrl : Type) where
  result : Except Fault Unit
  controller : Controller Ctrl
  buffer : NvmeBuffer

/-- `Read` or `Write` of a controller, through its call in C. -/
def Controller.transferWith
    (operation :
      Ctrl → UInt64 → UInt32 → Option NvmeBuffer →
        Except CFault (Called Ctrl))
    (name : String) (lba : UInt64) (numBlocks : UInt32)
    (buffer : NvmeBuffer) : Except CFault (Transferred Ctrl) :=
  let expected :=
    numBlocks.toUInt64 * controller.cfg.usedBlockSize.toUInt64
  if buffer.len < expected then
    .ok
      { result := .error (errorf ("buffer too small for " ++ name))
        controller := controller
        buffer := buffer }
  else if buffer.len = 0 then
    .ok
      { result :=
          .error
            (.panic
              "runtime error: index out of range [0] with length 0")
        controller := controller
        buffer := buffer }
  else
    match operation controller.handle lba numBlocks (some buffer) with
    | .error fault => .error fault
    | .ok called =>
        .ok
          { result :=
              if called.code ≠ 0 then
                .error
                  (errorf (name ++ " failed: " ++ decimal called.code))
              else
                .ok ()
            controller := { controller with handle := called.ctrl }
            buffer := called.buffer.getD buffer }

end Wrappers

def PCIeController.identify (pc : PCIeController) :
    Except CFault ControllerInfo :=
  pc.identifyWith nvmePcieIdentify "nvme-pcie-c" pc.cfg.pciAddress

def PCIeController.read (pc : PCIeController) :
    UInt64 → UInt32 → NvmeBuffer →
      Except CFault (Transferred NvmePcieCtrl) :=
  pc.transferWith nvmePcieRead "read"

def PCIeController.write (pc : PCIeController) :
    UInt64 → UInt32 → NvmeBuffer →
      Except CFault (Transferred NvmePcieCtrl) :=
  pc.transferWith nvmePcieWrite "write"

def FabricsController.identify (fc : FabricsController) :
    Except CFault ControllerInfo :=
  fc.identifyWith nvmeFabricsIdentify "nvme-of-c" fc.cfg.subsystemNqn

def FabricsController.read (fc : FabricsController) :
    UInt64 → UInt32 → NvmeBuffer →
      Except CFault (Transferred NvmeFabricsCtrl) :=
  fc.transferWith nvmeFabricsRead "read"

def FabricsController.write (fc : FabricsController) :
    UInt64 → UInt32 → NvmeBuffer →
      Except CFault (Transferred NvmeFabricsCtrl) :=
  fc.transferWith nvmeFabricsWrite "write"

/-! ## Exponents -/

/-- The loop ends at the exponent of the largest power that is not larger. -/
theorem log2Rounds_spec
    {value : UInt32} {rounds shift : Nat}
    (total : shift + rounds = 31) (least : 2 ^ shift ≤ value.toNat) :
    2 ^ log2Rounds value rounds shift ≤ value.toNat ∧
      value.toNat < 2 ^ (log2Rounds value rounds shift + 1) ∧
      log2Rounds value rounds shift ≤ 31 := by
  induction rounds generalizing shift with
  | zero =>
      rw [Nat.add_zero] at total
      rw [log2Rounds, total]
      rw [total] at least
      exact ⟨least, value.toNat_lt, Nat.le_refl 31⟩
  | succ rounds induction =>
      rw [log2Rounds, Nat.shiftRight_eq_div_pow]
      split
      · rename_i more
        apply induction
        · omega
        · rw [pow_succ]
          exact
            (Nat.mul_comm _ _).trans_le
              ((Nat.le_div_iff_mul_le (Nat.two_pow_pos shift)).mp more)
      · rename_i last
        refine ⟨least, ?_, by omega⟩
        have fewer : value.toNat / 2 ^ shift < 2 := by
          omega
        rw [Nat.div_lt_iff_lt_mul (Nat.two_pow_pos shift)] at fewer
        rw [pow_succ, Nat.mul_comm]
        exact fewer

/-- The exponent of a block size. -/
def blockExponent (value : UInt32) : Nat :=
  log2Rounds value 31 0

theorem blockExponent_spec {value : UInt32} (nonzero : value ≠ 0) :
    2 ^ blockExponent value ≤ value.toNat ∧
      value.toNat < 2 ^ (blockExponent value + 1) ∧
      blockExponent value ≤ 31 := by
  apply log2Rounds_spec
  · rfl
  · rw [pow_zero]
    exact
      Nat.one_le_iff_ne_zero.mpr fun zero =>
        nonzero (UInt32.toNat_inj.mp zero)

theorem toNat_nvmeLog2U32 {value : UInt32} (nonzero : value ≠ 0) :
    (nvmeLog2U32 value).toNat = blockExponent value := by
  have bound := (blockExponent_spec nonzero).2.2
  rw [nvmeLog2U32, UInt8.toNat_ofNat']
  exact Nat.mod_eq_of_lt (by rw [blockExponent] at bound; omega)

/-- The power with the exponent of a number is the number if it is a power. -/
theorem two_pow_blockExponent_iff {value : UInt32} (nonzero : value ≠ 0) :
    2 ^ blockExponent value = value.toNat ↔ value.toNat.isPowerOfTwo := by
  rcases blockExponent_spec nonzero with ⟨least, more, _⟩
  constructor
  · intro same
    exact ⟨blockExponent value, same.symm⟩
  · rintro ⟨exponent, same⟩
    rw [same] at least more ⊢
    have lower := (Nat.pow_le_pow_iff_right (by decide)).mp least
    have upper := (Nat.pow_lt_pow_iff_right (by decide)).mp more
    rw [Nat.le_antisymm lower (Nat.le_of_lt_succ upper)]

/-! ## Pages -/

/-- A byte that is stored is read back. -/
theorem Memory.getD_store_singleton
    {size offset : Nat} (memory : Memory size) (byte : UInt8)
    (fits : offset + [byte].length ≤ size) :
    (memory.store offset [byte] fits).bytes.getD offset 0 = byte := by
  have whole := memory.length_eq
  have length : (memory.bytes.take offset).length = offset := by
    rw [List.length_take]
    rw [List.length_singleton] at fits
    omega
  show
    (memory.bytes.take offset ++ [byte] ++ _).getD offset 0 = byte
  rw [List.append_assoc,
    List.getD_append_right _ _ _ _ (Nat.le_of_eq length), length,
    Nat.sub_self]
  rfl

section Identifying

variable
    {ctrl : NvmeCtrl}
    {blockSize : UInt32}

/-- The page of a namespace holds the exponent of the block size. -/
theorem nvmeCtrlIdentify_namespace (nonzero : ctrl.dev.blockSize ≠ 0) :
    ∃ page,
      nvmeCtrlIdentify ctrl (some identifyBuffer) 0x00 =
          .ok (0, some page) ∧
        page.memory.bytes.getD 128 0 =
          nvmeLog2U32 ctrl.dev.blockSize := by
  have apart : ¬ (0x00 : UInt8) = 0x01 := by decide
  have whole : ¬ identifyBuffer.len.toNat < 4096 := by decide
  rw [nvmeCtrlIdentify, if_neg apart, if_pos rfl]
  simp only [nvmeFillIdentifyNs, if_neg whole, if_neg nonzero]
  refine ⟨_, rfl, ?_⟩
  rw [NvmeBuffer.fillPage, dif_neg whole]
  have room :
      128 + [nvmeLog2U32 ctrl.dev.blockSize].length ≤
        identifyBuffer.len.toNat := by
    rw [List.length_singleton]
    decide
  exact Memory.getD_store_singleton _ _ room

/-- The block size of the page is the largest power that is not larger. -/
theorem toNat_pageBlockSize
    {page : NvmeBuffer} (nonzero : blockSize ≠ 0)
    (exponent :
      page.memory.bytes.getD 128 0 = nvmeLog2U32 blockSize) :
    (pageBlockSize (some page) blockSize).toNat =
      2 ^ blockExponent blockSize := by
  rcases blockExponent_spec nonzero with ⟨least, more, bound⟩
  have number := toNat_nvmeLog2U32 nonzero
  simp only [pageBlockSize, exponent]
  have one : (1 : UInt32).toNat = 1 := rfl
  have largest : (32 : UInt8).toNat = 32 := rfl
  split
  · have fits : 2 ^ blockExponent blockSize < 2 ^ 32 :=
      Nat.pow_lt_pow_right (by decide) (by omega)
    have small : blockExponent blockSize % 32 = blockExponent blockSize :=
      Nat.mod_eq_of_lt (by omega)
    rw [UInt32.toNat_shiftLeft, UInt8.toNat_toUInt32, number, one, small,
      Nat.shiftLeft_eq, Nat.one_mul, Nat.mod_eq_of_lt fits]
  · rename_i outside
    rw [UInt8.lt_iff_toNat_lt, UInt8.lt_iff_toNat_lt, number,
      UInt8.toNat_zero, largest] at outside
    have none : blockExponent blockSize = 0 := by
      omega
    rw [none] at least more ⊢
    omega

theorem usedBlockSize_ne_zero (cfg : ControllerConfig) :
    cfg.usedBlockSize ≠ 0 := by
  rw [ControllerConfig.usedBlockSize]
  split
  · decide
  · assumption

/-- The block size in use is a power of two if the configured one is. -/
theorem usedBlockSize_isPowerOfTwo_iff (cfg : ControllerConfig) :
    cfg.usedBlockSize.toNat.isPowerOfTwo ↔
      cfg.blockSize = 0 ∨ cfg.blockSize.toNat.isPowerOfTwo := by
  rw [ControllerConfig.usedBlockSize]
  split
  · rename_i zero
    exact iff_of_true ⟨12, rfl⟩ (Or.inl zero)
  · rename_i nonzero
    exact (or_iff_right nonzero).symm

end Identifying

/-! ## Reported block sizes -/

/-- Identifying reports the block size that reads and writes use. -/
def ReportsBlockSize
    (identified : Except CFault ControllerInfo) (cfg : ControllerConfig)
    (dev : NvmeEmuDevice) : Prop :=
  ∃ info,
    identified = .ok info ∧
      info.blockSize = cfg.usedBlockSize ∧ info.blockSize = dev.blockSize

section Reports

variable
    {Ctrl : Type}
    {controller : Controller Ctrl}
    {identify :
      Ctrl → UInt8 → Option NvmeBuffer →
        Except CFault (ℤ × Option NvmeBuffer)}
    {ctrl : NvmeCtrl}

/-- A report through a call that passes on to a device in use. -/
theorem identifyWith_reports_iff
    (model serial : String)
    (passes :
      ∀ cns,
        identify controller.handle cns (some identifyBuffer) =
          nvmeCtrlIdentify ctrl (some identifyBuffer) cns)
    (used : ctrl.dev.blockSize = controller.cfg.usedBlockSize) :
    ReportsBlockSize (controller.identifyWith identify model serial)
        controller.cfg ctrl.dev ↔
      controller.cfg.blockSize = 0 ∨
        controller.cfg.blockSize.toNat.isPowerOfTwo := by
  have nonzero := usedBlockSize_ne_zero controller.cfg
  have first :
      nvmeCtrlIdentify ctrl (some identifyBuffer) 0x01 =
        .ok (0, nvmeFillIdentifyCtrl (some identifyBuffer)) :=
    if_pos rfl
  have deviceNonzero : ctrl.dev.blockSize ≠ 0 := by
    rw [used]
    exact nonzero
  rcases nvmeCtrlIdentify_namespace deviceNonzero with
    ⟨page, second, exponent⟩
  rw [used] at exponent
  have size := toNat_pageBlockSize nonzero exponent
  rw [← usedBlockSize_isPowerOfTwo_iff, ← two_pow_blockExponent_iff nonzero,
    ← size, UInt32.toNat_inj, ReportsBlockSize, used]
  simp only [Controller.identifyWith, passes, first, second, if_true]
  constructor
  · rintro ⟨info, ⟨⟩, same, _⟩
    exact same
  · intro same
    exact ⟨_, rfl, same, same⟩

end Reports

/-! ## Controllers in use -/

/-- A PCIe controller that was created and used. -/
inductive PCIeController.InUse
    (allocates : UInt64 → Bool) (cfg : ControllerConfig) :
    PCIeController → Prop where
  | created {pc : PCIeController}
      (created : newPCIeController allocates cfg = .ok pc) :
      PCIeController.InUse allocates cfg pc
  | read {pc : PCIeController} {lba : UInt64} {numBlocks : UInt32}
      {buffer : NvmeBuffer} {transferred : Transferred NvmePcieCtrl}
      (before : PCIeController.InUse allocates cfg pc)
      (done : pc.read lba numBlocks buffer = .ok transferred) :
      PCIeController.InUse allocates cfg transferred.controller
  | write {pc : PCIeController} {lba : UInt64} {numBlocks : UInt32}
      {buffer : NvmeBuffer} {transferred : Transferred NvmePcieCtrl}
      (before : PCIeController.InUse allocates cfg pc)
      (done : pc.write lba numBlocks buffer = .ok transferred) :
      PCIeController.InUse allocates cfg transferred.controller

/-- A fabrics controller that was created and used. -/
inductive FabricsController.InUse
    (allocates : UInt64 → Bool) (cfg : ControllerConfig) :
    FabricsController → Prop where
  | created {fc : FabricsController}
      (created : newFabricsController allocates cfg = .ok fc) :
      FabricsController.InUse allocates cfg fc
  | read {fc : FabricsController} {lba : UInt64} {numBlocks : UInt32}
      {buffer : NvmeBuffer} {transferred : Transferred NvmeFabricsCtrl}
      (before : FabricsController.InUse allocates cfg fc)
      (done : fc.read lba numBlocks buffer = .ok transferred) :
      FabricsController.InUse allocates cfg transferred.controller
  | write {fc : FabricsController} {lba : UInt64} {numBlocks : UInt32}
      {buffer : NvmeBuffer} {transferred : Transferred NvmeFabricsCtrl}
      (before : FabricsController.InUse allocates cfg fc)
      (done : fc.write lba numBlocks buffer = .ok transferred) :
      FabricsController.InUse allocates cfg transferred.controller

section Use

variable
    {allocates : UInt64 → Bool}
    {cfg : ControllerConfig}

/-- An operation that keeps a property of the handle keeps it in Go. -/
theorem transferWith_keeps
    {Ctrl : Type} {holds : Ctrl → Prop} {controller : Controller Ctrl}
    {operation :
      Ctrl → UInt64 → UInt32 → Option NvmeBuffer →
        Except CFault (Called Ctrl)}
    {name : String} {lba : UInt64} {numBlocks : UInt32}
    {buffer : NvmeBuffer} {transferred : Transferred Ctrl}
    (keeps :
      ∀ ctrl lba numBlocks buffer called,
        operation ctrl lba numBlocks buffer = .ok called →
          holds ctrl → holds called.ctrl)
    (done :
      controller.transferWith operation name lba numBlocks buffer =
        .ok transferred)
    (before : controller.cfg = cfg ∧ holds controller.handle) :
    transferred.controller.cfg = cfg ∧
      holds transferred.controller.handle := by
  rw [Controller.transferWith] at done
  split at done
  · cases done
    exact before
  · split at done
    · cases done
      exact before
    · split at done
      · cases done
      · rename_i called returned
        cases done
        exact ⟨before.1, keeps _ _ _ _ _ returned before.2⟩

/-- A device keeps its block size. -/
theorem blockSize_nvmeCtrlRead
    {ctrl : NvmeCtrl} {lba : UInt64} {numBlocks : UInt32}
    {buffer : Option NvmeBuffer} {called : Called NvmeCtrl}
    (returned : nvmeCtrlRead ctrl lba numBlocks buffer = .ok called) :
    called.ctrl.dev.blockSize = ctrl.dev.blockSize := by
  rw [nvmeCtrlRead] at returned
  split at returned
  · cases returned
  · split at returned
    · cases returned
      rfl
    · cases returned
      rfl

theorem blockSize_nvmeEmuWrite
    {dev after : NvmeEmuDevice} {lba : UInt64} {numBlocks : UInt32}
    {buffer : Option NvmeBuffer} {code : ℤ}
    (returned : nvmeEmuWrite dev lba numBlocks buffer = .ok (code, after)) :
    after.blockSize = dev.blockSize := by
  cases buffer with
  | none =>
      cases returned
      rfl
  | some source =>
      simp only [nvmeEmuWrite] at returned
      split at returned
      · cases returned
        rfl
      · split at returned
        · cases returned
          rfl
        · split at returned
          · cases returned
          · cases returned
            rfl

theorem blockSize_nvmeCtrlWrite
    {ctrl : NvmeCtrl} {lba : UInt64} {numBlocks : UInt32}
    {buffer : Option NvmeBuffer} {called : Called NvmeCtrl}
    (returned : nvmeCtrlWrite ctrl lba numBlocks buffer = .ok called) :
    called.ctrl.dev.blockSize = ctrl.dev.blockSize := by
  rw [nvmeCtrlWrite] at returned
  split at returned
  · cases returned
  · rename_i ret dev written
    have same := blockSize_nvmeEmuWrite written
    split at returned
    · cases returned
      exact same
    · cases returned
      exact same

/-- A controller uses the block size of its configuration. -/
def NvmeCtrl.Uses (cfg : ControllerConfig) (ctrl : NvmeCtrl) : Prop :=
  ctrl.dev.blockSize = cfg.usedBlockSize

/-- A fabrics controller uses it, and is connected. -/
def NvmeFabricsCtrl.Uses
    (cfg : ControllerConfig) (ctrl : NvmeFabricsCtrl) : Prop :=
  ctrl.toNvmeCtrl.Uses cfg ∧ ctrl.connected = true

theorem connectedCall_uses
    {ctrl : NvmeFabricsCtrl} {buffer : Option NvmeBuffer}
    {operation : NvmeCtrl → Except CFault (Called NvmeCtrl)}
    {called : Called NvmeFabricsCtrl}
    (keeps :
      ∀ ctrl called,
        operation ctrl = .ok called →
          called.ctrl.dev.blockSize = ctrl.dev.blockSize)
    (returned : ctrl.connectedCall buffer operation = .ok called)
    (uses : ctrl.Uses cfg) : called.ctrl.Uses cfg := by
  rw [NvmeFabricsCtrl.connectedCall] at returned
  split at returned
  · split at returned
    · cases returned
    · rename_i inner performed
      cases returned
      exact ⟨(keeps _ _ performed).trans uses.1, uses.2⟩
  · cases returned
    exact uses

theorem nvmeCtrlCreate_uses
    {sizeBytes : UInt64} {ctrl : NvmeCtrl}
    (created :
      nvmeCtrlCreate allocates cfg.usedBlockSize sizeBytes = some ctrl) :
    ctrl.Uses cfg := by
  rw [nvmeCtrlCreate, nvmeEmuCreate] at created
  split at created
  · cases created
    rfl
  · cases created

theorem PCIeController.InUse.uses {pc : PCIeController}
    (inUse : pc.InUse allocates cfg) :
    pc.cfg = cfg ∧ pc.handle.Uses cfg := by
  induction inUse with
  | created created =>
      rw [newPCIeController] at created
      rcases ok_of_guard (ok_of_guard created).2 with ⟨_, created⟩
      split at created
      · cases created
      · rename_i handle allocated
        have uses : handle.Uses cfg := nvmeCtrlCreate_uses allocated
        cases created
        exact ⟨rfl, uses⟩
  | read before done induction =>
      apply transferWith_keeps ?_ done induction
      intro ctrl lba numBlocks buffer called returned uses
      exact (blockSize_nvmeCtrlRead returned).trans uses
  | write before done induction =>
      apply transferWith_keeps ?_ done induction
      intro ctrl lba numBlocks buffer called returned uses
      exact (blockSize_nvmeCtrlWrite returned).trans uses

theorem FabricsController.InUse.uses {fc : FabricsController}
    (inUse : fc.InUse allocates cfg) :
    fc.cfg = cfg ∧ fc.handle.Uses cfg := by
  induction inUse with
  | created created =>
      rw [newFabricsController] at created
      rcases ok_of_guard (ok_of_guard created).2 with ⟨_, created⟩
      rcases ok_of_guard (ok_of_guard created).2 with ⟨_, created⟩
      rcases ok_of_guard created with ⟨_, created⟩
      split at created
      · cases created
      · rename_i handle allocated
        rcases ok_of_guard created with ⟨_, created⟩
        rw [nvmeFabricsCreate, Option.map_eq_some_iff] at allocated
        rcases allocated with ⟨ctrl, allocated, rfl⟩
        have uses := nvmeCtrlCreate_uses allocated
        cases created
        exact ⟨rfl, uses, rfl⟩
  | read before done induction =>
      apply transferWith_keeps ?_ done induction
      intro ctrl lba numBlocks buffer called returned uses
      exact
        connectedCall_uses
          (fun _ _ performed => blockSize_nvmeCtrlRead performed) returned
          uses
  | write before done induction =>
      apply transferWith_keeps ?_ done induction
      intro ctrl lba numBlocks buffer called returned uses
      exact
        connectedCall_uses
          (fun _ _ performed => blockSize_nvmeCtrlWrite performed) returned
          uses

end Use

/--
Controllers of both kinds report the block size that they use exactly if it is
the default one or a power of two.
-/
theorem reportsBlockSize_iff
    (allocates : UInt64 → Bool) (cfg : ControllerConfig) :
    (∀ pc : PCIeController,
        pc.InUse allocates cfg →
          (ReportsBlockSize pc.identify cfg pc.handle.dev ↔
            cfg.blockSize = 0 ∨ cfg.blockSize.toNat.isPowerOfTwo)) ∧
      ∀ fc : FabricsController,
        fc.InUse allocates cfg →
          (ReportsBlockSize fc.identify cfg fc.handle.dev ↔
            cfg.blockSize = 0 ∨ cfg.blockSize.toNat.isPowerOfTwo) := by
  refine ⟨?_, ?_⟩
  · intro pc inUse
    rcases inUse.uses with ⟨rfl, uses⟩
    exact identifyWith_reports_iff _ _ (fun _ => rfl) uses
  · intro fc inUse
    rcases inUse.uses with ⟨rfl, uses⟩
    refine identifyWith_reports_iff _ _ ?_ uses.1
    intro cns
    exact if_pos uses.2

/-- A configuration of a small device with some block size. -/
def smallConfig (blockSize : UInt32) : ControllerConfig where
  transport := .tcp
  address := "a"
  hostNqn := "h"
  subsystemNqn := "s"
  pciAddress := "p"
  blockSize := blockSize
  allowSoftwareFallback := true
  emulatedSizeBytes := 1040

/-- The handle of a controller with this configuration. -/
def smallHandle (blockSize : UInt32) : NvmePcieCtrl :=
  nvmePcieQueueInit
    { dev :=
        { sizeBytes := 1040
          blockSize := blockSize
          data := Memory.zeroed 1040 }
      cq := nvmeQueueInit blankCq 64 } 0

/-- The controllers that are created for blocks of 512 or 520 bytes. -/
def smallController (blockSize : UInt32) : PCIeController where
  cfg := smallConfig blockSize
  handle := smallHandle blockSize
  queueCount := 4

theorem smallController_inUse {blockSize : UInt32}
    (nonzero : blockSize ≠ 0) :
    (smallController blockSize).InUse (fun _ => true)
      (smallConfig blockSize) := by
  have used : (smallConfig blockSize).usedBlockSize = blockSize :=
    if_neg nonzero
  apply PCIeController.InUse.created
  rw [newPCIeController, used]
  rfl

/-- A block size of 512 is reported as it is. -/
theorem block_size_512_reported :
    ReportsBlockSize (smallController 512).identify (smallConfig 512)
      (smallController 512).handle.dev := by
  have inUse := smallController_inUse (by decide : (512 : UInt32) ≠ 0)
  exact
    ((reportsBlockSize_iff _ _).1 _ inUse).mpr (Or.inr ⟨9, rfl⟩)

/-- A block size of 520 is not. -/
theorem block_size_520_not_reported :
    newPCIeController (fun _ => true) (smallConfig 520) =
        .ok (smallController 520) ∧
      ¬ ReportsBlockSize (smallController 520).identify (smallConfig 520)
        (smallController 520).handle.dev := by
  refine ⟨rfl, ?_⟩
  intro reports
  rcases (identifyWith_reports_iff _ _ (fun _ => rfl) rfl).mp reports with
    zero | power
  · exact absurd zero (by decide)
  · have exact :=
      (two_pow_blockExponent_iff (by decide : (520 : UInt32) ≠ 0)).mpr power
    exact absurd exact (by decide)

end StorageAppliance.NvmeDrv
