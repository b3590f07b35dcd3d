import StorageAppliance.Go
import StorageAppliance.Library.BoundedRing
import StorageAppliance.Library.LittleEndian

/-!
# The emulated NVMe driver

The driver in C (`nvmedrv/driver_cgo.go`, `nvmedrv/driver.h`): a device that is
a block of memory, a ring of completions, and the two kinds of controllers,
which do the same operations.

The device and the buffers are memory of a fixed size.  An access outside of it
has no defined outcome and is a `CFault`, as is a division by zero.  A buffer or
a command may be missing (a null pointer); a controller and its device never
are.

The submission queue, which is initialized and never used, and the names that a
controller was created with are left out.
-/

namespace StorageAppliance.NvmeDrv

open StorageAppliance.Go
open StorageAppliance.Library

/-! ## Memory -/

/-- What has no defined outcome. -/
inductive CFault where
  | outOfBounds
  | divisionByZero
deriving DecidableEq, Repr

/-- The bytes of an object of some size. -/
structure Memory (size : Nat) where
  bytes : Bytes
  length_eq : bytes.length = size
deriving DecidableEq

namespace Memory

variable
    {size other : Nat}

/-- Memory of zeros. -/
def zeroed (size : Nat) : Memory size where
  bytes := zeros size
  length_eq := List.length_replicate

/-- The bytes of a range. -/
def load (memory : Memory size) (offset length : Nat) : Bytes :=
  (memory.bytes.drop offset).take length

/-- Replace the bytes of a range. -/
def store
    (memory : Memory size) (offset : Nat) (bytes : Bytes)
    (fits : offset + bytes.length ≤ size) : Memory size where
  bytes :=
    memory.bytes.take offset ++ bytes ++
      memory.bytes.drop (offset + bytes.length)
  length_eq := by
    have length := memory.length_eq
    rw [List.length_append, List.length_append, List.length_take,
      List.length_drop]
    omega

theorem length_load
    {memory : Memory size} {offset length : Nat}
    (inside : offset + length ≤ size) :
    (memory.load offset length).length = length := by
  have whole := memory.length_eq
  rw [load, List.length_take, List.length_drop]
  omega

/-- Copy a range of one object over a range of another. -/
def memcpy
    (target : Memory size) (targetOffset : Nat)
    (source : Memory other) (sourceOffset length : Nat) :
    Except CFault (Memory size) :=
  if inside :
      sourceOffset + length ≤ other ∧ targetOffset + length ≤ size then
    .ok
      (target.store targetOffset (source.load sourceOffset length)
        (by rw [length_load inside.1]; exact inside.2))
  else
    .error .outOfBounds

end Memory

/-- A buffer of a caller. -/
structure NvmeBuffer where
  len : UInt64
  memory : Memory len.toNat
deriving DecidableEq

/-! ## The device -/

structure NvmeEmuDevice where
  sizeBytes : UInt64
  blockSize : UInt32
  data : Memory sizeBytes.toNat
deriving DecidableEq

/-- Create a device, if there is memory for it. -/
def nvmeEmuCreate
    (allocates : UInt64 → Bool) (sizeBytes : UInt64) (blockSize : UInt32) :
    Option NvmeEmuDevice :=
  if allocates sizeBytes then
    some
      { sizeBytes := sizeBytes
        blockSize := blockSize
        data := Memory.zeroed sizeBytes.toNat }
  else
    none

section Device

variable
    (dev : NvmeEmuDevice)
    (lba : UInt64)
    (numBlocks : UInt32)
    (buffer : Option NvmeBuffer)

def nvmeEmuRead : Except CFault (ℤ × Option NvmeBuffer) :=
  match buffer with
  | none => .ok (-1, none)
  | some target =>
      let offset := lba * dev.blockSize.toUInt64
      let length := numBlocks.toUInt64 * dev.blockSize.toUInt64
      if target.len < length then
        .ok (-2, buffer)
      else if dev.sizeBytes < offset + length then
        .ok (-3, buffer)
      else
        match
          target.memory.memcpy 0 dev.data offset.toNat length.toNat
        with
        | .error fault => .error fault
        | .ok memory => .ok (0, some { target with memory := memory })

def nvmeEmuWrite : Except CFault (ℤ × NvmeEmuDevice) :=
  match buffer with
  | none => .ok (-1, dev)
  | some source =>
      let offset := lba * dev.blockSize.toUInt64
      let length := numBlocks.toUInt64 * dev.blockSize.toUInt64
      if source.len < length then
        .ok (-2, dev)
      else if dev.sizeBytes < offset + length then
        .ok (-3, dev)
      else
        match
          dev.data.memcpy offset.toNat source.memory 0 length.toNat
        with
        | .error fault => .error fault
        | .ok data => .ok (0, { dev with data := data })

end Device

/-! ## Identifying -/

/-- The loop of `nvme_log2_u32`, in which `shift < 31` leaves some rounds. -/
def log2Rounds (value : UInt32) : Nat → Nat → Nat
  | 0, shift => shift
  | rounds + 1, shift =>
      if 1 < value.toNat >>> shift then
        log2Rounds value rounds (shift + 1)
      else
        shift

def nvmeLog2U32 (value : UInt32) : UInt8 :=
  UInt8.ofNat (log2Rounds value 31 0)

/-- What fits a page fits a buffer that is not shorter. -/
theorem fits_of_page
    {offset size : Nat} {bytes : Bytes}
    (fits : offset + bytes.length ≤ 4096) (long : ¬ size < 4096) :
    offset + bytes.length ≤ size :=
  fits.trans (Nat.le_of_not_lt long)

theorem zeros_fit_page : 0 + (zeros 4096).length ≤ 4096 := by
  rw [zeros, List.length_replicate]

/-- Clear the first page of a buffer, and store bytes in it at two places. -/
def NvmeBuffer.fillPage
    (buffer : NvmeBuffer) (firstOffset : Nat) (first : Bytes)
    (secondOffset : Nat) (second : Bytes)
    (firstFits : firstOffset + first.length ≤ 4096)
    (secondFits : secondOffset + second.length ≤ 4096) : NvmeBuffer :=
  if short : buffer.len.toNat < 4096 then
    buffer
  else
    { buffer with
      memory :=
        ((buffer.memory.store 0 (zeros 4096)
            (fits_of_page zeros_fit_page short)).store
          firstOffset first (fits_of_page firstFits short)).store
            secondOffset second (fits_of_page secondFits short) }

def nvmeFillIdentifyCtrl (buffer : Option NvmeBuffer) : Option NvmeBuffer :=
  buffer.map fun buffer =>
    buffer.fillPage 516 (toLittleEndian 4 1) 0 []
      (by rw [length_toLittleEndian]; decide) (by decide)

def nvmeFillIdentifyNs
    (dev : NvmeEmuDevice) (buffer : Option NvmeBuffer) :
    Except CFault (Option NvmeBuffer) :=
  match buffer with
  | none => .ok none
  | some target =>
      if target.len.toNat < 4096 then
        .ok buffer
      else if dev.blockSize = 0 then
        .error .divisionByZero
      else
        let nsze := dev.sizeBytes / dev.blockSize.toUInt64
        let lbads := nvmeLog2U32 dev.blockSize
        .ok
          (some
            (target.fillPage 0 (toLittleEndian 8 nsze.toNat) 128 [lbads]
              (by rw [length_toLittleEndian]; decide)
              (by rw [List.length_singleton]; decide)))

/-! ## Commands and completions -/

/-- The fields of a command that the driver reads. -/
structure NvmeCmd where
  opcode : UInt8
  cid : UInt16
  cdw10 : UInt32 := 0
  cdw11 : UInt32 := 0
  cdw12 : UInt32 := 0
deriving DecidableEq

structure NvmeCpl where
  dw0 : UInt32 := 0
  sqhd : UInt16 := 0
  sqid : UInt16 := 0
  cid : UInt16 := 0
  status : UInt16 := 0
deriving DecidableEq

/-- A ring of completions, with no more slots than there is memory for. -/
structure NvmeCq where
  ring : BoundedRing NvmeCpl
  depth_le : ring.depth ≤ 256

/-- The depth of a queue that is asked for a depth. -/
def queueDepth (depth : UInt16) : Nat :=
  if depth = 0 ∨ 256 < depth then 64 else depth.toNat

theorem queueDepth_pos (depth : UInt16) : 0 < queueDepth depth := by
  rw [queueDepth]
  split
  · decide
  · rename_i other
    rw [not_or] at other
    exact Nat.pos_of_ne_zero fun zero => other.1 (UInt16.toNat_inj.mp zero)

theorem queueDepth_le (depth : UInt16) : queueDepth depth ≤ 256 := by
  rw [queueDepth]
  split
  · decide
  · rename_i other
    rw [not_or] at other
    exact UInt16.le_iff_toNat_le.mp (UInt16.not_lt.mp other.2)

def nvmeQueueInit (cq : NvmeCq) (depth : UInt16) : NvmeCq where
  ring := cq.ring.reset (queueDepth depth) (queueDepth_pos depth)
  depth_le := queueDepth_le depth

def nvmeQueuePush (cq : NvmeCq) (cpl : NvmeCpl) : ℤ × NvmeCq :=
  match done : cq.ring.push cpl with
  | none => (-1, cq)
  | some pushed =>
      (0,
        { ring := pushed
          depth_le := (BoundedRing.depth_of_push done).trans_le cq.depth_le })

def nvmeQueuePop (cq : NvmeCq) : ℤ × Option NvmeCpl × NvmeCq :=
  match taken : cq.ring.pop with
  | none => (-1, none, cq)
  | some (cpl, popped) =>
      (0, some cpl,
        { ring := popped
          depth_le := (BoundedRing.depth_of_pop taken).trans_le cq.depth_le })

theorem nvmeQueuePush_of_full
    {cq : NvmeCq} (full : cq.ring.IsFull) (cpl : NvmeCpl) :
    nvmeQueuePush cq cpl = (-1, cq) := by
  have refused := BoundedRing.push_of_full full cpl
  rw [nvmeQueuePush]
  split
  · rfl
  · rename_i pushed done
    cases refused.symm.trans done

/-- While there is room, a completion is queued after the others. -/
theorem nvmeQueuePush_of_room
    {cq : NvmeCq} (room : ¬ cq.ring.IsFull) (cpl : NvmeCpl) :
    ∃ pushed,
      nvmeQueuePush cq cpl = (0, pushed) ∧
        pushed.ring.contents = cq.ring.contents ++ [cpl] := by
  rcases BoundedRing.push_of_room room cpl with ⟨ring, accepted, contents⟩
  rw [nvmeQueuePush]
  split
  · rename_i refused
    cases accepted.symm.trans refused
  · rename_i pushed done
    cases accepted.symm.trans done
    exact ⟨_, rfl, contents⟩

/-- The first block and the number of blocks of a read or a write. -/
def nvmeCmdRwFields (cmd : NvmeCmd) : UInt64 × UInt32 :=
  ((cmd.cdw11.toUInt64 <<< 32) ||| cmd.cdw10.toUInt64,
    (cmd.cdw12 &&& 0xffff) + 1)

def nvmeBuildCpl (cmd : NvmeCmd) (status : UInt16) : NvmeCpl where
  cid := cmd.cid
  sqid := 1
  sqhd := 0
  status := status

/-! ## Controllers -/

structure NvmeStats where
  readOps : UInt64 := 0
  writeOps : UInt64 := 0
  bytesRead : UInt64 := 0
  bytesWritten : UInt64 := 0
deriving DecidableEq

def NvmeStats.countRead (stats : NvmeStats) (bytes : UInt64) : NvmeStats :=
  { stats with
    readOps := stats.readOps + 1
    bytesRead := stats.bytesRead + bytes }

def NvmeStats.countWrite (stats : NvmeStats) (bytes : UInt64) : NvmeStats :=
  { stats with
    writeOps := stats.writeOps + 1
    bytesWritten := stats.bytesWritten + bytes }

/-- What both kinds of controllers have. -/
structure NvmeCtrl where
  dev : NvmeEmuDevice
  cq : NvmeCq
  stats : NvmeStats := {}

abbrev NvmePcieCtrl :=
  NvmeCtrl

structure NvmeFabricsCtrl extends NvmeCtrl where
  controllerId : UInt16 := 1
  connected : Bool := false

/-- What a call returns and leaves behind. -/
structure Called (Ctrl : Type) where
  code : ℤ
  ctrl : Ctrl
  buffer : Option NvmeBuffer

/-- A queue before it is initialized. -/
def blankCq : NvmeCq where
  ring :=
    { slots := fun _ => {}
      head := 0
      tail := 0
      depth := 1
      head_lt := by decide
      tail_lt := by decide }
  depth_le := by decide

/-- Create a controller with a device. -/
def nvmeCtrlCreate
    (allocates : UInt64 → Bool) (blockSize : UInt32) (sizeBytes : UInt64) :
    Option NvmeCtrl :=
  (nvmeEmuCreate allocates sizeBytes blockSize).map fun dev =>
    { dev := dev
      cq := nvmeQueueInit blankCq 64 }

section Operations

variable
    (ctrl : NvmeCtrl)
    (lba : UInt64)
    (numBlocks : UInt32)
    (buffer : Option NvmeBuffer)

/-- The number of bytes of some blocks. -/
def NvmeEmuDevice.bytes (dev : NvmeEmuDevice) (numBlocks : UInt32) :
    UInt64 :=
  numBlocks.toUInt64 * dev.blockSize.toUInt64

/-- Read blocks, and count them. -/
def nvmeCtrlRead : Except CFault (Called NvmeCtrl) :=
  match nvmeEmuRead ctrl.dev lba numBlocks buffer with
  | .error fault => .error fault
  | .ok (ret, buffer) =>
      if ret = 0 then
        .ok
          { code := ret
            ctrl :=
              { ctrl with
                stats := ctrl.stats.countRead (ctrl.dev.bytes numBlocks) }
            buffer := buffer }
      else
        .ok { code := ret, ctrl := ctrl, buffer := buffer }

/-- Write blocks, and count them. -/
def nvmeCtrlWrite : Except CFault (Called NvmeCtrl) :=
  match nvmeEmuWrite ctrl.dev lba numBlocks buffer with
  | .error fault => .error fault
  | .ok (ret, dev) =>
      if ret = 0 then
        .ok
          { code := ret
            ctrl :=
              { ctrl with
                dev := dev
                stats := ctrl.stats.countWrite (ctrl.dev.bytes numBlocks) }
            buffer := buffer }
      else
        .ok
          { code := ret
            ctrl := { ctrl with dev := dev }
            buffer := buffer }

def nvmeCtrlIdentify (cns : UInt8) :
    Except CFault (ℤ × Option NvmeBuffer) :=
  if cns = 0x01 then
    .ok (0, nvmeFillIdentifyCtrl buffer)
  else if cns = 0x00 then
    match nvmeFillIdentifyNs ctrl.dev buffer with
    | .error fault => .error fault
    | .ok buffer => .ok (0, buffer)
  else
    .ok (-2, buffer)

/-- Execute a command, and return the status that it completes with. -/
def nvmeExecute (cmd : NvmeCmd) :
    Except CFault (UInt16 × NvmeCtrl × Option NvmeBuffer) :=
  if cmd.opcode = 0x02 then
    let (slba, nlb) := nvmeCmdRwFields cmd
    match nvmeEmuRead ctrl.dev slba nlb buffer with
    | .error fault => .error fault
    | .ok (ret, buffer) =>
        if ret ≠ 0 then
          .ok (2, ctrl, buffer)
        else
          .ok
            (0,
              { ctrl with
                stats := ctrl.stats.countRead (ctrl.dev.bytes nlb) },
              buffer)
  else if cmd.opcode = 0x01 then
    let (slba, nlb) := nvmeCmdRwFields cmd
    match nvmeEmuWrite ctrl.dev slba nlb buffer with
    | .error fault => .error fault
    | .ok (ret, dev) =>
        if ret ≠ 0 then
          .ok (2, { ctrl with dev := dev }, buffer)
        else
          .ok
            (0,
              { ctrl with
                dev := dev
                stats := ctrl.stats.countWrite (ctrl.dev.bytes nlb) },
              buffer)
  else if cmd.opcode = 0x00 then
    .ok (0, ctrl, buffer)
  else if cmd.opcode = 0x06 then
    let cns := (cmd.cdw10 &&& 0xff).toUInt8
    if cns = 0x01 then
      .ok (0, ctrl, nvmeFillIdentifyCtrl buffer)
    else if cns = 0x00 then
      match nvmeFillIdentifyNs ctrl.dev buffer with
      | .error fault => .error fault
      | .ok buffer => .ok (0, ctrl, buffer)
    else
      .ok (1, ctrl, buffer)
  else
    .ok (1, ctrl, buffer)

def nvmeSubmitCmdCommon (cmd : Option NvmeCmd) :
    Except CFault (Called NvmeCtrl) :=
  match cmd with
  | none => .ok { code := -1, ctrl := ctrl, buffer := buffer }
  | some cmd =>
      match nvmeExecute ctrl buffer cmd with
      | .error fault => .error fault
      | .ok (status, ctrl, buffer) =>
          let (pushed, cq) := nvmeQueuePush ctrl.cq (nvmeBuildCpl cmd status)
          .ok
            { code := if pushed ≠ 0 then -3 else 0
              ctrl := { ctrl with cq := cq }
              buffer := buffer }

end Operations

/-! ## PCIe controllers -/

section Pcie

variable
    (ctrl : NvmePcieCtrl)

def nvmePcieCreate
    (allocates : UInt64 → Bool) (blockSize : UInt32) (sizeBytes : UInt64) :
    Option NvmePcieCtrl :=
  nvmeCtrlCreate allocates blockSize sizeBytes

def nvmePcieQueueInit (depth : UInt16) : NvmePcieCtrl :=
  { ctrl with cq := nvmeQueueInit ctrl.cq depth }

def nvmePcieSubmitCmd
    (cmd : Option NvmeCmd) (buffer : Option NvmeBuffer) :
    Except CFault (Called NvmePcieCtrl) :=
  nvmeSubmitCmdCommon ctrl buffer cmd

def nvmePciePollCpl : ℤ × Option NvmeCpl × NvmePcieCtrl :=
  let (ret, cpl, cq) := nvmeQueuePop ctrl.cq
  (ret, cpl, { ctrl with cq := cq })

def nvmePcieRead
    (lba : UInt64) (numBlocks : UInt32) (buffer : Option NvmeBuffer) :
    Except CFault (Called NvmePcieCtrl) :=
  nvmeCtrlRead ctrl lba numBlocks buffer

def nvmePcieWrite
    (lba : UInt64) (numBlocks : UInt32) (buffer : Option NvmeBuffer) :
    Except CFault (Called NvmePcieCtrl) :=
  nvmeCtrlWrite ctrl lba numBlocks buffer

def nvmePcieIdentify (cns : UInt8) (buffer : Option NvmeBuffer) :
    Except CFault (ℤ × Option NvmeBuffer) :=
  nvmeCtrlIdentify ctrl buffer cns

end Pcie

/-! ## Fabrics controllers -/

section Fabrics

variable
    (ctrl : NvmeFabricsCtrl)

/-- Call an operation, which a controller does only when it is connected. -/
def NvmeFabricsCtrl.connectedCall
    (buffer : Option NvmeBuffer)
    (operation : NvmeCtrl → Except CFault (Called NvmeCtrl)) :
    Except CFault (Called NvmeFabricsCtrl) :=
  if ctrl.connected then
    match operation ctrl.toNvmeCtrl with
    | .error fault => .error fault
    | .ok called =>
        .ok
          { code := called.code
            ctrl := { ctrl with toNvmeCtrl := called.ctrl }
            buffer := called.buffer }
  else
    .ok { code := -5, ctrl := ctrl, buffer := buffer }

def nvmeFabricsCreate
    (allocates : UInt64 → Bool) (blockSize : UInt32) (sizeBytes : UInt64) :
    Option NvmeFabricsCtrl :=
  (nvmeCtrlCreate allocates blockSize sizeBytes).map fun ctrl =>
    { toNvmeCtrl := ctrl }

def nvmeFabricsConnect : ℤ × UInt16 × NvmeFabricsCtrl :=
  (0, ctrl.controllerId, { ctrl with connected := true })

def nvmeFabricsQueueInit (depth : UInt16) : NvmeFabricsCtrl :=
  { ctrl with cq := nvmeQueueInit ctrl.cq depth }

def nvmeFabricsSubmitCmd
    (cmd : Option NvmeCmd) (buffer : Option NvmeBuffer) :
    Except CFault (Called NvmeFabricsCtrl) :=
  ctrl.connectedCall buffer fun ctrl => nvmeSubmitCmdCommon ctrl buffer cmd

def nvmeFabricsPollCpl : ℤ × Option NvmeCpl × NvmeFabricsCtrl :=
  if ctrl.connected then
    let (ret, cpl, cq) := nvmeQueuePop ctrl.cq
    (ret, cpl, { ctrl with cq := cq })
  else
    (-5, none, ctrl)

def nvmeFabricsRead
    (lba : UInt64) (numBlocks : UInt32) (buffer : Option NvmeBuffer) :
    Except CFault (Called NvmeFabricsCtrl) :=
  ctrl.connectedCall buffer fun ctrl => nvmeCtrlRead ctrl lba numBlocks buffer

def nvmeFabricsWrite
    (lba : UInt64) (numBlocks : UInt32) (buffer : Option NvmeBuffer) :
    Except CFault (Called NvmeFabricsCtrl) :=
  ctrl.connectedCall buffer fun ctrl =>
    nvmeCtrlWrite ctrl lba numBlocks buffer

def nvmeFabricsIdentify (cns : UInt8) (buffer : Option NvmeBuffer) :
    Except CFault (ℤ × Option NvmeBuffer) :=
  if ctrl.connected then
    nvmeCtrlIdentify ctrl.toNvmeCtrl buffer cns
  else
    .ok (-1, buffer)

end Fabrics

end StorageAppliance.NvmeDrv
