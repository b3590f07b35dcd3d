import StorageAppliance.NvmeDrv.DeviceBounds

/-!
# Commands and direct calls

A read or a write is either called directly, with its first block and its number
of blocks, or submitted as a command, whose words hold the two.  While there is
room for its completion, a command does what the call does: `SameEffect` says
so, and that the status of the completion is zero when the call returns zero.
-/

namespace StorageAppliance.NvmeDrv

open StorageAppliance.Library

/-! ## Both ways to transfer blocks -/

/-- The direction of a transfer. -/
inductive Direction where
  | read
  | write

namespace Direction

def opcode : Direction → UInt8
  | .read => 0x02
  | .write => 0x01

/-- The operation that both kinds of controllers call directly. -/
def operation :
    Direction → NvmeCtrl → UInt64 → UInt32 → Option NvmeBuffer →
      Except CFault (Called NvmeCtrl)
  | .read => nvmeCtrlRead
  | .write => nvmeCtrlWrite

def pcie :
    Direction → NvmePcieCtrl → UInt64 → UInt32 → Option NvmeBuffer →
      Except CFault (Called NvmePcieCtrl)
  | .read => nvmePcieRead
  | .write => nvmePcieWrite

def fabrics :
    Direction → NvmeFabricsCtrl → UInt64 → UInt32 → Option NvmeBuffer →
      Except CFault (Called NvmeFabricsCtrl)
  | .read => nvmeFabricsRead
  | .write => nvmeFabricsWrite

end Direction

/-- The words of a command hold the blocks of a transfer. -/
structure Encodes
    (cmd : NvmeCmd) (direction : Direction) (lba : UInt64)
    (numBlocks : UInt32) : Prop where
  opcode : cmd.opcode = direction.opcode
  low : cmd.cdw10 = lba.toUInt32
  high : cmd.cdw11 = (lba >>> 32).toUInt32
  count : cmd.cdw12 = numBlocks - 1
  atLeast : 1 ≤ numBlocks.toNat
  atMost : numBlocks.toNat ≤ 65536

/-- A completion tells whether a call returned zero. -/
structure Reports (cpl : NvmeCpl) (cmd : NvmeCmd) (code : ℤ) : Prop where
  cid : cpl.cid = cmd.cid
  status : cpl.status = 0 ↔ code = 0

/--
A command that was submitted did what a call did, and queued a completion that
reports it.
-/
structure Did
    {Ctrl : Type} (common : Ctrl → NvmeCtrl) (cmd : NvmeCmd) (cq : NvmeCq)
    (submitted called : Called Ctrl) : Prop where
  code : submitted.code = 0
  dev : (common submitted.ctrl).dev = (common called.ctrl).dev
  stats : (common submitted.ctrl).stats = (common called.ctrl).stats
  buffer : submitted.buffer = called.buffer
  unqueued : (common called.ctrl).cq = cq
  queued :
    ∃ cpl,
      (common submitted.ctrl).cq.ring.contents = cq.ring.contents ++ [cpl] ∧
        Reports cpl cmd called.code

/-- Submitting a command and calling an operation have the same outcome. -/
inductive SameEffect
    {Ctrl : Type} (common : Ctrl → NvmeCtrl) (cmd : NvmeCmd) (cq : NvmeCq) :
    Except CFault (Called Ctrl) → Except CFault (Called Ctrl) → Prop where
  | fault (fault : CFault) :
      SameEffect common cmd cq (.error fault) (.error fault)
  | done (submitted called : Called Ctrl)
      (did : Did common cmd cq submitted called) :
      SameEffect common cmd cq (.ok submitted) (.ok called)

/-! ## The words of a command -/

section Words

variable
    {cmd : NvmeCmd}
    {direction : Direction}
    {lba : UInt64}
    {numBlocks : UInt32}

/-- A number is put together from its halves. -/
theorem join_halves (number : UInt64) :
    ((number >>> 32).toUInt32.toUInt64 <<< 32) |||
        number.toUInt32.toUInt64 =
      number := by
  have bound := number.toNat_lt
  have shift : (32 : UInt64).toNat % 64 = 32 := by decide
  have low : number.toNat % 2 ^ 32 < 2 ^ 32 :=
    Nat.mod_lt _ (by decide)
  have high : number.toNat / 2 ^ 32 < 2 ^ 32 := by
    omega
  rw [← UInt64.toNat_inj, UInt64.toNat_or, UInt64.toNat_shiftLeft,
    UInt32.toNat_toUInt64, UInt32.toNat_toUInt64, UInt64.toNat_toUInt32,
    UInt64.toNat_toUInt32, UInt64.toNat_shiftRight, shift,
    Nat.shiftRight_eq_div_pow, Nat.mod_eq_of_lt high]
  have fits : number.toNat / 2 ^ 32 * 2 ^ 32 < 2 ^ 64 := by
    omega
  rw [Nat.shiftLeft_eq, Nat.mod_eq_of_lt fits, ← Nat.shiftLeft_eq,
    ← Nat.shiftLeft_add_eq_or_of_lt low, Nat.shiftLeft_eq]
  omega

/-- A number from 1 to 65536 is kept by 16 bits, less one. -/
theorem mask_pred_succ
    (atLeast : 1 ≤ numBlocks.toNat) (atMost : numBlocks.toNat ≤ 65536) :
    ((numBlocks - 1) &&& 0xffff) + 1 = numBlocks := by
  have one : (1 : UInt32).toNat = 1 := rfl
  have mask : (0xffff : UInt32).toNat = 2 ^ 16 - 1 := rfl
  rw [← UInt32.toNat_inj, UInt32.toNat_add, UInt32.toNat_and,
    UInt32.toNat_sub, one, mask, Nat.and_two_pow_sub_one_eq_mod]
  omega

theorem nvmeCmdRwFields_of_encodes
    (encodes : Encodes cmd direction lba numBlocks) :
    nvmeCmdRwFields cmd = (lba, numBlocks) := by
  rw [nvmeCmdRwFields, encodes.low, encodes.high, encodes.count, join_halves,
    mask_pred_succ encodes.atLeast encodes.atMost]

end Words

/-! ## Executing a command -/

section Execution

variable
    {cmd : NvmeCmd}
    {direction : Direction}
    {lba : UInt64}
    {numBlocks : UInt32}
    {ctrl : NvmeCtrl}
    {buffer : Option NvmeBuffer}

/-- The status that a command completes with when a call returns a code. -/
def statusOf (code : ℤ) : UInt16 :=
  if code = 0 then 0 else 2

theorem statusOf_eq_zero_iff (code : ℤ) : statusOf code = 0 ↔ code = 0 := by
  rw [statusOf]
  split
  · rename_i zero
    exact iff_of_true rfl zero
  · rename_i other
    exact iff_of_false (by decide) other

/-- Executing a command is calling its operation. -/
theorem nvmeExecute_of_encodes
    (encodes : Encodes cmd direction lba numBlocks) :
    nvmeExecute ctrl buffer cmd =
      (direction.operation ctrl lba numBlocks buffer).map fun called =>
        (statusOf called.code, called.ctrl, called.buffer) := by
  have fields := nvmeCmdRwFields_of_encodes encodes
  cases direction with
  | read =>
      have opcode : cmd.opcode = 0x02 := encodes.opcode
      rw [nvmeExecute, if_pos opcode, fields]
      show _ = (nvmeCtrlRead ctrl lba numBlocks buffer).map _
      rw [nvmeCtrlRead]
      simp only
      cases nvmeEmuRead ctrl.dev lba numBlocks buffer with
      | error fault => rfl
      | ok result =>
          by_cases zero : result.1 = 0
          · simp [zero, Except.map, statusOf]
          · simp [zero, Except.map, statusOf]
  | write =>
      have opcode : cmd.opcode = 0x01 := encodes.opcode
      have other : ¬ cmd.opcode = 0x02 := by
        rw [opcode]
        decide
      rw [nvmeExecute, if_neg other, if_pos opcode, fields]
      show _ = (nvmeCtrlWrite ctrl lba numBlocks buffer).map _
      rw [nvmeCtrlWrite]
      simp only
      cases nvmeEmuWrite ctrl.dev lba numBlocks buffer with
      | error fault => rfl
      | ok result =>
          by_cases zero : result.1 = 0
          · simp [zero, Except.map, statusOf]
          · simp [zero, Except.map, statusOf]

/-- A call leaves the queue as it is. -/
theorem operation_cq {called : Called NvmeCtrl}
    (returned :
      direction.operation ctrl lba numBlocks buffer = .ok called) :
    called.ctrl.cq = ctrl.cq := by
  cases direction with
  | read =>
      replace returned :
          nvmeCtrlRead ctrl lba numBlocks buffer = .ok called :=
        returned
      rw [nvmeCtrlRead] at returned
      split at returned
      · cases returned
      · split at returned
        · cases returned
          rfl
        · cases returned
          rfl
  | write =>
      replace returned :
          nvmeCtrlWrite ctrl lba numBlocks buffer = .ok called :=
        returned
      rw [nvmeCtrlWrite] at returned
      split at returned
      · cases returned
      · split at returned
        · cases returned
          rfl
        · cases returned
          rfl

/-- With room for the completion, a command does what its operation does. -/
theorem nvmeSubmitCmdCommon_sameEffect
    (encodes : Encodes cmd direction lba numBlocks)
    (room : ¬ ctrl.cq.ring.IsFull) :
    SameEffect id cmd ctrl.cq (nvmeSubmitCmdCommon ctrl buffer (some cmd))
      (direction.operation ctrl lba numBlocks buffer) := by
  rw [nvmeSubmitCmdCommon]
  simp only [nvmeExecute_of_encodes encodes]
  cases returned : direction.operation ctrl lba numBlocks buffer with
  | error fault => exact .fault fault
  | ok called =>
      have cq := operation_cq returned
      rcases
        nvmeQueuePush_of_room room
          (nvmeBuildCpl cmd (statusOf called.code)) with
        ⟨pushed, done, contents⟩
      simp only [Except.map, cq, done]
      refine .done _ _ ⟨rfl, rfl, rfl, rfl, cq, _, contents, rfl, ?_⟩
      exact statusOf_eq_zero_iff called.code

/-- A connected controller passes both on. -/
theorem SameEffect.connected
    {ctrl : NvmeFabricsCtrl}
    {first second : NvmeCtrl → Except CFault (Called NvmeCtrl)}
    (connected : ctrl.connected = true)
    (same :
      SameEffect id cmd ctrl.cq (first ctrl.toNvmeCtrl)
        (second ctrl.toNvmeCtrl)) :
    SameEffect NvmeFabricsCtrl.toNvmeCtrl cmd ctrl.cq
      (ctrl.connectedCall buffer first)
      (ctrl.connectedCall buffer second) := by
  rw [NvmeFabricsCtrl.connectedCall, NvmeFabricsCtrl.connectedCall,
    if_pos connected, if_pos connected]
  generalize first ctrl.toNvmeCtrl = submitting at same ⊢
  generalize second ctrl.toNvmeCtrl = calling at same ⊢
  cases same with
  | fault fault => exact .fault fault
  | done submitted called did =>
      exact
        .done _ _
          ⟨did.code, did.dev, did.stats, did.buffer, did.unqueued,
            did.queued⟩

end Execution

/-- With room for the completion, a command has the effect of a direct call. -/
theorem command_path_sameEffect
    {cmd : NvmeCmd} {direction : Direction} {lba : UInt64}
    {numBlocks : UInt32} (buffer : Option NvmeBuffer)
    (encodes : Encodes cmd direction lba numBlocks) :
    (∀ ctrl : NvmePcieCtrl,
        ¬ ctrl.cq.ring.IsFull →
          SameEffect id cmd ctrl.cq
            (nvmePcieSubmitCmd ctrl (some cmd) buffer)
            (direction.pcie ctrl lba numBlocks buffer)) ∧
      ∀ ctrl : NvmeFabricsCtrl,
        ¬ ctrl.cq.ring.IsFull →
          ctrl.connected = true →
            SameEffect NvmeFabricsCtrl.toNvmeCtrl cmd ctrl.cq
              (nvmeFabricsSubmitCmd ctrl (some cmd) buffer)
              (direction.fabrics ctrl lba numBlocks buffer) := by
  refine ⟨?_, ?_⟩
  · intro ctrl room
    have same :
        SameEffect id cmd ctrl.cq
          (nvmeSubmitCmdCommon ctrl buffer (some cmd))
          (direction.operation ctrl lba numBlocks buffer) :=
      nvmeSubmitCmdCommon_sameEffect encodes room
    cases direction with
    | read => exact same
    | write => exact same
  · intro ctrl room connected
    have same :
        SameEffect NvmeFabricsCtrl.toNvmeCtrl cmd ctrl.cq
          (ctrl.connectedCall buffer fun ctrl =>
            nvmeSubmitCmdCommon ctrl buffer (some cmd))
          (ctrl.connectedCall buffer fun ctrl =>
            direction.operation ctrl lba numBlocks buffer) := by
      apply SameEffect.connected connected
      exact nvmeSubmitCmdCommon_sameEffect encodes room
    cases direction with
    | read => exact same
    | write => exact same

/-- A controller with a device of one block. -/
def smallCtrl : NvmeCtrl where
  dev := smallDevice
  cq := nvmeQueueInit blankCq 64

/-- The command that writes its block. -/
def writeFirst : NvmeCmd where
  opcode := 0x01
  cid := 7

/-- A device of `2 ^ 33` blocks of 16 bytes. -/
def largeDevice : NvmeEmuDevice where
  sizeBytes := 2 ^ 37
  blockSize := 16
  data := Memory.zeroed _

/-- A controller of this device. -/
def largeCtrl : NvmeCtrl where
  dev := largeDevice
  cq := nvmeQueueInit blankCq 64

/-- A buffer of three blocks, whose bytes count from one. -/
def threeBlocks : NvmeBuffer where
  len := 48
  memory :=
    { bytes := (List.range 48).map fun index => UInt8.ofNat (index + 1)
      length_eq := by simp }

/-- The command that writes them, from a block on whose number has two words. -/
def writeFar : NvmeCmd where
  opcode := 0x01
  cid := 7
  cdw10 := 5
  cdw11 := 1
  cdw12 := 2

theorem writeFar_encodes : Encodes writeFar .write (2 ^ 32 + 5) 3 where
  opcode := rfl
  low := by decide
  high := by decide
  count := by decide
  atLeast := by decide
  atMost := by decide

theorem writeFar_sameEffect :
    (nvmePcieWrite largeCtrl (2 ^ 32 + 5) 3 (some threeBlocks)).map
          Called.code =
        .ok 0 ∧
      SameEffect id writeFar largeCtrl.cq
        (nvmePcieSubmitCmd largeCtrl (some writeFar) (some threeBlocks))
        (nvmePcieWrite largeCtrl (2 ^ 32 + 5) 3 (some threeBlocks)) ∧
      SameEffect NvmeFabricsCtrl.toNvmeCtrl writeFar largeCtrl.cq
        (nvmeFabricsSubmitCmd
          { toNvmeCtrl := largeCtrl, connected := true } (some writeFar)
          (some threeBlocks))
        (nvmeFabricsWrite { toNvmeCtrl := largeCtrl, connected := true }
          (2 ^ 32 + 5) 3 (some threeBlocks)) := by
  have room : ¬ largeCtrl.cq.ring.IsFull := by decide
  have same :=
    command_path_sameEffect (some threeBlocks) writeFar_encodes
  refine ⟨by decide +kernel, same.1 largeCtrl room, ?_⟩
  exact same.2 { toNvmeCtrl := largeCtrl, connected := true } room rfl

end StorageAppliance.NvmeDrv
