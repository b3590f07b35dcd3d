import StorageAppliance.Library.Run
import StorageAppliance.NvmeDrv.CommandPath

/-!
# Rejected commands

A command is executed and counted before its completion is queued.  If the ring
has no room for the completion, the code of the call tells that the command was
rejected, and a transfer took place all the same.

`Interface` is what both kinds of controllers offer.  On a run of calls, the
rejected commands have no effect exactly if no transfer is submitted while the
ring is full.
-/

namespace StorageAppliance.NvmeDrv

open StorageAppliance.Library

/-! ## Transfers that take place -/

section Transfers

variable
    (dev : NvmeEmuDevice)
    (lba : UInt64)
    (numBlocks : UInt32)
    (buffer : Option NvmeBuffer)

/-- There is a buffer for the blocks, and their wrapped range is found. -/
def Passes : Prop :=
  ∃ given,
    buffer = some given ∧
      byteCount dev numBlocks ≤ given.len.toNat ∧
      firstByte dev lba % 2 ^ 64 + byteCount dev numBlocks ≤
        dev.sizeBytes.toNat

/-- A command is a read or a write that takes place. -/
def Transfers (cmd : NvmeCmd) : Prop :=
  (cmd.opcode = 0x02 ∨ cmd.opcode = 0x01) ∧
    Passes dev (nvmeCmdRwFields cmd).1 (nvmeCmdRwFields cmd).2 buffer

variable
    {dev : NvmeEmuDevice}
    {lba : UInt64}
    {numBlocks : UInt32}
    {buffer : Option NvmeBuffer}

/-- A range that is found passes both checks. -/
theorem checks_of_passes {given : NvmeBuffer}
    (fits : byteCount dev numBlocks ≤ given.len.toNat)
    (found :
      firstByte dev lba % 2 ^ 64 + byteCount dev numBlocks ≤
        dev.sizeBytes.toNat) :
    (¬ given.len.toNat < byteCount dev numBlocks) ∧
      ¬ dev.sizeBytes.toNat <
        (firstByte dev lba + byteCount dev numBlocks) % 2 ^ 64 := by
  have size := dev.sizeBytes.toNat_lt
  refine ⟨Nat.not_lt.mpr fits, ?_⟩
  rw [← Nat.mod_add_mod, Nat.mod_eq_of_lt (by omega)]
  omega

theorem nvmeEmuRead_zero_iff :
    (∃ after, nvmeEmuRead dev lba numBlocks buffer = .ok (0, after)) ↔
      Passes dev lba numBlocks buffer := by
  cases buffer with
  | none =>
      apply iff_of_false
      · rintro ⟨after, ⟨⟩⟩
      · rintro ⟨given, ⟨⟩, _⟩
  | some given =>
      rw [nvmeEmuRead_eq]
      constructor
      · rintro ⟨after, read⟩
        split at read
        · cases read
        · rename_i fits
          split at read
          · cases read
          · split at read
            · cases read
            · rename_i memory copied
              have inside := Memory.inside_of_memcpy copied
              exact ⟨given, rfl, Nat.le_of_not_lt fits, inside.1⟩
      · rintro ⟨_, ⟨⟩, fits, found⟩
        rcases checks_of_passes fits found with ⟨whole, inside⟩
        have ends : 0 + byteCount dev numBlocks ≤ given.len.toNat := by
          rw [Nat.zero_add]
          exact fits
        rcases
          @Memory.memcpy_of_inside _ _ given.memory dev.data _ _ _
            ⟨found, ends⟩ with
          ⟨copied, done, _⟩
        rw [if_neg whole, if_neg inside, done]
        exact ⟨_, rfl⟩

theorem nvmeEmuWrite_zero_iff :
    (∃ after, nvmeEmuWrite dev lba numBlocks buffer = .ok (0, after)) ↔
      Passes dev lba numBlocks buffer := by
  cases buffer with
  | none =>
      apply iff_of_false
      · rintro ⟨after, ⟨⟩⟩
      · rintro ⟨given, ⟨⟩, _⟩
  | some given =>
      rw [nvmeEmuWrite_eq]
      constructor
      · rintro ⟨after, written⟩
        split at written
        · cases written
        · rename_i fits
          split at written
          · cases written
          · split at written
            · cases written
            · rename_i data copied
              have inside := Memory.inside_of_memcpy copied
              exact ⟨given, rfl, Nat.le_of_not_lt fits, inside.2⟩
      · rintro ⟨_, ⟨⟩, fits, found⟩
        rcases checks_of_passes fits found with ⟨whole, inside⟩
        have ends : 0 + byteCount dev numBlocks ≤ given.len.toNat := by
          rw [Nat.zero_add]
          exact fits
        rcases
          @Memory.memcpy_of_inside _ _ dev.data given.memory _ _ _
            ⟨ends, found⟩ with
          ⟨copied, done, _⟩
        rw [if_neg whole, if_neg inside, done]
        exact ⟨_, rfl⟩

/-- A write that returns another code leaves the device as it is. -/
theorem nvmeEmuWrite_nonzero {code : ℤ} {after : NvmeEmuDevice}
    (written : nvmeEmuWrite dev lba numBlocks buffer = .ok (code, after))
    (other : code ≠ 0) : after = dev := by
  cases buffer with
  | none =>
      cases written
      rfl
  | some given =>
      rw [nvmeEmuWrite_eq] at written
      split at written
      · cases written
        rfl
      · split at written
        · cases written
          rfl
        · split at written
          · cases written
          · cases written
            exact absurd rfl other

end Transfers

/-! ## Executing commands -/

section Execution

variable
    {ctrl after : NvmeCtrl}
    {buffer left : Option NvmeBuffer}
    {cmd : NvmeCmd}
    {status : UInt16}

theorem countRead_ne (stats : NvmeStats) (bytes : UInt64) :
    stats.countRead bytes ≠ stats := by
  intro same
  have counted : stats.readOps + 1 = stats.readOps :=
    congrArg NvmeStats.readOps same
  exact absurd (UInt64.add_eq_left.mp counted) (by decide)

theorem countWrite_ne (stats : NvmeStats) (bytes : UInt64) :
    stats.countWrite bytes ≠ stats := by
  intro same
  have counted : stats.writeOps + 1 = stats.writeOps :=
    congrArg NvmeStats.writeOps same
  exact absurd (UInt64.add_eq_left.mp counted) (by decide)

/-- A transfer that takes place is counted. -/
theorem nvmeExecute_of_transfers
    (transfers : Transfers ctrl.dev buffer cmd) :
    ∃ status after left,
      nvmeExecute ctrl buffer cmd = .ok (status, after, left) ∧
        after.cq = ctrl.cq ∧ after.stats ≠ ctrl.stats := by
  rcases transfers with ⟨read | write, passes⟩
  · rcases nvmeEmuRead_zero_iff.mpr passes with ⟨left, returned⟩
    refine
      ⟨0,
        { ctrl with
          stats :=
            ctrl.stats.countRead (ctrl.dev.bytes (nvmeCmdRwFields cmd).2) },
        left, ?_, rfl, countRead_ne _ _⟩
    rw [nvmeExecute, if_pos read]
    simp only [returned, ne_eq, not_true_eq_false, if_false]
  · have other : ¬ cmd.opcode = 0x02 := by
      rw [write]
      decide
    rcases nvmeEmuWrite_zero_iff.mpr passes with ⟨dev, returned⟩
    refine
      ⟨0,
        { ctrl with
          dev := dev
          stats :=
            ctrl.stats.countWrite
              (ctrl.dev.bytes (nvmeCmdRwFields cmd).2) },
        buffer, ?_, rfl, countWrite_ne _ _⟩
    rw [nvmeExecute, if_neg other, if_pos write]
    simp only [returned, ne_eq, not_true_eq_false, if_false]

/-- A command that is no such transfer leaves the controller as it is. -/
theorem nvmeExecute_of_not_transfers
    (idle : ¬ Transfers ctrl.dev buffer cmd)
    (executed : nvmeExecute ctrl buffer cmd = .ok (status, after, left)) :
    after = ctrl := by
  rw [nvmeExecute] at executed
  split at executed
  · rename_i read
    simp only at executed
    split at executed
    · cases executed
    · rename_i ret left' returned
      split at executed
      · cases executed
        rfl
      · rename_i zero
        rw [not_not.mp zero] at returned
        exact
          absurd
            ⟨Or.inl read, nvmeEmuRead_zero_iff.mp ⟨left', returned⟩⟩ idle
  · split at executed
    · rename_i write
      simp only at executed
      split at executed
      · cases executed
      · rename_i ret dev returned
        split at executed
        · rename_i other
          rw [nvmeEmuWrite_nonzero returned other] at executed
          cases executed
          rfl
        · rename_i zero
          rw [not_not.mp zero] at returned
          exact
            absurd
              ⟨Or.inr write, nvmeEmuWrite_zero_iff.mp ⟨dev, returned⟩⟩ idle
    · split at executed
      · cases executed
        rfl
      · split at executed
        · simp only at executed
          split at executed
          · cases executed
            rfl
          · split at executed
            · split at executed
              · cases executed
              · cases executed
                rfl
            · cases executed
              rfl
        · cases executed
          rfl

end Execution

/-! ## Submitting commands -/

/-- A call that returns a code other than zero has no effect. -/
def Clean
    {Ctrl : Type} (common : Ctrl → NvmeCtrl) (ctrl : Ctrl)
    (result : Except CFault (Called Ctrl)) : Prop :=
  ∀ called,
    result = .ok called →
      called.code ≠ 0 → common called.ctrl = common ctrl

/-- A transfer takes place, and there is no room for its completion. -/
def LateRejection
    (ctrl : NvmeCtrl) (cmd : Option NvmeCmd) (buffer : Option NvmeBuffer) :
    Prop :=
  ctrl.cq.ring.IsFull ∧
    ∃ given, cmd = some given ∧ Transfers ctrl.dev buffer given

section Submission

variable
    {ctrl : NvmeCtrl}
    {buffer : Option NvmeBuffer}
    {cmd : Option NvmeCmd}

/-- A rejected command has no effect unless it was a transfer. -/
theorem nvmeSubmitCmdCommon_clean_iff :
    Clean id ctrl (nvmeSubmitCmdCommon ctrl buffer cmd) ↔
      ¬ LateRejection ctrl cmd buffer := by
  cases cmd with
  | none =>
      apply iff_of_true
      · rintro called ⟨⟩ _
        rfl
      · rintro ⟨_, given, ⟨⟩, _⟩
  | some given =>
      rw [nvmeSubmitCmdCommon]
      constructor
      · rintro clean ⟨full, _, ⟨⟩, transfers⟩
        rcases nvmeExecute_of_transfers transfers with
          ⟨status, after, left, executed, cq, counted⟩
        rw [← cq] at full
        simp only [executed, nvmeQueuePush_of_full full] at clean
        have rejected : (if (-1 : ℤ) ≠ 0 then (-3 : ℤ) else 0) ≠ 0 := by
          decide
        have same := clean _ rfl rejected
        exact counted (congrArg NvmeCtrl.stats same)
      · intro early called submitted rejected
        simp only at submitted
        split at submitted
        · cases submitted
        · rename_i status after left executed
          cases submitted
          by_cases transfers : Transfers ctrl.dev buffer given
          · have room : ¬ ctrl.cq.ring.IsFull :=
              fun full => early ⟨full, given, rfl, transfers⟩
            rcases nvmeExecute_of_transfers transfers with
              ⟨_, _, _, other, cq, _⟩
            cases executed.symm.trans other
            rw [← cq] at room
            rcases
              nvmeQueuePush_of_room room (nvmeBuildCpl given status) with
              ⟨pushed, done, _⟩
            simp only [done] at rejected
            exact absurd rfl rejected
          · cases nvmeExecute_of_not_transfers transfers executed
            by_cases full : ctrl.cq.ring.IsFull
            · simp only [nvmeQueuePush_of_full full]
            · rcases
                nvmeQueuePush_of_room full (nvmeBuildCpl given status) with
                ⟨pushed, done, _⟩
              simp only [done] at rejected
              exact absurd rfl rejected

end Submission

/-! ## Runs -/

/-- The calls on a controller. -/
inductive Call where
  | queueInit (depth : UInt16)
  | submitCmd (cmd : Option NvmeCmd) (buffer : Option NvmeBuffer)
  | pollCpl
  | read (lba : UInt64) (numBlocks : UInt32) (buffer : Option NvmeBuffer)
  | write (lba : UInt64) (numBlocks : UInt32) (buffer : Option NvmeBuffer)

/-- What a kind of controller offers. -/
structure Interface (Ctrl : Type) where
  common : Ctrl → NvmeCtrl
  serves : Ctrl → Bool
  queueInit : Ctrl → UInt16 → Ctrl
  submitCmd :
    Ctrl → Option NvmeCmd → Option NvmeBuffer →
      Except CFault (Called Ctrl)
  pollCpl : Ctrl → ℤ × Option NvmeCpl × Ctrl
  read :
    Ctrl → UInt64 → UInt32 → Option NvmeBuffer →
      Except CFault (Called Ctrl)
  write :
    Ctrl → UInt64 → UInt32 → Option NvmeBuffer →
      Except CFault (Called Ctrl)

def pcieInterface : Interface NvmePcieCtrl where
  common := id
  serves := fun _ => true
  queueInit := nvmePcieQueueInit
  submitCmd := nvmePcieSubmitCmd
  pollCpl := nvmePciePollCpl
  read := nvmePcieRead
  write := nvmePcieWrite

def fabricsInterface : Interface NvmeFabricsCtrl where
  common := NvmeFabricsCtrl.toNvmeCtrl
  serves := NvmeFabricsCtrl.connected
  queueInit := nvmeFabricsQueueInit
  submitCmd := nvmeFabricsSubmitCmd
  pollCpl := nvmeFabricsPollCpl
  read := nvmeFabricsRead
  write := nvmeFabricsWrite

namespace Interface

variable
    {Ctrl : Type}
    (api : Interface Ctrl)

/-- The controller after a call, unless it has no defined outcome. -/
def call (ctrl : Ctrl) : Call → Option Ctrl
  | .queueInit depth => some (api.queueInit ctrl depth)
  | .submitCmd cmd buffer =>
      (api.submitCmd ctrl cmd buffer).toOption.map Called.ctrl
  | .pollCpl => some (api.pollCpl ctrl).2.2
  | .read lba numBlocks buffer =>
      (api.read ctrl lba numBlocks buffer).toOption.map Called.ctrl
  | .write lba numBlocks buffer =>
      (api.write ctrl lba numBlocks buffer).toOption.map Called.ctrl

/-- One step of a run, which ends when an outcome is not defined. -/
def step (state : Option Ctrl) (call : Call) : Option Ctrl :=
  state.bind fun ctrl => api.call ctrl call

/-- A command that is rejected has no effect. -/
def CleanStep (state : Option Ctrl) (call : Call) : Prop :=
  ∀ ctrl cmd buffer,
    state = some ctrl →
      call = .submitCmd cmd buffer →
        Clean api.common ctrl (api.submitCmd ctrl cmd buffer)

/-- A controller that serves has room for the completion of a transfer. -/
def RoomyStep (state : Option Ctrl) (call : Call) : Prop :=
  ∀ ctrl cmd buffer,
    state = some ctrl →
      call = .submitCmd cmd buffer →
        api.serves ctrl = true →
          ¬ LateRejection (api.common ctrl) cmd buffer

/-- The commands of a run are clean if those of each state are. -/
theorem allSteps_clean_iff
    (agrees :
      ∀ ctrl cmd buffer,
        Clean api.common ctrl (api.submitCmd ctrl cmd buffer) ↔
          (api.serves ctrl = true →
            ¬ LateRejection (api.common ctrl) cmd buffer))
    (state : Option Ctrl) (calls : List Call) :
    AllSteps api.step api.CleanStep state calls ↔
      AllSteps api.step api.RoomyStep state calls := by
  refine
    @allSteps_iff_of_invariant _ _ _ _ _ (fun _ => True)
      (fun _ _ _ => trivial) ?_ state calls trivial
  intro state call _
  rw [CleanStep, RoomyStep]
  simp only [agrees]

end Interface

theorem pcie_clean_iff
    (ctrl : NvmePcieCtrl) (cmd : Option NvmeCmd)
    (buffer : Option NvmeBuffer) :
    Clean pcieInterface.common ctrl
        (pcieInterface.submitCmd ctrl cmd buffer) ↔
      (pcieInterface.serves ctrl = true →
        ¬ LateRejection (pcieInterface.common ctrl) cmd buffer) := by
  refine nvmeSubmitCmdCommon_clean_iff.trans ?_
  exact ⟨fun early _ => early, fun early => early rfl⟩

theorem fabrics_clean_iff
    (ctrl : NvmeFabricsCtrl) (cmd : Option NvmeCmd)
    (buffer : Option NvmeBuffer) :
    Clean fabricsInterface.common ctrl
        (fabricsInterface.submitCmd ctrl cmd buffer) ↔
      (fabricsInterface.serves ctrl = true →
        ¬ LateRejection (fabricsInterface.common ctrl) cmd buffer) := by
  show
    Clean NvmeFabricsCtrl.toNvmeCtrl ctrl
        (nvmeFabricsSubmitCmd ctrl cmd buffer) ↔
      (ctrl.connected = true → ¬ LateRejection ctrl.toNvmeCtrl cmd buffer)
  rw [nvmeFabricsSubmitCmd, NvmeFabricsCtrl.connectedCall]
  split
  · rename_i connected
    rw [iff_true_intro connected, true_implies,
      ← nvmeSubmitCmdCommon_clean_iff]
    cases nvmeSubmitCmdCommon ctrl.toNvmeCtrl buffer cmd with
    | error fault =>
        apply iff_of_true
        · rintro called ⟨⟩
        · rintro called ⟨⟩
    | ok submitted =>
        constructor
        · rintro clean called ⟨⟩ rejected
          exact clean _ rfl rejected
        · rintro clean called ⟨⟩ rejected
          exact clean _ rfl rejected
  · rename_i apart
    apply iff_of_true
    · rintro called ⟨⟩ _
      rfl
    · exact fun connected => absurd connected apart

/--
On a run of either kind of controller, rejected commands have no effect exactly
if no transfer is submitted to a ring without room for its completion.
-/
theorem rejected_clean_iff
    (pcie : NvmePcieCtrl) (fabrics : NvmeFabricsCtrl)
    (calls : List Call) :
    (AllSteps pcieInterface.step pcieInterface.CleanStep (some pcie)
          calls ↔
        AllSteps pcieInterface.step pcieInterface.RoomyStep (some pcie)
          calls) ∧
      (AllSteps fabricsInterface.step fabricsInterface.CleanStep
          (some fabrics) calls ↔
        AllSteps fabricsInterface.step fabricsInterface.RoomyStep
          (some fabrics) calls) :=
  ⟨pcieInterface.allSteps_clean_iff pcie_clean_iff (some pcie) calls,
    fabricsInterface.allSteps_clean_iff fabrics_clean_iff (some fabrics)
      calls⟩

/-- The write of the first block takes place. -/
theorem writeFirst_transfers :
    Transfers smallDevice (some smallBuffer) writeFirst := by
  refine ⟨Or.inr rfl, smallBuffer, rfl, ?_, ?_⟩
  · decide
  · decide

/-- A ring of one slot never has room. -/
theorem single_slot_full : (nvmePcieQueueInit smallCtrl 1).cq.ring.IsFull := by
  decide

/-- A write to a controller with such a ring is rejected, and stored. -/
theorem single_slot_not_clean :
    (¬ AllSteps pcieInterface.step pcieInterface.CleanStep (some smallCtrl)
        [.queueInit 1, .submitCmd (some writeFirst) (some smallBuffer)]) ∧
      ¬ AllSteps fabricsInterface.step fabricsInterface.CleanStep
        (some { toNvmeCtrl := smallCtrl, connected := true })
        [.queueInit 1, .submitCmd (some writeFirst) (some smallBuffer)] := by
  have late :
      LateRejection (nvmePcieQueueInit smallCtrl 1) (some writeFirst)
        (some smallBuffer) :=
    ⟨single_slot_full, writeFirst, rfl, writeFirst_transfers⟩
  refine ⟨?_, ?_⟩
  · rintro ⟨_, clean, _⟩
    have submitted :=
      clean (nvmePcieQueueInit smallCtrl 1) (some writeFirst)
        (some smallBuffer) rfl rfl
    exact (pcie_clean_iff _ _ _).mp submitted rfl late
  · rintro ⟨_, clean, _⟩
    have submitted :=
      clean
        (nvmeFabricsQueueInit
          { toNvmeCtrl := smallCtrl, connected := true } 1)
        (some writeFirst) (some smallBuffer) rfl rfl
    exact (fabrics_clean_iff _ _ _).mp submitted rfl late

end StorageAppliance.NvmeDrv
