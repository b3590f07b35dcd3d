import StorageAppliance.NVMeoF.Initiator
import StorageAppliance.NVMeoF.Target

/-!
# The number of blocks of a transfer

A command carries the number of its blocks less one, in 16 bits.  The initiator
subtracts, the target adds.  No call checks that the number fits: the number is
kept exactly if it is from 1 to 65536.
-/

namespace StorageAppliance.NVMeoF

open StorageAppliance.Go
open StorageAppliance.Library

/-! ## Calls -/

namespace NVMeoFInitiator

variable (initiator : NVMeoFInitiator)

/-- The common part of `ReadWithQueue` and `WriteWithQueue`. -/
def transferWithQueue
    (opcode : UInt8) (nqn : String) (nsid : UInt32) (lba : UInt64)
    (numBlocks : UInt32) (buffer : Bytes) (callback : Nat)
    (queueIndex : ℤ) : Except Fault Submission × NVMeoFInitiator :=
  match initiator.subsystems.get? nqn with
  | none => (.error (errorf "subsystem not connected"), initiator)
  | some subsys =>
      match subsys.namespaces.get? nsid with
      | none => (.error (errorf "namespace not found"), initiator)
      | some ns =>
          if buffer.length < numBlocks.toNat * ns.blockSize.toNat then
            (.error (errorf "buffer too small"), initiator)
          else if queueIndex < 0 ∨ initiator.ioQueues.length ≤ queueIndex then
            (.error (errorf "invalid queue index"), initiator)
          else
            initiator.submitOn queueIndex.toNat
              { opcode := opcode
                nsid := nsid
                rw :=
                  { slba := lba
                    length := (numBlocks - 1).toUInt16 } }
              buffer callback

def readWithQueue
    (nqn : String) (nsid : UInt32) (lba : UInt64) (numBlocks : UInt32)
    (buffer : Bytes) (callback : Nat) (queueIndex : ℤ) :
    Except Fault Submission × NVMeoFInitiator :=
  initiator.transferWithQueue nvmeCmdRead nqn nsid lba numBlocks buffer
    callback queueIndex

def writeWithQueue
    (nqn : String) (nsid : UInt32) (lba : UInt64) (numBlocks : UInt32)
    (buffer : Bytes) (callback : Nat) (queueIndex : ℤ) :
    Except Fault Submission × NVMeoFInitiator :=
  initiator.transferWithQueue nvmeCmdWrite nqn nsid lba numBlocks buffer
    callback queueIndex

end NVMeoFInitiator

/-- The calls that transfer blocks. -/
inductive Transfer where
  | read
  | readWithQueue (queueIndex : ℤ)
  | write
  | writeWithQueue (queueIndex : ℤ)

/-- Make a call, and submit its command. -/
def Transfer.submit
    (transfer : Transfer) (initiator : NVMeoFInitiator) (nqn : String)
    (nsid : UInt32) (lba : UInt64) (numBlocks : UInt32) (buffer : Bytes)
    (callback : Nat) : Except Fault Submission × NVMeoFInitiator :=
  match transfer with
  | .read => initiator.read nqn nsid lba numBlocks buffer callback
  | .readWithQueue queueIndex =>
      initiator.readWithQueue nqn nsid lba numBlocks buffer callback
        queueIndex
  | .write => initiator.write nqn nsid lba numBlocks buffer callback
  | .writeWithQueue queueIndex =>
      initiator.writeWithQueue nqn nsid lba numBlocks buffer callback
        queueIndex

/-! ## Both sides -/

/-- The number of blocks that the target takes from a command. -/
def targetBlocks (cmd : NVMeCommand) : UInt32 :=
  cmd.rw.length.toUInt32 + 1

/-- A read or a write has as many bytes as these blocks. -/
theorem extent_length (cmd : NVMeCommand) (ns : TargetNamespace) :
    (extent cmd ns).2 = targetBlocks cmd * ns.blockSize :=
  rfl

/-- The target works on as many blocks as the caller asked for. -/
def KeepsCount (submission : Submission) (numBlocks : UInt32) : Prop :=
  ∀ received : NVMeCommand,
    received.rw.length = submission.command.rw.length →
      targetBlocks received = numBlocks

section Counts

variable
    {initiator : NVMeoFInitiator}
    {opcode : UInt8}
    {nqn : String}
    {nsid : UInt32}
    {lba : UInt64}
    {numBlocks : UInt32}
    {buffer : Bytes}
    {callback : Nat}
    {submission : Submission}

/-- Decrementing, truncating and incrementing a number. -/
theorem toUInt32_toUInt16_pred_succ_iff (number : UInt32) :
    (number - 1).toUInt16.toUInt32 + 1 = number ↔
      1 ≤ number.toNat ∧ number.toNat ≤ 65536 := by
  have bound := number.toNat_lt
  have one : (1 : UInt32).toNat = 1 := rfl
  rw [← UInt32.toNat_inj, UInt32.toNat_add, UInt16.toNat_toUInt32,
    UInt32.toNat_toUInt16, UInt32.toNat_sub, one]
  omega

theorem submitOn_ok
    {index : Nat} {cmd : NVMeCommand} {data : Bytes}
    (submitted :
      (initiator.submitOn index cmd data callback).1 = .ok submission) :
    submission.command.rw = cmd.rw := by
  rw [NVMeoFInitiator.submitOn] at submitted
  split at submitted
  · cases submitted
  · cases submitted
    rfl

theorem transfer_ok
    (accepted :
      (initiator.transfer opcode nqn nsid lba numBlocks buffer callback).1 =
        .ok submission) :
    submission.command.rw.length = (numBlocks - 1).toUInt16 := by
  rw [NVMeoFInitiator.transfer] at accepted
  split at accepted
  · cases accepted
  · split at accepted
    · cases accepted
    · split at accepted
      · cases accepted
      · split at accepted
        · cases accepted
        · rw [submitOn_ok accepted]

theorem transferWithQueue_ok
    {queueIndex : ℤ}
    (accepted :
      (initiator.transferWithQueue opcode nqn nsid lba numBlocks buffer
          callback queueIndex).1 =
        .ok submission) :
    submission.command.rw.length = (numBlocks - 1).toUInt16 := by
  rw [NVMeoFInitiator.transferWithQueue] at accepted
  split at accepted
  · cases accepted
  · split at accepted
    · cases accepted
    · split at accepted
      · cases accepted
      · split at accepted
        · cases accepted
        · rw [submitOn_ok accepted]

/-- Each call sends the number of blocks less one, in 16 bits. -/
theorem Transfer.submit_ok
    {transfer : Transfer}
    (accepted :
      (transfer.submit initiator nqn nsid lba numBlocks buffer
          callback).1 =
        .ok submission) :
    submission.command.rw.length = (numBlocks - 1).toUInt16 := by
  cases transfer with
  | read => exact transfer_ok accepted
  | readWithQueue queueIndex => exact transferWithQueue_ok accepted
  | write => exact transfer_ok accepted
  | writeWithQueue queueIndex => exact transferWithQueue_ok accepted

/-- A count is kept if 16 bits can hold it less one. -/
theorem keepsCount_iff
    {transfer : Transfer}
    (accepted :
      (transfer.submit initiator nqn nsid lba numBlocks buffer
          callback).1 =
        .ok submission) :
    KeepsCount submission numBlocks ↔
      1 ≤ numBlocks.toNat ∧ numBlocks.toNat ≤ 65536 := by
  rw [← toUInt32_toUInt16_pred_succ_iff, ← Transfer.submit_ok accepted]
  constructor
  · intro keeps
    exact keeps submission.command rfl
  · intro kept received same
    rw [targetBlocks, same]
    exact kept

end Counts

/-- An initiator with one queue, and a namespace with blocks of 512 bytes. -/
def oneQueueInitiator : NVMeoFInitiator where
  subsystems :=
    Dict.empty.set "s"
      { nqn := "s"
        namespaces := Dict.empty.set 1 { nsid := 1, blockSize := 512 } }
  ioQueues := [{ qid := 1 }]

/-- The first submission, for the blocks from the start. -/
def firstSubmission
    (opcode : UInt8) (length : UInt16) (buffer : Bytes) : Submission where
  command :=
    { opcode := opcode
      nsid := 1
      rw := { slba := 0, length := length } }
  data := buffer

/-- A call for one block is for one block. -/
theorem one_block_kept :
    KeepsCount (firstSubmission nvmeCmdRead 0 (zeros 512)) 1 := by
  have accepted :
      (Transfer.read.submit oneQueueInitiator "s" 1 0 1 (zeros 512) 0).1 =
        .ok (firstSubmission nvmeCmdRead 0 (zeros 512)) := by
    decide +kernel
  exact (keepsCount_iff accepted).mpr (by decide)

/-- Calls for no blocks are accepted, and are for 65536 blocks. -/
theorem no_blocks_not_kept :
    ((Transfer.read.submit oneQueueInitiator "s" 1 0 0 [] 0).1 =
          .ok (firstSubmission nvmeCmdRead 65535 []) ∧
        ¬ KeepsCount (firstSubmission nvmeCmdRead 65535 []) 0) ∧
      ((Transfer.readWithQueue 0).submit oneQueueInitiator "s" 1 0 0 [] 0).1 =
          .ok (firstSubmission nvmeCmdRead 65535 []) ∧
      ((Transfer.write.submit oneQueueInitiator "s" 1 0 0 [] 0).1 =
          .ok (firstSubmission nvmeCmdWrite 65535 []) ∧
        ¬ KeepsCount (firstSubmission nvmeCmdWrite 65535 []) 0) ∧
      ((Transfer.writeWithQueue 0).submit oneQueueInitiator "s" 1 0 0 []
            0).1 =
          .ok (firstSubmission nvmeCmdWrite 65535 []) := by
  have lost (opcode : UInt8) :
      ¬ KeepsCount (firstSubmission opcode 65535 []) 0 := by
    intro keeps
    have kept : (65536 : UInt32) = 0 :=
      keeps (firstSubmission opcode 65535 []).command rfl
    exact absurd kept (by decide)
  refine ⟨⟨?_, lost _⟩, ?_, ⟨?_, lost _⟩, ?_⟩
  · decide +kernel
  · decide +kernel
  · decide +kernel
  · decide +kernel

end StorageAppliance.NVMeoF
