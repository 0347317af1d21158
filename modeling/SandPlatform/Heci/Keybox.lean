import SandPlatform.Heci.Transport
import SandPlatform.Kernel.Heap

/-!
# Retrieving the attestation keybox

The request and the response share one buffer, so a response field that the
device did not deliver reads whatever the request left there.  `get_attkb` asks
for the size of the file and then for one chunk after another, at the offset
reached so far.
-/

namespace SandPlatform.Heci

open SandPlatform.Foundation
open SandPlatform.Hardware
open SandPlatform.Kernel

universe u

/-! ## Message layouts -/

/-- `MCA_MKHI_BOOTLOADER_READ_ATTKB_GRP_ID`. -/
def mcaMkhiBootloaderReadAttkbGrpId : BitVec 8 := 0x0A

/-- `MCA_MKHI_BOOTLOADER_READ_ATTKB_EX_CMD_REQ`. -/
def mcaMkhiBootloaderReadAttkbExCmdReq : BitVec 7 := 0x1A

/-- `MAX_ATTKB_SIZE`, the bytes that are allocated for a keybox. -/
def maxAttkbSize : Nat := 16 * 1024

/-- `sizeof(MCA_BOOTLOADER_READ_ATTKB_EX_Request)`. -/
def requestSize : Nat := 12

/-- `sizeof(MCA_BOOTLOADER_READ_ATTKB_EX_Response)`. -/
def responseSize : Nat := 12

/-- `HECI_MSG_SIZE`, the longest message that a header can announce. -/
def heciMsgSize : Nat := 2 ^ 9 - 1

/-- `MAX_TRANSFER_BUFFER`, what such a message leaves for data. -/
def maxTransferBuffer : Nat := heciMsgSize - responseSize

/-- `ALIGNED_MAX_TRANSFER_BUFFER`, the same in whole words. -/
def alignedMaxTransferBuffer : Nat := maxTransferBuffer - maxTransferBuffer % 4

/-- `sizeof(DataBuffer)`. -/
def dataBufferSize : Nat := responseSize + alignedMaxTransferBuffer

/-- The words of a cleared `DataBuffer` holding a request: header, offset and
size, and the flags with `Encrypt` set.  Offset and size are cut to 16 bits. -/
def requestWords (offset size : Nat) : Memory (BitVec 32)
  | 0 => Word.setField (Word.setField 0 0 mcaMkhiBootloaderReadAttkbGrpId) 8
      mcaMkhiBootloaderReadAttkbExCmdReq
  | 1 => Word.setField (Word.setField 0 0 (BitVec.ofNat 16 offset)) 16
      (BitVec.ofNat 16 size)
  | 2 => Word.setField 0 0 (1 : BitVec 1)
  | _ => 0

/-- The buffer as `HeciSendwACK` gets it. -/
def requestMessage (offset size : Nat) : Message :=
  Message.ofWords (requestWords offset size)

namespace Message

/-! The response fields, read from the shared buffer. -/

/-- `Header.Fields.Result` of a response. -/
def result (message : Message) : BitVec 8 := Word.field (message.word 0) 24 8

/-- `TotalFileSize` of a response. -/
def totalFileSize (message : Message) : Nat :=
  (Word.field (message.word 1) 0 16).toNat

/-- `ReadOffset` of a response. -/
def readOffset (message : Message) : Nat :=
  (Word.field (message.word 1) 16 16).toNat

/-- `ReadSize` of a response. -/
def readSize (message : Message) : Nat :=
  (Word.field (message.word 2) 0 16).toNat

/-- A byte of the buffer with its provenance. -/
def cell (message : Message) : Memory Cell :=
  fun offset =>
    ⟨message.byte offset, if message.received offset then .cse else .kernel⟩

theorem totalFileSize_lt (message : Message) :
    message.totalFileSize < 2 ^ 16 :=
  (Word.field (message.word 1) 0 16).isLt

end Message

/-! ## The download -/

/-- One completed `HeciSendwACK` call: what was asked for, the returned status
and the buffer afterwards. -/
structure Exchange where
  offset : Nat
  size : Nat
  status : Int
  reply : Message

/-- The state `get_attkb` works on: the hardware, the block behind the `attkb`
pointer, the ranges stored to it and the exchanges made, both oldest first. -/
structure Download (σ : Type u) where
  hw : Hw σ
  block : Memory Cell
  writes : List (Nat × Nat)
  exchanges : List Exchange

namespace Download

variable {σ : Type u}

/-- A download that has not started. -/
def start (hw : Hw σ) (block : Memory Cell) : Download σ :=
  ⟨hw, block, [], []⟩

/-- `memcpy_s(attkb + offset, size, DataBuffer + sizeof(Response), size)`. -/
def storeChunk (offset : Nat) (reply : Message) (download : Download σ) :
    Download σ :=
  { download with
    block := (memcpyS download.block offset reply.readSize reply.cell
      responseSize reply.readSize).2
    writes := download.writes ++ [(offset, reply.readSize)] }

@[simp]
theorem block_storeChunk (offset : Nat) (reply : Message)
    (download : Download σ) :
    (storeChunk offset reply download).block =
      download.block.copy offset reply.cell responseSize reply.readSize := by
  rw [storeChunk, memcpyS_self]

end Download

variable {σ : Type u} (device : Device σ)

/-- One request and reply through a freshly filled `DataBuffer`. -/
def attkbExchange (bound offset size : Nat) :
    Exec Stop (Download σ) (Int × Message) := do
  let answer ← Exec.zoom Download.hw
    (fun hw download => { download with hw := hw })
    (heciSendwAck device bound (requestMessage offset size) requestSize
      dataBufferSize biosFixedHostAddr biosSecAddr)
  Exec.modify fun download =>
    { download with
      exchanges := download.exchanges ++ [⟨offset, size, answer.1, answer.2⟩] }
  pure answer

/-- Zero stands for failure. -/
def getAttkbSize (bound : Nat) : Exec Stop (Download σ) Nat := do
  let answer ← attkbExchange device bound 0 0
  if answer.1 < 0 ∨ answer.2.result ≠ 0 then
    pure 0
  else
    pure answer.2.totalFileSize

/-- The chunk loop of `get_attkb`. -/
def chunkLoop (bound attkbSize : Nat) :
    Nat → Nat → Nat → Exec Stop (Download σ) Nat
  | 0, _, _ => Exec.stop .running
  | rounds + 1, offset, remaining =>
      if remaining = 0 then
        pure attkbSize
      else do
        let reqSize := min remaining alignedMaxTransferBuffer % 2 ^ 16
        let answer ← attkbExchange device bound offset reqSize
        if answer.1 < 0 ∨ answer.2.result ≠ 0 then
          pure 0
        else if remaining < answer.2.readSize ∨ reqSize < answer.2.readSize then
          pure 0
        else do
          Exec.modify (Download.storeChunk offset answer.2)
          chunkLoop bound attkbSize rounds
            ((offset + answer.2.readSize) % 2 ^ 32)
            ((remaining + 2 ^ 32 - answer.2.readSize) % 2 ^ 32)

/-- The 16-bit request length holds what a round asks for. -/
theorem reqSize_exact (remaining : Nat) :
    min remaining alignedMaxTransferBuffer % 2 ^ 16 =
      min remaining alignedMaxTransferBuffer := by
  have aligned : alignedMaxTransferBuffer = 496 := by decide
  exact Nat.mod_eq_of_lt (by omega)

/-- The 32-bit counters of the loop do not wrap within a file of 16-bit size. -/
theorem counters_exact {offset remaining size : Nat}
    (small : offset + remaining < 2 ^ 16) (within : size ≤ remaining) :
    (offset + size) % 2 ^ 32 = offset + size ∧
      (remaining + 2 ^ 32 - size) % 2 ^ 32 = remaining - size := by
  constructor
  · exact Nat.mod_eq_of_lt (by omega)
  · omega

/-- Download the keybox into the block behind `attkb`; zero stands for
failure. -/
def getAttkb (bound : Nat) (attkbIsNull : Bool) : Exec Stop (Download σ) Nat :=
  if attkbIsNull then
    pure 0
  else do
    let attkbSize ← getAttkbSize device bound
    if attkbSize = 0 then
      pure 0
    else
      chunkLoop device bound attkbSize bound 0 attkbSize

end SandPlatform.Heci
