import SandPlatform.Foundation.Memory
import SandPlatform.Heci.Registers
import SandPlatform.Heci.Timer

/-!
# The HECI transport

Sending a message as fragments through the host write window, receiving one
from the read window of the security engine, and the request and reply exchange
built from the two.  Every register access of the source is made in the order
of the source.
-/

namespace SandPlatform.Heci

open SandPlatform.Foundation
open SandPlatform.Hardware

universe u

/-! ## Message buffers -/

/-- The words behind a message pointer: what the caller put there, and the
words received over it since, newest first. -/
structure Message where
  initial : Memory (BitVec 32)
  stored : List (Nat × BitVec 32)

namespace Message

/-- A buffer nothing has been received into. -/
def ofWords (initial : Memory (BitVec 32)) : Message :=
  ⟨initial, []⟩

/-- The word at an index. -/
def word (message : Message) (index : Nat) : BitVec 32 :=
  (message.stored.lookup index).getD (message.initial index)

/-- The byte at an offset. -/
def byte (message : Message) (offset : Nat) : BitVec 8 :=
  Word.byte (message.word (offset / 4)) (offset % 4)

/-- `Message[index] = value` in the receive loop. -/
def store (message : Message) (index : Nat) (value : BitVec 32) : Message :=
  { message with stored := (index, value) :: message.stored }

/-- The byte at an offset lies in a word the device delivered. -/
def received (message : Message) (offset : Nat) : Bool :=
  (message.stored.lookup (offset / 4)).isSome

@[simp]
theorem word_ofWords (initial : Memory (BitVec 32)) (index : Nat) :
    (ofWords initial).word index = initial index :=
  rfl

theorem word_store_self (message : Message) (index : Nat) (value : BitVec 32) :
    (message.store index value).word index = value := by
  simp [word, store]

theorem word_store_of_ne (message : Message) {index other : Nat}
    (value : BitVec 32) (different : other ≠ index) :
    (message.store index value).word other = message.word other := by
  have unequal : (other == index) = false := by simpa using different
  simp [word, store, List.lookup_cons, unequal]

end Message

/-! ## Register helpers -/

variable {σ : Type u} (device : Device σ)

/-- `heci_reg_read`. -/
def heciRegRead (base offset : Nat) : Exec Stop (Hw σ) (BitVec 32) :=
  readReg device (.heci base) .word offset

/-- `heci_reg_write`. -/
def heciRegWrite (base offset : Nat) (value : BitVec 32) :
    Exec Stop (Hw σ) Unit :=
  writeReg device (.heci base) .word offset value

/-- `heci_pci_read8`. -/
def heciPciRead8 (reg : Nat) : Exec Stop (Hw σ) (BitVec 8) := do
  let value ← readReg device .cse .byte reg
  pure (value.setWidth 8)

/-- `heci_pci_read32`. -/
def heciPciRead32 (reg : Nat) : Exec Stop (Hw σ) (BitVec 32) :=
  readReg device .cse .word reg

/-- `heci_pci_write32`. -/
def heciPciWrite32 (reg : Nat) (value : BitVec 32) : Exec Stop (Hw σ) Unit :=
  writeReg device .cse .word reg value

/-- `heci_pci_set16`: the bits are set, the others stay. -/
def heciPciSet16 (reg : Nat) (value : BitVec 32) : Exec Stop (Hw σ) Unit := do
  let old ← readReg device .cse .half reg
  writeReg device .cse .half reg
    (((old.setWidth 16) ||| (value.setWidth 16)).setWidth 32)

/-- `is_dev_ready`. -/
def isDevReady (base : Nat) : Exec Stop (Hw σ) Int := do
  let reg ← heciRegRead device base secCsrHa
  pure (if DevCtrlReg.secRdyHra reg = 0 then 0 else 1)

/-- `is_dev_data_ready`: the pointers of the ring differ. -/
def isDevDataReady (base : Nat) : Exec Stop (Hw σ) Int := do
  let reg ← heciRegRead device base secCsrHa
  pure (if DevCtrlReg.secCbrpHra reg = DevCtrlReg.secCbwpHra reg then 0 else 1)

/-- `is_interrupt_raised`. -/
def isInterruptRaised (base : Nat) : Exec Stop (Hw σ) Int := do
  let reg ← heciRegRead device base hCsr
  pure (if HostCtrlReg.hIs reg = 0 then 0 else 1)

/-- Enable memory decoding and bus mastering unless both are on. -/
def heciPciEnable (command : BitVec 8) : Exec Stop (Hw σ) Unit :=
  let mask := efiPciCommandMemorySpace ||| efiPciCommandBusMaster
  if command.setWidth 32 &&& mask ≠ mask then
    heciPciSet16 device pciCommandOffset (mask ||| efiPciCommandSerr)
  else
    pure ()

/-- Probe the base register of the CSE, enable the device and map the window.
Zero stands for failure. -/
def heciGetBaseAddr : Exec Stop (Hw σ) Nat := do
  let bar ← heciPciRead32 device heciMbar0
  let val := bar &&& 0xFFFFFFF0
  heciPciWrite32 device heciMbar0 0xFFFFFFFF
  let _ ← heciPciRead32 device heciMbar0
  heciPciWrite32 device heciMbar0 val
  let restored ← heciPciRead32 device heciMbar0
  let u32HeciBase := restored &&& 0xFFFFFFF0
  let command ← heciPciRead8 device pciCommandOffset
  heciPciEnable device command
  let mapped ← vmmAllocPhysical device u32HeciBase.toNat
  pure (mapped.getD 0)

/-! ## Sending -/

/-- The data words of one fragment. -/
def sendWords (base : Nat) (message : Message) (writeSize : Nat) :
    Nat → Nat → Exec Stop (Hw σ) Unit
  | 0, _ => pure ()
  | left + 1, index => do
      heciRegWrite device base hCbWw (message.word (index + writeSize))
      sendWords base message writeSize left (index + 1)

/-- Header, data words and interrupt of one fragment of `size` words, with
`leftSize` words still to follow it. -/
def sendFragment (base : Nat) (message : Message) (length : Nat)
    (hostAddress devAddr : BitVec 8) (size leftSize writeSize : Nat) :
    Exec Stop (Hw σ) Unit := do
  let hcr ← heciRegRead device base hCsr
  heciRegWrite device base hCsr
    (HostCtrlReg.setHIe (HostCtrlReg.setHRdy hcr 1) 0)
  heciRegWrite device base hCbWw
    (HeciMsgHdr.build devAddr hostAddress (if 0 < leftSize then 0 else 1)
      (if 0 < leftSize then size * 4 else length - writeSize * 4))
  sendWords device base message writeSize size 0
  let status ← heciRegRead device base hCsr
  heciRegWrite device base hCsr
    (HostCtrlReg.setHIg (HostCtrlReg.setHIe (HostCtrlReg.setHRdy
      (HostCtrlReg.setHIs status 1) 1) 0) 1)

/-- The fragment loop of `heci_send_impl`. -/
def sendLoop (bound base : Nat) (message : Message) (length : Nat)
    (hostAddress devAddr : BitVec 8) (maxBuffer : Nat) :
    Nat → Nat → Nat → Exec Stop (Hw σ) Int
  | 0, _, _ => Exec.stop .running
  | rounds + 1, leftSize, writeSize =>
      if leftSize = 0 then
        pure 0
      else do
        let ready ← waitEvent device bound heciEventTimeout
          (some (isDevReady device base))
        if ready < 0 then
          pure 1
        else do
          let size := if maxBuffer < leftSize then maxBuffer else leftSize
          sendFragment device base message length hostAddress devAddr size
            (leftSize - size) writeSize
          if 0 < leftSize - size then do
            let raised ← waitEvent device bound heciEventTimeout
              (some (isInterruptRaised device base))
            if raised ≠ 0 then
              pure 1
            else
              sendLoop bound base message length hostAddress devAddr maxBuffer
                rounds (leftSize - size) ((writeSize + size) % 2 ^ 32)
          else
            sendLoop bound base message length hostAddress devAddr maxBuffer
              rounds (leftSize - size) ((writeSize + size) % 2 ^ 32)

/-- Send `length` bytes of a message.  The usable depth and the number of words
are computed in 32-bit arithmetic. -/
def heciSendImpl (bound base : Nat) (message : Option Message) (length : Nat)
    (hostAddress devAddr : BitVec 8) : Exec Stop (Hw σ) Int :=
  match message with
  | none => pure 1
  | some message =>
      if length = 0 then
        pure 1
      else do
        let hcr ← heciRegRead device base hCsr
        let maxBuffer := ((HostCtrlReg.hCbd hcr).toNat + (2 ^ 32 - 1)) % 2 ^ 32
        let leftSize := (length + 3) % 2 ^ 32 / 4
        heciRegWrite device base hCsr (HostCtrlReg.setHRdy hcr 1)
        sendLoop device bound base message length hostAddress devAddr maxBuffer
          bound leftSize 0

/-! ## Receiving -/

/-- What `heci_receive_impl` leaves behind: its status, the message buffer and
the length behind the length pointer. -/
structure Received where
  status : Int
  message : Option Message
  length : Option Nat

/-- `Message[index] = value`, unless the message pointer is null. -/
def storeWord (message : Option Message) (index : Nat) (value : BitVec 32) :
    Exec Stop (Hw σ) (Option Message) :=
  match message with
  | none => pure none
  | some buffer => do
      Exec.modify fun hw => { hw with log := .store index value :: hw.log }
      pure (some (buffer.store index value))

/-- The guarded store of the receive loop: the capacity in bytes is compared
with the offset of the word, and zero stands for no limit. -/
def storeWithin (bufSize : Nat) (message : Option Message) (index : Nat)
    (value : BitVec 32) : Exec Stop (Hw σ) (Option Message) :=
  if bufSize = 0 ∨ index * 4 ≤ bufSize then
    storeWord message index value
  else
    pure message

/-- The data words of one fragment: `left` of them remain and the next one goes
to `index`.  The flag is lost when a wait times out. -/
def receiveWords (bound base bufSize : Nat) :
    Nat → Nat → Option Message → Exec Stop (Hw σ) (Bool × Nat × Option Message)
  | 0, index, message => pure (true, index, message)
  | left + 1, index, message => do
      let ready ← waitEvent device bound heciEventTimeout
        (some (isDevDataReady device base))
      if ready < 0 then
        pure (false, index, message)
      else do
        let value ← heciRegRead device base secCbRw
        let next ← storeWithin bufSize message index value
        receiveWords bound base bufSize left (index + 1) next

/-- The fragment loop of `heci_receive_impl`.  Every fragment is stored from
index zero on, since `ReadSize` is never advanced. -/
def receiveLoop (bound base bufSize : Nat) :
    Nat → Option Message → Option Nat → Exec Stop (Hw σ) Received
  | 0, _, _ => Exec.stop .running
  | rounds + 1, message, length => do
      let hcr ← heciRegRead device base hCsr
      heciRegWrite device base hCsr
        (HostCtrlReg.setHIe (HostCtrlReg.setHRdy hcr 1) 0)
      let ready ← waitEvent device bound heciEventTimeout
        (some (isDevDataReady device base))
      if ready < 0 then
        pure ⟨1, message, length⟩
      else do
        let head ← heciRegRead device base secCbRw
        let words ← receiveWords device bound base bufSize
          (HeciMsgHdr.dataWords head) 0 message
        if words.1 then do
          let received := length.map fun _ =>
            if HeciMsgHdr.length head < words.2.1 * 4 then
              HeciMsgHdr.length head
            else
              words.2.1 * 4
          let status ← heciRegRead device base hCsr
          heciRegWrite device base hCsr
            (HostCtrlReg.setHIg (HostCtrlReg.setHIe (HostCtrlReg.setHRdy
              (HostCtrlReg.setHIs status 1) 1) 0) 1)
          if HeciMsgHdr.messageComplete head = 1 then
            pure ⟨0, words.2.2, received⟩
          else
            receiveLoop bound base bufSize rounds words.2.2 received
        else
          pure ⟨1, words.2.2, length⟩

/-- Receive one message; the length pointer holds the capacity on entry. -/
def heciReceiveImpl (bound base : Nat) (message : Option Message)
    (length : Option Nat) : Exec Stop (Hw σ) Received :=
  receiveLoop device bound base (length.getD 0) bound message length

/-! ## Exchange -/

/-- Send a request and receive the reply into the same buffer. -/
def heciSendwAck (bound : Nat) (message : Message) (length recLength : Nat)
    (hostAddress secAddress : BitVec 8) : Exec Stop (Hw σ) (Int × Message) := do
  let heciBase ← heciGetBaseAddr device
  if heciBase = 0 then
    pure (1, message)
  else do
    let status ← heciSendImpl device bound heciBase (some message) length
      hostAddress secAddress
    if status ≠ 0 then
      pure (status, message)
    else do
      let received ← heciReceiveImpl device bound heciBase (some message)
        (some recLength)
      pure (received.status, received.message.getD message)

end SandPlatform.Heci
