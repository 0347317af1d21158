import SandPlatform.Foundation.Memory
import SandPlatform.Foundation.Run
import SandPlatform.Spi.Controller

/-!
# The SPI driver

Transfers word by word through the transmit and receive pointers of
`spi_tran_data`.  A pointer is an offset into the buffer of the call, and every
access through one is put on record with its length, whether or not it is inside
the buffer.
-/

namespace SandPlatform.Spi

open SandPlatform.Foundation
open SandPlatform.Hardware

universe u

/-- The readers and writers `spi_tran_data` can point to. -/
inductive Mover
  | null
  | u8
  | u16
  | u32
  deriving DecidableEq

/-- `struct spi_tran_data`; a function pointer is missing until a transfer has
set it. -/
structure SpiTranData where
  tx : Nat
  txEnd : Nat
  rx : Nat
  rxEnd : Nat
  rxLength : BitVec 32
  txLength : BitVec 32
  bitsPerWord : Nat
  write : Option Mover
  read : Option Mover

/-- The static driver data before any call. -/
def spiDrvData : SpiTranData :=
  ⟨0, 0, 0, 0, 0, 0, 0, none, none⟩

/-- The two buffers of a transfer. -/
inductive Buffer
  | tx
  | rx
  deriving DecidableEq

/-- An access to `size` bytes of a buffer. -/
structure Touch where
  buffer : Buffer
  start : Nat
  size : Nat
  deriving DecidableEq

/-- The hardware, the driver data, the buffers of the current transfer and the
accesses made to them, oldest first. -/
structure Driver (σ : Type u) where
  hw : Hw σ
  data : SpiTranData
  txBlock : Memory (BitVec 8)
  rxBlock : Memory (BitVec 8)
  touches : List Touch

/-- The `size` bytes at `start`, lowest first, as a word. -/
def loadWord (memory : Memory (BitVec 8)) (start size : Nat) : BitVec 32 :=
  let byteAt (i : Nat) : BitVec 8 := if i < size then memory (start + i) else 0
  Word.ofBytes (byteAt 0) (byteAt 1) (byteAt 2) (byteAt 3)

/-- The bytes of a word, lowest first. -/
def wordBytes (value : BitVec 32) : Memory (BitVec 8) :=
  fun i => Word.byte value i

/-- The mover for a word size; nothing is installed beyond 32 bits. -/
def moverFor (bitsPerWord : Nat) : Option Mover :=
  if bitsPerWord ≤ 8 then some .u8
  else if bitsPerWord ≤ 16 then some .u16
  else if bitsPerWord ≤ 32 then some .u32
  else none

namespace Driver

variable {σ : Type u}

/-- The driver before any call. -/
def start (hw : Hw σ) : Driver σ :=
  ⟨hw, spiDrvData, fun _ => 0, fun _ => 0, []⟩

/-- The controller and the notes of its accesses are replaced. -/
def setHw (hw : Hw σ) (spi : Driver σ) : Driver σ :=
  { spi with hw := hw }

/-- An access to a buffer is noted. -/
def touch (access : Touch) (spi : Driver σ) : Driver σ :=
  { spi with touches := spi.touches ++ [access] }

/-- The next word to transmit. -/
def nextWord (size : Nat) (spi : Driver σ) : BitVec 32 :=
  loadWord spi.txBlock spi.data.tx size

/-- The effect of reading a word through `tx` and advancing the pointer. -/
def advanceTx (size : Nat) (spi : Driver σ) : Driver σ :=
  { spi with
    data := { spi.data with
      tx := spi.data.tx + size
      txLength := spi.data.txLength - BitVec.ofNat 32 size }
    touches := spi.touches ++ [⟨.tx, spi.data.tx, size⟩] }

/-- The effect of storing a word through `rx` and advancing the pointer. -/
def advanceRx (size : Nat) (value : BitVec 32) (spi : Driver σ) : Driver σ :=
  { spi with
    data := { spi.data with
      rx := spi.data.rx + size
      rxLength := spi.data.rxLength - BitVec.ofNat 32 size }
    rxBlock := spi.rxBlock.copy spi.data.rx (wordBytes value) 0 size
    touches := spi.touches ++ [⟨.rx, spi.data.rx, size⟩] }

/-- Point the transmit side at a buffer. -/
def beginTx (block : Memory (BitVec 8)) (length : BitVec 32) (spi : Driver σ) :
    Driver σ :=
  { spi with
    data := { spi.data with
      tx := 0
      txEnd := length.toNat
      txLength := length }
    txBlock := block }

/-- Point the receive side at a buffer. -/
def beginRx (block : Memory (BitVec 8)) (length : BitVec 32) (spi : Driver σ) :
    Driver σ :=
  { spi with
    data := { spi.data with
      rx := 0
      rxEnd := length.toNat
      rxLength := length }
    rxBlock := block }

/-- Install the reader and the writer for the word size. -/
def install (write read : Mover → Mover) (spi : Driver σ) : Driver σ :=
  match moverFor spi.data.bitsPerWord with
  | some mover =>
      { spi with data := { spi.data with
          write := some (write mover)
          read := some (read mover) } }
  | none => spi

end Driver

variable {σ : Type u} (device : Device σ)

/-- Run a computation on the hardware alone. -/
def onHw {α : Type} (inner : Exec Stop (Hw σ) α) : Exec Stop (Driver σ) α :=
  Exec.zoom Driver.hw Driver.setHw inner

theorem onHw_of_eq {α : Type} {inner : Exec Stop (Hw σ) α} {spi : Driver σ}
    {value : α} {next : Hw σ} (returned : inner spi.hw = (.ok value, next)) :
    onHw inner spi = (.ok value, spi.setHw next) := by
  rw [onHw, Exec.zoom_apply, returned]

/-! ## Readers and writers -/

/-- `null_writer`: a zero is sent. -/
def nullWriter : Exec Stop (Driver σ) Status := do
  let ret ← onHw (checkTxFifo device)
  if ret ≠ .noError then
    pure ret
  else do
    onHw (lpssSpiWrite device Reg.dr 0)
    pure ret

/-- `null_reader`: what arrives is dropped. -/
def nullReader : Exec Stop (Driver σ) Status := do
  let ret ← onHw (checkRxFifo device)
  if ret ≠ .noError then
    pure ret
  else do
    let _ ← onHw (lpssSpiRead device Reg.dr)
    pure ret

/-- The writer of words of `size` bytes. -/
def wordWriter (size : Nat) : Exec Stop (Driver σ) Status := do
  let ret ← onHw (checkTxFifo device)
  if ret ≠ .noError then
    pure ret
  else do
    let word ← Exec.gets (Driver.nextWord size)
    onHw (lpssSpiWrite device Reg.dr word)
    Exec.modify (Driver.advanceTx size)
    pure ret

/-- The reader of words of `size` bytes. -/
def wordReader (size : Nat) : Exec Stop (Driver σ) Status := do
  let ret ← onHw (checkRxFifo device)
  if ret ≠ .noError then
    pure ret
  else do
    let word ← onHw (lpssSpiRead device Reg.dr)
    Exec.modify (Driver.advanceRx size word)
    pure ret

/-- `u8_writer`. -/
def u8Writer : Exec Stop (Driver σ) Status := wordWriter device 1

/-- `u8_reader`. -/
def u8Reader : Exec Stop (Driver σ) Status := wordReader device 1

/-- `u16_writer`. -/
def u16Writer : Exec Stop (Driver σ) Status := wordWriter device 2

/-- `u16_reader`. -/
def u16Reader : Exec Stop (Driver σ) Status := wordReader device 2

/-- `u32_writer`. -/
def u32Writer : Exec Stop (Driver σ) Status := wordWriter device 4

/-- `u32_reader`. -/
def u32Reader : Exec Stop (Driver σ) Status := wordReader device 4

/-- `spi_transfer->write(spi_transfer)`. -/
def write : Exec Stop (Driver σ) Status := do
  let writer ← Exec.gets fun spi => spi.data.write
  match writer with
  | none => Exec.stop .panic
  | some .null => nullWriter device
  | some .u8 => u8Writer device
  | some .u16 => u16Writer device
  | some .u32 => u32Writer device

/-- `spi_transfer->read(spi_transfer)`. -/
def read : Exec Stop (Driver σ) Status := do
  let reader ← Exec.gets fun spi => spi.data.read
  match reader with
  | none => Exec.stop .panic
  | some .null => nullReader device
  | some .u8 => u8Reader device
  | some .u16 => u16Reader device
  | some .u32 => u32Reader device

theorem write_of_null {spi : Driver σ} (installed : spi.data.write = some .null) :
    write device spi = nullWriter device spi := by
  rw [write, Exec.gets_bind_apply, installed]

theorem write_of_u8 {spi : Driver σ} (installed : spi.data.write = some .u8) :
    write device spi = wordWriter device 1 spi := by
  rw [write, Exec.gets_bind_apply, installed]
  rfl

theorem read_of_null {spi : Driver σ} (installed : spi.data.read = some .null) :
    read device spi = nullReader device spi := by
  rw [read, Exec.gets_bind_apply, installed]

theorem read_of_u8 {spi : Driver σ} (installed : spi.data.read = some .u8) :
    read device spi = wordReader device 1 spi := by
  rw [read, Exec.gets_bind_apply, installed]
  rfl

/-! ## Initialisation -/

/-- The control word `spi_init` writes for a word size. -/
def sscr0 (bits : Nat) : BitVec 32 :=
  0x1300 ||| BitVec.ofNat 32 ((if 16 < bits then bits - 16 else bits) - 1) |||
    cr0Sse ||| (if 16 < bits then cr0Edss else 0)

/-- The register writes of `spi_init`: the port is stopped, configured and enabled. -/
def setupRegisters (bits : Nat) : Exec Stop (Hw σ) Unit := do
  lpssSpiWrite device Reg.reset 0x7
  lpssSpiWrite device Reg.clk 0x1003
  lpssSpiWrite device Reg.cr0 0
  lpssSpiWrite device Reg.cr1 0
  let scc ← lpssSpiRead device Reg.cc
  lpssSpiWrite device Reg.cc (scc ||| csControlSwMode)
  lpssSpiWrite device Reg.cr0 (sscr0 bits)

/-- `spi_init`, with words of a byte. -/
def spiInit : Exec Stop (Driver σ) Unit := do
  Exec.modify fun spi =>
    { spi with data := { spi.data with bitsPerWord := 8 } }
  onHw (setupRegisters device 8)

/-! ## Transfers -/

/-- Write one word, then read one; an error of the writer is returned at once. -/
def exchange : Exec Stop (Driver σ) Status := do
  let rc ← write device
  if rc ≠ .noError then
    pure rc
  else
    read device

/-- Exchange words until the cursor meets the end. -/
def transferUntil (done : SpiTranData → Bool) : Nat → Exec Stop (Driver σ) Status
  | 0 => Exec.stop .running
  | bound + 1 => do
      let finished ← Exec.gets fun spi => done spi.data
      if finished then
        pure .noError
      else do
        let rc ← exchange device
        if rc ≠ .noError then
          pure rc
        else
          transferUntil done bound

/-- Exchange a number of words. -/
def transferCount : Nat → Exec Stop (Driver σ) Status
  | 0 => pure .noError
  | totalLength + 1 => do
      let rc ← exchange device
      if rc ≠ .noError then
        pure rc
      else
        transferCount totalLength

/-- Run a transfer with the chip select asserted. -/
def selected (transfer : Exec Stop (Driver σ) Status) :
    Exec Stop (Driver σ) Status := do
  onHw (spiSetCs device true)
  let rc ← transfer
  onHw (spiSetCs device false)
  pure rc

/-- Set up the driver data and run a transfer, unless the bus stays busy. -/
def whenIdle (begin : Driver σ → Driver σ)
    (transfer : Exec Stop (Driver σ) Status) : Exec Stop (Driver σ) Status := do
  let left ← onHw (spiCheckBusy device)
  if left = 0 then
    pure .busy
  else do
    Exec.modify begin
    selected device transfer

/-- `spi_read`; `none` is a null pointer. -/
def spiRead (bound : Nat) (rxBuff : Option (Memory (BitVec 8)))
    (rxBytes : BitVec 32) : Exec Stop (Driver σ) Status :=
  match rxBuff with
  | none => pure .invalidArgs
  | some rx =>
      if rxBytes < 1 then
        pure .invalidArgs
      else
        whenIdle device
          (fun spi => (spi.beginRx rx rxBytes).install (fun _ => .null) id)
          (transferUntil device (fun data => data.rx == data.rxEnd) bound)

/-- `spi_write`; `none` is a null pointer. -/
def spiWrite (bound : Nat) (txBuff : Option (Memory (BitVec 8)))
    (txBytes : BitVec 32) : Exec Stop (Driver σ) Status :=
  match txBuff with
  | none => pure .invalidArgs
  | some tx =>
      if txBytes < 1 then
        pure .invalidArgs
      else
        whenIdle device
          (fun spi => (spi.beginTx tx txBytes).install id fun _ => .null)
          (transferUntil device (fun data => data.tx == data.txEnd) bound)

/-- `spi_writeread`: what is sent comes first, then what is received. -/
def spiWriteread (txBuff : Option (Memory (BitVec 8))) (txBytes : BitVec 32)
    (rxBuff : Option (Memory (BitVec 8))) (rxBytes : BitVec 32) :
    Exec Stop (Driver σ) Status :=
  let totalLength := txBytes + rxBytes
  match rxBuff, txBuff with
  | some rx, some tx =>
      if rxBytes < 1 ∨ txBytes < 1 then
        pure .invalidArgs
      else
        whenIdle device
          (fun spi =>
            ((spi.beginRx rx totalLength).beginTx tx totalLength).install id id)
          (transferCount device totalLength.toNat)
  | _, _ => pure .invalidArgs

/-! ## The life of the driver -/

/-- A call into the driver. -/
inductive Call
  | init
  | read (rxBuff : Option (Memory (BitVec 8))) (rxBytes : BitVec 32)
  | write (txBuff : Option (Memory (BitVec 8))) (txBytes : BitVec 32)
  | writeread (txBuff : Option (Memory (BitVec 8))) (txBytes : BitVec 32)
      (rxBuff : Option (Memory (BitVec 8))) (rxBytes : BitVec 32)

/-- The driver after a call, however it ended. -/
def step (bound : Nat) (spi : Driver σ) : Call → Driver σ
  | .init => (spiInit device spi).2
  | .read rxBuff rxBytes => (spiRead device bound rxBuff rxBytes spi).2
  | .write txBuff txBytes => (spiWrite device bound txBuff txBytes spi).2
  | .writeread txBuff txBytes rxBuff rxBytes =>
      (spiWriteread device txBuff txBytes rxBuff rxBytes spi).2

end SandPlatform.Spi
