import SandPlatform.Foundation.Word
import SandPlatform.Foundation.Memory
import SandPlatform.Hardware.Device

/-!
# The early console

Characters are kept in a ring until the base address of the UART is known and
are sent from the ring afterwards.  The characters put and the bytes sent are
recorded next to the static data of the source.
-/

namespace SandPlatform.Debug

open SandPlatform.Foundation
open SandPlatform.Hardware

universe u

/-! ## Registers -/

/-- How the build reaches the UART: `PRINT_USE_MMIO`, `PRINT_USE_IO_PORT` with
its `TARGET_SERIAL_IO_BASE`, or not at all. -/
inductive Build
  | mmio
  | ioPort (base : BitVec 64)
  | silent

/-- Where a register is. -/
inductive Place
  | memory (address : BitVec 64)
  | port (number : BitVec 16)

/-- The UART as a state machine. -/
structure Uart (σ : Type u) where
  read : Place → σ → BitVec 8 × σ
  write : Place → BitVec 8 → σ → σ

/-- Transmit holding register. -/
def uartRegisterThr : BitVec 32 := 0

/-- Line status register. -/
def uartRegisterLsr : BitVec 32 := 5

/-- Bit `thre` of `uart_lsr_t`. -/
def thre (data : BitVec 8) : Bool :=
  data.getLsbD 5

/-- The place of a register: four bytes apart in memory, adjacent ports
otherwise. -/
def place (build : Build) (baseAddr : BitVec 64) (regId : BitVec 32) : Place :=
  match build with
  | .mmio => .memory (baseAddr + regId.setWidth 64 * 4)
  | _ => .port (baseAddr.setWidth 16 + regId.setWidth 16)

/-! ## The ring of early characters -/

/-- `BUF_SIZE`, the bytes of the ring. -/
def bufSize : Nat := 4096

/-- What was put and what was sent when a call returned that found the base
address available; `buffered` characters had been put before it was. -/
structure Checkpoint where
  put : List (BitVec 8)
  buffered : Nat
  sent : List (BitVec 8)

/-- The static data of the console and the UART.  `put` are the characters given
to `uart_putc`, the first `buffered` of them without a base address, and `sent`
the bytes written to the transmit register, all oldest first. -/
structure Console (σ : Type u) where
  uartEarlyBuf : Memory (BitVec 8)
  putIdx : Nat
  getIdx : Nat
  mmioBaseAddr : BitVec 64
  device : σ
  put : List (BitVec 8)
  buffered : Nat
  sent : List (BitVec 8)
  checkpoints : List Checkpoint

namespace Console

variable {σ : Type u}

/-- The console before the first character. -/
def start (device : σ) : Console σ :=
  ⟨fun _ => 0, 0, 0, 0, device, [], 0, [], []⟩

/-- The next slot of the ring. -/
def advance (idx : Nat) : Nat :=
  (idx + 1) % bufSize

/-- Store a character, over the oldest one if the ring is full. -/
def store (c : BitVec 8) (console : Console σ) : Console σ :=
  { console with
    uartEarlyBuf := console.uartEarlyBuf.fill (advance console.putIdx) 1 c
    putIdx := advance console.putIdx
    getIdx := if advance console.putIdx = console.getIdx then
        advance console.getIdx else console.getIdx
    put := console.put ++ [c] }

/-- The condition that ends the loop of `uart_putc`. -/
def drained (console : Console σ) : Bool :=
  console.putIdx == console.getIdx

/-- The character `get_idx` points to. -/
def oldest (console : Console σ) : BitVec 8 :=
  console.uartEarlyBuf console.getIdx

/-- Move `get_idx` on. -/
def skip (console : Console σ) : Console σ :=
  { console with getIdx := advance console.getIdx }

/-- The base address, once there is one. -/
def ioBase (build : Build) (console : Console σ) : Option (BitVec 64) :=
  match build with
  | .mmio => if console.mmioBaseAddr = 0 then none else some console.mmioBaseAddr
  | .ioPort base => some base
  | .silent => none

/-- All that was put so far is in the ring now. -/
def noteBuffered (console : Console σ) : Console σ :=
  { console with buffered := console.put.length }

/-- A call returns that found the base. -/
def noteSent (console : Console σ) : Console σ :=
  { console with
    checkpoints := console.checkpoints ++
      [⟨console.put, console.buffered, console.sent⟩] }

/-- `mmio_base_addr` is assigned. -/
def setBase (base : BitVec 64) (console : Console σ) : Console σ :=
  { console with mmioBaseAddr := base }

end Console

variable {σ : Type u} (uart : Uart σ) (build : Build)

/-! ## Putting a character -/

/-- `io_get_reg`. -/
def ioGetReg (baseAddr : BitVec 64) (regId : BitVec 32) :
    Exec Stop (Console σ) (BitVec 8) where
  run console :=
    let answer := uart.read (place build baseAddr regId) console.device
    (.ok answer.1, { console with device := answer.2 })

/-- The transmit register is the only one the console writes. -/
def ioSetThr (baseAddr : BitVec 64) (val : BitVec 8) :
    Exec Stop (Console σ) Unit where
  run console :=
    (.ok (),
      { console with
        device := uart.write (place build baseAddr uartRegisterThr) val console.device
        sent := console.sent ++ [val] })

/-- Poll until the transmit register is empty. -/
def waitThre (baseAddr : BitVec 64) : Nat → Exec Stop (Console σ) Unit
  | 0 => Exec.stop .running
  | bound + 1 => do
      let lsr ← ioGetReg uart build baseAddr uartRegisterLsr
      if thre lsr then
        pure ()
      else
        waitThre baseAddr bound

/-- Send the characters from `get_idx` on until it meets `put_idx`. -/
def drain (bound : Nat) (baseAddr : BitVec 64) : Nat → Exec Stop (Console σ) Unit
  | 0 => Exec.stop .running
  | rounds + 1 => do
      let finished ← Exec.gets Console.drained
      if finished then
        pure ()
      else do
        waitThre uart build baseAddr bound
        let c ← Exec.gets Console.oldest
        ioSetThr uart build baseAddr c
        Exec.modify Console.skip
        drain bound baseAddr rounds

/-- `uart_putc`: the character goes into the ring, and all that is in it to the UART if the
base is known. -/
def uartPutc (bound : Nat) (c : BitVec 8) : Exec Stop (Console σ) Unit :=
  match build with
  | .silent => pure ()
  | build => do
      Exec.modify (Console.store c)
      let base ← Exec.gets (Console.ioBase build)
      match base with
      | none => Exec.modify Console.noteBuffered
      | some base => do
          drain uart build bound base bound
          Exec.modify Console.noteSent

/-- `platform_dputc`: a line feed becomes two characters, and nothing is put while a print
callback is registered. -/
def platformDputc (bound : Nat) (havingPrintCb : Int) (c : BitVec 8) :
    Exec Stop (Console σ) Unit :=
  if havingPrintCb ≠ 0 then
    pure ()
  else if c = 0x0A then do
    uartPutc uart build bound 0x0D
    uartPutc uart build bound c
  else
    uartPutc uart build bound c

/-! ## The base address -/

/-- `KERNEL_ASPACE_BASE`, the bottom of the upper 512 GiB. -/
def kernelAspaceBase : BitVec 64 := 0xFFFFFF8000000000

/-- `init_uart` of a build that maps the UART; `bar` is what
`pci_read32` returns for the base address register. -/
def initUart (bound : Nat) (bar : BitVec 32) : Exec Stop (Console σ) Unit :=
  match build with
  | .mmio => do
      Exec.modify (Console.setBase
        (kernelAspaceBase + (bar &&& ~~~0xF).setWidth 64))
      uartPutc uart .mmio bound 0x0A
  | _ => pure ()

/-- `uart_remap` of such a build; nothing is mapped when
`vmm_alloc_physical` fails. -/
def uartRemap (mapped : Option { address : BitVec 64 // address ≠ 0 }) :
    Exec Stop (Console σ) Unit :=
  match build, mapped with
  | .mmio, some address => Exec.modify (Console.setBase address)
  | _, _ => pure ()

/-! ## Runs -/

/-- What happens to the console, with no print callback registered. -/
inductive Event
  | dputc (c : BitVec 8)
  | init (bar : BitVec 32)
  | remap (mapped : Option { address : BitVec 64 // address ≠ 0 })

/-- One event of the console, as the boot makes them. -/
def perform (bound : Nat) : Event → Exec Stop (Console σ) Unit
  | .dputc c => platformDputc uart build bound 0 c
  | .init bar => initUart uart build bound bar
  | .remap mapped => uartRemap build mapped

/-- A run ends with the first event that does not return. -/
def performAll (bound : Nat) : List Event → Exec Stop (Console σ) Unit
  | [] => pure ()
  | event :: rest => do
      perform uart build bound event
      performAll bound rest

end SandPlatform.Debug
