import SandPlatform.Kernel.Heap
import SandPlatform.Spi.Driver

/-!
# The SPI system calls

`sys_trusty_spi_writeread`: two kernel buffers of `tx_bytes + rx_bytes` bytes, a
user copy into the first, a transfer and a user copy out of the second.  The other
two have one buffer and one user copy each.
-/

namespace SandPlatform.Spi

open SandPlatform.Foundation
open SandPlatform.Hardware
open SandPlatform.Kernel

universe u

/-- What the call does not control: the two blocks `malloc` hands out, null or
with whatever they contain, and the outcome of a user copy of some bytes at some
address. -/
structure Env where
  krxBuf : Option (Memory (BitVec 8))
  ktxBuf : Option (Memory (BitVec 8))
  copyIn : Nat → Nat → CopyResult
  copyOut : Nat → Nat → CopyResult

/-- The driver, user memory and the buffers given back, oldest first. -/
structure Kernel (σ : Type u) where
  spi : Driver σ
  user : Memory (BitVec 8)
  freed : List Buffer

/-- The code of a user copy that returned `status`. -/
def Status.ofCopy (status : Int) : Status :=
  if status = 0 then .noError else .fault status

namespace Kernel

variable {σ : Type u}

/-- The state in which a system call begins: nothing on record yet. -/
def start (spi : Driver σ) (user : Memory (BitVec 8)) : Kernel σ :=
  ⟨{ spi with touches := [] }, user, []⟩

/-- The driver is replaced. -/
def setSpi (spi : Driver σ) (kernel : Kernel σ) : Kernel σ :=
  { kernel with spi := spi }

/-- The kernel accesses a buffer itself. -/
def touch (access : Touch) (kernel : Kernel σ) : Kernel σ :=
  kernel.setSpi (kernel.spi.touch access)

/-- A buffer goes back to the heap. -/
def free (buffer : Buffer) (kernel : Kernel σ) : Kernel σ :=
  { kernel with freed := kernel.freed ++ [buffer] }

/-- The effect of copying `size` bytes of the receive buffer to the user. -/
def storeUser (address start size : Nat) (kernel : Kernel σ) : Kernel σ :=
  { kernel with user := kernel.user.copy address kernel.spi.rxBlock start size }

end Kernel

variable {σ : Type u} (device : Device σ) (env : Env)

/-- `copy_from_user` to the start of the transmit buffer.  The caller goes on
whatever the copy returns, so the result is the buffer alone. -/
def copyFromUser (ktxBuf : Memory (BitVec 8)) (address size : Nat) :
    Exec Stop (Kernel σ) (Memory (BitVec 8)) := do
  let copied := min (env.copyIn address size).copied size
  let user ← Exec.gets fun kernel => kernel.user
  Exec.modify (Kernel.touch ⟨.tx, 0, copied⟩)
  pure (ktxBuf.copy 0 user address copied)

/-- `copy_to_user` from an offset of the receive buffer. -/
def copyToUser (address start size : Nat) : Exec Stop (Kernel σ) Status := do
  let copied := min (env.copyOut address size).copied size
  Exec.modify (Kernel.touch ⟨.rx, start, copied⟩)
  Exec.modify (Kernel.storeUser address start copied)
  pure (Status.ofCopy (env.copyOut address size).status)

/-- Copy out what was received, unless the transfer failed. -/
def returnReceived (ret : Status) (txBytes : BitVec 32) (rxBuff : Nat)
    (rxBytes : BitVec 32) : Exec Stop (Kernel σ) Status :=
  if ret ≠ .noError then
    pure ret
  else
    copyToUser env (rxBuff + txBytes.toNat) txBytes.toNat rxBytes.toNat

/-- The call once both buffers are there. -/
def exchangeBuffers (krxBuf ktxBuf : Memory (BitVec 8)) (txBuff : Nat)
    (txBytes : BitVec 32) (rxBuff : Nat) (rxBytes : BitVec 32) :
    Exec Stop (Kernel σ) Status := do
  let ktxBuf ← copyFromUser env ktxBuf txBuff txBytes.toNat
  let ret ← Exec.zoom Kernel.spi Kernel.setSpi
    (spiWriteread device (some ktxBuf) txBytes (some krxBuf) rxBytes)
  let ret ← returnReceived env ret txBytes rxBuff rxBytes
  Exec.modify (Kernel.free .tx)
  Exec.modify (Kernel.free .rx)
  pure ret

/-- `sys_trusty_spi_writeread`: both buffers are allocated first. -/
def sysTrustySpiWriteread (txBuff : Nat) (txBytes : BitVec 32) (rxBuff : Nat)
    (rxBytes : BitVec 32) : Exec Stop (Kernel σ) Status :=
  match env.krxBuf with
  | none => pure .noMemory
  | some krxBuf =>
      match env.ktxBuf with
      | none => do
          Exec.modify (Kernel.free .rx)
          pure .noMemory
      | some ktxBuf =>
          exchangeBuffers device env krxBuf ktxBuf txBuff txBytes rxBuff rxBytes

/-- `copy_to_user`, unless the transfer failed. -/
def unlessFailed (ret : Status) (address start size : Nat) :
    Exec Stop (Kernel σ) Status :=
  if ret ≠ .noError then
    pure ret
  else
    copyToUser env address start size

/-- `sys_trusty_spi_read` once the buffer is there. -/
def readBuffer (bound : Nat) (buf : Memory (BitVec 8)) (rxBuff : Nat)
    (rxBytes : BitVec 32) : Exec Stop (Kernel σ) Status := do
  let ret ← Exec.zoom Kernel.spi Kernel.setSpi (spiRead device bound (some buf) rxBytes)
  let ret ← unlessFailed env ret rxBuff 0 rxBytes.toNat
  Exec.modify (Kernel.free .rx)
  pure ret

/-- `sys_trusty_spi_read`. -/
def sysTrustySpiRead (bound rxBuff : Nat) (rxBytes : BitVec 32) :
    Exec Stop (Kernel σ) Status :=
  match env.krxBuf with
  | none => pure .noMemory
  | some buf => readBuffer device env bound buf rxBuff rxBytes

/-- `sys_trusty_spi_write` once the buffer is there. -/
def writeBuffer (bound : Nat) (buf : Memory (BitVec 8)) (txBuff : Nat)
    (txBytes : BitVec 32) : Exec Stop (Kernel σ) Status := do
  let buf ← copyFromUser env buf txBuff txBytes.toNat
  let ret ← Exec.zoom Kernel.spi Kernel.setSpi (spiWrite device bound (some buf) txBytes)
  Exec.modify (Kernel.free .tx)
  pure ret

/-- `sys_trusty_spi_write`. -/
def sysTrustySpiWrite (bound txBuff : Nat) (txBytes : BitVec 32) :
    Exec Stop (Kernel σ) Status :=
  match env.ktxBuf with
  | none => pure .noMemory
  | some buf => writeBuffer device env bound buf txBuff txBytes

/-! ## The three calls -/

/-- A system call, with its user addresses and sizes. -/
inductive SpiCall
  | read (rxBuff : Nat) (rxBytes : BitVec 32)
  | write (txBuff : Nat) (txBytes : BitVec 32)
  | writeread (txBuff : Nat) (txBytes : BitVec 32) (rxBuff : Nat) (rxBytes : BitVec 32)
  deriving DecidableEq

/-- What a system call does. -/
def SpiCall.perform (bound : Nat) : SpiCall → Exec Stop (Kernel σ) Status
  | .read rxBuff rxBytes => sysTrustySpiRead device env bound rxBuff rxBytes
  | .write txBuff txBytes => sysTrustySpiWrite device env bound txBuff txBytes
  | .writeread txBuff txBytes rxBuff rxBytes =>
      sysTrustySpiWriteread device env txBuff txBytes rxBuff rxBytes

end SandPlatform.Spi
