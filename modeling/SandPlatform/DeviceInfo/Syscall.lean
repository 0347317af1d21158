import SandPlatform.DeviceInfo.Permission
import SandPlatform.Hardware.Pci
import SandPlatform.Heci.Keybox

/-!
# The device information system call

`sys_get_device_info` with the keybox path of `copy_attkb_to_user`.  Allocation
results, the contents of allocated blocks and the outcome of user copies come
from the environment and are arbitrary.  The state records what the call copied
out, what it gave back to the allocator and where it read through `g_sec_info`.
-/

namespace SandPlatform.DeviceInfo

open SandPlatform.Foundation
open SandPlatform.Hardware
open SandPlatform.Heci
open SandPlatform.Kernel

universe u

/-! ## Environment and state -/

/-- What the call does not control: the application, the build flag, the blocks
`malloc` and `memalign` hand out, null or with whatever they contain, and the
outcome of a user copy to an address. -/
structure Env where
  uuid : Uuid
  attkbHeci : Bool
  devInfoBlock : Option (Memory (BitVec 8))
  attkbBlock : Option (Memory (BitVec 8))
  copyOut : Nat → Nat → CopyResult

/-- One call of `copy_to_user`: the user address and the cells handed to it. -/
structure UserCopy where
  address : Nat
  cells : List Cell

/-- The hardware with the keybox block, user memory, and the records of copies,
frees and reads through `g_sec_info`, all oldest first. -/
structure Kernel (σ : Type u) where
  download : Download σ
  user : Memory (BitVec 8)
  copies : List UserCopy
  freed : List Freed
  secReads : List (Nat × Nat)

/-- Status codes of the system call. -/
inductive Code
  | noError
  | notAllowed
  | noMemory
  | generic
  deriving DecidableEq

namespace Kernel

variable {σ : Type u}

/-- The state in which a system call begins. -/
def start (hw : Hw σ) (user : Memory (BitVec 8)) : Kernel σ :=
  ⟨Download.start hw fun _ => Cell.zero, user, [], [], []⟩

/-- The device and the notes of its accesses are replaced. -/
def setHw (hw : Hw σ) (kernel : Kernel σ) : Kernel σ :=
  { kernel with download := { kernel.download with hw := hw } }

/-- The state of the download is replaced. -/
def setDownload (download : Download σ) (kernel : Kernel σ) : Kernel σ :=
  { kernel with download := download }

/-- A fresh keybox block. -/
def beginDownload (contents : Memory (BitVec 8)) (kernel : Kernel σ) :
    Kernel σ :=
  kernel.setDownload (Download.start kernel.download.hw (staleBlock contents))

/-- `secure_memzero(attkb, size)`. -/
def wipeAttkb (size : Nat) (kernel : Kernel σ) : Kernel σ :=
  { kernel with download := { kernel.download with
      block := secureMemzero kernel.download.block 0 size } }

/-- `free` of a block with the given contents. -/
def free (size : Nat) (cells : Memory Cell) (kernel : Kernel σ) : Kernel σ :=
  { kernel with freed := kernel.freed ++ [⟨size, cells⟩] }

/-- The block of the keybox goes back to the heap as it is. -/
def freeAttkb (kernel : Kernel σ) : Kernel σ :=
  kernel.free maxAttkbSize kernel.download.block

/-- The effect of `copy_to_user` with the given result. -/
def copyOut (address : Nat) (cells : List Cell) (copied : Nat)
    (kernel : Kernel σ) : Kernel σ :=
  { kernel with
    user := kernel.user.copy address
      (Memory.ofList (cells.map Cell.value) fun _ => 0) 0 (min copied cells.length)
    copies := kernel.copies ++ [⟨address, cells⟩] }

/-- A read of the record of the boot loader is noted. -/
def readSecInfo (start size : Nat) (kernel : Kernel σ) : Kernel σ :=
  { kernel with secReads := kernel.secReads ++ [(start, size)] }

end Kernel

variable {σ : Type u} (device : Device σ) (env : Env) (bound : Nat)

/-- `copy_to_user` of the first `size` cells of a block. -/
def copyToUser (address : Nat) (block : Memory Cell) (size : Nat) :
    Exec Stop (Kernel σ) Int := do
  Exec.modify (Kernel.copyOut address (block.read 0 size)
    (env.copyOut address size).copied)
  pure (env.copyOut address size).status

/-! ## The keybox -/

/-- Copy out a downloaded keybox, wipe it and give its block back. -/
def deliverAttkb (userAttkb attkbSize : Nat) : Exec Stop (Kernel σ) Nat := do
  let block ← Exec.gets fun kernel => kernel.download.block
  let ret ← copyToUser env userAttkb block attkbSize
  Exec.modify (Kernel.wipeAttkb attkbSize)
  if ret ≠ 0 then
    Exec.stop .panic
  else do
    Exec.modify Kernel.freeAttkb
    pure attkbSize

/-- `copy_attkb_to_user`: the keybox is downloaded into a block of the heap, copied to the
user and wiped. -/
def copyAttkbToUser (userAttkb : Nat) : Exec Stop (Kernel σ) Nat :=
  match env.attkbBlock with
  | none => pure 0
  | some contents => do
      Exec.modify (Kernel.beginDownload contents)
      let attkbSize ← Exec.zoom Kernel.download Kernel.setDownload
        (getAttkb device bound false)
      if attkbSize = 0 then do
        Exec.modify Kernel.freeAttkb
        pure 0
      else
        deliverAttkb env userAttkb attkbSize

/-! ## The system call -/

namespace Hfs1

/-- Bit `manuf_mode` of the firmware status. -/
def manufMode (state : BitVec 32) : BitVec 1 := Word.field state 4 1

end Hfs1

/-- The bus of HECI1. -/
def heci1Bus : BitVec 8 := 0

/-- The device number of HECI1. -/
def heci1Dev : BitVec 5 := 15

/-- The function of HECI1. -/
def heci1Func : BitVec 3 := 0

/-- The configuration register that holds the firmware status. -/
def heci1Reg : BitVec 8 := 0x40

/-- `g_sec_info->size_of_this_struct`. -/
def readSizeOfThisStruct (secInfo : Memory (BitVec 8)) :
    Exec Stop (Kernel σ) Nat := do
  Exec.modify (Kernel.readSecInfo SecInfo.sizeOfThisStruct.start
    SecInfo.sizeOfThisStruct.size)
  pure (readU32 secInfo SecInfo.sizeOfThisStruct)

/-- The secure-info block with its provenance. -/
def secInfoCells (secInfo : Memory (BitVec 8)) : Memory Cell :=
  fun i => ⟨secInfo i, .secInfo⟩

/-- Wipe one member. -/
def wipeField (devInfo : Memory Cell) (field : Field) : Memory Cell :=
  secureMemzero devInfo field.start field.size

/-- Wipe the seeds and the RPMB keys unless they are permitted. -/
def withholdSecrets (permission : Permission) (devInfo : Memory Cell) :
    Memory Cell :=
  let seedsWithheld :=
    if ¬ permission.Has Permission.getSeed then
      wipeField (wipeField devInfo SecInfo.dseedList) SecInfo.useedList
    else
      devInfo
  if ¬ permission.Has Permission.getRpmbKey then
    wipeField seedsWithheld SecInfo.rpmbKey
  else
    seedsWithheld

/-- `dev_info->attkb_size = size`. -/
def storeAttkbSize (devInfo : Memory Cell) (size : Nat) : Memory Cell :=
  devInfo.copy attkbSizeField.start (valueCells (BitVec.ofNat 32 size)) 0
    attkbSizeField.size

/-- The value of `attkb_size` for an application that may get the keybox: zero
without the HECI path and in manufacturing mode. -/
def retrieveAttkb (info : Nat) : Exec Stop (Kernel σ) Nat :=
  if env.attkbHeci then do
    let state ← Exec.zoom (fun kernel => kernel.download.hw) Kernel.setHw
      (pciRead32 device heci1Bus heci1Dev heci1Func heci1Reg)
    if Hfs1.manufMode state ≠ 0 then
      pure 0
    else
      copyAttkbToUser device env bound (info + trustyDeviceInfoSize)
  else
    pure 0

/-- Provide the keybox if it is permitted, and wipe its key otherwise. -/
def provideAttkb (permission : Permission) (info : Nat) (devInfo : Memory Cell) :
    Exec Stop (Kernel σ) (Memory Cell) :=
  if permission.Has Permission.getAttkb then do
    let attkbSize ← retrieveAttkb device env bound info
    pure (storeAttkbSize devInfo attkbSize)
  else
    pure (wipeField devInfo SecInfo.attkbEncKey)

/-- Copy the structure out, wipe it and give its block back. -/
def deliverDevInfo (info : Nat) (devInfo : Memory Cell) :
    Exec Stop (Kernel σ) Code := do
  let ret ← copyToUser env info devInfo trustyDeviceInfoSize
  if ret ≠ 0 then
    Exec.stop .panic
  else do
    Exec.modify (Kernel.free trustyDeviceInfoSize
      (secureMemzero devInfo 0 trustyDeviceInfoSize))
    pure .noError

/-- Fill the allocated structure and deliver it. -/
def fillDevInfo (secInfo : Memory (BitVec 8)) (permission : Permission)
    (contents : Memory (BitVec 8)) (info : Nat) : Exec Stop (Kernel σ) Code := do
  let count ← readSizeOfThisStruct secInfo
  let copied := memcpyS (staleBlock contents) 0 deviceSecInfoSize
    (secInfoCells secInfo) 0 count
  Exec.modify (Kernel.readSecInfo 0 (if copied.1 = 0 then count else 0))
  if copied.1 ≠ 0 then do
    Exec.modify (Kernel.free trustyDeviceInfoSize copied.2)
    pure .generic
  else do
    let devInfo ← provideAttkb device env bound permission info
      (withholdSecrets permission copied.2)
    deliverDevInfo env info devInfo

/-- `sys_get_device_info`. -/
def sysGetDeviceInfo (secInfo : Memory (BitVec 8)) (info : Nat) :
    Exec Stop (Kernel σ) Code := do
  let size ← readSizeOfThisStruct secInfo
  if size ≠ deviceSecInfoSize then
    Exec.stop .panic
  else if getTaPermission env.uuid = Permission.getNone then
    pure .notAllowed
  else
    match env.devInfoBlock with
    | none => pure .noMemory
    | some contents =>
        fillDevInfo device env bound secInfo (getTaPermission env.uuid) contents
          info

end SandPlatform.DeviceInfo
