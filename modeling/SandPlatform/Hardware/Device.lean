import SandPlatform.Foundation.Exec

/-!
# The hardware the kernel talks to

A device is any state machine that answers register reads, absorbs register
writes and decides whether a physical page can be mapped.  Quantifying over
devices and their states therefore covers every sequence of values the hardware
can return, including malformed and hostile ones.

`Hw` adds the log of the accesses the kernel made, newest first.
-/

namespace SandPlatform.Hardware

open SandPlatform.Foundation

universe u

/-- Why a run of kernel code has not returned: it is still inside a loop when
the bound on iterations is used up, or it reached `panic`. -/
inductive Stop
  | running
  | panic
  deriving DecidableEq

/-- Size of one register access. -/
inductive Width
  | byte
  | half
  | word
  deriving DecidableEq

/-- The register windows of the platform.  Each mapping of the HECI base
address is a window of its own, named by its virtual address. -/
inductive Window
  | port
  | cse
  | heci (base : Nat)
  | hpet
  | spi
  deriving DecidableEq

/-- One interaction of the kernel with the hardware.  `store` is the kernel
side of a receive: a word read from the device goes to that index of the
message buffer. -/
inductive Access
  | read (window : Window) (width : Width) (offset : Nat) (value : BitVec 32)
  | write (window : Window) (width : Width) (offset : Nat) (value : BitVec 32)
  | map (physical : Nat) (virtual : Option Nat)
  | store (index : Nat) (value : BitVec 32)
  deriving DecidableEq

/-- The hardware as a state machine.  `mapPhysical` is the outcome of
`vmm_alloc_physical`: the virtual address, or nothing on an error status. -/
structure Device (σ : Type u) where
  read : Window → Width → Nat → σ → BitVec 32 × σ
  write : Window → Width → Nat → BitVec 32 → σ → σ
  mapPhysical : Nat → σ → Option Nat × σ

/-- Device state and the accesses made so far, newest first. -/
structure Hw (σ : Type u) where
  device : σ
  log : List Access

variable {σ : Type u} (device : Device σ)

/-- A volatile load from a register. -/
def readReg (window : Window) (width : Width) (offset : Nat) :
    Exec Stop (Hw σ) (BitVec 32) where
  run hw :=
    let answer := device.read window width offset hw.device
    (.ok answer.1,
      { device := answer.2
        log := .read window width offset answer.1 :: hw.log })

/-- A volatile store to a register. -/
def writeReg (window : Window) (width : Width) (offset : Nat)
    (value : BitVec 32) : Exec Stop (Hw σ) Unit where
  run hw :=
    (.ok (),
      { device := device.write window width offset value hw.device
        log := .write window width offset value :: hw.log })

/-- `vmm_alloc_physical` of one page. -/
def vmmAllocPhysical (physical : Nat) : Exec Stop (Hw σ) (Option Nat) where
  run hw :=
    let answer := device.mapPhysical physical hw.device
    (.ok answer.1,
      { device := answer.2
        log := .map physical answer.1 :: hw.log })

theorem readReg_apply (window : Window) (width : Width) (offset : Nat)
    (hw : Hw σ) :
    readReg device window width offset hw =
      (.ok (device.read window width offset hw.device).1,
        { device := (device.read window width offset hw.device).2
          log := .read window width offset
            (device.read window width offset hw.device).1 :: hw.log }) :=
  rfl

theorem writeReg_apply (window : Window) (width : Width) (offset : Nat)
    (value : BitVec 32) (hw : Hw σ) :
    writeReg device window width offset value hw =
      (.ok (),
        { device := device.write window width offset value hw.device
          log := .write window width offset value :: hw.log }) :=
  rfl

theorem vmmAllocPhysical_apply (physical : Nat) (hw : Hw σ) :
    vmmAllocPhysical device physical hw =
      (.ok (device.mapPhysical physical hw.device).1,
        { device := (device.mapPhysical physical hw.device).2
          log := .map physical (device.mapPhysical physical hw.device).1 ::
            hw.log }) :=
  rfl

end SandPlatform.Hardware
