import SandPlatform.Hardware.Device
import SandPlatform.Timer.Backup

/-!
# The interrupt dispatcher and the platform's own handlers

Acknowledging an interrupt and sending it on to the non-secure world are split
between `platform_irq` and the handlers.  Every look into the handler table, every
operation on the local APIC and every handler called are put on record.  A handler
of a driver is arbitrary in what it asks of the local APIC and in what it does to
the rest of the kernel.
-/

namespace SandPlatform.Interrupt

open SandPlatform.Foundation
open SandPlatform.Hardware
open SandPlatform.Timer

/-- The number of entries of the handler table. -/
def intVectors : Nat := 0xFF

/-- `INT_PIT`, the vector of the timer. -/
def intPit : BitVec 8 := 0x31

/-- `INT_RESCH`, the vector of the rescheduling IPI. -/
def intResch : BitVec 8 := 0xF7

/-- `enum handler_return`. -/
inductive HandlerReturn
  | noReschedule
  | reschedule
  deriving DecidableEq

/-- An acknowledgement, an interrupt sent to the own CPU and the switch of
`sm_handle_irq`. -/
inductive ApicOp
  | eoi
  | selfIpi (vector : BitVec 8)
  | handleIrq
  deriving DecidableEq

/-- What the handler of a driver does. -/
structure Effect (σ : Type) where
  ret : HandlerReturn
  ops : List ApicOp
  world : σ

/-- A handler function; a handler of a driver is its effect. -/
inductive IntHandler (σ : Type)
  | osTimerTick
  | x86IpiGenericHandler
  | x86IpiRescheduleHandler
  | driver (body : BitVec 64 → σ → Effect σ)

/-- `struct int_handler_struct`. -/
structure IntHandlerStruct (σ : Type) where
  handler : Option (IntHandler σ)
  arg : BitVec 64

/-- A read of the handler table, an operation of the local APIC, or a handler that runs. -/
inductive Event (σ : Type)
  | lookup (index : Nat)
  | apic (op : ApicOp)
  | ran (handler : IntHandler σ) (arg : BitVec 64)

/-- The kernel around the dispatcher: `sm_handle_irq` and the timer callbacks. -/
structure Kernel (σ : Type) where
  smHandleIrq : σ → HandlerReturn × σ
  callback : Invocation → BitVec 32 → σ → HandlerReturn × σ

/-- An interrupt: its vector, whether the local APIC has it in service, so that
it is not a software interrupt, and the time stamp counter. -/
structure Frame where
  vector : BitVec 8
  inService : Bool
  tsc : BitVec 64

/-- The static data the handlers share.  The handler table is followed by
whatever is behind it in memory. -/
structure Machine (σ : Type) where
  lkBootComplete : Bool
  intHandlerTable : Nat → IntHandlerStruct σ
  timer : TimerData
  world : σ
  events : List (Event σ)

namespace Machine

variable {σ : Type}

/-- One more event. -/
def note (event : Event σ) (machine : Machine σ) : Machine σ :=
  { machine with events := machine.events ++ [event] }

/-- The entry of a vector. -/
def entry (vector : BitVec 8) (machine : Machine σ) : IntHandlerStruct σ :=
  machine.intHandlerTable vector.toNat

/-- An entry of the handler table is assigned. -/
def setHandler (vector : Nat) (handler : Option (IntHandler σ)) (arg : BitVec 64)
    (machine : Machine σ) : Machine σ :=
  { machine with
    intHandlerTable := fun i =>
      if i = vector then ⟨handler, arg⟩ else machine.intHandlerTable i }

/-- `set_lk_boot_complete`. -/
def setLkBootComplete (machine : Machine σ) : Machine σ :=
  { machine with lkBootComplete := true }

end Machine

variable {σ : Type} (kernel : Kernel σ)

/-! ## The local APIC -/

/-- `lapic_eoi`. -/
def lapicEoi : Exec Stop (Machine σ) Unit :=
  Exec.modify (Machine.note (.apic .eoi))

/-- `send_self_ipi`. -/
def sendSelfIpi (vector : BitVec 8) : Exec Stop (Machine σ) Unit :=
  Exec.modify (Machine.note (.apic (.selfIpi vector)))

/-- `FW_INT_TO_NS`. -/
def fwIntToNs (vector : BitVec 8) : Exec Stop (Machine σ) Unit := do
  lapicEoi
  sendSelfIpi vector

/-- `sm_handle_irq`, which hands the interrupt to the other world; the kernel answers it. -/
def smHandleIrq : Exec Stop (Machine σ) HandlerReturn where
  run machine :=
    let answer := kernel.smHandleIrq machine.world
    (.ok answer.1,
      { machine.note (.apic .handleIrq) with world := answer.2 })

/-! ## Handlers -/

/-- Call the timer callback with the current time. -/
def callTimer (tsc : BitVec 64) (invocation : Invocation) :
    Exec Stop (Machine σ) HandlerReturn where
  run machine :=
    let now := machine.timer.currentTime tsc
    let answer := kernel.callback invocation now.1 machine.world
    (.ok answer.1, { machine with timer := now.2, world := answer.2 })

/-- `os_timer_tick`: an interrupt that is in service belongs to the other world, any other
is a tick. -/
def osTimerTick (frame : Frame) : Exec Stop (Machine σ) HandlerReturn := do
  if frame.inService then do
    fwIntToNs intPit
    smHandleIrq kernel
  else do
    let called ← Exec.gets fun machine : Machine σ => machine.timer.invocation
    match called with
    | none => pure .noReschedule
    | some invocation => callTimer kernel frame.tsc invocation

/-- `x86_ipi_generic_handler`. -/
def x86IpiGenericHandler : Exec Stop (Machine σ) HandlerReturn :=
  pure .noReschedule

/-- `x86_ipi_reschedule_handler`. -/
def x86IpiRescheduleHandler : Exec Stop (Machine σ) HandlerReturn := do
  lapicEoi
  let complete ← Exec.gets fun machine : Machine σ => machine.lkBootComplete
  if complete then do
    sendSelfIpi intResch
    smHandleIrq kernel
  else
    pure .reschedule

/-- The handler of a driver. -/
def driverHandler (body : BitVec 64 → σ → Effect σ) (arg : BitVec 64) :
    Exec Stop (Machine σ) HandlerReturn where
  run machine :=
    let effect := body arg machine.world
    (.ok effect.ret,
      { machine with
        world := effect.world
        events := machine.events ++ effect.ops.map .apic })

/-- A call through the pointer of an entry. -/
def callHandler (handler : IntHandler σ) (frame : Frame) (arg : BitVec 64) :
    Exec Stop (Machine σ) HandlerReturn :=
  match handler with
  | .osTimerTick => osTimerTick kernel frame
  | .x86IpiGenericHandler => x86IpiGenericHandler
  | .x86IpiRescheduleHandler => x86IpiRescheduleHandler kernel
  | .driver body => driverHandler body arg

/-! ## The dispatcher -/

/-- `int_handler_table[vector]`. -/
def lookup (vector : BitVec 8) : Exec Stop (Machine σ) (IntHandlerStruct σ) where
  run machine :=
    (.ok (machine.entry vector), machine.note (.lookup vector.toNat))

/-- `platform_irq`, which reads the entry of the vector twice. -/
def platformIrq (frame : Frame) : Exec Stop (Machine σ) HandlerReturn := do
  let complete ← Exec.gets fun machine : Machine σ => machine.lkBootComplete
  if complete then do
    let entry ← lookup frame.vector
    match entry.handler with
    | some handler => do
        let called ← lookup frame.vector
        Exec.modify (Machine.note (.ran handler called.arg))
        callHandler kernel handler frame called.arg
    | none => do
        fwIntToNs frame.vector
        smHandleIrq kernel
  else do
    lapicEoi
    pure .noReschedule

/-- `register_int_handler`. -/
def registerIntHandler (vector : Nat) (handler : Option (IntHandler σ))
    (arg : BitVec 64) : Exec Stop (Machine σ) Unit :=
  if intVectors ≤ vector then
    Exec.stop .panic
  else
    Exec.modify (Machine.setHandler vector handler arg)

end SandPlatform.Interrupt
