import Mathlib.Algebra.Group.Nat.Defs
import Mathlib.Tactic.Common

/-!
# The platform timer

A timer request leaves its callback in static data and, once the boot is
complete, the time it asks for in the backup timer.  The non-secure world reads
the backup timer through a wall item of each CPU.
-/

namespace SandPlatform.Timer

/-- `backup_timer`, and `struct sec_timer_state` with the same fields. -/
structure BackupTimer where
  tvNs : BitVec 64
  cvNs : BitVec 64
  deriving DecidableEq

/-- `MS_TO_NS`. -/
def msToNs (ms : BitVec 64) : BitVec 64 :=
  ms * 1000000

/-- `TSC_PER_MS`. -/
def tscPerMs : BitVec 64 := 2200000

/-- The static data of the timer; a callback is a function pointer. -/
structure TimerData where
  backTimer : BackupTimer
  timerCurrentTime : BitVec 64
  timerDeltaTime : BitVec 64
  tCallback : Option Nat
  callbackArg : BitVec 64
  deriving DecidableEq

/-- The callback a tick calls and its first argument. -/
structure Invocation where
  callback : Nat
  arg : BitVec 64
  deriving DecidableEq

namespace TimerData

/-- Before any request. -/
def start : TimerData :=
  ⟨⟨0, 0⟩, 0, 0, none, 0⟩

/-- `update_bakcup_timer`: both times are published in nanoseconds. -/
def updateBackupTimer (tv cv : BitVec 64) (timer : TimerData) : TimerData :=
  { timer with backTimer := ⟨msToNs tv, msToNs cv⟩ }

/-- `set_backup_timer`: the current value is the interval. -/
def setBackupTimer (interval : BitVec 64) (timer : TimerData) : TimerData :=
  timer.updateBackupTimer 0 interval

/-- `stop_backup_timer`. -/
def stopBackupTimer (timer : TimerData) : TimerData :=
  timer.updateBackupTimer 1 0

/-- What a wall item receives. -/
def updateWallCb (timer : TimerData) : BackupTimer :=
  ⟨timer.backTimer.tvNs, timer.backTimer.cvNs⟩

/-- `timer_wall_item`: the items of all CPUs have the same callback. -/
def timerWallItem (smpMaxCpus : Nat) (_ : Fin smpMaxCpus) (timer : TimerData) :
    BackupTimer :=
  timer.updateWallCb

/-- The time at a reading of the time stamp counter, in milliseconds. -/
def currentTime (tsc : BitVec 64) (timer : TimerData) : BitVec 32 × TimerData :=
  ((tsc / tscPerMs).setWidth 32, { timer with timerCurrentTime := tsc / tscPerMs })

/-- What a tick calls. -/
def invocation (timer : TimerData) : Option Invocation :=
  timer.tCallback.map fun callback => ⟨callback, timer.callbackArg⟩

/-- `platform_set_oneshot_timer`: the callback is kept, and the interval is published once
the boot is complete. -/
def platformSetOneshotTimer (lkBootComplete : Bool) (callback : Option Nat)
    (arg : BitVec 64) (interval : BitVec 32) (timer : TimerData) : TimerData :=
  let armed := { timer with
    tCallback := callback
    callbackArg := arg
    timerDeltaTime := interval.setWidth 64 }
  if lkBootComplete then
    armed.setBackupTimer (interval.setWidth 64)
  else
    armed

/-- `platform_stop_timer`. -/
def platformStopTimer (lkBootComplete : Bool) (timer : TimerData) : TimerData :=
  if lkBootComplete then
    timer.stopBackupTimer
  else
    timer

end TimerData

/-- The nanoseconds of an interval fit in 64 bits. -/
theorem toNat_msToNs (interval : BitVec 32) :
    (msToNs (interval.setWidth 64)).toNat = interval.toNat * 1000000 := by
  have small := interval.isLt
  have factor : (1000000 : BitVec 64).toNat = 1000000 := rfl
  rw [msToNs, BitVec.toNat_mul, BitVec.toNat_setWidth, factor]
  omega

/-! ## Requests -/

/-- A timer request; an interval is at least one millisecond. -/
inductive Request
  | set (callback : Option Nat) (arg : BitVec 64)
      (interval : { interval : BitVec 32 // 1 ≤ interval })
  | stop
  deriving DecidableEq

/-- What a request does to the timer. -/
def Request.perform (lkBootComplete : Bool) (timer : TimerData) :
    Request → TimerData
  | .set callback arg interval =>
      timer.platformSetOneshotTimer lkBootComplete callback arg interval
  | .stop => timer.platformStopTimer lkBootComplete

/-- The timer state a request asks for, in nanoseconds: the interval ahead, or a
time that has passed. -/
def Request.asked : Request → BackupTimer
  | .set _ _ interval => ⟨0, msToNs (interval.val.setWidth 64)⟩
  | .stop => ⟨msToNs 1, 0⟩

/-- A request made after the boot publishes what it asks for. -/
@[simp]
theorem updateWallCb_perform_complete (timer : TimerData) (request : Request) :
    (request.perform true timer).updateWallCb = request.asked := by
  cases request <;> rfl

/-- A request made before that publishes nothing. -/
@[simp]
theorem updateWallCb_perform_booting (timer : TimerData) (request : Request) :
    (request.perform false timer).updateWallCb = timer.updateWallCb := by
  cases request <;> rfl

end SandPlatform.Timer
