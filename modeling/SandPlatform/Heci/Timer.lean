import SandPlatform.Hardware.Device

/-!
# Polling with a timeout

`wait_event` polls a predicate until it is positive or until the HPET main
counter has advanced by the timeout.  The loop has no bound of its own, so it
takes a bound on the number of polls; a run that uses it up is still polling.
-/

namespace SandPlatform.Heci

open SandPlatform.Foundation
open SandPlatform.Hardware

universe u

variable {σ : Type u} (device : Device σ)

/-- HPET ticks per millisecond. -/
def cpms : BitVec 32 := 19200

/-- `ClockCycles()`: the low half of the HPET main counter. -/
def clockCycles : Exec Stop (Hw σ) (BitVec 32) :=
  readReg device .hpet .word 0xf0

/-- Clear the comparator of timer 0 and write the configuration word with its
enable bit set.  The last write goes to the upper comparator, as in the
source. -/
def initTimer : Exec Stop (Hw σ) Unit := do
  writeReg device .hpet .word 0x108 0
  writeReg device .hpet .word 0x10c 0
  let reg ← readReg device .hpet .word 0x10
  writeReg device .hpet .word 0x10c (reg ||| 1)

/-- The polling loop: `start` is the counter at entry and `timeout` is in
ticks, with zero meaning no timeout.  A null predicate is never called. -/
def pollLoop (predicate : Option (Exec Stop (Hw σ) Int))
    (start timeout : BitVec 32) : Nat → Exec Stop (Hw σ) Int
  | 0 => Exec.stop .running
  | bound + 1 => do
      let res ← predicate.getD (pure 0)
      if 0 < res then
        pure res
      else if timeout = 0 then
        pollLoop predicate start timeout bound
      else do
        let now ← clockCycles device
        if timeout ≤ now - start then
          pure (-1)
        else
          pollLoop predicate start timeout bound

/-- Poll `predicate` for at most `timeout` milliseconds. -/
def waitEvent (bound : Nat) (timeout : BitVec 32)
    (predicate : Option (Exec Stop (Hw σ) Int)) : Exec Stop (Hw σ) Int := do
  initTimer device
  let start ← clockCycles device
  pollLoop device predicate start (timeout * cpms) bound

/-! ## What a wait leaves alone -/

section Preserves

variable {device} {inv : Hw σ → Prop} {predicate : Exec Stop (Hw σ) Int}
variable (reads : ∀ offset, Exec.Preserves inv (readReg device .hpet .word offset))
variable (predicateKeeps : Exec.Preserves inv predicate)

include reads predicateKeeps in
theorem pollLoop_preserves (start timeout : BitVec 32) (bound : Nat) :
    Exec.Preserves inv (pollLoop device (some predicate) start timeout bound) := by
  induction bound with
  | zero => exact Exec.preserves_stop inv _
  | succ bound ih =>
      refine Exec.preserves_bind predicateKeeps fun res => ?_
      apply Exec.preserves_ite
      · exact Exec.preserves_pure inv res
      · apply Exec.preserves_ite
        · exact ih
        · refine Exec.preserves_bind (reads _) fun now => ?_
          apply Exec.preserves_ite
          · exact Exec.preserves_pure inv _
          · exact ih

include reads predicateKeeps in
/-- What the timer registers and the predicate keep, a wait keeps. -/
theorem waitEvent_preserves
    (writes : ∀ offset value,
      Exec.Preserves inv (writeReg device .hpet .word offset value))
    (bound : Nat) (timeout : BitVec 32) :
    Exec.Preserves inv (waitEvent device bound timeout (some predicate)) := by
  have timer : Exec.Preserves inv (initTimer device) := by
    refine Exec.preserves_bind (writes _ _) fun _ => ?_
    refine Exec.preserves_bind (writes _ _) fun _ => ?_
    exact Exec.preserves_bind (reads _) fun reg => writes _ _
  refine Exec.preserves_bind timer fun _ => ?_
  refine Exec.preserves_bind (reads _) fun start => ?_
  exact pollLoop_preserves reads predicateKeeps start _ bound

end Preserves

/-! ## What a wait returns -/

/-- A wait ends with a positive result of its predicate or with minus one. -/
theorem waitEvent_yields (bound : Nat) (timeout : BitVec 32)
    (predicate : Option (Exec Stop (Hw σ) Int)) :
    Exec.Yields (fun res => res = -1 ∨ 0 < res)
      (waitEvent device bound timeout predicate) := by
  refine Exec.yields_bind fun _ => ?_
  refine Exec.yields_bind fun start => ?_
  induction bound with
  | zero => exact Exec.yields_stop _ _
  | succ bound ih =>
      refine Exec.yields_bind fun res => ?_
      by_cases positive : 0 < res
      · rw [if_pos positive]
        exact Exec.yields_pure (Or.inr positive)
      · rw [if_neg positive]
        apply Exec.yields_ite
        · exact ih
        · refine Exec.yields_bind fun now => ?_
          apply Exec.yields_ite
          · exact Exec.yields_pure (Or.inl rfl)
          · exact ih

end SandPlatform.Heci
