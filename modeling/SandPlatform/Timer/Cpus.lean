import Mathlib.Data.List.Induction
import SandPlatform.Foundation.Run
import SandPlatform.Timer.Backup

/-!
# Timer requests of several CPUs

Every CPU registers a wall item of its own, but there is one backup timer and one
callback behind all of them: what a CPU sees is decided by the latest request of
any CPU.
-/

namespace SandPlatform.Timer

open SandPlatform.Foundation

/-- A request made on a CPU after the boot. -/
structure CpuRequest (smpMaxCpus : Nat) where
  cpu : Fin smpMaxCpus
  request : Request
  deriving DecidableEq

/-- What a CPU sees of the timer: the state its wall item publishes and what a
tick on it calls. -/
structure View where
  published : BackupTimer
  invocation : Option Invocation
  deriving DecidableEq

variable {smpMaxCpus : Nat}

/-- A request of a CPU after the boot. -/
def serve (timer : TimerData) (made : CpuRequest smpMaxCpus) : TimerData :=
  made.request.perform true timer

/-- What a CPU sees now. -/
def viewOf (cpu : Fin smpMaxCpus) (timer : TimerData) : View :=
  ⟨timer.timerWallItem smpMaxCpus cpu, timer.invocation⟩

/-- The requests made on the CPU, in their order. -/
def own (cpu : Fin smpMaxCpus) (requests : List (CpuRequest smpMaxCpus)) :
    List (CpuRequest smpMaxCpus) :=
  requests.filter fun made => made.cpu = cpu

/-! ## The latest request -/

/-- What a tick has to call after a set; a stop leaves that alone. -/
def Request.invocation : Request → Option (Option Invocation)
  | .set callback arg _ => some (callback.map fun callback => ⟨callback, arg⟩)
  | .stop => none

/-- The timer state the latest request asks for. -/
def latestAsked (timer : TimerData) (requests : List (CpuRequest smpMaxCpus)) :
    BackupTimer :=
  (requests.getLast?.map fun made => made.request.asked).getD timer.updateWallCb

/-- What the latest set asks a tick to call. -/
def latestInvocation (timer : TimerData)
    (requests : List (CpuRequest smpMaxCpus)) : Option Invocation :=
  (requests.filterMap fun made => made.request.invocation).getLast?.getD
    timer.invocation

@[simp]
theorem invocation_perform (timer : TimerData) (request : Request) :
    (request.perform true timer).invocation =
      request.invocation.getD timer.invocation := by
  cases request <;> rfl

/-- Every CPU sees the latest request of all. -/
theorem viewOf_run (cpu : Fin smpMaxCpus) (timer : TimerData)
    (requests : List (CpuRequest smpMaxCpus)) :
    viewOf cpu (run serve timer requests) =
      ⟨latestAsked timer requests, latestInvocation timer requests⟩ := by
  induction requests using List.reverseRecOn with
  | nil => rfl
  | append_singleton requests made ih =>
      have invocation : (run serve timer requests).invocation =
          latestInvocation timer requests := congrArg View.invocation ih
      rw [run_snoc, serve, viewOf, TimerData.timerWallItem,
        updateWallCb_perform_complete, invocation_perform, invocation]
      cases asks : made.request.invocation with
      | none => simp [latestAsked, latestInvocation, asks]
      | some invocation => simp [latestAsked, latestInvocation, asks]

/-- After any interleaving a CPU sees what its own requests alone would leave
exactly when the latest request of all asks for the same timer state as its own
latest one, and the latest set for the same call as its own latest set. -/
theorem separated_iff (cpu : Fin smpMaxCpus) (timer : TimerData)
    (requests : List (CpuRequest smpMaxCpus)) :
    viewOf cpu (run serve timer requests) =
        viewOf cpu (run serve timer (own cpu requests)) ↔
      latestAsked timer requests = latestAsked timer (own cpu requests) ∧
        latestInvocation timer requests =
          latestInvocation timer (own cpu requests) := by
  rw [viewOf_run, viewOf_run, View.mk.injEq]

/-- A request of the second CPU disarms the timer of the first. -/
theorem stop_on_other_cpu :
    ¬ ∀ (cpu : Fin 2) (requests : List (CpuRequest 2)),
      viewOf cpu (run serve TimerData.start requests) =
        viewOf cpu (run serve TimerData.start (own cpu requests)) := by
  intro separated
  have seen := separated 0
    [⟨0, .set (some 0) 0 ⟨1, by decide⟩⟩, ⟨1, .stop⟩]
  exact absurd seen (by decide)

end SandPlatform.Timer
