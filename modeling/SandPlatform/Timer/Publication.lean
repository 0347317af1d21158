import SandPlatform.Foundation.Run
import SandPlatform.Timer.Backup

/-!
# Timer requests around the end of the boot

What the wall publishes is what the latest request made after the boot asks for.
The end of the boot itself publishes nothing, so a set made before it is not
seen until there is another request.
-/

namespace SandPlatform.Timer

open SandPlatform.Foundation

/-- What happens on the CPU. -/
inductive Event
  | request (request : Request)
  | lkBootComplete

/-- A request, and whether the boot was complete when it was made. -/
structure Made where
  request : Request
  complete : Bool

/-- The boot flag, the timer and the latest request. -/
structure Progress where
  lkBootComplete : Bool
  timer : TimerData
  latest : Option Made

/-- The kernel at its start, with no request. -/
def Progress.start : Progress :=
  ⟨false, TimerData.start, none⟩

/-- A request, or the end of the boot. -/
def step (progress : Progress) : Event → Progress
  | .request request =>
      ⟨progress.lkBootComplete,
        request.perform progress.lkBootComplete progress.timer,
        some ⟨request, progress.lkBootComplete⟩⟩
  | .lkBootComplete => { progress with lkBootComplete := true }

/-- The published state marks the timer as stopped. -/
def BackupTimer.Stopped (published : BackupTimer) : Prop :=
  published.cvNs < published.tvNs ∨ published = ⟨0, 0⟩

/-- The published state is that of the request: as far ahead as the interval, or
stopped. -/
def Request.ReflectedBy (request : Request) (published : BackupTimer) : Prop :=
  match request with
  | .set _ _ interval =>
      published.cvNs.toNat =
        published.tvNs.toNat + interval.val.toNat * 1000000
  | .stop => published.Stopped

/-- The published state is that of the latest request, if there is one. -/
def Reflects (progress : Progress) : Prop :=
  ∀ made ∈ progress.latest,
    made.request.ReflectedBy progress.timer.updateWallCb

/-- A set made before the boot was complete. -/
def Made.Early (made : Made) : Prop :=
  made.complete = false ∧ made.request ≠ .stop

/-- The latest request is an early set. -/
def Forgotten (progress : Progress) : Prop :=
  ∃ made ∈ progress.latest, made.Early

/-! ## What is published -/

/-- Requests made during the boot leave the timer unarmed; the latest request
decides otherwise. -/
structure Settled (progress : Progress) : Prop where
  booting : progress.lkBootComplete = false →
    progress.timer.updateWallCb = ⟨0, 0⟩
  published : ∀ made ∈ progress.latest,
    progress.timer.updateWallCb =
      if made.complete then made.request.asked else ⟨0, 0⟩

theorem settled_start : Settled Progress.start where
  booting _ := rfl
  published made member := by cases member

theorem settled_step {progress : Progress} (settled : Settled progress)
    (event : Event) : Settled (step progress event) := by
  cases event with
  | lkBootComplete =>
      constructor
      · intro booting
        cases booting
      · exact settled.published
  | request request =>
      cases complete : progress.lkBootComplete with
      | true =>
          simp only [step, complete]
          constructor
          · intro booting
            cases booting
          · intro made member
            cases member
            simp
      | false =>
          simp only [step, complete]
          constructor
          · intro _
            simp [settled.booting complete]
          · intro made member
            cases member
            simp [settled.booting complete]

theorem settled_run (events : List Event) :
    Settled (run step Progress.start events) := by
  apply run_of_kept _ events settled_start
  intro progress event settled
  exact settled_step settled event

/-! ## Requests and what they ask for -/

theorem asked_reflected (request : Request) : request.ReflectedBy request.asked := by
  cases request with
  | set callback arg interval =>
      have zero : (0 : BitVec 64).toNat = 0 := rfl
      rw [Request.ReflectedBy, Request.asked, toNat_msToNs, zero, Nat.zero_add]
  | stop =>
      left
      decide

/-- A timer that was never armed is that of a stop and of no set. -/
theorem unarmed_reflected_iff (request : Request) :
    request.ReflectedBy ⟨0, 0⟩ ↔ request = .stop := by
  cases request with
  | set callback arg interval =>
      have positive : 1 ≤ interval.val.toNat := interval.property
      have zero : (0 : BitVec 64).toNat = 0 := rfl
      rw [Request.ReflectedBy, zero]
      constructor
      · intro reflected
        omega
      · intro same
        cases same
  | stop => exact iff_of_true (Or.inr rfl) rfl

/-- The published state is that of the latest request exactly unless that is a set
made before the boot was complete. -/
theorem Settled.reflects_iff {progress : Progress} (settled : Settled progress) :
    Reflects progress ↔ ¬ Forgotten progress := by
  constructor
  · rintro reflects ⟨made, member, early, set⟩
    have reflected := reflects made member
    rw [settled.published made member, early] at reflected
    exact set ((unarmed_reflected_iff made.request).mp reflected)
  · intro kept made member
    rw [settled.published made member]
    cases complete : made.complete with
    | true => exact asked_reflected made.request
    | false =>
        have stop : made.request = .stop := by
          by_contra set
          exact kept ⟨made, member, complete, set⟩
        exact (unarmed_reflected_iff made.request).mpr stop

/-- Such a set leaves the timer as if it had never been armed. -/
theorem Settled.unarmed {progress : Progress} (settled : Settled progress)
    (forgotten : Forgotten progress) : progress.timer.updateWallCb = ⟨0, 0⟩ := by
  obtain ⟨made, member, early, -⟩ := forgotten
  rw [settled.published made member, early]
  rfl

/-- Over every run, at every moment: either the published state is that of the
latest request, or that is a set made before the boot was complete and the timer is
not armed. -/
theorem published_unless_forgotten (events : List Event) :
    (Reflects (run step .start events) ↔ ¬ Forgotten (run step .start events)) ∧
      (Forgotten (run step .start events) →
        (run step .start events).timer.updateWallCb = ⟨0, 0⟩) := by
  have settled := settled_run events
  constructor
  · exact settled.reflects_iff
  · exact settled.unarmed

/-- A timer set to one millisecond before the end of the boot is not armed after
it. -/
theorem set_during_boot_lost :
    ¬ Reflects (run step .start
      [.request (.set (some 0) 0 ⟨1, by decide⟩), .lkBootComplete]) := by
  intro reflects
  have reflected : (0 : Nat) = 0 + 1 * 1000000 := reflects _ rfl
  exact absurd reflected (by decide)

end SandPlatform.Timer
