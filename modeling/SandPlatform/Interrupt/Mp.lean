import SandPlatform.Interrupt.Dispatch

/-!
# Reschedule interrupts between the CPUs

CPUs send, take interrupts and complete the boot in any order.  A sender tests
whether the boot is complete before it asks the local APIC for an interrupt, and
other CPUs may act between the two.  The dispatcher needs no such distinction: once
its own test has found the boot complete, it stays complete.
-/

namespace SandPlatform.Interrupt

open SandPlatform.Foundation
open SandPlatform.Hardware
open SandPlatform.Timer

/-- What the local APICs and the architecture layer know of the CPUs. -/
structure Topology (smpMaxCpus : Nat) where
  mpCpuAllButLocal : BitVec 32
  getLapicId : BitVec 32 → BitVec 32
  lapicId : Fin smpMaxCpus → BitVec 32

/-- All CPUs but the sender, or the one with a given local APIC. -/
inductive Destination
  | excludingSelf
  | lapic (id : BitVec 32)
  deriving DecidableEq

/-- The calls of `send_reschedule_ipi` a CPU has still to make, and the one it has
made that has found the boot incomplete. -/
structure Sender where
  calls : List (BitVec 32)
  tested : Option (BitVec 32)

/-- An IPI that was sent, and whether the boot was complete by then. -/
structure Issued (smpMaxCpus : Nat) where
  sender : Fin smpMaxCpus
  destination : Destination
  complete : Bool

/-- A delivered interrupt, what `platform_irq` returned for it and what it asked
of the local APIC. -/
structure Delivered (smpMaxCpus : Nat) where
  cpu : Fin smpMaxCpus
  answer : Except Stop HandlerReturn
  ops : List ApicOp

/-- The CPUs share the machine.  Interrupts in flight are known by the CPU they
will be delivered to. -/
structure System (σ : Type) (smpMaxCpus : Nat) where
  machine : Machine σ
  panicked : Bool
  sender : Fin smpMaxCpus → Sender
  issued : List (Issued smpMaxCpus)
  inFlight : List (Fin smpMaxCpus)
  delivered : List (Delivered smpMaxCpus)

/-- What the CPUs do.  Only `arch_mp_init_percpu` registers a handler for
reschedule interrupts. -/
inductive MpAction (σ : Type) (smpMaxCpus : Nat)
  | archMpInitPercpu
  | register (made : Registration σ) (other : made.vector ≠ intResch.toNat)
  | archMpSendIpi (cpu : Fin smpMaxCpus) (target : BitVec 32)
  | test (cpu : Fin smpMaxCpus)
  | issue (cpu : Fin smpMaxCpus)
  | deliver (index : Nat) (tsc : BitVec 64)
  | interrupt (frame : Frame)
  | lkBootComplete

variable {σ : Type} {smpMaxCpus : Nat}

namespace Topology

variable (topology : Topology smpMaxCpus)

/-- `arch_mp_send_ipi`, as the calls of `send_reschedule_ipi` it makes. -/
def archMpSendIpi (target : BitVec 32) : List (BitVec 32) :=
  if topology.mpCpuAllButLocal = target then
    [topology.mpCpuAllButLocal]
  else
    ((List.range smpMaxCpus).filter fun cpuId => target.getLsbD cpuId).map (.ofNat 32)

/-- Where `send_reschedule_ipi` sends. -/
def destination (cpuid : BitVec 32) : Destination :=
  if 0xFFFFFFFF = cpuid then .excludingSelf else .lapic (topology.getLapicId cpuid)

/-- The CPUs an interrupt is delivered to. -/
def receivers (sender : Fin smpMaxCpus) (destination : Destination) :
    List (Fin smpMaxCpus) :=
  (List.finRange smpMaxCpus).filter fun cpu =>
    match destination with
    | .excludingSelf => cpu ≠ sender
    | .lapic id => topology.lapicId cpu = id

end Topology

namespace System

variable (kernel : Kernel σ) (topology : Topology smpMaxCpus)

/-- No CPU has sent anything. -/
def start (timer : TimerData) (behind : Nat → IntHandlerStruct σ) (world : σ) :
    System σ smpMaxCpus where
  machine := (History.start behind timer world).machine
  panicked := false
  sender _ := ⟨[], none⟩
  issued := []
  inFlight := []
  delivered := []

/-- Register a handler; a vector outside the table is a panic. -/
def register (made : Registration σ) (system : System σ smpMaxCpus) :
    System σ smpMaxCpus :=
  match registerIntHandler made.vector made.handler made.arg system.machine with
  | (.ok (), machine) => { system with machine := machine }
  | (.error _, machine) => { system with machine := machine, panicked := true }

theorem register_machine (made : Registration σ) (system : System σ smpMaxCpus) :
    (system.register made).machine =
      (registerIntHandler made.vector made.handler made.arg system.machine).2 := by
  rw [register]
  split <;> simp [*]

theorem register_issued (made : Registration σ) (system : System σ smpMaxCpus) :
    (system.register made).issued = system.issued := by
  rw [register]
  split <;> rfl

theorem register_delivered (made : Registration σ) (system : System σ smpMaxCpus) :
    (system.register made).delivered = system.delivered := by
  rw [register]
  split <;> rfl

/-- What a CPU has still to send. -/
def setSender (cpu : Fin smpMaxCpus) (sender : Sender)
    (system : System σ smpMaxCpus) : System σ smpMaxCpus :=
  { system with sender := Function.update system.sender cpu sender }

/-- The test at the start of `send_reschedule_ipi`. -/
def test (cpu : Fin smpMaxCpus) (system : System σ smpMaxCpus) :
    System σ smpMaxCpus :=
  match system.sender cpu with
  | ⟨cpuid :: calls, none⟩ =>
      if system.machine.lkBootComplete then
        system.setSender cpu ⟨calls, none⟩
      else
        system.setSender cpu ⟨calls, some cpuid⟩
  | _ => system

/-- The rest of `send_reschedule_ipi` after the test. -/
def issue (cpu : Fin smpMaxCpus) (system : System σ smpMaxCpus) :
    System σ smpMaxCpus :=
  match system.sender cpu with
  | ⟨calls, some cpuid⟩ =>
      let destination := topology.destination cpuid
      { system.setSender cpu ⟨calls, none⟩ with
        issued := system.issued ++
          [⟨cpu, destination, system.machine.lkBootComplete⟩]
        inFlight := system.inFlight ++ topology.receivers cpu destination }
  | _ => system

/-- Deliver an interrupt in flight to its CPU. -/
def deliver (index : Nat) (tsc : BitVec 64) (system : System σ smpMaxCpus) :
    System σ smpMaxCpus :=
  match system.inFlight[index]? with
  | some cpu =>
      let outcome := platformIrq kernel ⟨intResch, true, tsc⟩
        { system.machine with events := [] }
      { system with
        machine := outcome.2
        inFlight := system.inFlight.eraseIdx index
        delivered := system.delivered ++
          [⟨cpu, outcome.1, apicOps outcome.2.events⟩] }
  | none => system

/-- One action while no CPU has panicked. -/
def perform (system : System σ smpMaxCpus) :
    MpAction σ smpMaxCpus → System σ smpMaxCpus
  | .archMpInitPercpu =>
      system.register ⟨intResch.toNat, some .x86IpiRescheduleHandler, 0⟩
  | .register made _ => system.register made
  | .archMpSendIpi cpu target =>
      let sender := system.sender cpu
      system.setSender cpu
        { sender with calls := sender.calls ++ topology.archMpSendIpi target }
  | .test cpu => system.test cpu
  | .issue cpu => system.issue topology cpu
  | .deliver index tsc => system.deliver kernel index tsc
  | .interrupt frame =>
      { system with machine := (platformIrq kernel frame system.machine).2 }
  | .lkBootComplete => { system with machine := system.machine.setLkBootComplete }

/-- After a panic nothing happens any more. -/
def step (system : System σ smpMaxCpus) (action : MpAction σ smpMaxCpus) :
    System σ smpMaxCpus :=
  if system.panicked then system else system.perform kernel topology action

theorem step_of_panicked {system : System σ smpMaxCpus}
    (action : MpAction σ smpMaxCpus) (panicked : system.panicked = true) :
    system.step kernel topology action = system :=
  if_pos panicked

theorem step_of_running {system : System σ smpMaxCpus}
    (action : MpAction σ smpMaxCpus) (running : system.panicked = false) :
    system.step kernel topology action = system.perform kernel topology action := by
  simp [step, running]

end System

/-! ## What is wanted -/

/-- The CPU reschedules, and nothing is handed to the non-secure world. -/
structure Delivered.Rescheduled (delivered : Delivered smpMaxCpus) : Prop where
  answer : delivered.answer = .ok .reschedule
  handleIrq : .handleIrq ∉ delivered.ops
  selfIpi : ∀ vector, .selfIpi vector ∉ delivered.ops

/-- Every rescheduling IPI was sent during the boot and led to a reschedule. -/
structure System.Reschedules (system : System σ smpMaxCpus) : Prop where
  delivered : ∀ delivered ∈ system.delivered, delivered.Rescheduled
  issued : ∀ issued ∈ system.issued, issued.complete = false

/-- No interrupt in flight is delivered, and the boot is not completed between the
test of a sender and the interrupt it sends. -/
def Undelivered (system : System σ smpMaxCpus) : MpAction σ smpMaxCpus → Prop
  | .deliver index _ => system.panicked = false → system.inFlight.length ≤ index
  | .issue cpu => system.panicked = false → (system.sender cpu).tested ≠ none →
      system.machine.lkBootComplete = false
  | _ => True

/-- Reschedule interrupts have no handler but the platform's own. -/
def OwnHandler (machine : Machine σ) : Prop :=
  ∀ handler, (machine.entry intResch).handler = some handler →
    handler = .x86IpiRescheduleHandler

variable (kernel : Kernel σ) (topology : Topology smpMaxCpus)

/-! ## One step -/

theorem ownHandler_congr {machine next : Machine σ}
    (same : next.intHandlerTable = machine.intHandlerTable)
    (own : OwnHandler machine) : OwnHandler next := by
  intro handler found
  rw [Machine.entry, same] at found
  exact own handler found

theorem ownHandler_register {machine : Machine σ} (made : Registration σ)
    (kept : made.vector = intResch.toNat →
      made.handler = some .x86IpiRescheduleHandler) (own : OwnHandler machine) :
    OwnHandler (registerIntHandler made.vector made.handler made.arg machine).2 := by
  rcases Nat.lt_or_ge made.vector intVectors with inside | outside
  · rw [registerIntHandler, if_neg (Nat.not_le.mpr inside)]
    intro handler found
    change (if intResch.toNat = made.vector then _ else _ :
      IntHandlerStruct σ).handler = _ at found
    by_cases same : intResch.toNat = made.vector
    · rw [if_pos same, kept same.symm] at found
      exact (Option.some.inj found).symm
    · rw [if_neg same] at found
      exact own handler found
  · rw [registerIntHandler, if_pos outside]
    exact own

theorem ownHandler_start (timer : TimerData) (behind : Nat → IntHandlerStruct σ)
    (world : σ) :
    OwnHandler (System.start timer behind world : System σ smpMaxCpus).machine := by
  intro handler found
  cases found

/-- What one step does leaves reschedule interrupts to the platform's own handler. -/
theorem perform_ownHandler (system : System σ smpMaxCpus)
    (action : MpAction σ smpMaxCpus) (own : OwnHandler system.machine) :
    OwnHandler (system.perform kernel topology action).machine := by
  cases action with
  | archMpInitPercpu =>
      rw [System.perform, System.register_machine]
      exact ownHandler_register _ (fun _ => rfl) own
  | register made other =>
      rw [System.perform, System.register_machine]
      exact ownHandler_register made (fun same => absurd same other) own
  | archMpSendIpi cpu target => exact own
  | test cpu =>
      simp only [System.perform, System.test]
      split
      · split <;> exact own
      · exact own
  | issue cpu =>
      simp only [System.perform, System.issue]
      split <;> exact own
  | deliver index tsc =>
      simp only [System.perform, System.deliver]
      split
      · exact ownHandler_congr (platformIrq_table kernel _ _) own
      · exact own
  | interrupt frame => exact ownHandler_congr (platformIrq_table kernel _ _) own
  | lkBootComplete => exact own

theorem step_ownHandler (system : System σ smpMaxCpus)
    (action : MpAction σ smpMaxCpus) (own : OwnHandler system.machine) :
    OwnHandler (system.step kernel topology action).machine := by
  cases panicked : system.panicked with
  | true =>
      rw [system.step_of_panicked kernel topology action panicked]
      exact own
  | false =>
      rw [system.step_of_running kernel topology action panicked]
      exact perform_ownHandler kernel topology system action own

/-- Before the boot is complete a reschedule interrupt is dropped, afterwards it is
passed on. -/
theorem not_rescheduled (cpu : Fin smpMaxCpus) (tsc : BitVec 64) (machine : Machine σ)
    (own : OwnHandler machine) :
    let outcome := platformIrq kernel ⟨intResch, true, tsc⟩ machine
    ¬Delivered.Rescheduled ⟨cpu, outcome.1, apicOps outcome.2.events⟩ := by
  intro outcome rescheduled
  let frame : Frame := ⟨intResch, true, tsc⟩
  cases complete : machine.lkBootComplete with
  | false =>
      have answer := rescheduled.answer
      change (platformIrq kernel frame machine).1 = _ at answer
      rw [platformIrq_booting kernel frame complete] at answer
      cases answer
  | true =>
      have kept : .handleIrq ∉ apicOps (platformIrq kernel frame machine).2.events :=
        rescheduled.handleIrq
      cases found : (machine.entry intResch).handler with
      | none =>
          obtain ⟨ret, next, returned, leaves⟩ :=
            platformIrq_unhandled kernel frame complete found
          rw [returned, leaves.events, apicOps_append, apicOps_map_apic] at kept
          simp [forwarding] at kept
      | some handler =>
          obtain ⟨ret, ops, next, returned, leaves, passes⟩ :=
            platformIrq_handled kernel frame complete found
          rw [returned, leaves.events, apicOps_append, apicOps_map_apic,
            passes.x86IpiRescheduleHandler (own handler found)] at kept
          simp [forwarding] at kept

section Step

variable {kernel topology} {system : System σ smpMaxCpus}

/-- A step that neither delivers nor issues an interrupt. -/
theorem reschedules_of_unrecorded {next : System σ smpMaxCpus} {condition : Prop}
    (delivered : next.delivered = system.delivered)
    (issued : next.issued = system.issued) (always : condition) :
    next.Reschedules ↔ system.Reschedules ∧ condition := by
  constructor
  · rintro ⟨rescheduled, early⟩
    exact ⟨⟨delivered ▸ rescheduled, issued ▸ early⟩, always⟩
  · rintro ⟨⟨rescheduled, early⟩, -⟩
    exact ⟨delivered.symm ▸ rescheduled, issued.symm ▸ early⟩

theorem test_reschedules_iff (cpu : Fin smpMaxCpus) {condition : Prop}
    (always : condition) :
    (system.test cpu).Reschedules ↔ system.Reschedules ∧ condition := by
  rw [System.test]
  split
  · split <;> exact reschedules_of_unrecorded rfl rfl always
  · exact reschedules_of_unrecorded rfl rfl always

theorem issue_reschedules_iff (cpu : Fin smpMaxCpus) :
    (system.issue topology cpu).Reschedules ↔ system.Reschedules ∧
      ((system.sender cpu).tested ≠ none → system.machine.lkBootComplete = false) := by
  rw [System.issue]
  split
  · rename_i calls cpuid sending
    have tested : (system.sender cpu).tested = some cpuid := by rw [sending]
    constructor
    · rintro ⟨rescheduled, early⟩
      obtain ⟨before, last⟩ := forall_mem_snoc.mp early
      exact ⟨⟨rescheduled, before⟩, fun _ => last⟩
    · rintro ⟨⟨rescheduled, before⟩, early⟩
      exact ⟨rescheduled, forall_mem_snoc.mpr ⟨before, early (by simp [tested])⟩⟩
  · rename_i other
    have idle : (system.sender cpu).tested = none := by
      cases tested : (system.sender cpu).tested with
      | none => rfl
      | some cpuid =>
          exact absurd (tested ▸ rfl) (other (system.sender cpu).calls cpuid)
    simp [idle]

theorem deliver_reschedules_iff (index : Nat) (tsc : BitVec 64)
    (own : OwnHandler system.machine) :
    (system.deliver kernel index tsc).Reschedules ↔
      system.Reschedules ∧ system.inFlight.length ≤ index := by
  rw [System.deliver]
  split
  · rename_i cpu inFlight
    obtain ⟨inside, -⟩ := List.getElem?_eq_some_iff.mp inFlight
    constructor
    · rintro ⟨rescheduled, -⟩
      have last := (forall_mem_snoc.mp rescheduled).2
      exact absurd last (not_rescheduled kernel cpu tsc
        { system.machine with events := [] } own)
    · rintro ⟨-, outside⟩
      exact absurd inside (Nat.not_lt.mpr outside)
  · rename_i missing
    exact (and_iff_left (List.getElem?_eq_none_iff.mp missing)).symm

end Step

theorem perform_reschedules_iff (system : System σ smpMaxCpus)
    (action : MpAction σ smpMaxCpus) (running : system.panicked = false)
    (own : OwnHandler system.machine) :
    (system.perform kernel topology action).Reschedules ↔
      system.Reschedules ∧ Undelivered system action := by
  cases action with
  | issue cpu =>
      rw [Undelivered, imp_iff_right running]
      exact issue_reschedules_iff cpu
  | deliver index tsc =>
      rw [Undelivered, imp_iff_right running]
      exact deliver_reschedules_iff index tsc own
  | test cpu => exact test_reschedules_iff cpu trivial
  | archMpInitPercpu =>
      exact reschedules_of_unrecorded (system.register_delivered _)
        (system.register_issued _) trivial
  | register made other =>
      exact reschedules_of_unrecorded (system.register_delivered _)
        (system.register_issued _) trivial
  | archMpSendIpi cpu target => exact reschedules_of_unrecorded rfl rfl trivial
  | interrupt frame => exact reschedules_of_unrecorded rfl rfl trivial
  | lkBootComplete => exact reschedules_of_unrecorded rfl rfl trivial

/-- A panic leaves nothing to be delivered or issued. -/
theorem undelivered_of_panicked {system : System σ smpMaxCpus}
    (panicked : system.panicked = true) (action : MpAction σ smpMaxCpus) :
    Undelivered system action := by
  cases action <;> simp [Undelivered, panicked]

theorem step_reschedules_iff (system : System σ smpMaxCpus)
    (action : MpAction σ smpMaxCpus) (own : OwnHandler system.machine) :
    (system.step kernel topology action).Reschedules ↔
      system.Reschedules ∧ Undelivered system action := by
  cases panicked : system.panicked with
  | true =>
      rw [system.step_of_panicked kernel topology action panicked]
      exact (and_iff_left (undelivered_of_panicked panicked action)).symm
  | false =>
      rw [system.step_of_running kernel topology action panicked]
      exact perform_reschedules_iff kernel topology system action panicked own

/-- For every interleaving, issued reschedule interrupts do what they should exactly
if none of them is delivered and none is issued by a sender that has tested for
the end of the boot too early. -/
theorem reschedules_iff (timer : TimerData) (behind : Nat → IntHandlerStruct σ)
    (world : σ) (actions : List (MpAction σ smpMaxCpus)) :
    (run (System.step kernel topology) (.start timer behind world)
        actions).Reschedules ↔
      Along (System.step kernel topology) Undelivered (.start timer behind world)
        actions := by
  have runs := run_iff_along_of_invariant System.Reschedules
    (step_ownHandler kernel topology) (step_reschedules_iff kernel topology) actions
    (ownHandler_start timer behind world)
  have idle : (System.start timer behind world : System σ smpMaxCpus).Reschedules := by
    constructor <;> simp [System.start]
  rw [runs]
  exact and_iff_right idle

/-- Two CPUs whose local APIC is known by the number of the CPU. -/
def Topology.two : Topology 2 where
  mpCpuAllButLocal := 0xFFFFFFFF
  getLapicId cpuid := cpuid
  lapicId cpu := .ofNat 32 cpu

/-- A reschedule interrupt sent to the second CPU during the boot is dropped
there. -/
theorem dropped_during_boot :
    ¬(run (System.step Kernel.idle Topology.two)
      (.start TimerData.start (fun _ => ⟨none, 0⟩) ())
      [.archMpInitPercpu, .archMpSendIpi 0 2, .test 0, .issue 0,
        .deliver 0 0]).Reschedules := by
  intro reschedules
  have dropped := (reschedules.delivered ⟨1, .ok .noReschedule, [.eoi]⟩
    (List.mem_singleton.mpr rfl)).answer
  cases dropped

end SandPlatform.Interrupt
