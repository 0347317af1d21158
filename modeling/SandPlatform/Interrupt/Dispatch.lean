import SandPlatform.Foundation.Run
import SandPlatform.Interrupt.Irq

/-!
# Every interrupt is acknowledged and passed on once

The handler table is compared with the history of registrations.  It has no
entry for the last vector, so an interrupt with that vector is the one that is
not dispatched as it should be.
-/

namespace SandPlatform.Interrupt

open SandPlatform.Foundation
open SandPlatform.Hardware
open SandPlatform.Timer

variable {σ : Type} (kernel : Kernel σ)

/-! ## What the dispatcher does -/

namespace Machine

/-- Several events one after another. -/
def record (events : List (Event σ)) (machine : Machine σ) : Machine σ :=
  { machine with events := machine.events ++ events }

end Machine

/-- The operations that pass an interrupt on to the non-secure world. -/
def forwarding (vector : BitVec 8) : List ApicOp :=
  [.eoi, .selfIpi vector, .handleIrq]

/-- The machine after an interrupt has been passed on. -/
def Machine.forward (vector : BitVec 8) (machine : Machine σ) : Machine σ :=
  { machine with
    world := (kernel.smHandleIrq machine.world).2
    events := machine.events ++ (forwarding vector).map .apic }

theorem platformIrq_booting (frame : Frame) {machine : Machine σ}
    (booting : machine.lkBootComplete = false) :
    platformIrq kernel frame machine =
      (.ok .noReschedule, machine.record [.apic .eoi]) := by
  change (if machine.lkBootComplete = true then _ else _ :
    Exec Stop (Machine σ) HandlerReturn) machine = _
  rw [booting]
  rfl

/-- Passing on: acknowledged, sent to the own CPU, handed over. -/
theorem fwIntToNs_apply (vector : BitVec 8) (machine : Machine σ) :
    (do fwIntToNs vector; smHandleIrq kernel : Exec Stop (Machine σ) HandlerReturn)
        machine =
      (.ok (kernel.smHandleIrq machine.world).1, machine.forward kernel vector) := by
  change (_, Machine.mk _ _ _ _ _) = _
  simp [Machine.forward, Machine.note, forwarding]

/-- What a handler changes, and what it asks of the local APIC. -/
structure Leaves (machine : Machine σ) (ops : List ApicOp) (next : Machine σ) :
    Prop where
  complete : next.lkBootComplete = machine.lkBootComplete
  table : next.intHandlerTable = machine.intHandlerTable
  events : next.events = machine.events ++ ops.map .apic

/-- The platform's own handlers pass their interrupt on once the boot is
complete. -/
structure PassesOn (handler : IntHandler σ) (frame : Frame) (ops : List ApicOp) :
    Prop where
  osTimerTick : handler = .osTimerTick → frame.inService = true →
    ops = forwarding intPit
  x86IpiRescheduleHandler : handler = .x86IpiRescheduleHandler →
    ops = forwarding intResch

/-- A hardware timer interrupt is passed on, a software one calls the callback. -/
theorem osTimerTick_returns (frame : Frame) (machine : Machine σ) :
    ∃ ret ops next, osTimerTick kernel frame machine = (.ok ret, next) ∧
      Leaves machine ops next ∧ (frame.inService = true → ops = forwarding intPit) := by
  by_cases hardware : frame.inService = true
  · rw [osTimerTick, if_pos hardware]
    exact ⟨_, _, _, fwIntToNs_apply kernel intPit machine, ⟨rfl, rfl, rfl⟩, fun _ => rfl⟩
  · have software : frame.inService = true → [] = forwarding intPit := by
      intro inService
      exact absurd inService hardware
    rw [osTimerTick, if_neg hardware, Exec.gets_bind_apply]
    cases machine.timer.invocation with
    | none => exact ⟨_, [], _, rfl, ⟨rfl, rfl, (List.append_nil _).symm⟩, software⟩
    | some invocation =>
        exact ⟨_, [], _, rfl, ⟨rfl, rfl, (List.append_nil _).symm⟩, software⟩

theorem x86IpiRescheduleHandler_apply {machine : Machine σ}
    (complete : machine.lkBootComplete = true) :
    x86IpiRescheduleHandler kernel machine =
      (.ok (kernel.smHandleIrq machine.world).1, machine.forward kernel intResch) := by
  rw [← fwIntToNs_apply kernel intResch machine]
  change (if machine.lkBootComplete = true then _ else _ :
    Exec Stop (Machine σ) HandlerReturn) _ = _
  rw [if_pos complete]
  rfl

theorem callHandler_returns (handler : IntHandler σ) (frame : Frame)
    (arg : BitVec 64) {machine : Machine σ}
    (complete : machine.lkBootComplete = true) :
    ∃ ret ops next,
      callHandler kernel handler frame arg machine = (.ok ret, next) ∧
        Leaves machine ops next ∧ PassesOn handler frame ops := by
  cases handler with
  | osTimerTick =>
      obtain ⟨ret, ops, next, returned, leaves, passes⟩ :=
        osTimerTick_returns kernel frame machine
      exact ⟨ret, ops, next, returned, leaves, fun _ => passes, nofun⟩
  | x86IpiGenericHandler =>
      exact ⟨_, [], _, rfl, ⟨rfl, rfl, (List.append_nil _).symm⟩, nofun, nofun⟩
  | x86IpiRescheduleHandler =>
      exact ⟨_, forwarding intResch, _, x86IpiRescheduleHandler_apply kernel complete,
        ⟨rfl, rfl, rfl⟩, nofun, fun _ => rfl⟩
  | driver body =>
      exact ⟨_, (body arg machine.world).ops, _, rfl, ⟨rfl, rfl, rfl⟩, nofun, nofun⟩

/-- After the boot the handler of the vector decides. -/
theorem platformIrq_late (frame : Frame) {machine : Machine σ}
    (complete : machine.lkBootComplete = true) :
    platformIrq kernel frame machine =
      (match (machine.entry frame.vector).handler with
      | some handler => do
          let called ← lookup frame.vector
          Exec.modify (Machine.note (.ran handler called.arg))
          callHandler kernel handler frame called.arg
      | none => do
          fwIntToNs frame.vector
          smHandleIrq kernel : Exec Stop (Machine σ) HandlerReturn)
        (machine.note (.lookup frame.vector.toNat)) := by
  change (if machine.lkBootComplete = true then _ else _ :
    Exec Stop (Machine σ) HandlerReturn) machine = _
  rw [if_pos complete]
  rfl

/-- After the boot an interrupt without a handler is passed on. -/
theorem platformIrq_unhandled (frame : Frame) {machine : Machine σ}
    (complete : machine.lkBootComplete = true)
    (missing : (machine.entry frame.vector).handler = none) :
    ∃ ret next, platformIrq kernel frame machine = (.ok ret, next) ∧
      Leaves (machine.record [.lookup frame.vector.toNat])
        (forwarding frame.vector) next := by
  let looked := machine.record [.lookup frame.vector.toNat]
  refine ⟨(kernel.smHandleIrq looked.world).1, looked.forward kernel frame.vector,
    ?_, ⟨rfl, rfl, rfl⟩⟩
  rw [← fwIntToNs_apply kernel frame.vector looked,
    platformIrq_late kernel frame complete, missing]
  rfl

/-- After the boot an interrupt with a handler runs that handler with its
argument. -/
theorem platformIrq_handled (frame : Frame) {machine : Machine σ}
    (complete : machine.lkBootComplete = true) {handler : IntHandler σ}
    (found : (machine.entry frame.vector).handler = some handler) :
    ∃ ret ops next, platformIrq kernel frame machine = (.ok ret, next) ∧
      Leaves (machine.record [.lookup frame.vector.toNat, .lookup frame.vector.toNat,
        .ran handler (machine.entry frame.vector).arg]) ops next ∧
      PassesOn handler frame ops := by
  let arg := (machine.entry frame.vector).arg
  let called := machine.record [.lookup frame.vector.toNat,
    .lookup frame.vector.toNat, .ran handler arg]
  have recorded : called.lkBootComplete = true := complete
  obtain ⟨ret, ops, next, returned, leaves, passes⟩ :=
    callHandler_returns kernel handler frame arg recorded
  refine ⟨ret, ops, next, ?_, leaves, passes⟩
  rw [← returned, platformIrq_late kernel frame complete, found]
  change callHandler kernel handler frame _ (Machine.mk _ _ _ _ _) = _
  simp [called, arg, Machine.note, Machine.record, Machine.entry]

/-! ## Histories -/

/-- A call of `register_int_handler`. -/
structure Registration (σ : Type) where
  vector : Nat
  handler : Option (IntHandler σ)
  arg : BitVec 64

/-- The handler registered last for the vector. -/
def latestHandler (vector : Nat) (registered : List (Registration σ)) :
    IntHandlerStruct σ :=
  match (registered.filter fun made => made.vector = vector).getLast? with
  | some made => ⟨made.handler, made.arg⟩
  | none => ⟨none, 0⟩

/-- An interrupt the dispatcher has taken, and what it did about it. -/
structure Handled (σ : Type) where
  frame : Frame
  complete : Bool
  latest : IntHandlerStruct σ
  events : List (Event σ)

/-- What happens on a CPU. -/
inductive Action (σ : Type)
  | register (made : Registration σ)
  | interrupt (frame : Frame)
  | lkBootComplete

/-- The machine, the registrations it has accepted and the interrupts it has
taken.  A registration out of range stops it. -/
structure History (σ : Type) where
  machine : Machine σ
  panicked : Bool
  registered : List (Registration σ)
  handled : List (Handled σ)

namespace History

/-- No handler is registered; what is behind the table is arbitrary. -/
def start (behind : Nat → IntHandlerStruct σ) (timer : TimerData) (world : σ) :
    History σ where
  machine :=
    { lkBootComplete := false
      intHandlerTable := fun i => if i < intVectors then ⟨none, 0⟩ else behind i
      timer := timer
      world := world
      events := [] }
  panicked := false
  registered := []
  handled := []

/-- A registration, which panics for a vector outside the table. -/
def register (made : Registration σ) (history : History σ) : History σ :=
  match registerIntHandler made.vector made.handler made.arg history.machine with
  | (.ok (), machine) =>
      { history with machine := machine, registered := history.registered ++ [made] }
  | (.error _, machine) => { history with machine := machine, panicked := true }

theorem register_of_inside {made : Registration σ} (history : History σ)
    (inside : made.vector < intVectors) :
    history.register made =
      { history with
        machine := history.machine.setHandler made.vector made.handler made.arg
        registered := history.registered ++ [made] } := by
  rw [register, registerIntHandler, if_neg (Nat.not_le.mpr inside)]
  rfl

theorem register_of_outside {made : Registration σ} (history : History σ)
    (outside : intVectors ≤ made.vector) :
    history.register made = { history with panicked := true } := by
  rw [register, registerIntHandler, if_pos outside]
  rfl

/-- Take an interrupt, with a record of its own. -/
def interrupt (frame : Frame) (history : History σ) : History σ :=
  let next := (platformIrq kernel frame { history.machine with events := [] }).2
  { history with
    machine := next
    handled := history.handled ++
      [⟨frame, history.machine.lkBootComplete,
        latestHandler frame.vector.toNat history.registered, next.events⟩] }

/-- One action on a CPU that runs. -/
def perform (history : History σ) : Action σ → History σ
  | .register made => history.register made
  | .interrupt frame => history.interrupt kernel frame
  | .lkBootComplete => { history with machine := history.machine.setLkBootComplete }

/-- Nothing happens any more after a panic. -/
def step (history : History σ) (action : Action σ) : History σ :=
  if history.panicked then history else history.perform kernel action

theorem step_of_panicked {history : History σ} (action : Action σ)
    (panicked : history.panicked = true) : history.step kernel action = history := by
  simp [step, panicked]

theorem step_of_running {history : History σ} (action : Action σ)
    (running : history.panicked = false) :
    history.step kernel action = history.perform kernel action := by
  simp [step, running]

/-- The table holds what has been registered last for every vector. -/
structure Consistent (history : History σ) : Prop where
  table : ∀ vector < intVectors, history.machine.intHandlerTable vector =
    latestHandler vector history.registered

end History

/-! ## One interrupt -/

/-- What was done at the local APIC, in order. -/
def apicOps (events : List (Event σ)) : List ApicOp :=
  events.filterMap fun event => match event with
    | .apic op => some op
    | _ => none

/-- The handlers that ran, in order, each with its argument. -/
def calls (events : List (Event σ)) : List (IntHandler σ × BitVec 64) :=
  events.filterMap fun event => match event with
    | .ran handler arg => some (handler, arg)
    | _ => none

/-- The interrupt was dispatched as it should be. -/
structure Handled.Proper (taken : Handled σ) : Prop where
  inside : ∀ index, .lookup index ∈ taken.events → index < intVectors
  booting : taken.complete = false →
    apicOps taken.events = [.eoi] ∧ calls taken.events = []
  unhandled : taken.complete = true → taken.latest.handler = none →
    apicOps taken.events = forwarding taken.frame.vector ∧ calls taken.events = []
  handled : ∀ handler, taken.complete = true →
    taken.latest.handler = some handler →
    calls taken.events = [(handler, taken.latest.arg)] ∧
      PassesOn handler taken.frame (apicOps taken.events)

@[simp]
theorem apicOps_append (first second : List (Event σ)) :
    apicOps (first ++ second) = apicOps first ++ apicOps second :=
  List.filterMap_append

@[simp]
theorem calls_append (first second : List (Event σ)) :
    calls (first ++ second) = calls first ++ calls second :=
  List.filterMap_append

@[simp]
theorem apicOps_map_apic (ops : List ApicOp) :
    apicOps (ops.map .apic : List (Event σ)) = ops := by
  simp only [apicOps, List.filterMap_map, Function.comp_def, List.filterMap_some]

@[simp]
theorem calls_map_apic (ops : List ApicOp) :
    calls (ops.map .apic : List (Event σ)) = [] := by
  rw [calls, List.filterMap_map]
  exact List.filterMap_eq_nil_iff.mpr fun _ _ => rfl

theorem platformIrq_table (frame : Frame) (machine : Machine σ) :
    (platformIrq kernel frame machine).2.intHandlerTable =
      machine.intHandlerTable := by
  cases complete : machine.lkBootComplete with
  | false =>
      rw [platformIrq_booting kernel frame complete]
      rfl
  | true =>
      cases found : (machine.entry frame.vector).handler with
      | none =>
          obtain ⟨ret, next, returned, leaves⟩ :=
            platformIrq_unhandled kernel frame complete found
          rw [returned]
          exact leaves.table
      | some handler =>
          obtain ⟨ret, ops, next, returned, leaves, -⟩ :=
            platformIrq_handled kernel frame complete found
          rw [returned]
          exact leaves.table

section OneInterrupt

variable {machine : Machine σ} (frame : Frame) (latest : IntHandlerStruct σ)

/-- The record of an interrupt taken by the machine. -/
def taken (machine : Machine σ) (frame : Frame) (latest : IntHandlerStruct σ) :
    Handled σ :=
  ⟨frame, machine.lkBootComplete, latest,
    (platformIrq kernel frame { machine with events := [] }).2.events⟩

theorem proper_of_booting (booting : machine.lkBootComplete = false) :
    (taken kernel machine frame latest).Proper := by
  let fresh : Machine σ := { machine with events := [] }
  have notReady : fresh.lkBootComplete = false := booting
  have events : (taken kernel machine frame latest).events = [.apic .eoi] := by
    change (platformIrq kernel frame fresh).2.events = _
    rw [platformIrq_booting kernel frame notReady]
    rfl
  have early : (taken kernel machine frame latest).complete = false := booting
  constructor
  · simp [events]
  · simp [events, apicOps, calls]
  · simp [early]
  · simp [early]

theorem lookup_mem_events (complete : machine.lkBootComplete = true) :
    .lookup frame.vector.toNat ∈ (taken kernel machine frame latest).events := by
  let fresh : Machine σ := { machine with events := [] }
  have ready : fresh.lkBootComplete = true := complete
  change _ ∈ (platformIrq kernel frame fresh).2.events
  cases found : (fresh.entry frame.vector).handler with
  | none =>
      obtain ⟨ret, next, returned, leaves⟩ :=
        platformIrq_unhandled kernel frame ready found
      rw [returned, leaves.events]
      simp [Machine.record]
  | some handler =>
      obtain ⟨ret, ops, next, returned, leaves, -⟩ :=
        platformIrq_handled kernel frame ready found
      rw [returned, leaves.events]
      simp [Machine.record]

theorem proper_of_unhandled (complete : machine.lkBootComplete = true)
    (inside : frame.vector.toNat < intVectors)
    (missing : (machine.entry frame.vector).handler = none) :
    (taken kernel machine frame (machine.entry frame.vector)).Proper := by
  let fresh : Machine σ := { machine with events := [] }
  have ready : fresh.lkBootComplete = true := complete
  have late : (taken kernel machine frame (machine.entry frame.vector)).complete =
      true := complete
  obtain ⟨ret, next, returned, leaves⟩ :=
    platformIrq_unhandled kernel frame ready missing
  have events : (taken kernel machine frame (machine.entry frame.vector)).events =
      [.lookup frame.vector.toNat] ++ (forwarding frame.vector).map .apic := by
    change (platformIrq kernel frame fresh).2.events = _
    rw [returned, leaves.events]
    rfl
  constructor
  · simp [events, inside]
  · simp [late]
  · intro _ _
    rw [events, apicOps_append, calls_append, apicOps_map_apic, calls_map_apic]
    exact ⟨rfl, rfl⟩
  · intro handler _ other
    rw [taken, missing] at other
    cases other

theorem proper_of_handled (complete : machine.lkBootComplete = true)
    (inside : frame.vector.toNat < intVectors) {handler : IntHandler σ}
    (found : (machine.entry frame.vector).handler = some handler) :
    (taken kernel machine frame (machine.entry frame.vector)).Proper := by
  let fresh : Machine σ := { machine with events := [] }
  let arg := (machine.entry frame.vector).arg
  have ready : fresh.lkBootComplete = true := complete
  have late : (taken kernel machine frame (machine.entry frame.vector)).complete =
      true := complete
  obtain ⟨ret, ops, next, returned, leaves, passes⟩ :=
    platformIrq_handled kernel frame ready found
  have events : (taken kernel machine frame (machine.entry frame.vector)).events =
      [.lookup frame.vector.toNat, .lookup frame.vector.toNat, .ran handler arg] ++
        ops.map .apic := by
    change (platformIrq kernel frame fresh).2.events = _
    rw [returned, leaves.events]
    rfl
  constructor
  · simp [events, inside]
  · simp [late]
  · intro _ missing
    rw [taken, found] at missing
    cases missing
  · intro other _ same
    rw [taken, found] at same
    cases same
    rw [events, apicOps_append, calls_append, apicOps_map_apic, calls_map_apic]
    exact ⟨rfl, passes⟩

theorem proper_of_inside (complete : machine.lkBootComplete = true)
    (inside : frame.vector.toNat < intVectors)
    (current : machine.entry frame.vector = latest) :
    (taken kernel machine frame latest).Proper := by
  subst current
  cases found : (machine.entry frame.vector).handler with
  | none => exact proper_of_unhandled kernel frame complete inside found
  | some handler => exact proper_of_handled kernel frame complete inside found

/-- An interrupt is dispatched as it should be exactly if its vector is in the
table, or there is no look into the table yet. -/
theorem taken_proper_iff
    (current : frame.vector.toNat < intVectors →
      machine.entry frame.vector = latest) :
    (taken kernel machine frame latest).Proper ↔
      (machine.lkBootComplete = true → frame.vector.toNat < intVectors) := by
  constructor
  · intro proper complete
    exact proper.inside _ (lookup_mem_events kernel frame latest complete)
  · intro inside
    cases complete : machine.lkBootComplete with
    | false => exact proper_of_booting kernel frame latest complete
    | true =>
        exact proper_of_inside kernel frame latest complete (inside complete)
          (current (inside complete))

end OneInterrupt

/-! ## Runs -/

theorem latestHandler_snoc (vector : Nat) (registered : List (Registration σ))
    (made : Registration σ) :
    latestHandler vector (registered ++ [made]) =
      if vector = made.vector then ⟨made.handler, made.arg⟩
      else latestHandler vector registered := by
  by_cases same : vector = made.vector
  · simp [latestHandler, same]
  · have other : ¬made.vector = vector := fun equal => same equal.symm
    simp [latestHandler, same, other]

theorem consistent_start (behind : Nat → IntHandlerStruct σ) (timer : TimerData)
    (world : σ) : (History.start behind timer world).Consistent := by
  constructor
  intro vector inside
  simp [History.start, inside, latestHandler]

/-- One step keeps the table and the registrations together. -/
theorem step_consistent (history : History σ) (action : Action σ)
    (consistent : history.Consistent) :
    (history.step kernel action).Consistent := by
  cases panicked : history.panicked with
  | true =>
    rw [history.step_of_panicked kernel action panicked]
    exact consistent
  | false =>
    rw [history.step_of_running kernel action panicked]
    cases action with
    | register made =>
        rcases Nat.lt_or_ge made.vector intVectors with inside | outside
        · rw [History.perform, history.register_of_inside inside]
          constructor
          intro vector below
          change _ = latestHandler vector (history.registered ++ [made])
          rw [latestHandler_snoc]
          by_cases same : vector = made.vector
          · simp [Machine.setHandler, same]
          · simp [Machine.setHandler, same, consistent.table vector below]
        · rw [History.perform, history.register_of_outside outside]
          exact ⟨consistent.table⟩
    | interrupt frame =>
        constructor
        intro vector inside
        change (platformIrq kernel frame _).2.intHandlerTable vector = _
        rw [platformIrq_table]
        exact consistent.table vector inside
    | lkBootComplete => exact ⟨consistent.table⟩

/-- The condition on an interrupt that is taken. -/
def InTable (history : History σ) : Action σ → Prop
  | .interrupt frame => history.panicked = false →
      history.machine.lkBootComplete = true → frame.vector.toNat < intVectors
  | _ => True

/-- Every interrupt so far was handled as it should be. -/
def AllProper (history : History σ) : Prop :=
  ∀ taken ∈ history.handled, taken.Proper

theorem step_proper_iff (history : History σ) (action : Action σ)
    (consistent : history.Consistent) :
    AllProper (history.step kernel action) ↔
      AllProper history ∧ InTable history action := by
  cases panicked : history.panicked with
  | true =>
    rw [history.step_of_panicked kernel action panicked]
    cases action <;> simp [InTable, panicked]
  | false =>
    rw [history.step_of_running kernel action panicked]
    cases action with
    | register made =>
        rcases Nat.lt_or_ge made.vector intVectors with inside | outside
        · rw [History.perform, history.register_of_inside inside]
          exact (and_iff_left trivial).symm
        · rw [History.perform, history.register_of_outside outside]
          exact (and_iff_left trivial).symm
    | interrupt frame =>
        let latest := latestHandler frame.vector.toNat history.registered
        have snoc : AllProper (history.interrupt kernel frame) ↔ AllProper history ∧
            (taken kernel history.machine frame latest).Proper := forall_mem_snoc
        have proper := taken_proper_iff kernel frame latest
          (consistent.table frame.vector.toNat)
        rw [History.perform, snoc, proper, InTable]
        simp [panicked]
    | lkBootComplete => exact (and_iff_left trivial).symm

/-- For every history, all interrupts are dispatched as they should be exactly if
none with a vector beyond the table is taken after the boot. -/
theorem dispatched_iff (behind : Nat → IntHandlerStruct σ) (timer : TimerData)
    (world : σ) (actions : List (Action σ)) :
    AllProper (run (History.step kernel) (.start behind timer world) actions) ↔
      Along (History.step kernel) InTable (.start behind timer world) actions := by
  have runs := run_iff_along_of_invariant AllProper (step_consistent kernel)
    (step_proper_iff kernel) actions (consistent_start behind timer world)
  have empty : AllProper (History.start behind timer world) := by
    simp [AllProper, History.start]
  rw [runs]
  exact and_iff_right empty

/-- A kernel in which nothing happens. -/
def Kernel.idle : Kernel Unit where
  smHandleIrq world := (.noReschedule, world)
  callback _ _ world := (.noReschedule, world)

/-- The last vector is looked up behind the table. -/
theorem last_vector_outside :
    ¬AllProper (run (History.step Kernel.idle)
      (.start (fun _ => ⟨none, 0⟩) TimerData.start ())
      [.lkBootComplete, .interrupt ⟨255, true, 0⟩]) := by
  intro proper
  let complete := (History.start (fun _ => ⟨none, 0⟩) TimerData.start ()).machine.setLkBootComplete
  have looked := (proper (taken Kernel.idle complete ⟨255, true, 0⟩ ⟨none, 0⟩)
    (List.mem_singleton.mpr rfl)).inside 255 (lookup_mem_events _ _ _ rfl)
  exact absurd looked (by decide)

end SandPlatform.Interrupt
