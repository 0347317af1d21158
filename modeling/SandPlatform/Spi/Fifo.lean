import SandPlatform.Spi.Controller

/-!
# The FIFOs of the controller

Words written to the data register are shifted out one after another, and each of
them pushes one entry into the receive FIFO, in this order and at any time after
it was written.  So it is enough to count: the words written, the entries that have
arrived and the entries that have been read.
-/

namespace SandPlatform.Spi

open SandPlatform.Foundation
open SandPlatform.Hardware
open SandPlatform.Foundation.Exec (Ends)

universe u

/-- The words and entries so far, and whatever else there is. -/
structure Controller (τ : Type u) where
  sent : Nat
  arrived : Nat
  taken : Nat
  world : τ
  arrivedLe : arrived ≤ sent
  takenLe : taken ≤ arrived

/-- What the code cannot know: when entries arrive, the status bits other than
`SPI_SR_RNE`, the other registers, and what the slave shifts in while each word is
shifted out. -/
structure Slave (τ : Type u) where
  poll : τ → Nat × BitVec 32 × τ
  answer : Nat → BitVec 32
  readOther : Nat → τ → BitVec 32 × τ
  writeOther : Nat → BitVec 32 → τ → τ

namespace Controller

variable {τ : Type u}

/-- Nothing is sent yet. -/
def start (world : τ) : Controller τ :=
  ⟨0, 0, 0, world, Nat.le_refl 0, Nat.le_refl 0⟩

/-- A word goes into the transmit queue. -/
def send (controller : Controller τ) : Controller τ :=
  { controller with
    sent := controller.sent + 1
    arrivedLe := Nat.le_succ_of_le controller.arrivedLe }

/-- Some entries arrive, but only for words that have been written. -/
def arrive (entries : Nat) (controller : Controller τ) : Controller τ :=
  { controller with
    arrived := min (controller.arrived + entries) controller.sent
    arrivedLe := Nat.min_le_right _ _
    takenLe := Nat.le_min.mpr
      ⟨Nat.le_trans controller.takenLe (Nat.le_add_right _ _),
        Nat.le_trans controller.takenLe controller.arrivedLe⟩ }

/-- The oldest entry leaves the receive FIFO. -/
def take (controller : Controller τ) : Controller τ :=
  if unread : controller.taken < controller.arrived then
    { controller with taken := controller.taken + 1, takenLe := unread }
  else
    controller

theorem taken_take {controller : Controller τ}
    (unread : controller.taken < controller.arrived) :
    controller.take.taken = controller.taken + 1 := by
  rw [take, dif_pos unread]

@[simp]
theorem sent_take (controller : Controller τ) : controller.take.sent = controller.sent := by
  rw [take]
  split <;> rfl

/-- What is not the queues changes. -/
def setWorld (world : τ) (controller : Controller τ) : Controller τ :=
  { controller with world := world }

/-- The status register. -/
def status (bits : BitVec 32) (controller : Controller τ) : BitVec 32 :=
  if controller.taken < controller.arrived then bits ||| srRne else bits &&& ~~~srRne

end Controller

variable {τ : Type u} (slave : Slave τ)

namespace Slave

/-- A look at the status register. -/
def look (controller : Controller τ) : BitVec 32 × Controller τ :=
  let answer := slave.poll controller.world
  let next := (controller.arrive answer.1).setWorld answer.2.2
  (next.status answer.2.1, next)

/-- The controller as a device. -/
def controller : Device (Controller τ) where
  read window _ reg state :=
    if window = .spi ∧ reg = Reg.sr then
      slave.look state
    else if window = .spi ∧ reg = Reg.dr then
      (if state.taken < state.arrived then slave.answer state.taken else 0, state.take)
    else
      let answer := slave.readOther reg state.world
      (answer.1, state.setWorld answer.2)
  write window _ reg value state :=
    if window = .spi ∧ reg = Reg.dr then
      state.send
    else
      state.setWorld (slave.writeOther reg value state.world)
  mapPhysical _ state := (none, state)

end Slave

/-! ## Register accesses -/

/-- The counts of words written and of entries read. -/
structure SameCounts (before after : Controller τ) : Prop where
  sent : after.sent = before.sent
  taken : after.taken = before.taken

theorem SameCounts.trans {first second third : Controller τ}
    (start : SameCounts first second) (rest : SameCounts second third) :
    SameCounts first third :=
  ⟨rest.sent.trans start.sent, rest.taken.trans start.taken⟩

theorem look_sameCounts (controller : Controller τ) :
    SameCounts controller (slave.look controller).2 :=
  ⟨rfl, rfl⟩

/-- `SPI_SR_RNE` says that there is an entry. -/
theorem look_rne {controller : Controller τ}
    (ready : (slave.look controller).1 &&& srRne ≠ 0) :
    (slave.look controller).2.taken < (slave.look controller).2.arrived := by
  by_contra empty
  apply ready
  have status : (slave.look controller).1 =
      (slave.poll controller.world).2.1 &&& ~~~srRne := if_neg empty
  rw [status, BitVec.and_assoc]
  have cleared : ~~~srRne &&& srRne = 0 := by decide
  rw [cleared]
  simp

/-! ## Polls -/

theorem pollFifo_ends (flag : BitVec 32) (timeout : Nat) (hw : Hw (Controller τ)) :
    Ends (pollFifo slave.controller flag timeout) hw
      (fun ret next => SameCounts hw.device next.device ∧
        (flag = srRne → ret = .noError → next.device.taken < next.device.arrived))
      fun _ => True := by
  induction timeout generalizing hw with
  | zero => exact ⟨⟨rfl, rfl⟩, fun _ other => by cases other⟩
  | succ timeout ih =>
      let answer := slave.look hw.device
      let next : Hw (Controller τ) :=
        ⟨answer.2, .read .spi .word Reg.sr answer.1 :: hw.log⟩
      change Ends (if answer.1 &&& flag ≠ 0 then pure Status.noError else _) next _ _
      by_cases ready : answer.1 &&& flag ≠ 0
      · rw [if_pos ready]
        refine ⟨look_sameCounts slave hw.device, ?_⟩
        rintro rfl -
        exact look_rne slave ready
      · rw [if_neg ready]
        apply (ih next).mono
        · rintro ret final ⟨same, unread⟩
          exact ⟨(look_sameCounts slave hw.device).trans same, unread⟩
        · exact fun _ _ => trivial

theorem pollBusy_ends (timeout : Nat) (hw : Hw (Controller τ)) :
    Ends (pollBusy slave.controller timeout) hw
      (fun _ next => SameCounts hw.device next.device) fun _ => True := by
  induction timeout generalizing hw with
  | zero => exact ⟨rfl, rfl⟩
  | succ timeout ih =>
      let answer := slave.look hw.device
      let next : Hw (Controller τ) :=
        ⟨answer.2, .read .spi .word Reg.sr answer.1 :: hw.log⟩
      change Ends (if answer.1 &&& srBsy ≠ 0 then _ else _) next _ _
      by_cases busy : answer.1 &&& srBsy ≠ 0
      · rw [if_pos busy]
        apply (ih next).mono
        · intro left final same
          exact (look_sameCounts slave hw.device).trans same
        · exact fun _ _ => trivial
      · rw [if_neg busy]
        exact look_sameCounts slave hw.device

/-- A flag that is set at the first look. -/
theorem pollFifo_of_ready {flag : BitVec 32} {timeout : Nat} {hw : Hw (Controller τ)}
    (positive : 0 < timeout) (ready : (slave.look hw.device).1 &&& flag ≠ 0) :
    ∃ log, pollFifo slave.controller flag timeout hw =
      (.ok .noError, ⟨(slave.look hw.device).2, log⟩) := by
  have looked : lpssSpiRead slave.controller Reg.sr hw =
      (.ok (slave.look hw.device).1, ⟨(slave.look hw.device).2,
        .read .spi .word Reg.sr (slave.look hw.device).1 :: hw.log⟩) := rfl
  obtain ⟨rest, rfl⟩ := Nat.exists_eq_add_one.mpr positive
  rw [pollFifo, Exec.bind_of_ok looked, if_pos ready]
  exact ⟨_, rfl⟩

theorem pollBusy_of_idle {timeout : Nat} {hw : Hw (Controller τ)}
    (positive : 0 < timeout) (idle : (slave.look hw.device).1 &&& srBsy = 0) :
    ∃ log, pollBusy slave.controller timeout hw =
      (.ok timeout, ⟨(slave.look hw.device).2, log⟩) := by
  have looked : lpssSpiRead slave.controller Reg.sr hw =
      (.ok (slave.look hw.device).1, ⟨(slave.look hw.device).2,
        .read .spi .word Reg.sr (slave.look hw.device).1 :: hw.log⟩) := rfl
  obtain ⟨rest, rfl⟩ := Nat.exists_eq_add_one.mpr positive
  rw [pollBusy, Exec.bind_of_ok looked, if_neg (not_not_intro idle)]
  exact ⟨_, rfl⟩

theorem spiSetCs_ends (flag : Bool) (hw : Hw (Controller τ)) :
    Ends (spiSetCs slave.controller flag) hw
      (fun _ next => SameCounts hw.device next.device) fun _ => True :=
  ⟨rfl, rfl⟩

end SandPlatform.Spi
