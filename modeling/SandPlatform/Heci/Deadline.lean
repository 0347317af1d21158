import SandPlatform.Foundation.Polling
import SandPlatform.Heci.Bounds
import Mathlib.Logic.Function.Iterate

/-!
# Timeouts and the main counter

`init_timer` is there to enable the main counter of the HPET; it writes the enable bit
to the comparator instead.  A counter that stands still when a wait begins stands still
until the end, and the wait ends only with its event.  The product of the timeout and
the ticks of a millisecond has 32 bits.
-/

namespace SandPlatform.Heci

open SandPlatform.Foundation
open SandPlatform.Hardware

universe u

/-! ## The main counter -/

/-- Whether the main counter is enabled, and the ticks it has counted. -/
structure MainCounter where
  enabled : Bool
  ticks : Nat

/-- Some time passes: the counter advances only if it is enabled. -/
structure MainCounter.Passes (before after : MainCounter) : Prop where
  enabled : after.enabled = before.enabled
  forward : before.ticks ≤ after.ticks
  halted : before.enabled = false → after.ticks = before.ticks

namespace MainCounter.Passes

variable {first second third : MainCounter}

theorem refl (counter : MainCounter) : counter.Passes counter :=
  ⟨rfl, Nat.le_refl _, fun _ => rfl⟩

theorem trans (earlier : first.Passes second) (later : second.Passes third) :
    first.Passes third := by
  refine ⟨later.enabled.trans earlier.enabled, earlier.forward.trans later.forward, ?_⟩
  intro halted
  rw [later.halted (earlier.enabled.trans halted), earlier.halted halted]

end MainCounter.Passes

/-- A device with an HPET.  Bit 0 of the register at 0x10 enables the main counter, whose
low half is at 0xf0; the comparators of timer 0 do not touch it. -/
structure Hpet {σ : Type u} (device : Device σ) where
  view : σ → MainCounter
  counter : ∀ state,
    (device.read .hpet .word 0xf0 state).1 = .ofNat 32 (view state).ticks
  config : ∀ state,
    (device.read .hpet .word 0x10 state).1.getLsbD 0 = (view state).enabled
  enable : ∀ value state,
    (view (device.write .hpet .word 0x10 value state)).enabled = value.getLsbD 0
  reads : ∀ offset state,
    (view state).Passes (view (device.read .hpet .word offset state).2)
  comparators : ∀ offset value state, offset = 0x108 ∨ offset = 0x10c →
    (view state).Passes (view (device.write .hpet .word offset value state))

/-- A predicate returns, and lets time pass; it leaves the timer alone. -/
structure Harmless {σ : Type u} (view : σ → MainCounter)
    (predicate : Exec Stop (Hw σ) Int) : Prop where
  returns : ∀ hw, ∃ res next, predicate hw = (.ok res, next)
  passes : ∀ hw, (view hw.device).Passes (view (predicate hw).2.device)

/-- The ticks between two looks at the low half of the counter. -/
theorem toNat_ticks_sub {first second : Nat} (forward : first ≤ second) :
    (BitVec.ofNat 32 second - BitVec.ofNat 32 first).toNat = (second - first) % 2 ^ 32 := by
  rw [BitVec.toNat_sub, BitVec.toNat_ofNat, BitVec.toNat_ofNat]
  omega

/-! ## A wait -/

/-- A call of `wait_event`: its arguments, and the hardware before. -/
structure TimedWait (σ : Type u) where
  device : Device σ
  hpet : Hpet device
  timeout : BitVec 32
  predicate : Option (Exec Stop (Hw σ) Int)
  hw : Hw σ
  harmless : Harmless hpet.view (predicate.getD (pure 0))

namespace TimedWait

variable {σ : Type u} (wait : TimedWait σ)

/-- What is polled; a null predicate is never positive. -/
def polled : Exec Stop (Hw σ) Int :=
  wait.predicate.getD (pure 0)

/-- The result of a poll. -/
def resultIn (hw : Hw σ) : Int :=
  match (wait.polled hw).1 with
  | .ok res => res
  | .error _ => 0

/-- The timeout in ticks, in 32 bits as in the source. -/
def ticks : BitVec 32 :=
  wait.timeout * cpms

/-- The main counter before the call. -/
def initial : MainCounter :=
  wait.hpet.view wait.hw.device

/-- The hardware when `t0` is read. -/
def started : Hw σ :=
  (initTimer wait.device wait.hw).2

/-- A poll that is not the last one.  Without a timeout the clock is not looked at. -/
def next (hw : Hw σ) : Hw σ :=
  if wait.ticks = 0 then
    (wait.polled hw).2
  else
    (clockCycles wait.device (wait.polled hw).2).2

/-- The hardware before a poll, as long as no poll is the last one. -/
def before (poll : Nat) : Hw σ :=
  wait.next^[poll] (clockCycles wait.device wait.started).2

/-- The results of the polls.  A poll begins with as many ticks elapsed as there were when
the one before it had returned. -/
def polling : Polling where
  result poll := wait.resultIn (wait.before poll)
  elapsed
    | 0 => 0
    | poll + 1 =>
        (wait.hpet.view (wait.polled (wait.before poll)).2.device).ticks -
          (wait.hpet.view wait.started.device).ticks

/-- An enabled counter goes on, and is looked at often enough not to lap. -/
structure Timely : Prop where
  advances : wait.initial.enabled = true →
    ∀ poll, ∃ later, wait.polling.elapsed poll < wait.polling.elapsed later
  unlapped : wait.polling.Unlapped (2 ^ 32) wait.ticks.toNat

/-- The wait returns, with the first positive result if it comes before the timeout. -/
def Meets : Prop :=
  ∃ bound res after,
    waitEvent wait.device bound wait.timeout wait.predicate wait.hw = (.ok res, after) ∧
      wait.polling.Answers (wait.timeout.toNat * 19200) res

/-! ## Time -/

theorem passes_started : wait.initial.Passes (wait.hpet.view wait.started.device) := by
  have write (offset : Nat) (value : BitVec 32) (state : σ)
      (comparator : offset = 0x108 ∨ offset = 0x10c) :=
    wait.hpet.comparators offset value state comparator
  exact ((((write 0x108 _ _ (.inl rfl)).trans (write 0x10c _ _ (.inr rfl))).trans
    (wait.hpet.reads 0x10 _)).trans (write 0x10c _ _ (.inr rfl)))

theorem passes_polled (hw : Hw σ) :
    (wait.hpet.view hw.device).Passes (wait.hpet.view (wait.polled hw).2.device) :=
  wait.harmless.passes hw

theorem passes_next (hw : Hw σ) :
    (wait.hpet.view (wait.polled hw).2.device).Passes
      (wait.hpet.view (wait.next hw).device) := by
  rw [next]
  split
  · exact .refl _
  · exact wait.hpet.reads 0xf0 _

@[simp]
theorem before_succ (poll : Nat) : wait.before (poll + 1) = wait.next (wait.before poll) :=
  Function.iterate_succ_apply' _ _ _

theorem passes_before (poll : Nat) :
    (wait.hpet.view wait.started.device).Passes
      (wait.hpet.view (wait.before poll).device) := by
  induction poll with
  | zero => exact wait.hpet.reads 0xf0 _
  | succ poll ih =>
      rw [before_succ]
      exact (ih.trans (wait.passes_polled _)).trans (wait.passes_next _)

/-- The ticks when a poll has returned. -/
theorem passes_after (poll : Nat) :
    (wait.hpet.view wait.started.device).Passes
      (wait.hpet.view (wait.polled (wait.before poll)).2.device) :=
  (wait.passes_before poll).trans (wait.passes_polled _)

theorem polling_timely : wait.polling.Timely := by
  refine ⟨rfl, monotone_nat_of_le_succ fun poll => ?_⟩
  cases poll with
  | zero => exact Nat.zero_le _
  | succ poll =>
      have later := (wait.passes_next (wait.before poll)).trans
        (wait.passes_polled (wait.next (wait.before poll)))
      refine Nat.sub_le_sub_right ?_ _
      rw [before_succ]
      exact later.forward

/-- A halted counter stands still. -/
theorem elapsed_of_halted (halted : wait.initial.enabled = false) (poll : Nat) :
    wait.polling.elapsed poll = 0 := by
  cases poll with
  | zero => rfl
  | succ poll =>
      have stands := (wait.passes_after poll).halted
        (wait.passes_started.enabled.trans halted)
      exact Nat.sub_eq_zero_of_le (Nat.le_of_eq stands)

/-! ## The loop -/

theorem polled_apply (hw : Hw σ) :
    wait.polled hw = (.ok (wait.resultIn hw), (wait.polled hw).2) := by
  obtain ⟨res, after, returned⟩ := wait.harmless.returns hw
  have polled : wait.polled hw = (.ok res, after) := returned
  rw [resultIn, polled]

/-- `t0`. -/
def start : BitVec 32 :=
  .ofNat 32 (wait.hpet.view wait.started.device).ticks

/-- What the clock shows after a poll. -/
def shown (poll : Nat) : BitVec 32 :=
  .ofNat 32 (wait.hpet.view (wait.polled (wait.before poll)).2.device).ticks

theorem clockCycles_apply (poll : Nat) :
    clockCycles wait.device (wait.polled (wait.before poll)).2 =
      (.ok (wait.shown poll), (clockCycles wait.device (wait.polled (wait.before poll)).2).2) := by
  rw [shown, ← wait.hpet.counter]
  rfl

/-- The rest of the wait, from a poll on. -/
def loopFrom (bound poll : Nat) : Except Stop Int × Hw σ :=
  pollLoop wait.device wait.predicate wait.start wait.ticks bound (wait.before poll)

theorem waitEvent_eq (bound : Nat) :
    waitEvent wait.device bound wait.timeout wait.predicate wait.hw =
      wait.loopFrom bound 0 := by
  have timer : initTimer wait.device wait.hw = (.ok (), wait.started) := rfl
  have clock : clockCycles wait.device wait.started =
      (.ok wait.start, (clockCycles wait.device wait.started).2) := by
    rw [start, ← wait.hpet.counter]
    rfl
  rw [waitEvent, Exec.bind_of_ok timer, Exec.bind_of_ok clock]
  rfl

/-- The clock has not yet been looked at, or shows less than the timeout. -/
theorem loopFrom_succ (bound poll : Nat) :
    wait.loopFrom (bound + 1) poll =
      if 0 < wait.polling.result poll then
        (.ok (wait.polling.result poll), (wait.polled (wait.before poll)).2)
      else if wait.ticks = 0 ∨
          wait.polling.elapsed (poll + 1) % 2 ^ 32 < wait.ticks.toNat then
        wait.loopFrom bound (poll + 1)
      else
        (.ok (-1), wait.before (poll + 1)) := by
  have polled : wait.predicate.getD (pure 0) (wait.before poll) =
      (.ok (wait.polling.result poll), (wait.polled (wait.before poll)).2) :=
    wait.polled_apply (wait.before poll)
  rw [loopFrom, loopFrom, pollLoop, Exec.bind_of_ok polled, before_succ, next]
  by_cases positive : 0 < wait.polling.result poll
  · rw [if_pos positive, if_pos positive]
    rfl
  · rw [if_neg positive, if_neg positive]
    by_cases unlimited : wait.ticks = 0
    · rw [if_pos unlimited, if_pos unlimited, if_pos (.inl unlimited)]
    · rw [if_neg unlimited, if_neg unlimited, Exec.bind_of_ok (wait.clockCycles_apply poll)]
      have elapsed : wait.polling.elapsed (poll + 1) % 2 ^ 32 =
          (wait.shown poll - wait.start).toNat :=
        (toNat_ticks_sub (wait.passes_after poll).forward).symm
      rw [elapsed]
      by_cases late : wait.ticks ≤ wait.shown poll - wait.start
      · have overdue := BitVec.le_def.mp late
        rw [if_pos late, if_neg (not_or.mpr ⟨unlimited, Nat.not_lt.mpr overdue⟩)]
        rfl
      · have less := Nat.lt_of_not_le (mt BitVec.le_def.mpr late)
        rw [if_neg late, if_pos (.inr less)]

/-- The wait goes on after a poll. -/
def Continues (poll : Nat) : Prop :=
  wait.polling.result poll ≤ 0 ∧
    (wait.ticks = 0 ∨ wait.polling.elapsed (poll + 1) % 2 ^ 32 < wait.ticks.toNat)

theorem loopFrom_of_continues {poll : Nat} (bound : Nat) (continues : wait.Continues poll) :
    wait.loopFrom (bound + 1) poll = wait.loopFrom bound (poll + 1) := by
  rw [loopFrom_succ, if_neg (Int.not_lt.mpr continues.1), if_pos continues.2]

/-- The wait comes to every poll before which it goes on. -/
theorem loopFrom_add {poll : Nat} (bound : Nat)
    (continues : ∀ earlier < poll, wait.Continues earlier) :
    wait.loopFrom (poll + bound) 0 = wait.loopFrom bound poll := by
  induction poll generalizing bound with
  | zero => rw [Nat.zero_add]
  | succ poll ih =>
      have earlier := ih (bound + 1) fun other less => continues other (Nat.lt_succ_of_lt less)
      rw [Nat.succ_add_eq_add_succ, earlier,
        wait.loopFrom_of_continues bound (continues poll (Nat.lt_succ_self poll))]

/-- A wait that always goes on does not return. -/
theorem running_of_continues (continues : ∀ poll, wait.Continues poll) (bound : Nat) :
    (waitEvent wait.device bound wait.timeout wait.predicate wait.hw).1 = .error .running := by
  have goesOn := wait.loopFrom_add 0 fun earlier (_ : earlier < bound) => continues earlier
  rw [waitEvent_eq, ← Nat.add_zero bound, goesOn]
  rfl

/-- A wait with a timeout returns what its polls settle. -/
theorem returns_of_settles (limited : wait.ticks ≠ 0) {res : Int}
    (settles : wait.polling.Settles (2 ^ 32) wait.ticks.toNat res) :
    ∃ bound after,
      waitEvent wait.device bound wait.timeout wait.predicate wait.hw = (.ok res, after) := by
  cases settles with
  | @event poll before positive =>
      have reached := wait.loopFrom_add 1 fun earlier less =>
        ⟨(before earlier less).1, .inr (before earlier less).2⟩
      refine ⟨poll + 1, (wait.polled (wait.before poll)).2, ?_⟩
      rw [waitEvent_eq, reached, loopFrom_succ, if_pos positive]
  | @late poll before nothing overdue =>
      have reached := wait.loopFrom_add 1 fun earlier less =>
        ⟨(before earlier less).1, .inr (before earlier less).2⟩
      refine ⟨poll + 1, wait.before (poll + 1), ?_⟩
      rw [waitEvent_eq, reached, loopFrom_succ, if_neg (Int.not_lt.mpr nothing),
        if_neg (not_or.mpr ⟨limited, Nat.not_lt.mpr overdue⟩)]

/-! ## Waits with a running counter -/

theorem toNat_ticks (fits : wait.timeout.toNat * 19200 < 2 ^ 32) :
    wait.ticks.toNat = wait.timeout.toNat * 19200 := by
  have factor : cpms.toNat = 19200 := rfl
  rw [ticks, BitVec.toNat_mul, factor, Nat.mod_eq_of_lt fits]

/-- With the counter enabled and a timeout whose ticks fit in 32 bits, a wait ends as it
should. -/
theorem meets_of_enabled (enabled : wait.initial.enabled = true)
    (fits : wait.timeout.toNat * 19200 < 2 ^ 32) (nonzero : wait.timeout ≠ 0)
    (timely : wait.Timely) : wait.Meets := by
  have product := wait.toNat_ticks fits
  have some : 0 < wait.timeout.toNat := by
    rw [Nat.pos_iff_ne_zero]
    exact fun zero => nonzero (BitVec.eq_of_toNat_eq zero)
  have positive : 0 < wait.ticks.toNat := by
    rw [product]
    exact Nat.mul_pos some (by decide)
  have limited : wait.ticks ≠ 0 := by
    intro zero
    rw [zero] at positive
    exact absurd positive (by decide)
  have ends := Polling.exists_not_pending wait.polling_timely timely.unlapped positive
    (timely.advances enabled)
  obtain ⟨res, settles⟩ := Polling.exists_settles ends
  obtain ⟨bound, after, returned⟩ := wait.returns_of_settles limited settles
  have answers := settles.answers wait.polling_timely timely.unlapped positive
  rw [product] at answers
  exact ⟨bound, res, after, returned, answers⟩

end TimedWait

/-! ## Waits that fail -/

/-- A timer whose registers can be read at once. -/
def timerDevice : Device MainCounter where
  read window _ offset counter :=
    if window = .hpet ∧ offset = 0xf0 then (.ofNat 32 counter.ticks, counter)
    else if window = .hpet ∧ offset = 0x10 then (if counter.enabled then 1 else 0, counter)
    else (0, counter)
  write window _ offset value counter :=
    if window = .hpet ∧ offset = 0x10 then { counter with enabled := value.getLsbD 0 }
    else counter
  mapPhysical _ counter := (none, counter)

/-- One tick passes, if the counter is enabled. -/
def MainCounter.tick (counter : MainCounter) : MainCounter :=
  { counter with ticks := if counter.enabled then counter.ticks + 1 else counter.ticks }

theorem MainCounter.passes_tick (counter : MainCounter) : counter.Passes counter.tick := by
  refine ⟨rfl, ?_, ?_⟩
  · rw [tick]
    split
    · exact Nat.le_succ _
    · exact Nat.le_refl _
  · intro halted
    simp [tick, halted]

/-- The timer of the example has the registers of an HPET. -/
def timerHpet : Hpet timerDevice where
  view := id
  counter _ := rfl
  config := by
    rintro ⟨enabled, ticks⟩
    cases enabled <;> simp [timerDevice]
  enable _ _ := rfl
  reads offset counter := by
    simp only [timerDevice]
    split_ifs <;> exact .refl counter
  comparators offset value counter comparator := by
    rcases comparator with rfl | rfl <;> exact .refl counter

/-- A predicate that takes a tick; its results depend on the counter. -/
def tickingPredicate (results : Nat → Int) : Exec Stop (Hw MainCounter) Int where
  run hw := (.ok (results hw.device.tick.ticks), { hw with device := hw.device.tick })

/-- A wait on that timer. -/
def tickingWait (initial : MainCounter) (timeout : BitVec 32) (results : Nat → Int) :
    TimedWait MainCounter where
  device := timerDevice
  hpet := timerHpet
  timeout := timeout
  predicate := some (tickingPredicate results)
  hw := ⟨initial, []⟩
  harmless :=
    { returns := fun _ => ⟨_, _, rfl⟩
      passes := fun hw => hw.device.passes_tick }

section

variable (initial : MainCounter) (timeout : BitVec 32) (results : Nat → Int)

theorem tickingWait_before (poll : Nat) :
    ((tickingWait initial timeout results).before poll).device =
      MainCounter.tick^[poll] initial := by
  induction poll with
  | zero => rfl
  | succ poll ih =>
      rw [TimedWait.before_succ, Function.iterate_succ_apply', ← ih, TimedWait.next]
      split <;> rfl

theorem tick_iterate (poll : Nat) :
    (MainCounter.tick^[poll] initial).enabled = initial.enabled ∧
      (MainCounter.tick^[poll] initial).ticks =
        if initial.enabled then initial.ticks + poll else initial.ticks := by
  induction poll with
  | zero => simp
  | succ poll ih =>
      rw [Function.iterate_succ_apply']
      simp only [MainCounter.tick, ih]
      cases initial.enabled <;> simp [Nat.add_assoc]

/-- Every poll takes a tick. -/
theorem tickingWait_elapsed (poll : Nat) :
    (tickingWait initial timeout results).polling.elapsed poll =
      if initial.enabled then poll else 0 := by
  cases poll with
  | zero => simp [TimedWait.polling]
  | succ poll =>
      have after : ((tickingWait initial timeout results).polled
          ((tickingWait initial timeout results).before poll)).2.device =
            MainCounter.tick^[poll + 1] initial := by
        rw [Function.iterate_succ_apply', ← tickingWait_before initial timeout results poll]
        rfl
      change (timerHpet.view _).ticks - initial.ticks = _
      rw [after]
      change (MainCounter.tick^[poll + 1] initial).ticks - initial.ticks = _
      rw [(tick_iterate initial (poll + 1)).2]
      split <;> simp

theorem tickingWait_result (poll : Nat) :
    (tickingWait initial timeout results).polling.result poll =
      results (MainCounter.tick^[poll + 1] initial).ticks := by
  rw [Function.iterate_succ_apply', ← tickingWait_before initial timeout results poll]
  rfl

theorem tickingWait_timely : (tickingWait initial timeout results).Timely := by
  constructor
  · intro enabled poll
    have running : initial.enabled = true := enabled
    exact ⟨poll + 1, by simp [tickingWait_elapsed, running]⟩
  · intro poll
    have bound := (tickingWait initial timeout results).ticks.isLt
    rw [tickingWait_elapsed, tickingWait_elapsed]
    split <;> omega

end

/-- Without an event the wait goes on, if the counter is halted or the product of the
timeout has wrapped to zero. -/
theorem running_of_unlimited {initial : MainCounter} {timeout : BitVec 32}
    (unlimited : timeout * cpms = 0 ∨ initial.enabled = false) (bound : Nat) :
    (waitEvent timerDevice bound timeout (some (tickingPredicate fun _ => 0))
      ⟨initial, []⟩).1 = .error .running := by
  let wait := tickingWait initial timeout fun _ => 0
  refine wait.running_of_continues (fun poll => ⟨?_, ?_⟩) bound
  · exact Int.le_of_eq (tickingWait_result initial timeout _ poll)
  · rcases unlimited with none | halted
    · exact .inl none
    · by_cases none : wait.ticks = 0
      · exact .inl none
      · have some : 0 < wait.ticks.toNat := by
          rw [Nat.pos_iff_ne_zero]
          exact fun zero => none (BitVec.eq_of_toNat_eq zero)
        have stands := wait.elapsed_of_halted halted (poll + 1)
        rw [stands, Nat.zero_mod]
        exact .inr some

theorem not_meets_of_unlimited {initial : MainCounter} {timeout : BitVec 32}
    (unlimited : timeout * cpms = 0 ∨ initial.enabled = false) :
    ¬(tickingWait initial timeout fun _ => 0).Meets := by
  rintro ⟨bound, res, after, returned, -⟩
  have stopped : (waitEvent timerDevice bound timeout (some (tickingPredicate fun _ => 0))
      ⟨initial, []⟩).1 = .ok res := congrArg Prod.fst returned
  rw [running_of_unlimited unlimited] at stopped
  cases stopped

/-- The event comes one poll after the wrapped timeout. -/
theorem not_meets_of_wrapped {initial : MainCounter} {timeout : BitVec 32}
    (enabled : initial.enabled = true) (some : timeout * cpms ≠ 0)
    (wraps : 2 ^ 32 ≤ timeout.toNat * 19200) :
    ¬(tickingWait initial timeout fun ticks =>
      if initial.ticks + (timeout * cpms).toNat < ticks then 1 else 0).Meets := by
  let wrapped := (timeout * cpms).toNat
  let wait := tickingWait initial timeout fun ticks =>
    if initial.ticks + wrapped < ticks then 1 else 0
  have small : wrapped < 2 ^ 32 := (timeout * cpms).isLt
  have elapsed (poll : Nat) : wait.polling.elapsed poll = poll := by
    rw [tickingWait_elapsed, if_pos enabled]
  have result (poll : Nat) : wait.polling.result poll = if wrapped ≤ poll then 1 else 0 := by
    have shown := tickingWait_result initial timeout
      (fun ticks => if initial.ticks + wrapped < ticks then 1 else 0) poll
    rw [(tick_iterate initial (poll + 1)).2, if_pos enabled] at shown
    rw [shown]
    simp only [Nat.add_lt_add_iff_left, Nat.lt_add_one_iff]
  rintro ⟨bound, res, after, returned, answers⟩
  obtain ⟨last, total⟩ : ∃ last, wrapped = last + 1 :=
    Nat.exists_eq_succ_of_ne_zero fun zero => some (BitVec.eq_of_toNat_eq zero)
  have before (earlier : Nat) (less : earlier < last) :
      wait.polling.Pending (2 ^ 32) wrapped earlier := by
    rw [Polling.Pending, result, elapsed, if_neg (by omega)]
    exact ⟨Int.le_refl 0, by omega⟩
  have nothing : wait.polling.result last ≤ 0 := by
    rw [result, if_neg (by omega)]
  have overdue : wrapped ≤ wait.polling.elapsed (last + 1) % 2 ^ 32 := by
    rw [elapsed, ← total, Nat.mod_eq_of_lt small]
  obtain ⟨bound', after', returned'⟩ :=
    wait.returns_of_settles some (.late before nothing overdue)
  have same : res = -1 :=
    (Exec.unique_of_extends (fun _ _ le => waitEvent_extends _ _ _ le) returned returned').1
  subst same
  generalize shown : (-1 : Int) = res at answers
  cases answers with
  | event first positive inTime => omega
  | late never =>
      have early : wait.polling.elapsed wrapped < timeout.toNat * 19200 := by
        rw [elapsed]
        exact Nat.lt_of_lt_of_le small wraps
      have event := never wrapped early
      rw [result, if_pos (Nat.le_refl _)] at event
      exact absurd event (by decide)

/-- From an initial state of the timer every wait ends as it should, whatever the
predicate returns and however the counter goes on, exactly if the counter is enabled
already and the timeout in ticks fits in 32 bits. -/
theorem waits_meet_iff (initial : MainCounter) {timeout : BitVec 32} (nonzero : timeout ≠ 0) :
    (∀ (σ : Type) (wait : TimedWait σ), wait.initial = initial → wait.timeout = timeout →
      wait.Timely → wait.Meets) ↔
      initial.enabled = true ∧ timeout.toNat * 19200 < 2 ^ 32 := by
  constructor
  · intro meets
    have ticking (results : Nat → Int) : (tickingWait initial timeout results).Meets :=
      meets MainCounter _ rfl rfl (tickingWait_timely initial timeout results)
    have enabled : initial.enabled = true := by
      by_contra halted
      exact not_meets_of_unlimited (.inr (by simpa using halted)) (ticking _)
    refine ⟨enabled, Nat.lt_of_not_le fun wraps => ?_⟩
    by_cases none : timeout * cpms = 0
    · exact not_meets_of_unlimited (.inl none) (ticking _)
    · exact not_meets_of_wrapped enabled none wraps (ticking _)
  · rintro ⟨enabled, fits⟩ σ wait rfl rfl timely
    exact wait.meets_of_enabled enabled fits nonzero timely

theorem waits_meet_iff_three_seconds :
    (∀ (σ : Type) (wait : TimedWait σ), wait.initial = ⟨true, 0xFFFFFFFF⟩ →
      wait.timeout = 3000 → wait.Timely → wait.Meets) ↔
      (⟨true, 0xFFFFFFFF⟩ : MainCounter).enabled = true ∧
        (3000 : BitVec 32).toNat * 19200 < 2 ^ 32 :=
  waits_meet_iff _ (by decide)

/-- The driver's own timeout on a counter that is halted when the wait begins. -/
theorem halted_counter_waits :
    (tickingWait ⟨false, 0⟩ heciEventTimeout fun _ => 0).Timely ∧
      (∀ bound, (waitEvent timerDevice bound heciEventTimeout
        (some (tickingPredicate fun _ => 0)) ⟨⟨false, 0⟩, []⟩).1 = .error .running) ∧
      ¬(tickingWait ⟨false, 0⟩ heciEventTimeout fun _ => 0).Meets :=
  ⟨tickingWait_timely _ _ _, running_of_unlimited (.inr rfl),
    not_meets_of_unlimited (.inr rfl)⟩

end SandPlatform.Heci
