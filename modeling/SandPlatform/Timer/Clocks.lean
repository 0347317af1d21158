import SandPlatform.Foundation.Run
import SandPlatform.Timer.Backup
import Mathlib.Data.List.Pairwise

/-!
# The two clocks

`current_time` reads the time stamp counter and leaves the time in static data,
where `current_time_hires` takes it from.  The second clock therefore shows the
time of the last call of the first one.
-/

namespace SandPlatform.Timer

open SandPlatform.Foundation

namespace TimerData

/-- In microseconds; the counter is not read. -/
def currentTimeHires (timer : TimerData) : BitVec 64 :=
  timer.timerCurrentTime * 1000

/-- `platform_init_timer`, for a dynamic timer. -/
def platformInitTimer (tsc : BitVec 64) (timer : TimerData) : TimerData :=
  let time := timer.currentTime tsc
  { time.2 with timerCurrentTime := time.1.setWidth 64 }

end TimerData

/-! ## Runs of calls -/

/-- The two clocks of the kernel. -/
inductive Clock
  | currentTime
  | currentTimeHires
  deriving DecidableEq

/-- A call, and the time stamp counter at that instant. -/
structure Call where
  clock : Clock
  tsc : BitVec 64

/-- What the clocks have shown: the values of `current_time`, and those of
`current_time_hires` with what `current_time` would have reported instead. -/
structure Watch where
  timer : TimerData
  times : List (BitVec 32)
  hires : List (BitVec 64 × BitVec 32)

namespace Watch

/-- After `platform_init_timer`. -/
def start (tsc : BitVec 64) : Watch :=
  ⟨TimerData.start.platformInitTimer tsc, [], []⟩

/-- A clock is read; only one of them reads the counter. -/
def step (watch : Watch) (call : Call) : Watch :=
  match call.clock with
  | .currentTime =>
      let time := watch.timer.currentTime call.tsc
      { watch with timer := time.2, times := watch.times ++ [time.1] }
  | .currentTimeHires =>
      { watch with
        hires := watch.hires ++
          [(watch.timer.currentTimeHires, (watch.timer.currentTime call.tsc).1)] }

/-- Neither clock goes back, and the values of the second are within a millisecond
of those of the first. -/
structure Agree (watch : Watch) : Prop where
  times : watch.times.Pairwise (· ≤ ·)
  hires : (watch.hires.map Prod.fst).Pairwise (· ≤ ·)
  close : ∀ shown ∈ watch.hires,
    shown.1.toNat ≤ 1000 * shown.2.toNat + 1000 ∧
      1000 * shown.2.toNat ≤ shown.1.toNat + 1000

/-- A call of `current_time_hires` at most one millisecond after the time that
`current_time` has left. -/
def Fresh (watch : Watch) (call : Call) : Prop :=
  call.clock = .currentTimeHires →
    call.tsc.toNat / 2200000 ≤ watch.timer.timerCurrentTime.toNat + 1

/-- Nothing has been shown that is later than the time in the static data, nor is
that time later than the counter. -/
structure Behind (watch : Watch) (tsc : BitVec 64) : Prop where
  cached : watch.timer.timerCurrentTime.toNat ≤ tsc.toNat / 2200000
  times : ∀ time ∈ watch.times, time.toNat ≤ watch.timer.timerCurrentTime.toNat
  hires : ∀ shown ∈ watch.hires,
    shown.1.toNat ≤ 1000 * watch.timer.timerCurrentTime.toNat

end Watch

/-! ## One call -/

/-- The milliseconds of the counter fit in the type of `current_time`. -/
def InRange (tsc : BitVec 64) : Prop :=
  tsc.toNat < 2 ^ 32 * 2200000

theorem toNat_millis (tsc : BitVec 64) : (tsc / tscPerMs).toNat = tsc.toNat / 2200000 := by
  rw [BitVec.toNat_udiv]
  rfl

theorem currentTime_toNat (timer : TimerData) {tsc : BitVec 64} (fits : InRange tsc) :
    (timer.currentTime tsc).1.toNat = tsc.toNat / 2200000 := by
  rw [InRange] at fits
  rw [TimerData.currentTime, BitVec.toNat_setWidth, toNat_millis]
  exact Nat.mod_eq_of_lt (by omega)

/-- Milliseconds that come from the counter are not too many for microseconds. -/
theorem currentTimeHires_toNat {timer : TimerData} {tsc : BitVec 64}
    (behind : timer.timerCurrentTime.toNat ≤ tsc.toNat / 2200000) :
    timer.currentTimeHires.toNat = 1000 * timer.timerCurrentTime.toNat := by
  have bound := tsc.isLt
  have factor : (1000 : BitVec 64).toNat = 1000 := rfl
  rw [TimerData.currentTimeHires, BitVec.toNat_mul, factor, Nat.mul_comm]
  exact Nat.mod_eq_of_lt (by omega)

namespace Watch

theorem start_behind {tsc : BitVec 64} (fits : InRange tsc) :
    (start tsc).Behind tsc := by
  constructor
  · change (BitVec.setWidth 64 (TimerData.start.currentTime tsc).1).toNat ≤ _
    rw [BitVec.toNat_setWidth, currentTime_toNat _ fits]
    exact Nat.mod_le _ _
  · simp [start]
  · simp [start]

theorem start_agree (tsc : BitVec 64) : (start tsc).Agree := by
  constructor <;> simp [start]

variable {watch : Watch} {tsc : BitVec 64} {call : Call}

/-- A call of either clock keeps what has been shown behind the counter. -/
theorem step_behind (behind : watch.Behind tsc) (rises : tsc ≤ call.tsc)
    (fits : InRange call.tsc) : (watch.step call).Behind call.tsc := by
  have later : tsc.toNat / 2200000 ≤ call.tsc.toNat / 2200000 := Nat.div_le_div_right rises
  have cached := behind.cached
  rcases called : call.clock with _ | _
  · have millis := toNat_millis call.tsc
    have shown := currentTime_toNat watch.timer fits
    simp only [step, called]
    constructor
    · exact Nat.le_of_eq millis
    · intro time among
      change time.toNat ≤ (call.tsc / tscPerMs).toNat
      rcases List.mem_append.mp among with before | new
      · have bound := behind.times time before
        omega
      · rw [List.mem_singleton.mp new]
        omega
    · intro pair before
      change pair.1.toNat ≤ 1000 * (call.tsc / tscPerMs).toNat
      have bound := behind.hires pair before
      omega
  · have micros := currentTimeHires_toNat cached
    simp only [step, called]
    constructor
    · exact Nat.le_trans cached later
    · exact behind.times
    · intro pair among
      rcases List.mem_append.mp among with before | new
      · exact behind.hires pair before
      · rw [List.mem_singleton.mp new]
        exact Nat.le_of_eq micros

/-- One call keeps the clocks together exactly if it is fresh. -/
theorem step_agree_iff (behind : watch.Behind tsc) (rises : tsc ≤ call.tsc)
    (fits : InRange call.tsc) :
    (watch.step call).Agree ↔ watch.Agree ∧ watch.Fresh call := by
  have later : tsc.toNat / 2200000 ≤ call.tsc.toNat / 2200000 := Nat.div_le_div_right rises
  have cached := behind.cached
  have shown := currentTime_toNat watch.timer fits
  rcases called : call.clock with _ | _
  · have bound : ∀ time ∈ watch.times, time ≤ (watch.timer.currentTime call.tsc).1 := by
      intro time before
      have least := behind.times time before
      change time.toNat ≤ _
      omega
    have sorted := pairwise_snoc bound
    simp only [step, called, Fresh, reduceCtorEq, false_implies, and_true]
    constructor
    · intro agree
      exact ⟨sorted.mp agree.times, agree.hires, agree.close⟩
    · intro agree
      exact ⟨sorted.mpr agree.times, agree.hires, agree.close⟩
  · have micros := currentTimeHires_toNat cached
    have bound : ∀ value ∈ watch.hires.map Prod.fst,
        value ≤ watch.timer.currentTimeHires := by
      intro value among
      obtain ⟨pair, before, rfl⟩ := List.mem_map.mp among
      have least := behind.hires pair before
      change pair.1.toNat ≤ _
      omega
    have sorted := pairwise_snoc bound
    simp only [step, called, Fresh, true_implies]
    constructor
    · rintro ⟨times, hires, close⟩
      obtain ⟨before, last⟩ := forall_mem_snoc.mp close
      rw [List.map_append] at hires
      simp only [shown, micros] at last
      refine ⟨⟨times, sorted.mp hires, before⟩, ?_⟩
      omega
    · rintro ⟨⟨times, hires, close⟩, fresh⟩
      refine ⟨times, ?_, forall_mem_snoc.mpr ⟨close, ?_⟩⟩
      · rw [List.map_append]
        exact sorted.mpr hires
      · simp only [shown, micros]
        omega

end Watch

/-! ## Runs -/

/-- A trace of calls at which the counter never goes back and stays in range. -/
def Trace (tsc : BitVec 64) : List Call → Prop
  | [] => InRange tsc
  | call :: rest => InRange tsc ∧ tsc ≤ call.tsc ∧ Trace call.tsc rest

theorem Trace.inRange {tsc : BitVec 64} {calls : List Call} (trace : Trace tsc calls) :
    InRange tsc := by
  cases calls with
  | nil => exact trace
  | cons call rest => exact trace.1

theorem run_agree_iff {watch : Watch} {tsc : BitVec 64} {calls : List Call}
    (behind : watch.Behind tsc) (trace : Trace tsc calls) :
    (run Watch.step watch calls).Agree ↔
      watch.Agree ∧ Along Watch.step Watch.Fresh watch calls := by
  induction calls generalizing watch tsc with
  | nil => exact (and_iff_left trivial).symm
  | cons call rest ih =>
      obtain ⟨-, rises, later⟩ := trace
      have fits := later.inRange
      rw [run_cons, ih (Watch.step_behind behind rises fits) later,
        Watch.step_agree_iff behind rises fits, Along, and_assoc]

/-- The clocks agree in a run exactly if every call of `current_time_hires` is made
at most a millisecond after one of `current_time`. -/
theorem clocks_agree_iff {tsc : BitVec 64} {calls : List Call} (trace : Trace tsc calls) :
    (run Watch.step (Watch.start tsc) calls).Agree ↔
      Along Watch.step Watch.Fresh (Watch.start tsc) calls := by
  rw [run_agree_iff (Watch.start_behind trace.inRange) trace]
  exact and_iff_right (Watch.start_agree tsc)

/-- A call of each clock, two milliseconds later. -/
def lateCalls : List Call :=
  [⟨.currentTime, 0⟩, ⟨.currentTimeHires, 4400000⟩]

theorem lateCalls_agree_iff :
    (run Watch.step (Watch.start 0) lateCalls).Agree ↔
      Along Watch.step Watch.Fresh (Watch.start 0) lateCalls :=
  clocks_agree_iff (by simp [Trace, lateCalls, InRange])

/-- The second clock still shows the time of the first call. -/
theorem lateCalls_disagree :
    lateCalls.Pairwise (fun first second => first.tsc ≤ second.tsc) ∧
      ¬(run Watch.step (Watch.start 0) lateCalls).Agree := by
  refine ⟨by simp [lateCalls], fun agree => ?_⟩
  have close := agree.close (0, 2) (by decide)
  exact absurd close (by decide)

end SandPlatform.Timer
