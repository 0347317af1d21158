import SandPlatform.Spi.Frame

/-!
# Chip select and data register

Every word of a call goes over the bus while the call has the chip select asserted,
words are written and read in turn, and the call leaves the chip select register
with the chip select deasserted and nothing else changed.
-/

namespace SandPlatform.Spi

open SandPlatform.Foundation
open SandPlatform.Hardware

universe u

variable {σ : Type u} {device : Device σ}

/-! ## What is wanted -/

/-- The chip select register keeps what is written to it. -/
structure PlainCc (device : Device σ) where
  cc : σ → BitVec 32
  read_value : ∀ state, (device.read .spi .word Reg.cc state).1 = cc state
  read_keeps : ∀ reg state, cc (device.read .spi .word reg state).2 = cc state
  write_value : ∀ value state, cc (device.write .spi .word Reg.cc value state) = value
  write_keeps : ∀ reg value state, reg ≠ Reg.cc →
    cc (device.write .spi .word reg value state) = cc state

/-- An access to the data register. -/
def IsDr (access : Access) : Prop :=
  ∃ width value, access = .read .spi width Reg.dr value ∨
    access = .write .spi width Reg.dr value

/-- A write to the chip select register. -/
def IsCcWrite (access : Access) : Prop :=
  ∃ width value, access = .write .spi width Reg.cc value

/-- All accesses to the data register lie between a write that asserts the chip select
and one that deasserts it, with no other such write between the two. -/
def Bracketed (accesses : List Access) : Prop :=
  ∃ later deasserted body asserted earlier,
    accesses = later ++ .write .spi .word Reg.cc deasserted :: body ++
      .write .spi .word Reg.cc asserted :: earlier ∧
    asserted &&& csControlCsHigh = 0 ∧ deasserted &&& csControlCsHigh ≠ 0 ∧
    (∀ access ∈ body, ¬IsCcWrite access) ∧ ∀ access ∈ later ++ earlier, ¬IsDr access

/-- The words written and read so far differ by at most one. -/
def Balanced (moment : List Access) : Prop :=
  (takenWords moment).length ≤ (sentWords moment).length ∧
    (sentWords moment).length ≤ (takenWords moment).length + 1

/-- The accesses a call has made, newest first. -/
structure Disciplined (plain : PlainCc device) (before after : Hw σ) (ret : Status)
    (accesses : List Access) : Prop where
  log : after.log = accesses ++ before.log
  bracketed : (∀ access ∈ accesses, ¬IsDr access) ∨ Bracketed accesses
  released : ret ≠ .invalidArgs → ret ≠ .busy →
    plain.cc after.device = plain.cc before.device ||| csControlCsHigh
  balanced : ∀ moment, moment <:+ accesses → Balanced moment
  even : ret = .noError → (sentWords accesses).length = (takenWords accesses).length
  refused : ret = .invalidArgs ∨ ret = .busy →
    ∀ access ∈ accesses, ∀ window width reg value,
      access ≠ .write window width reg value

/-! ## Pairs -/

/-- Words are written and read in turn; one may be pending. -/
structure Paired (pending : Bool) (accesses : List Access) : Prop where
  counts : (sentWords accesses).length = (takenWords accesses).length + pending.toNat
  balanced : ∀ moment, moment <:+ accesses → Balanced moment

theorem Paired.cons {pending pending' : Bool} {access : Access} {accesses : List Access}
    (paired : Paired pending accesses)
    (counts : (sentWords (access :: accesses)).length =
      (takenWords (access :: accesses)).length + pending'.toNat) :
    Paired pending' (access :: accesses) := by
  refine ⟨counts, fun moment moments => ?_⟩
  rcases List.suffix_cons_iff.mp moments with rfl | earlier
  · have atMost := Bool.toNat_le pending'
    exact ⟨by omega, by omega⟩
  · exact paired.balanced moment earlier

theorem paired_nil : Paired false [] := by
  constructor
  · rfl
  · simp [Balanced, sentWords, takenWords]

/-- An access to another register changes nothing. -/
theorem Paired.other {pending : Bool} {access : Access} {accesses : List Access}
    (paired : Paired pending accesses) {reg : Nat} {value : BitVec 32} (notDr : reg ≠ Reg.dr)
    (shape : access = .read .spi .word reg value ∨ access = .write .spi .word reg value) :
    Paired pending (access :: accesses) := by
  apply paired.cons
  have counts := paired.counts
  rcases shape with rfl | rfl
  · simpa [sentWords, takenWords, notDr] using counts
  · simpa [sentWords, takenWords, notDr] using counts

theorem Polls.paired {polls accesses : List Access} {pending : Bool} (polled : Polls polls)
    (paired : Paired pending accesses) : Paired pending (polls ++ accesses) := by
  induction polls with
  | nil => exact paired
  | cons access polls ih =>
      obtain ⟨⟨value, rfl⟩, rest⟩ := List.forall_mem_cons.mp polled
      have notDr : Reg.sr ≠ Reg.dr := by decide
      exact (ih rest).other notDr (.inl rfl)

theorem Exchanges.paired {pending : Bool} {body accesses : List Access}
    (exchanges : Exchanges pending body) (paired : Paired false accesses) :
    Paired pending (body ++ accesses) := by
  induction exchanges with
  | nil => exact paired
  | poll value _ ih =>
      have notDr : Reg.sr ≠ Reg.dr := by decide
      exact ih.other notDr (.inl rfl)
  | write value _ ih =>
      apply ih.cons
      have counts := ih.counts
      simpa [sentWords, takenWords] using counts
  | read value _ ih =>
      apply ih.cons
      have counts := ih.counts
      simpa [sentWords, takenWords] using counts

theorem csAccesses_paired {pending : Bool} {accesses : List Access} (flag : Bool)
    (value : BitVec 32) (paired : Paired pending accesses) :
    Paired pending (csAccesses flag value ++ accesses) := by
  have notDr : Reg.cc ≠ Reg.dr := by decide
  exact (paired.other notDr (.inl rfl)).other notDr (.inr rfl)

theorem polled_paired {polls : List Access} (polled : Polls polls) (value : BitVec 32) :
    Paired false (csAccesses true value ++ polls) := by
  have paired := polled.paired paired_nil
  rw [List.append_nil] at paired
  exact csAccesses_paired true value paired

/-! ## The chip select register -/

/-- An access that leaves the chip select register alone. -/
def KeepsCc (access : Access) : Prop :=
  ∃ reg value, access = .read .spi .word reg value ∨
    reg ≠ Reg.cc ∧ access = .write .spi .word reg value

theorem Polls.keepsCc {polls : List Access} (polled : Polls polls) :
    ∀ access ∈ polls, KeepsCc access := by
  intro access among
  obtain ⟨value, rfl⟩ := polled access among
  exact ⟨_, value, .inl rfl⟩

theorem Exchanges.keepsCc {pending : Bool} {body : List Access}
    (exchanges : Exchanges pending body) : ∀ access ∈ body, KeepsCc access := by
  induction exchanges with
  | nil => simp
  | poll value _ ih => exact List.forall_mem_cons.mpr ⟨⟨_, value, .inl rfl⟩, ih⟩
  | write value _ ih =>
      have other : Reg.dr ≠ Reg.cc := by decide
      exact List.forall_mem_cons.mpr ⟨⟨_, value, .inr ⟨other, rfl⟩⟩, ih⟩
  | read value _ ih => exact List.forall_mem_cons.mpr ⟨⟨_, value, .inl rfl⟩, ih⟩

theorem KeepsCc.not_isCcWrite {access : Access} (keeps : KeepsCc access) :
    ¬IsCcWrite access := by
  rintro ⟨width, written, rfl⟩
  obtain ⟨reg, value, same | ⟨other, same⟩⟩ := keeps
  · cases same
  · cases same
    exact other rfl

variable (plain : PlainCc device)

theorem cc_after {accesses : List Access} {hw next : Hw σ}
    (after : After device accesses hw next) (keep : ∀ access ∈ accesses, KeepsCc access) :
    plain.cc next.device = plain.cc hw.device := by
  rw [after.device]
  have kept : ∀ state, plain.cc (accesses.foldr (replay device) state) = plain.cc state := by
    intro state
    clear after
    induction accesses with
    | nil => rfl
    | cons access accesses ih =>
        obtain ⟨⟨reg, value, rfl | ⟨other, rfl⟩⟩, rest⟩ := List.forall_mem_cons.mp keep
        · exact (plain.read_keeps reg _).trans (ih rest)
        · exact (plain.write_keeps reg value _ other).trans (ih rest)
  exact kept hw.device

/-- What `spi_set_cs` leaves in the register. -/
theorem cc_csAccesses {flag : Bool} {value : BitVec 32} {accesses : List Access}
    {hw next : Hw σ} (after : After device (csAccesses flag value ++ accesses) hw next) :
    plain.cc next.device = csValue flag value := by
  rw [after.device]
  exact plain.write_value _ _

theorem deselect_selected (value : BitVec 32) :
    csValue false (csValue true value) = value ||| csControlCsHigh := by
  apply BitVec.eq_of_getLsbD_eq
  intro i inside
  simp only [csValue, Bool.false_eq_true, if_false, if_true, BitVec.getLsbD_or,
    BitVec.getLsbD_and, BitVec.getLsbD_not, inside, decide_true, Bool.true_and]
  cases value.getLsbD i <;> cases csControlCsHigh.getLsbD i <;> rfl

theorem csValue_asserts (value : BitVec 32) :
    csValue true value &&& csControlCsHigh = 0 := by
  have cleared : ~~~csControlCsHigh &&& csControlCsHigh = 0 := by decide
  rw [csValue, if_pos rfl, BitVec.and_assoc, cleared]
  exact BitVec.and_zero

theorem csValue_deasserts (value : BitVec 32) :
    csValue false value &&& csControlCsHigh ≠ 0 := by
  intro cleared
  have bit := congrArg (fun word : BitVec 32 => word.getLsbD 1) cleared
  have high : csControlCsHigh[1] = true := by decide
  simp [csValue, high] at bit

/-! ## A call -/

theorem Polls.not_isDr {polls : List Access} (polled : Polls polls) :
    ∀ access ∈ polls, ¬IsDr access := by
  rintro access among ⟨width, value, same⟩
  obtain ⟨read, rfl⟩ := polled access among
  rcases same with same | same
  · exact absurd same (by simp [Reg.sr, Reg.dr])
  · cases same

theorem Polls.no_write {polls : List Access} (polled : Polls polls) :
    ∀ access ∈ polls, ∀ window width reg value,
      access ≠ .write window width reg value := by
  intro access among window width reg value
  obtain ⟨read, rfl⟩ := polled access among
  simp

/-- What a transfer has done, however it has ended. -/
theorem Ended.exchanges {writer reader : Mover} {start last : Driver σ} {all : Nat → Prop}
    {ret : Status} (ended : Ended device writer reader start all ret last) :
    ∃ body pending, After device body start.hw last.hw ∧ Exchanges pending body ∧
      (ret = .noError → pending = false) ∧ ret ≠ .invalidArgs ∧ ret ≠ .busy := by
  cases ended with
  | complete finished progress =>
      exact ⟨_, false, progress.after, progress.exchanges, fun _ => rfl, nofun, nofun⟩
  | timedOut interrupted =>
      obtain ⟨pending, exchanges⟩ := interrupted.exchanges
      exact ⟨_, pending, interrupted.after, exchanges, nofun, nofun, nofun⟩

/-- The accesses from the assertion of the chip select to its deassertion. -/
theorem bracketed_body {pending : Bool} {polls body : List Access} (polled : Polls polls)
    (exchanges : Exchanges pending body) (value last : BitVec 32) :
    Bracketed (csAccesses false last ++ (body ++ (csAccesses true value ++ polls))) := by
  refine ⟨[], csValue false last, .read .spi .word Reg.cc last :: body, csValue true value,
    .read .spi .word Reg.cc value :: polls, by simp [csAccesses], csValue_asserts value,
    csValue_deasserts last, ?_, ?_⟩
  · refine List.forall_mem_cons.mpr ⟨?_, fun access among => ?_⟩
    · rintro ⟨width, written, same⟩
      cases same
    · exact (exchanges.keepsCc access among).not_isCcWrite
  · refine List.forall_mem_cons.mpr ⟨?_, polled.not_isDr⟩
    rintro ⟨width, written, same | same⟩
    · exact absurd same (by simp [Reg.cc, Reg.dr])
    · cases same

/-- Every call that has returned is disciplined. -/
theorem Returned.disciplined {request : Request} {mover : Mover} {spi next : Driver σ}
    {ret : Status} (returned : Returned device request mover spi ret next) :
    ∃ accesses, Disciplined plain spi.hw next.hw ret accesses := by
  cases returned with
  | invalidArgs refused =>
      refine ⟨[], rfl, .inl (by simp), ?_, paired_nil.balanced, fun _ => rfl, by simp⟩
      intro accepted
      exact absurd rfl accepted
  | @busy _ polls polled after same busy =>
      have paired := polled.paired paired_nil
      rw [List.append_nil] at paired
      refine ⟨polls, after.log, .inl polled.not_isDr, ?_, paired.balanced, nofun,
        fun _ => polled.no_write⟩
      intro _ other
      exact absurd rfl other
  | @transferred start last _ value polls _ accepted idle selected ended deselected same =>
      obtain ⟨body, pending, ran, exchanges, completes, notRefused, notBusy⟩ :=
        ended.exchanges
      have whole := (selected.after.trans ran).trans deselected
      have before := polled_paired selected.polled value
      have paired := csAccesses_paired false
        (device.read .spi .word Reg.cc last.hw.device).1 (exchanges.paired before)
      obtain ⟨middle, polled, rfl⟩ := selected.read
      refine ⟨_, whole.log, .inr ?_, ?_, paired.balanced, ?_, ?_⟩
      · exact bracketed_body selected.polled exchanges _ _
      · intro _ _
        have kept := cc_after plain ran exchanges.keepsCc
        have chosen := cc_csAccesses plain selected.after
        have found := cc_after plain polled selected.polled.keepsCc
        rw [cc_csAccesses plain whole, plain.read_value, kept, chosen, plain.read_value,
          deselect_selected, found]
      · intro ok
        have counts := paired.counts
        rw [completes ok] at counts
        exact counts
      · rintro (refused | busy)
        · exact absurd refused notRefused
        · exact absurd busy notBusy

/-- With words of eight bits the end of every loop is in reach. -/
theorem inReach_u8 (request : Request) {bound : Nat} (enough : request.length < bound) :
    request.InReach .u8 bound := by
  cases request with
  | read rxBuff rxBytes => exact ⟨rxBytes.toNat, enough, Nat.mul_one _⟩
  | write txBuff txBytes => exact ⟨txBytes.toNat, enough, Nat.mul_one _⟩
  | writeread txBuff txBytes rxBuff rxBytes => trivial

/-- With words of eight bits every call returns, and its accesses are disciplined. -/
theorem performOn_disciplined {spi : Driver σ} (narrow : NarrowWords spi)
    (request : Request) {bound : Nat} (enough : request.length < bound) :
    ∃ ret next accesses, request.performOn device bound spi = (.ok ret, next) ∧
      Disciplined plain spi.hw next.hw ret accesses := by
  have chosen : moverFor spi.data.bitsPerWord = some .u8 := if_pos narrow
  obtain ⟨ret, next, outcome, returned⟩ :=
    performOn_returned device chosen fun _ => inReach_u8 request enough
  obtain ⟨accesses, disciplined⟩ := returned.disciplined plain
  exact ⟨ret, next, accesses, outcome, disciplined⟩

/-- A controller with a chip select register, always ready. -/
def registerController : Device (BitVec 32) where
  read _ _ reg cc := (if reg = Reg.cc then cc else srTnf ||| srRne, cc)
  write _ _ reg value cc := if reg = Reg.cc then value else cc
  mapPhysical _ cc := (none, cc)

/-- Its chip select register holds what was written to it. -/
def registerController_plainCc : PlainCc registerController where
  cc state := state
  read_value _ := rfl
  read_keeps _ _ := rfl
  write_value _ _ := rfl
  write_keeps _ _ _ other := if_neg other

theorem performOn_disciplined_three :
    NarrowWords (Driver.start (⟨2, []⟩ : Hw (BitVec 32))) ∧
      ∃ ret next accesses, (Request.read (some fun _ => 0) 3).performOn registerController 4
          (Driver.start ⟨2, []⟩) = (.ok ret, next) ∧
        Disciplined registerController_plainCc ⟨2, []⟩ next.hw ret accesses := by
  have narrow : NarrowWords (Driver.start (⟨2, []⟩ : Hw (BitVec 32))) := Nat.zero_le 8
  have enough : (Request.read (some fun _ => 0) 3).length < 4 := by decide
  exact ⟨narrow, performOn_disciplined registerController_plainCc narrow _ enough⟩

end SandPlatform.Spi
