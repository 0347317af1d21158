import SandPlatform.Spi.Trace

/-!
# The frame of a call

Every call checks its arguments, waits for the bus, sets up the driver data and
asserts the chip select; whatever becomes of the transfer, it then deasserts the
chip select.
-/

namespace SandPlatform.Spi

open SandPlatform.Foundation
open SandPlatform.Hardware

universe u

variable {σ : Type u} (device : Device σ)

/-! ## The parts of a call -/

namespace Request

/-- A request on any device. -/
def performOn (bound : Nat) : Request → Exec Stop (Driver σ) Status
  | .read rxBuff rxBytes => spiRead device bound rxBuff rxBytes
  | .write txBuff txBytes => spiWrite device bound txBuff txBytes
  | .writeread txBuff txBytes rxBuff rxBytes =>
      spiWriteread device txBuff txBytes rxBuff rxBytes

/-- The arguments are not refused. -/
def Accepted : Request → Prop
  | .read rxBuff rxBytes => rxBuff.isSome ∧ ¬rxBytes < 1
  | .write txBuff txBytes => txBuff.isSome ∧ ¬txBytes < 1
  | .writeread txBuff txBytes rxBuff rxBytes =>
      (txBuff.isSome ∧ rxBuff.isSome) ∧ ¬(rxBytes < 1 ∨ txBytes < 1)

/-- The driver data for the transfer. -/
def begin (request : Request) (spi : Driver σ) : Driver σ :=
  let block (buff : Option (Memory (BitVec 8))) := buff.getD fun _ => 0
  match request with
  | .read rxBuff rxBytes =>
      (spi.beginRx (block rxBuff) rxBytes).install (fun _ => .null) id
  | .write txBuff txBytes =>
      (spi.beginTx (block txBuff) txBytes).install id fun _ => .null
  | .writeread txBuff txBytes rxBuff rxBytes =>
      ((spi.beginRx (block rxBuff) (txBytes + rxBytes)).beginTx (block txBuff)
        (txBytes + rxBytes)).install id id

/-- The loop of a request, between the two changes of the chip select. -/
def transferOn (bound : Nat) : Request → Exec Stop (Driver σ) Status
  | .read _ _ => transferUntil device (fun data => data.rx == data.rxEnd) bound
  | .write _ _ => transferUntil device (fun data => data.tx == data.txEnd) bound
  | .writeread _ txBytes _ rxBytes => transferCount device (txBytes + rxBytes).toNat

/-- The writer installed for words of a size. -/
def writerOf (mover : Mover) : Request → Mover
  | .read _ _ => .null
  | _ => mover

/-- The reader installed for words of a size. -/
def readerOf (mover : Mover) : Request → Mover
  | .write _ _ => .null
  | _ => mover

/-- So many words end the transfer. -/
def EndsAt (mover : Mover) : Request → Nat → Prop
  | .writeread _ txBytes _ rxBytes, count => count = (txBytes + rxBytes).toNat
  | request, count => count * mover.size = request.length

theorem performOn_of_refused {request : Request} (refused : ¬request.Accepted)
    (bound : Nat) (spi : Driver σ) :
    request.performOn device bound spi = (.ok .invalidArgs, spi) := by
  cases request with
  | read rxBuff rxBytes =>
      cases rxBuff with
      | none => rfl
      | some rx =>
          have short : rxBytes < 1 := by simpa [Accepted] using refused
          rw [performOn, spiRead, if_pos short]
          rfl
  | write txBuff txBytes =>
      cases txBuff with
      | none => rfl
      | some tx =>
          have short : txBytes < 1 := by simpa [Accepted] using refused
          rw [performOn, spiWrite, if_pos short]
          rfl
  | writeread txBuff txBytes rxBuff rxBytes =>
      cases rxBuff with
      | none => rfl
      | some rx =>
          cases txBuff with
          | none => rfl
          | some tx =>
              simp only [Accepted, Option.isSome_some, and_self, true_and, not_not] at refused
              rw [performOn, spiWriteread, if_pos refused]
              rfl

theorem performOn_of_accepted {request : Request} (accepted : request.Accepted)
    (bound : Nat) :
    request.performOn device bound =
      whenIdle device request.begin (request.transferOn device bound) := by
  cases request with
  | read rxBuff rxBytes =>
      obtain ⟨present, enough⟩ := accepted
      obtain ⟨rx, rfl⟩ := Option.isSome_iff_exists.mp present
      simp only [performOn, spiRead, enough, if_false]
      rfl
  | write txBuff txBytes =>
      obtain ⟨present, enough⟩ := accepted
      obtain ⟨tx, rfl⟩ := Option.isSome_iff_exists.mp present
      simp only [performOn, spiWrite, enough, if_false]
      rfl
  | writeread txBuff txBytes rxBuff rxBytes =>
      obtain ⟨⟨sends, receives⟩, enough⟩ := accepted
      obtain ⟨tx, rfl⟩ := Option.isSome_iff_exists.mp sends
      obtain ⟨rx, rfl⟩ := Option.isSome_iff_exists.mp receives
      simp only [performOn, spiWriteread, enough, if_false]
      rfl

end Request

/-! ## The chip select -/

/-- What is written to the chip select register. -/
def csValue (flag : Bool) (value : BitVec 32) : BitVec 32 :=
  if flag then value &&& ~~~csControlCsHigh else value ||| csControlCsHigh

/-- The accesses of `spi_set_cs`, newest first. -/
def csAccesses (flag : Bool) (value : BitVec 32) : List Access :=
  [.write .spi .word Reg.cc (csValue flag value), .read .spi .word Reg.cc value]

theorem spiSetCs_after (flag : Bool) (hw : Hw σ) :
    ∃ next, spiSetCs device flag hw = (.ok (), next) ∧
      After device (csAccesses flag (device.read .spi .word Reg.cc hw.device).1) hw next :=
  ⟨_, rfl, ((After.refl hw).read Reg.cc).write Reg.cc _⟩

/-! ## How a call ends -/

variable (request : Request) (mover : Mover)

/-- The driver at the start of the transfer: the chip select is asserted. -/
structure Selected (spi start : Driver σ) (value : BitVec 32) (polls : List Access) :
    Prop where
  polled : Polls polls
  read : ∃ middle, After device polls spi.hw middle ∧
    value = (device.read .spi .word Reg.cc middle.device).1
  after : After device (csAccesses true value ++ polls) spi.hw start.hw
  begun : start = (request.begin spi).setHw start.hw

/-- A call that has returned. -/
inductive Returned (spi : Driver σ) : Status → Driver σ → Prop
  | invalidArgs (refused : ¬request.Accepted) : Returned spi .invalidArgs spi
  | busy {next : Driver σ} {polls : List Access} (polled : Polls polls)
      (after : After device polls spi.hw next.hw) (same : next = spi.setHw next.hw)
      (busy : (spiCheckBusy device spi.hw).1 = .ok 0) : Returned spi .busy next
  | transferred {start last next : Driver σ} {value : BitVec 32} {polls : List Access}
      {ret : Status} (accepted : request.Accepted)
      (idle : (spiCheckBusy device spi.hw).1 ≠ .ok 0)
      (selected : Selected device request spi start value polls)
      (ended : Ended device (request.writerOf mover) (request.readerOf mover) start
        (request.EndsAt mover) ret last)
      (deselected : After device
        (csAccesses false (device.read .spi .word Reg.cc last.hw.device).1)
        last.hw next.hw)
      (same : next = last.setHw next.hw) : Returned spi ret next

/-- The driver data of the transfer. -/
structure Begun (start : Driver σ) : Prop where
  write : start.data.write = some (request.writerOf mover)
  read : start.data.read = some (request.readerOf mover)
  tx : request.writerOf mover ≠ .null →
    start.data.tx = 0 ∧ start.data.txEnd = request.length
  rx : request.readerOf mover ≠ .null →
    start.data.rx = 0 ∧ start.data.rxEnd = request.length

variable {device request mover} {spi start : Driver σ}

theorem moverFor_ne_null {bitsPerWord : Nat} (chosen : moverFor bitsPerWord = some mover) :
    mover ≠ .null := by
  rintro rfl
  simp only [moverFor] at chosen
  split_ifs at chosen <;> cases chosen

theorem install_of_mover (spi : Driver σ)
    (chosen : moverFor spi.data.bitsPerWord = some mover) (write read : Mover → Mover) :
    spi.install write read =
      { spi with data := { spi.data with
          write := some (write mover)
          read := some (read mover) } } := by
  rw [Driver.install, chosen]

theorem begin_begun (chosen : moverFor spi.data.bitsPerWord = some mover) :
    Begun request mover (request.begin spi) := by
  cases request with
  | read rxBuff rxBytes =>
      have begun : Request.begin (.read rxBuff rxBytes) spi = _ :=
        install_of_mover (spi.beginRx _ rxBytes) chosen _ _
      rw [begun]
      exact ⟨rfl, rfl, fun stores => absurd rfl stores, fun _ => ⟨rfl, rfl⟩⟩
  | write txBuff txBytes =>
      have begun : Request.begin (.write txBuff txBytes) spi = _ :=
        install_of_mover (spi.beginTx _ txBytes) chosen _ _
      rw [begun]
      exact ⟨rfl, rfl, fun _ => ⟨rfl, rfl⟩, fun stores => absurd rfl stores⟩
  | writeread txBuff txBytes rxBuff rxBytes =>
      have begun : Request.begin (.writeread txBuff txBytes rxBuff rxBytes) spi = _ :=
        install_of_mover ((spi.beginRx _ (txBytes + rxBytes)).beginTx _
          (txBytes + rxBytes)) chosen _ _
      rw [begun]
      exact ⟨rfl, rfl, fun _ => ⟨rfl, rfl⟩, fun _ => ⟨rfl, rfl⟩⟩

theorem Begun.setHw (begun : Begun request mover start) (hw : Hw σ) :
    Begun request mover (start.setHw hw) :=
  ⟨begun.write, begun.read, begun.tx, begun.rx⟩

/-- Nothing has been exchanged yet. -/
theorem Begun.progress (begun : Begun request mover start) :
    Progress device (request.writerOf mover) (request.readerOf mover) start 0 start [] := by
  constructor
  · exact .refl start.hw
  · exact .nil
  · rfl
  · exact begun.write
  · exact begun.read
  · rw [Nat.zero_mul, Nat.add_zero]
  · rw [Nat.zero_mul, Nat.add_zero]
  · rfl
  · rfl
  · rfl
  · simp

/-- The loop of `spi_read` ends where its words do. -/
theorem decides_read {rxBuff : Option (Memory (BitVec 8))} {rxBytes : BitVec 32}
    (begun : Begun (.read rxBuff rxBytes) mover start) (stores : mover ≠ .null) :
    Decides device .null mover start (Request.EndsAt mover (.read rxBuff rxBytes))
      (fun data => data.rx == data.rxEnd) := by
  intro count spi accesses progress
  obtain ⟨first, last⟩ := begun.rx stores
  rw [beq_iff_eq, progress.rx, progress.rxEnd, first, last, Nat.zero_add]
  rfl

theorem decides_write {txBuff : Option (Memory (BitVec 8))} {txBytes : BitVec 32}
    (begun : Begun (.write txBuff txBytes) mover start) (loads : mover ≠ .null) :
    Decides device mover .null start (Request.EndsAt mover (.write txBuff txBytes))
      (fun data => data.tx == data.txEnd) := by
  intro count spi accesses progress
  obtain ⟨first, last⟩ := begun.tx loads
  rw [beq_iff_eq, progress.tx, progress.txEnd, first, last, Nat.zero_add]
  rfl

/-- The number of words with which the loop ends is in reach of the bound.  The loop of
`spi_writeread` counts its words. -/
def Request.InReach (request : Request) (mover : Mover) (bound : Nat) : Prop :=
  match request with
  | .writeread _ _ _ _ => True
  | request => ∃ count, count < bound ∧ request.EndsAt mover count

variable (device) in
theorem transferOn_ended {bound : Nat} (begun : Begun request mover start)
    (moves : mover ≠ .null) (reached : request.InReach mover bound) :
    ∃ ret next, request.transferOn device bound start = (.ok ret, next) ∧
      Ended device (request.writerOf mover) (request.readerOf mover) start
        (request.EndsAt mover) ret next := by
  cases request with
  | read rxBuff rxBytes =>
      obtain ⟨count, enough, finished⟩ := reached
      have total : Request.EndsAt mover (.read rxBuff rxBytes) (0 + count) := by
        rw [Nat.zero_add]
        exact finished
      exact transferUntil_ended (decides_read begun moves) total enough begun.progress
  | write txBuff txBytes =>
      obtain ⟨count, enough, finished⟩ := reached
      have total : Request.EndsAt mover (.write txBuff txBytes) (0 + count) := by
        rw [Nat.zero_add]
        exact finished
      exact transferUntil_ended (decides_write begun moves) total enough begun.progress
  | writeread txBuff txBytes rxBuff rxBytes =>
      exact transferCount_ended (Nat.zero_add _) begun.progress

theorem ended_of_transferOn {bound : Nat} (begun : Begun request mover start)
    (moves : mover ≠ .null) {ret : Status} {next : Driver σ}
    (returned : request.transferOn device bound start = (.ok ret, next)) :
    Ended device (request.writerOf mover) (request.readerOf mover) start
      (request.EndsAt mover) ret next := by
  cases request with
  | read rxBuff rxBytes =>
      exact ended_of_transferUntil (decides_read begun moves) begun.progress returned
  | write txBuff txBytes =>
      exact ended_of_transferUntil (decides_write begun moves) begun.progress returned
  | writeread txBuff txBytes rxBuff rxBytes =>
      have reached : Request.InReach (.writeread txBuff txBytes rxBuff rxBytes) mover bound :=
        trivial
      obtain ⟨ret', next', returned', ended⟩ := transferOn_ended device begun moves reached
      rw [returned] at returned'
      cases returned'
      exact ended

/-- Setting up the driver data does not touch the hardware. -/
theorem begin_setHw (request : Request) (spi : Driver σ) (hw : Hw σ) :
    request.begin (spi.setHw hw) = (request.begin spi).setHw hw := by
  cases request <;>
    simp only [Request.begin, Driver.install, Driver.beginRx, Driver.beginTx,
      Driver.setHw] <;>
    cases moverFor spi.data.bitsPerWord <;> rfl

variable (device mover spi) in
/-- A call whose arguments are accepted is refused by a busy bus, or transfers with the
chip select asserted. -/
theorem performOn_frame (accepted : request.Accepted) (bound : Nat) :
    (∃ next, request.performOn device bound spi = (.ok .busy, next) ∧
      Returned device request mover spi .busy next) ∨
    ((spiCheckBusy device spi.hw).1 ≠ .ok 0 ∧
      ∃ start value polls, Selected device request spi start value polls ∧
        request.performOn device bound spi =
          (do
            let rc ← request.transferOn device bound
            onHw (spiSetCs device false)
            pure rc : Exec Stop (Driver σ) Status) start) := by
  obtain ⟨left, polled, polls, checked, onlyPolls, after⟩ :=
    pollBusy_after device timeout spi.hw
  have check : onHw (spiCheckBusy device) spi = (.ok left, spi.setHw polled) :=
    onHw_of_eq checked
  have outcome : (spiCheckBusy device spi.hw).1 = .ok left := by
    rw [spiCheckBusy, checked]
  rw [Request.performOn_of_accepted device accepted, whenIdle, Exec.bind_of_ok check, outcome]
  by_cases busy : left = 0
  · rw [if_pos busy]
    refine .inl ⟨_, rfl, .busy onlyPolls after rfl ?_⟩
    rw [outcome, busy]
  · rw [if_neg busy, Exec.modify_bind_apply]
    obtain ⟨asserted, set, chosen⟩ := spiSetCs_after device true polled
    have select : onHw (spiSetCs device true) (request.begin (spi.setHw polled)) =
        (.ok (), (request.begin spi).setHw asserted) := by
      rw [begin_setHw]
      exact onHw_of_eq set
    refine .inr ⟨?_, (request.begin spi).setHw asserted, _, polls,
      ⟨onlyPolls, ⟨polled, after, rfl⟩, after.trans chosen, rfl⟩, ?_⟩
    · simpa using busy
    · rw [selected, Exec.bind_of_ok select]

/-- Whatever has become of the transfer, the chip select is deasserted. -/
theorem returned_of_ended {value : BitVec 32} {polls : List Access} {bound : Nat}
    (accepted : request.Accepted) (idle : (spiCheckBusy device spi.hw).1 ≠ .ok 0)
    (selected : Selected device request spi start value polls) {ret : Status}
    {last : Driver σ} (ran : request.transferOn device bound start = (.ok ret, last))
    (ended : Ended device (request.writerOf mover) (request.readerOf mover) start
      (request.EndsAt mover) ret last) :
    ∃ next, (do
        let rc ← request.transferOn device bound
        onHw (spiSetCs device false)
        pure rc : Exec Stop (Driver σ) Status) start = (.ok ret, next) ∧
      Returned device request mover spi ret next := by
  obtain ⟨deasserted, set, deselected⟩ := spiSetCs_after device false last.hw
  rw [Exec.bind_of_ok ran, Exec.bind_of_ok (onHw_of_eq set)]
  exact ⟨_, rfl, .transferred accepted idle selected ended deselected rfl⟩

theorem Selected.begun_start {value : BitVec 32} {polls : List Access}
    (selected : Selected device request spi start value polls)
    (chosen : moverFor spi.data.bitsPerWord = some mover) : Begun request mover start := by
  rw [selected.begun]
  exact (begin_begun chosen).setHw start.hw

variable (device) in
/-- A call returns if the end of its loop is in reach. -/
theorem performOn_returned {bound : Nat}
    (chosen : moverFor spi.data.bitsPerWord = some mover)
    (reached : request.Accepted → request.InReach mover bound) :
    ∃ ret next, request.performOn device bound spi = (.ok ret, next) ∧
      Returned device request mover spi ret next := by
  by_cases accepted : request.Accepted
  · rcases performOn_frame device mover spi accepted bound with
      ⟨next, returned, busy⟩ | ⟨idle, start, value, polls, selected, outcome⟩
    · exact ⟨_, next, returned, busy⟩
    · obtain ⟨ret, last, ran, ended⟩ := transferOn_ended device (selected.begun_start chosen)
        (moverFor_ne_null chosen) (reached accepted)
      obtain ⟨next, finished, returned⟩ := returned_of_ended accepted idle selected ran ended
      exact ⟨ret, next, outcome.trans finished, returned⟩
  · exact ⟨_, spi, Request.performOn_of_refused device accepted bound spi,
      .invalidArgs accepted⟩

/-- A call that has returned. -/
theorem returned_of_performOn {bound : Nat}
    (chosen : moverFor spi.data.bitsPerWord = some mover) {ret : Status} {next : Driver σ}
    (outcome : request.performOn device bound spi = (.ok ret, next)) :
    Returned device request mover spi ret next := by
  by_cases accepted : request.Accepted
  · rcases performOn_frame device mover spi accepted bound with
      ⟨next', returned, busy⟩ | ⟨idle, start, value, polls, selected, frame⟩
    · rw [returned] at outcome
      cases outcome
      exact busy
    · rw [frame] at outcome
      obtain ⟨ret', last, ran, -⟩ := Exec.bind_eq_ok_iff.mp outcome
      have ended := ended_of_transferOn (selected.begun_start chosen)
        (moverFor_ne_null chosen) ran
      obtain ⟨next', finished, returned⟩ := returned_of_ended accepted idle selected ran ended
      rw [finished] at outcome
      cases outcome
      exact returned
  · rw [Request.performOn_of_refused device accepted] at outcome
    cases outcome
    exact .invalidArgs accepted

theorem Returned.status {ret : Status} {next : Driver σ}
    (returned : Returned device request mover spi ret next) :
    ¬request.Accepted ∨ ret = .noError ∨ ret = .busy ∨ ret = .timedOut := by
  cases returned with
  | invalidArgs refused => exact .inl refused
  | busy polled after same busy => exact .inr (.inr (.inl rfl))
  | transferred accepted idle selected ended deselected same =>
      cases ended with
      | complete finished progress => exact .inr (.inl rfl)
      | timedOut interrupted => exact .inr (.inr (.inr rfl))

/-- A controller that is always ready does not let a call time out. -/
theorem Returned.prompt (responsive : Responsive device) {ret : Status} {next : Driver σ}
    (returned : Returned device request mover spi ret next) :
    ret ≠ .busy ∧ ret ≠ .timedOut := by
  cases returned with
  | invalidArgs refused => exact ⟨nofun, nofun⟩
  | busy polled after same busy =>
      obtain ⟨left, polled, checked, idle⟩ := spiCheckBusy_returns device spi.hw
      rw [checked] at busy
      cases busy
      exact absurd rfl (idle responsive)
  | transferred accepted idle selected ended deselected same =>
      cases ended with
      | complete finished progress => exact ⟨nofun, nofun⟩
      | timedOut interrupted => exact absurd responsive interrupted.slow

/-- The chip select is not the data register. -/
@[simp]
theorem sentWords_csAccesses (flag : Bool) (value : BitVec 32) :
    sentWords (csAccesses flag value) = [] := by
  simp [sentWords, csAccesses, Reg.cc, Reg.dr]

/-- What a call without error has sent. -/
theorem Returned.sent (chosen : moverFor spi.data.bitsPerWord = some mover)
    (loads : request.writerOf mover ≠ .null) {next : Driver σ}
    (returned : Returned device request mover spi .noError next) :
    ∃ count, request.EndsAt mover count ∧
      sentWords next.hw.log = ((List.range count).map fun i =>
        (request.writerOf mover).wordAt (request.begin spi).txBlock
          (i * (request.writerOf mover).size)).reverse ++ sentWords spi.hw.log := by
  cases returned with
  | @transferred start last _ value polls _ accepted idle selected ended deselected same =>
      cases ended with
      | @complete count _ accesses finished progress =>
          have first := ((selected.begun_start chosen).tx loads).1
          have block : start.txBlock = (request.begin spi).txBlock := by
            rw [selected.begun]
            rfl
          refine ⟨count, finished, ?_⟩
          rw [deselected.log, progress.after.log, selected.after.log, ← block]
          simp [selected.polled.sentWords, progress.sent, first]

end SandPlatform.Spi
