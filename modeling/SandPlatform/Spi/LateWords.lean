import SandPlatform.Spi.Alignment

/-!
# Entries that arrive late

A call gives up on an entry after so many looks at the status register, but the
entry still arrives.  Nothing empties the receive FIFO, so the next call that
succeeds reads the entries of the words before its own.
-/

namespace SandPlatform.Spi

open SandPlatform.Foundation
open SandPlatform.Hardware
open SandPlatform.Foundation.Exec (Ends)

universe u

variable {τ : Type u} (slave : Slave τ)

/-- A call that was made: the counts before and after it, how it ended and what is
in its receive buffer. -/
structure Served where
  request : Request
  answer : Except Stop Status
  sentBefore : Nat
  takenBefore : Nat
  sentAfter : Nat
  takenAfter : Nat
  rx : Memory (BitVec 8)

namespace Served

/-- The words the call has written. -/
def words (served : Served) : List Nat :=
  List.range' served.sentBefore (served.sentAfter - served.sentBefore)

/-- The words whose entries the call has read. -/
def entries (served : Served) : List Nat :=
  List.range' served.takenBefore (served.takenAfter - served.takenBefore)

/-- The call has written all its words, has read the entries of these words in this
order, and has stored what the slave shifted in with each unless it drops it. -/
structure Matched (served : Served) : Prop where
  length : served.words.length = served.request.length
  entries : served.entries = served.words
  stored : served.request.reader = .u8 → ∀ i < served.request.length,
    served.rx i = Word.byte (slave.answer (served.sentBefore + i)) 0

/-- If the call has a word to move, the entries of all words before it have been
read. -/
def Drained (served : Served) : Prop :=
  0 < served.request.length → served.takenBefore = served.sentBefore

end Served

/-- A request made in some state. -/
def Request.serve (bound : Nat) (request : Request) (spi : Driver (Controller τ)) :
    Served where
  request := request
  answer := (request.perform slave bound spi).1
  sentBefore := spi.hw.device.sent
  takenBefore := spi.hw.device.taken
  sentAfter := (request.perform slave bound spi).2.hw.device.sent
  takenAfter := (request.perform slave bound spi).2.hw.device.taken
  rx := (request.perform slave bound spi).2.rxBlock

/-- The driver and the calls it has served. -/
structure History (τ : Type u) where
  driver : Driver (Controller τ)
  served : List Served

namespace History

/-- The driver right after `spi_init`. -/
def start (world : τ) : History τ :=
  ⟨(spiInit slave.controller (Driver.start ⟨Controller.start world, []⟩)).2, []⟩

/-- One more request, with what it received. -/
def step (bound : Nat) (history : History τ) (request : Request) : History τ :=
  ⟨(request.perform slave bound history.driver).2,
    history.served ++ [request.serve slave bound history.driver]⟩

/-- What is said of a call holds of every one that has returned `NO_ERROR`. -/
def AllServed (property : Served → Prop) (history : History τ) : Prop :=
  ∀ served ∈ history.served, served.answer = .ok .noError → property served

theorem second_mem (history : History τ) (first second : Request) {bound : Nat} :
    second.serve slave bound (first.perform slave bound history.driver).2 ∈
      (run (step slave bound) history [first, second]).served :=
  List.mem_append_right _ (List.mem_singleton_self _)

end History

variable {slave} {bound : Nat}

/-! ## One call -/

section One

variable {request : Request} {spi : Driver (Controller τ)} (narrow : NarrowWords spi)
  (returned : (request.serve slave bound spi).answer = .ok .noError)

include narrow returned

theorem serve_reached :
    Reached slave (request.toWords spi) request.length
      (request.perform slave bound spi).2 :=
  (perform_delivers bound narrow request).of_returned returned rfl

theorem serve_words :
    (request.serve slave bound spi).words =
      List.range' spi.hw.device.sent request.length := by
  have sent : (request.serve slave bound spi).sentAfter =
      spi.hw.device.sent + request.length := (serve_reached narrow returned).sent
  have before : (request.serve slave bound spi).sentBefore = spi.hw.device.sent := rfl
  rw [Served.words, sent, before, Nat.add_sub_cancel_left]

theorem serve_entries :
    (request.serve slave bound spi).entries =
      List.range' spi.hw.device.taken request.length := by
  have taken : (request.serve slave bound spi).takenAfter =
      spi.hw.device.taken + request.length := (serve_reached narrow returned).taken
  have before : (request.serve slave bound spi).takenBefore = spi.hw.device.taken := rfl
  rw [Served.entries, taken, before, Nat.add_sub_cancel_left]

theorem serve_entries_iff :
    (request.serve slave bound spi).entries = (request.serve slave bound spi).words ↔
      (request.serve slave bound spi).Drained := by
  rw [serve_words narrow returned, serve_entries narrow returned, List.range'_inj]
  constructor
  · rintro ⟨-, empty | same⟩ positive
    · exact absurd empty (Nat.ne_of_gt positive)
    · exact same
  · intro drained
    refine ⟨rfl, ?_⟩
    rcases Nat.eq_zero_or_pos request.length with empty | positive
    · exact Or.inl empty
    · exact Or.inr (drained positive)

/-- A call that succeeds has read the entries of its own words exactly if no entry
was left when it began. -/
theorem serve_matched_iff :
    (request.serve slave bound spi).Matched slave ↔
      (request.serve slave bound spi).Drained := by
  have reached := serve_reached narrow returned
  constructor
  · intro matched
    exact (serve_entries_iff narrow returned).mp matched.entries
  · intro drained
    constructor
    · rw [serve_words narrow returned, List.length_range']
      rfl
    · exact (serve_entries_iff narrow returned).mpr drained
    · intro stores i inside
      have entry := reached.bytes stores i inside
      have first : (request.toWords spi).taken = spi.hw.device.sent :=
        drained (Nat.zero_lt_of_lt inside)
      rw [first] at entry
      exact entry

end One

/-! ## All calls -/

/-- Words stay narrow, and every call so far is matched exactly if it found no entry
left. -/
structure Exact (slave : Slave τ) (history : History τ) : Prop where
  narrow : NarrowWords history.driver
  served : history.AllServed fun served => served.Matched slave ↔ served.Drained

theorem exact_start (world : τ) : Exact slave (History.start slave world) where
  narrow := Nat.le_refl 8
  served _ member := by cases member

theorem exact_step {history : History τ} (exact : Exact slave history)
    (request : Request) : Exact slave (History.step slave bound history request) := by
  constructor
  · exact request.perform_narrow bound history.driver exact.narrow
  · rw [History.AllServed, History.step, forall_mem_snoc]
    constructor
    · exact exact.served
    · exact serve_matched_iff exact.narrow

theorem exact_run (world : τ) (requests : List Request) :
    Exact slave (run (History.step slave bound) (History.start slave world) requests) := by
  apply run_of_kept _ requests (exact_start world)
  intro history request exact
  exact exact_step exact request

/-- In every run: the calls that return `NO_ERROR` get the entries of their own words
exactly if for none of them an entry was left when it began. -/
theorem allMatched_iff_allDrained (slave : Slave τ) (bound : Nat) (world : τ)
    (requests : List Request) :
    (run (History.step slave bound) (History.start slave world) requests).AllServed
        (Served.Matched slave) ↔
      (run (History.step slave bound) (History.start slave world) requests).AllServed
        Served.Drained := by
  have exact : Exact slave
      (run (History.step slave bound) (History.start slave world) requests) :=
    exact_run world requests
  constructor
  · intro matched served member returned
    exact (exact.served served member returned).mp (matched served member returned)
  · intro drained served member returned
    exact (exact.served served member returned).mpr (drained served member returned)

/-! ## An entry that arrives after its call -/

/-- A slave that does not answer before the chip select is released for the first
time, and then at once; the `i`-th word brings the number `i`. -/
def lateSlave : Slave Bool where
  poll awake := (if awake then 1 else 0, srTnf, awake)
  answer i := BitVec.ofNat 32 i
  readOther _ awake := (0, awake)
  writeOther reg value awake := awake || (reg == Reg.cc && value == csControlCsHigh)

theorem look_room (state : Controller Bool) : (lateSlave.look state).1 &&& srTnf ≠ 0 := by
  change (if _ then srTnf ||| srRne else srTnf &&& ~~~srRne) &&& srTnf ≠ 0
  split <;> decide

theorem look_idle (state : Controller Bool) : (lateSlave.look state).1 &&& srBsy = 0 := by
  change (if _ then srTnf ||| srRne else srTnf &&& ~~~srRne) &&& srBsy = 0
  split <;> decide

theorem spiSetCs_late (flag : Bool) (hw : Hw (Controller Bool)) :
    ∃ log, spiSetCs lateSlave.controller flag hw =
      (.ok (), ⟨hw.device.setWorld (hw.device.world || !flag), log⟩) := by
  have written : lateSlave.writeOther Reg.cc
      (if flag then 0 &&& ~~~csControlCsHigh else 0 ||| csControlCsHigh)
      hw.device.world = (hw.device.world || !flag) := by
    cases flag <;> rfl
  rw [← written]
  exact ⟨_, rfl⟩

theorem pollFifo_asleep {hw : Hw (Controller Bool)} {waiting : Controller Bool}
    (asleep : lateSlave.look waiting = (srTnf, waiting)) (device : hw.device = waiting)
    (timeout : Nat) :
    ∃ log, pollFifo lateSlave.controller srRne timeout hw =
      (.ok .timedOut, ⟨waiting, log⟩) := by
  induction timeout generalizing hw with
  | zero => exact ⟨hw.log, by rw [← device]; rfl⟩
  | succ timeout ih =>
      have looked : lpssSpiRead lateSlave.controller Reg.sr hw =
          (.ok (lateSlave.look hw.device).1, ⟨(lateSlave.look hw.device).2,
            .read .spi .word Reg.sr (lateSlave.look hw.device).1 :: hw.log⟩) := rfl
      have unset : ¬ srTnf &&& srRne ≠ 0 := by decide
      rw [device, asleep] at looked
      rw [pollFifo, Exec.bind_of_ok looked, if_neg unset]
      exact ih rfl

theorem write_late {spi : Driver (Controller Bool)}
    (installed : spi.data.write = some .null) :
    ∃ log, write lateSlave.controller spi = (.ok .noError,
      spi.setHw ⟨(lateSlave.look spi.hw.device).2.send, log⟩) := by
  obtain ⟨log, polled⟩ :
      ∃ log, checkTxFifo lateSlave.controller spi.hw =
        (.ok .noError, ⟨(lateSlave.look spi.hw.device).2, log⟩) :=
    pollFifo_of_ready lateSlave (by decide) (look_room spi.hw.device)
  rw [write_of_null _ installed, nullWriter, Exec.bind_of_ok (onHw_of_eq polled),
    if_neg (by simp)]
  exact ⟨_, rfl⟩

theorem read_awake {spi : Driver (Controller Bool)}
    (installed : spi.data.read = some .u8)
    (ready : (lateSlave.look spi.hw.device).1 &&& srRne ≠ 0) :
    ∃ next, read lateSlave.controller spi = (.ok .noError, next) := by
  obtain ⟨log, polled⟩ :
      ∃ log, checkRxFifo lateSlave.controller spi.hw =
        (.ok .noError, ⟨(lateSlave.look spi.hw.device).2, log⟩) :=
    pollFifo_of_ready lateSlave (by decide) ready
  rw [read_of_u8 _ installed, wordReader, Exec.bind_of_ok (onHw_of_eq polled),
    if_neg (by simp)]
  exact ⟨_, rfl⟩

theorem read_asleep {spi : Driver (Controller Bool)} {waiting : Controller Bool}
    (installed : spi.data.read = some .u8)
    (asleep : lateSlave.look waiting = (srTnf, waiting))
    (device : spi.hw.device = waiting) :
    ∃ log, read lateSlave.controller spi =
      (.ok .timedOut, spi.setHw ⟨waiting, log⟩) := by
  obtain ⟨log, polled⟩ :
      ∃ log, checkRxFifo lateSlave.controller spi.hw = (.ok .timedOut, ⟨waiting, log⟩) :=
    pollFifo_asleep asleep device timeout
  rw [read_of_u8 _ installed, wordReader, Exec.bind_of_ok (onHw_of_eq polled),
    if_pos (by simp)]
  exact ⟨log, rfl⟩

/-- A read of one byte. -/
def oneByte : Request :=
  .read (some fun _ => 0) 1

/-- Such a read reaches its transfer after one look at the status register. -/
theorem perform_oneByte {spi : Driver (Controller Bool)} (narrow : NarrowWords spi) :
    ∃ start, Reached lateSlave (oneByte.toWords spi) 0 start ∧
      start.hw.device = (lateSlave.look spi.hw.device).2 ∧
      oneByte.perform lateSlave 2 spi =
        (transferUntil lateSlave.controller (fun data => data.rx == data.rxEnd) 2 >>=
          fun rc => do
            onHw (spiSetCs lateSlave.controller false)
            pure rc) start := by
  obtain ⟨log, idle⟩ :
      ∃ log, spiCheckBusy lateSlave.controller spi.hw =
        (.ok timeout, ⟨(lateSlave.look spi.hw.device).2, log⟩) :=
    pollBusy_of_idle lateSlave (by decide) (look_idle spi.hw.device)
  let next := (spi.setHw ⟨(lateSlave.look spi.hw.device).2, log⟩).beginRx (fun _ => 0) 1
  let begun := { next with
    data := { next.data with write := some .null, read := some .u8 } }
  have narrow' : NarrowWords next := narrow
  have begins : next.install (fun _ => .null) id = begun :=
    Driver.install_of_narrow narrow' _ _
  obtain ⟨log', chosen⟩ := spiSetCs_late true begun.hw
  have call : oneByte.perform lateSlave 2 spi = whenIdle lateSlave.controller
      (fun spi => (spi.beginRx (fun _ => 0) 1).install (fun _ => .null) id)
      (transferUntil lateSlave.controller (fun data => data.rx == data.rxEnd) 2) spi := rfl
  have busy : ¬ timeout = 0 := by decide
  refine ⟨begun.setHw ⟨begun.hw.device.setWorld (begun.hw.device.world || !true), log'⟩,
    ?_, ?_, ?_⟩
  · exact ⟨rfl, rfl, rfl, rfl, nofun, fun _ => ⟨rfl, rfl⟩, nofun⟩
  · change Controller.setWorld ((lateSlave.look spi.hw.device).2.world || false) _ = _
    rw [Bool.or_false]
    rfl
  · rw [call, whenIdle, Exec.bind_of_ok (onHw_of_eq idle), if_neg busy,
      Exec.modify_bind_apply, begins, selected, Exec.bind_of_ok (onHw_of_eq chosen)]

/-- One word is written and its entry has not arrived. -/
def waiting (awake : Bool) : Controller Bool :=
  (Controller.start awake).send

theorem oneByte_unfinished {spi start : Driver (Controller Bool)}
    (reached : Reached lateSlave (oneByte.toWords spi) 0 start) :
    ¬ (start.data.rx == start.data.rxEnd) = true := by
  have length : (oneByte.toWords spi).length = 1 := rfl
  obtain ⟨position, last⟩ := reached.rx rfl
  rw [position, last, length]
  decide

/-- The first read gives up, and leaves its entry to arrive. -/
theorem perform_asleep {spi : Driver (Controller Bool)} (narrow : NarrowWords spi)
    (device : spi.hw.device = Controller.start false) :
    (oneByte.perform lateSlave 2 spi).2.hw.device = waiting true := by
  obtain ⟨start, reached, looked, performed⟩ := perform_oneByte narrow
  obtain ⟨log, wrote⟩ := write_late reached.write
  have sent : (lateSlave.look start.hw.device).2.send = waiting false := by
    rw [looked, device]
    rfl
  rw [sent] at wrote
  have asleep : lateSlave.look (waiting false) = (srTnf, waiting false) := rfl
  have installed : (start.setHw ⟨waiting false, log⟩).data.read = some .u8 := reached.read
  obtain ⟨log', gaveUp⟩ := read_asleep installed asleep rfl
  have exchanged : exchange lateSlave.controller start =
      (.ok .timedOut, start.setHw ⟨waiting false, log'⟩) := by
    rw [exchange, Exec.bind_of_ok wrote, if_neg (by simp), gaveUp]
    rfl
  have transferred : transferUntil lateSlave.controller
      (fun data => data.rx == data.rxEnd) 2 start =
      (.ok .timedOut, start.setHw ⟨waiting false, log'⟩) := by
    rw [transferUntil, Exec.gets_bind_apply, if_neg (oneByte_unfinished reached),
      Exec.bind_of_ok exchanged, if_pos (by simp)]
    rfl
  obtain ⟨log'', released⟩ := spiSetCs_late false ⟨waiting false, log'⟩
  rw [performed, Exec.bind_of_ok transferred, Exec.bind_of_ok (onHw_of_eq released)]
  rfl

/-- The second one does not. -/
theorem perform_awake {spi : Driver (Controller Bool)} (narrow : NarrowWords spi)
    (device : spi.hw.device = waiting true) :
    (oneByte.perform lateSlave 2 spi).1 = .ok .noError := by
  obtain ⟨start, reached, looked, performed⟩ := perform_oneByte narrow
  obtain ⟨log, wrote⟩ := write_late reached.write
  have ready : (lateSlave.look (lateSlave.look start.hw.device).2.send).1 &&& srRne ≠ 0 := by
    rw [looked, device]
    decide
  have installed : (start.setHw ⟨(lateSlave.look start.hw.device).2.send,
      log⟩).data.read = some .u8 := reached.read
  obtain ⟨next, took⟩ := read_awake installed ready
  have exchanged : exchange lateSlave.controller start = (.ok .noError, next) := by
    rw [exchange, Exec.bind_of_ok wrote, if_neg (by simp), took]
  have moved : Reached lateSlave (oneByte.toWords spi) 1 next := by
    have delivers := exchange_delivers reached
    rw [Delivers, Ends, exchanged] at delivers
    exact delivers rfl
  have finished : (next.data.rx == next.data.rxEnd) = true := by
    obtain ⟨position, last⟩ := moved.rx rfl
    rw [position, last]
    rfl
  have transferred : transferUntil lateSlave.controller
      (fun data => data.rx == data.rxEnd) 2 start = (.ok .noError, next) := by
    rw [transferUntil, Exec.gets_bind_apply, if_neg (oneByte_unfinished reached),
      Exec.bind_of_ok exchanged, if_neg (by simp), transferUntil, Exec.gets_bind_apply,
      if_pos finished]
    rfl
  obtain ⟨log', released⟩ := spiSetCs_late false next.hw
  rw [performed, Exec.bind_of_ok transferred, Exec.bind_of_ok (onHw_of_eq released)]
  rfl

/-- So what it reads is the entry of another word. -/
theorem serve_awake {spi : Driver (Controller Bool)} (narrow : NarrowWords spi)
    (device : spi.hw.device = waiting true) :
    (oneByte.serve lateSlave 2 spi).answer = .ok .noError ∧
      ¬ (oneByte.serve lateSlave 2 spi).Matched lateSlave := by
  have returned : (oneByte.serve lateSlave 2 spi).answer = .ok .noError :=
    perform_awake narrow device
  constructor
  · exact returned
  · intro matched
    have drained := (serve_matched_iff narrow returned).mp matched
    have same : spi.hw.device.taken = spi.hw.device.sent := drained Nat.zero_lt_one
    rw [device] at same
    cases same

/-- A second read succeeds with the entry of the first one's word. -/
theorem late_entry_read :
    ¬ (run (History.step lateSlave 2) (History.start lateSlave false)
      [oneByte, oneByte]).AllServed (Served.Matched lateSlave) := by
  intro matched
  have narrow : NarrowWords (History.start lateSlave false).driver := Nat.le_refl 8
  obtain ⟨returned, other⟩ := serve_awake
    (oneByte.perform_narrow 2 (History.start lateSlave false).driver narrow)
    (perform_asleep narrow rfl)
  exact other (matched _ (History.second_mem _ _ oneByte oneByte) returned)

end SandPlatform.Spi
