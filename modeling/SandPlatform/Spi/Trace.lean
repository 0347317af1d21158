import SandPlatform.Spi.Alignment
import SandPlatform.Spi.Containment

/-!
# The accesses of a transfer

What a transfer does to the controller is a list of accesses, newest first: polls
of the status register, and words that are written and read in turn.  How far a
transfer has come is the number of words it has exchanged, whatever their size and
whatever the controller answers.
-/

namespace SandPlatform.Spi

open SandPlatform.Foundation
open SandPlatform.Hardware

universe u

variable {σ : Type u} (device : Device σ)

/-! ## Accesses, newest first -/

/-- What an access does to the controller. -/
def replay : Access → σ → σ
  | .read window width offset _, state => (device.read window width offset state).2
  | .write window width offset value, state => device.write window width offset value state
  | .map physical _, state => (device.mapPhysical physical state).2
  | .store _ _, state => state

/-- The hardware after some more accesses. -/
structure After (accesses : List Access) (hw next : Hw σ) : Prop where
  log : next.log = accesses ++ hw.log
  device : next.device = accesses.foldr (replay device) hw.device

/-- Polls of the status register only. -/
def Polls (accesses : List Access) : Prop :=
  ∀ access ∈ accesses, ∃ value, access = .read .spi .word Reg.sr value

/-- Words written and read in turn, with any polls between; a word that is written
and not yet read is pending. -/
inductive Exchanges : Bool → List Access → Prop
  | nil : Exchanges false []
  | poll {pending : Bool} {accesses : List Access} (value : BitVec 32)
      (earlier : Exchanges pending accesses) :
      Exchanges pending (.read .spi .word Reg.sr value :: accesses)
  | write {accesses : List Access} (value : BitVec 32)
      (earlier : Exchanges false accesses) :
      Exchanges true (.write .spi .word Reg.dr value :: accesses)
  | read {accesses : List Access} (value : BitVec 32)
      (earlier : Exchanges true accesses) :
      Exchanges false (.read .spi .word Reg.dr value :: accesses)

/-- The words written to the data register. -/
def sentWords (accesses : List Access) : List (BitVec 32) :=
  accesses.filterMap fun access => match access with
    | .write .spi _ reg value => if reg = Reg.dr then some value else none
    | _ => none

/-- The words read from the data register. -/
def takenWords (accesses : List Access) : List (BitVec 32) :=
  accesses.filterMap fun access => match access with
    | .read .spi _ reg value => if reg = Reg.dr then some value else none
    | _ => none

namespace After

variable {device} {hw middle next : Hw σ} {earlier later : List Access}

theorem refl (hw : Hw σ) : After device [] hw hw :=
  ⟨rfl, rfl⟩

theorem trans (first : After device earlier hw middle)
    (rest : After device later middle next) : After device (later ++ earlier) hw next := by
  constructor
  · rw [rest.log, first.log, List.append_assoc]
  · rw [rest.device, first.device, List.foldr_append]

theorem read (first : After device earlier hw middle) (reg : Nat) :
    After device (.read .spi .word reg (device.read .spi .word reg middle.device).1 ::
      earlier) hw (lpssSpiRead device reg middle).2 := by
  constructor
  · simp [lpssSpiRead, readReg, first.log]
  · simp [lpssSpiRead, readReg, first.device, replay]

theorem write (first : After device earlier hw middle) (reg : Nat) (value : BitVec 32) :
    After device (.write .spi .word reg value :: earlier) hw
      (lpssSpiWrite device reg value middle).2 := by
  constructor
  · simp [lpssSpiWrite, writeReg, first.log]
  · simp [lpssSpiWrite, writeReg, first.device, replay]

end After

@[simp]
theorem sentWords_append (later earlier : List Access) :
    sentWords (later ++ earlier) = sentWords later ++ sentWords earlier :=
  List.filterMap_append

theorem polls_nil : Polls [] := by
  simp [Polls]

theorem polls_cons {accesses : List Access} (value : BitVec 32) (polls : Polls accesses) :
    Polls (.read .spi .word Reg.sr value :: accesses) := by
  simpa [Polls] using polls

/-- Polls do not change what has been exchanged. -/
theorem Polls.exchanges {polls accesses : List Access} {pending : Bool} (polled : Polls polls)
    (exchanges : Exchanges pending accesses) : Exchanges pending (polls ++ accesses) := by
  induction polls with
  | nil => exact exchanges
  | cons access polls ih =>
      obtain ⟨⟨value, rfl⟩, rest⟩ := List.forall_mem_cons.mp polled
      exact .poll value (ih rest)

theorem Polls.sentWords {polls : List Access} (polled : Polls polls) :
    sentWords polls = [] := by
  induction polls with
  | nil => rfl
  | cons access polls ih =>
      obtain ⟨⟨value, rfl⟩, rest⟩ := List.forall_mem_cons.mp polled
      exact ih rest

/-- Between two polls and a read, one word is sent. -/
theorem Polls.sentWords_exchange {polls polls' : List Access} (polled : Polls polls)
    (polled' : Polls polls') (word : BitVec 32) (earlier : List Access) :
    Spi.sentWords (polls' ++ .write .spi .word Reg.dr word :: (polls ++ earlier)) =
      word :: Spi.sentWords earlier := by
  have last : Spi.sentWords (.write .spi .word Reg.dr word :: (polls ++ earlier)) =
      word :: Spi.sentWords (polls ++ earlier) := rfl
  rw [sentWords_append, polled'.sentWords, List.nil_append, last, sentWords_append,
    polled.sentWords, List.nil_append]

/-! ## Polls -/

/-- A poll ends without error or, if the flag is not always set, with a time-out. -/
theorem pollFifo_after (flag : BitVec 32) (timeout : Nat) (hw : Hw σ) :
    ∃ ret next polls, pollFifo device flag timeout hw = (.ok ret, next) ∧
      Polls polls ∧ After device polls hw next ∧ (ret = .noError ∨ ret = .timedOut ∧
        (0 < timeout → ∃ state, (device.read .spi .word Reg.sr state).1 &&& flag = 0)) := by
  induction timeout generalizing hw with
  | zero => exact ⟨.timedOut, hw, [], rfl, polls_nil, .refl hw, .inr ⟨rfl, nofun⟩⟩
  | succ timeout ih =>
      have start : After device [] hw hw := .refl hw
      have looked := start.read Reg.sr
      have read : lpssSpiRead device Reg.sr hw =
          (.ok (device.read .spi .word Reg.sr hw.device).1, (lpssSpiRead device Reg.sr hw).2) :=
        rfl
      rw [pollFifo, Exec.bind_of_ok read]
      by_cases ready : (device.read .spi .word Reg.sr hw.device).1 &&& flag ≠ 0
      · rw [if_pos ready]
        exact ⟨.noError, _, _, rfl, polls_cons _ polls_nil, looked, .inl rfl⟩
      · rw [if_neg ready]
        obtain ⟨ret, next, polls, returned, polled, after, status⟩ :=
          ih (lpssSpiRead device Reg.sr hw).2
        have unset : ∃ state, (device.read .spi .word Reg.sr state).1 &&& flag = 0 :=
          ⟨hw.device, not_not.mp ready⟩
        refine ⟨ret, next, _, returned, ?_, looked.trans after,
          status.imp id fun slow => ⟨slow.1, fun _ => unset⟩⟩
        simpa [Polls, or_imp, forall_and] using polled

theorem checkTxFifo_after (hw : Hw σ) :
    ∃ ret next polls, checkTxFifo device hw = (.ok ret, next) ∧ Polls polls ∧
      After device polls hw next ∧
      (ret = .noError ∨ ret = .timedOut ∧ ¬Responsive device) := by
  obtain ⟨ret, next, polls, returned, polled, after, status⟩ :=
    pollFifo_after device srTnf timeout hw
  refine ⟨ret, next, polls, returned, polled, after, status.imp id ?_⟩
  rintro ⟨slow, unset⟩
  obtain ⟨state, full⟩ := unset (by decide)
  exact ⟨slow, fun responsive => responsive.room state full⟩

theorem checkRxFifo_after (hw : Hw σ) :
    ∃ ret next polls, checkRxFifo device hw = (.ok ret, next) ∧ Polls polls ∧
      After device polls hw next ∧
      (ret = .noError ∨ ret = .timedOut ∧ ¬Responsive device) := by
  obtain ⟨ret, next, polls, returned, polled, after, status⟩ :=
    pollFifo_after device srRne timeout hw
  refine ⟨ret, next, polls, returned, polled, after, status.imp id ?_⟩
  rintro ⟨slow, unset⟩
  obtain ⟨state, empty⟩ := unset (by decide)
  exact ⟨slow, fun responsive => responsive.data state empty⟩

theorem pollBusy_after (timeout : Nat) (hw : Hw σ) :
    ∃ left next polls, pollBusy device timeout hw = (.ok left, next) ∧
      Polls polls ∧ After device polls hw next := by
  induction timeout generalizing hw with
  | zero => exact ⟨0, hw, [], rfl, polls_nil, .refl hw⟩
  | succ timeout ih =>
      have start : After device [] hw hw := .refl hw
      have looked := start.read Reg.sr
      have read : lpssSpiRead device Reg.sr hw =
          (.ok (device.read .spi .word Reg.sr hw.device).1, (lpssSpiRead device Reg.sr hw).2) :=
        rfl
      rw [pollBusy, Exec.bind_of_ok read]
      by_cases busy : (device.read .spi .word Reg.sr hw.device).1 &&& srBsy ≠ 0
      · rw [if_pos busy]
        obtain ⟨left, next, polls, returned, polled, after⟩ :=
          ih (lpssSpiRead device Reg.sr hw).2
        refine ⟨left, next, _, returned, ?_, looked.trans after⟩
        simpa [Polls, or_imp, forall_and] using polled
      · rw [if_neg busy]
        exact ⟨timeout + 1, _, _, rfl, polls_cons _ polls_nil, looked⟩

/-! ## Words of any size -/

namespace Mover

/-- The bytes of a word in the buffer. -/
def size : Mover → Nat
  | .null => 0
  | .u8 => 1
  | .u16 => 2
  | .u32 => 4

/-- The access to the buffer at a position. -/
def touches (mover : Mover) (buffer : Buffer) (position : Nat) : List Touch :=
  match mover with
  | .null => []
  | mover => [⟨buffer, position, mover.size⟩]

/-- The word a writer sends. -/
def wordAt (mover : Mover) (block : Memory (BitVec 8)) (position : Nat) : BitVec 32 :=
  match mover with
  | .null => 0
  | mover => loadWord block position mover.size

end Mover

namespace Driver

variable (spi : Driver σ)

/-- A word is written to the data register. -/
def sendWord (mover : Mover) : Driver σ :=
  let word := mover.wordAt spi.txBlock spi.data.tx
  let sent := spi.setHw (lpssSpiWrite device Reg.dr word spi.hw).2
  match mover with
  | .null => sent
  | mover => sent.advanceTx mover.size

/-- A word is read from the data register. -/
def takeWord (mover : Mover) : Driver σ :=
  let word := (device.read .spi .word Reg.dr spi.hw.device).1
  let took := spi.setHw (lpssSpiRead device Reg.dr spi.hw).2
  match mover with
  | .null => took
  | mover => took.advanceRx mover.size word

end Driver

section Effects

variable (spi : Driver σ) (mover : Mover)

@[simp]
theorem sendWord_hw : (spi.sendWord device mover).hw =
    (lpssSpiWrite device Reg.dr (mover.wordAt spi.txBlock spi.data.tx) spi.hw).2 := by
  cases mover <;> rfl

@[simp]
theorem takeWord_hw : (spi.takeWord device mover).hw =
    (lpssSpiRead device Reg.dr spi.hw).2 := by
  cases mover <;> rfl

/-- What a writer does to the driver data. -/
theorem sendWord_data : (spi.sendWord device mover).data.write = spi.data.write ∧
    (spi.sendWord device mover).data.read = spi.data.read ∧
    (spi.sendWord device mover).data.tx = spi.data.tx + mover.size ∧
    (spi.sendWord device mover).data.rx = spi.data.rx ∧
    (spi.sendWord device mover).data.txEnd = spi.data.txEnd ∧
    (spi.sendWord device mover).data.rxEnd = spi.data.rxEnd ∧
    (spi.sendWord device mover).txBlock = spi.txBlock ∧
    (spi.sendWord device mover).touches =
      spi.touches ++ mover.touches .tx spi.data.tx := by
  cases mover <;> simp [Driver.sendWord, Driver.advanceTx, Driver.setHw, Mover.size,
    Mover.touches]

/-- What a reader does to the driver data. -/
theorem takeWord_data : (spi.takeWord device mover).data.write = spi.data.write ∧
    (spi.takeWord device mover).data.read = spi.data.read ∧
    (spi.takeWord device mover).data.tx = spi.data.tx ∧
    (spi.takeWord device mover).data.rx = spi.data.rx + mover.size ∧
    (spi.takeWord device mover).data.txEnd = spi.data.txEnd ∧
    (spi.takeWord device mover).data.rxEnd = spi.data.rxEnd ∧
    (spi.takeWord device mover).txBlock = spi.txBlock ∧
    (spi.takeWord device mover).touches =
      spi.touches ++ mover.touches .rx spi.data.rx := by
  cases mover <;> simp [Driver.takeWord, Driver.advanceRx, Driver.setHw, Mover.size,
    Mover.touches]

end Effects

/-- A writer sends a word unless its check fails. -/
theorem write_of_checked {spi : Driver σ} {mover : Mover} {ret : Status} {hw : Hw σ}
    (installed : spi.data.write = some mover)
    (checked : checkTxFifo device spi.hw = (.ok ret, hw)) :
    write device spi = (.ok ret, if ret = .noError then (spi.setHw hw).sendWord device mover
      else spi.setHw hw) := by
  have check : onHw (checkTxFifo device) spi = (.ok ret, spi.setHw hw) := onHw_of_eq checked
  rw [write, Exec.gets_bind_apply, installed]
  by_cases ok : ret = .noError
  · subst ok
    cases mover <;>
      simp only [nullWriter, u8Writer, u16Writer, u32Writer, wordWriter] <;>
      rw [Exec.bind_of_ok check] <;> rfl
  · rw [if_neg ok]
    cases mover <;>
      simp only [nullWriter, u8Writer, u16Writer, u32Writer, wordWriter] <;>
      rw [Exec.bind_of_ok check, if_pos ok] <;> rfl

/-- A reader takes a word unless its check fails. -/
theorem read_of_checked {spi : Driver σ} {mover : Mover} {ret : Status} {hw : Hw σ}
    (installed : spi.data.read = some mover)
    (checked : checkRxFifo device spi.hw = (.ok ret, hw)) :
    read device spi = (.ok ret, if ret = .noError then (spi.setHw hw).takeWord device mover
      else spi.setHw hw) := by
  have check : onHw (checkRxFifo device) spi = (.ok ret, spi.setHw hw) := onHw_of_eq checked
  rw [read, Exec.gets_bind_apply, installed]
  by_cases ok : ret = .noError
  · subst ok
    cases mover <;>
      simp only [nullReader, u8Reader, u16Reader, u32Reader, wordReader] <;>
      rw [Exec.bind_of_ok check] <;> rfl
  · rw [if_neg ok]
    cases mover <;>
      simp only [nullReader, u8Reader, u16Reader, u32Reader, wordReader] <;>
      rw [Exec.bind_of_ok check, if_pos ok] <;> rfl

/-- A writer polls the status register, and sends a word unless that times out. -/
theorem write_returns {spi : Driver σ} {mover : Mover}
    (installed : spi.data.write = some mover) :
    ∃ ret hw polls, Polls polls ∧ After device polls spi.hw hw ∧
      write device spi =
        (.ok ret, if ret = .noError then (spi.setHw hw).sendWord device mover
          else spi.setHw hw) ∧ (ret = .noError ∨ ret = .timedOut ∧ ¬Responsive device) := by
  obtain ⟨ret, hw, polls, checked, polled, after, status⟩ :=
    checkTxFifo_after device spi.hw
  exact ⟨ret, hw, polls, polled, after, write_of_checked device installed checked, status⟩

/-- A reader polls the status register, and takes a word unless that times out. -/
theorem read_returns {spi : Driver σ} {mover : Mover}
    (installed : spi.data.read = some mover) :
    ∃ ret hw polls, Polls polls ∧ After device polls spi.hw hw ∧
      read device spi =
        (.ok ret, if ret = .noError then (spi.setHw hw).takeWord device mover
          else spi.setHw hw) ∧ (ret = .noError ∨ ret = .timedOut ∧ ¬Responsive device) := by
  obtain ⟨ret, hw, polls, checked, polled, after, status⟩ :=
    checkRxFifo_after device spi.hw
  exact ⟨ret, hw, polls, polled, after, read_of_checked device installed checked, status⟩

/-! ## How far a transfer has come -/

variable (writer reader : Mover)

/-- The accesses to the buffers for one word of a transfer. -/
def wordTouches (start : Driver σ) (count : Nat) : List Touch :=
  writer.touches .tx (start.data.tx + count * writer.size) ++
    reader.touches .rx (start.data.rx + count * reader.size)

/-- So many words have been exchanged since the start of the transfer, with these
accesses. -/
structure Progress (start : Driver σ) (count : Nat) (spi : Driver σ)
    (accesses : List Access) : Prop where
  after : After device accesses start.hw spi.hw
  exchanges : Exchanges false accesses
  sent : sentWords accesses = ((List.range count).map fun i =>
    writer.wordAt start.txBlock (start.data.tx + i * writer.size)).reverse
  write : spi.data.write = some writer
  read : spi.data.read = some reader
  tx : spi.data.tx = start.data.tx + count * writer.size
  rx : spi.data.rx = start.data.rx + count * reader.size
  txEnd : spi.data.txEnd = start.data.txEnd
  rxEnd : spi.data.rxEnd = start.data.rxEnd
  txBlock : spi.txBlock = start.txBlock
  touches : spi.touches =
    start.touches ++ (List.range count).flatMap (wordTouches writer reader start)

/-- A time-out has ended the transfer. -/
structure Interrupted (start spi : Driver σ) (accesses : List Access) : Prop where
  after : After device accesses start.hw spi.hw
  slow : ¬Responsive device
  exchanges : ∃ pending, Exchanges pending accesses

variable {device writer reader} {start spi : Driver σ} {count : Nat}
  {accesses : List Access}

/-- One more word has been written and read. -/
theorem Progress.next (progress : Progress device writer reader start count spi accesses)
    {sending taking : Hw σ} {polls polls' : List Access} (polled : Polls polls)
    (polled' : Polls polls') (beforeSend : After device polls spi.hw sending)
    (beforeTake : After device polls'
      ((spi.setHw sending).sendWord device writer).hw taking) :
    ∃ accesses', Progress device writer reader start (count + 1)
      ((((spi.setHw sending).sendWord device writer).setHw taking).takeWord device reader)
      accesses' := by
  let sent := (spi.setHw sending).sendWord device writer
  obtain ⟨write, read, tx, rx, txEnd, rxEnd, txBlock, touches⟩ :=
    sendWord_data device (spi.setHw sending) writer
  obtain ⟨write', read', tx', rx', txEnd', rxEnd', txBlock', touches'⟩ :=
    takeWord_data device (sent.setHw taking) reader
  have wrote := (progress.after.trans beforeSend).write Reg.dr
    (writer.wordAt spi.txBlock spi.data.tx)
  rw [sendWord_hw] at beforeTake
  have took := (wrote.trans beforeTake).read Reg.dr
  let word := writer.wordAt spi.txBlock spi.data.tx
  let value := (device.read .spi .word Reg.dr taking.device).1
  let accesses' := .read .spi .word Reg.dr value ::
    (polls' ++ .write .spi .word Reg.dr word :: (polls ++ accesses))
  have exchanges : Exchanges false accesses' :=
    .read value (polled'.exchanges (.write word (polled.exchanges progress.exchanges)))
  refine ⟨accesses', ?_, exchanges, ?_, ?_, ?_, ?_, ?_, ?_, ?_, ?_, ?_⟩
  · rw [takeWord_hw]
    exact took
  · have old := progress.sent
    have position : word =
        writer.wordAt start.txBlock (start.data.tx + count * writer.size) := by
      rw [← progress.tx, ← progress.txBlock]
    have last : sentWords accesses' = word :: sentWords accesses :=
      polled.sentWords_exchange polled' word accesses
    rw [last, old, position, List.range_succ, List.map_append, List.reverse_append]
    rfl
  · exact write'.trans (write.trans progress.write)
  · exact read'.trans (read.trans progress.read)
  · rw [tx', Driver.data_setHw, tx, Driver.data_setHw, progress.tx, Nat.succ_mul,
      Nat.add_assoc]
  · rw [rx', Driver.data_setHw, rx, Driver.data_setHw, progress.rx, Nat.succ_mul,
      Nat.add_assoc]
  · exact txEnd'.trans (txEnd.trans progress.txEnd)
  · exact rxEnd'.trans (rxEnd.trans progress.rxEnd)
  · exact txBlock'.trans (txBlock.trans progress.txBlock)
  · rw [touches', Driver.data_setHw, Driver.touches_setHw, rx, touches, Driver.data_setHw,
      Driver.touches_setHw, progress.touches, progress.tx, progress.rx, List.range_succ,
      List.flatMap_append]
    simp [wordTouches]

/-- An exchange moves one word more, or is interrupted. -/
theorem exchange_progress
    (progress : Progress device writer reader start count spi accesses) :
    ∃ ret next accesses', exchange device spi = (.ok ret, next) ∧
      (ret = .noError ∧ Progress device writer reader start (count + 1) next accesses' ∨
        ret = .timedOut ∧ Interrupted device start next accesses') := by
  obtain ⟨ret, sending, polls, polled, beforeSend, wrote, status⟩ :=
    write_returns device progress.write
  rw [exchange, Exec.bind_of_ok wrote]
  rcases status with rfl | ⟨rfl, slow⟩
  · simp only [ne_eq, not_true_eq_false, if_false, if_true]
    have installed := ((sendWord_data device (spi.setHw sending) writer).2.1).trans
      progress.read
    obtain ⟨ret, taking, polls', polled', beforeTake, took, status⟩ :=
      read_returns device installed
    rcases status with rfl | ⟨rfl, slow⟩
    · obtain ⟨accesses', more⟩ := progress.next polled polled' beforeSend beforeTake
      exact ⟨_, _, accesses', took, .inl ⟨rfl, more⟩⟩
    · rw [sendWord_hw] at beforeTake
      have wrote := ((progress.after.trans beforeSend).write Reg.dr _).trans beforeTake
      have exchanged := polled.exchanges progress.exchanges
      exact ⟨_, _, _, took,
        .inr ⟨rfl, wrote, slow, true, polled'.exchanges (.write _ exchanged)⟩⟩
  · have exchanged := polled.exchanges progress.exchanges
    exact ⟨_, _, _, rfl,
      .inr ⟨rfl, progress.after.trans beforeSend, slow, false, exchanged⟩⟩

/-! ## Transfers -/

/-- A transfer that has ended: with so many words that the condition holds, or with a
time-out. -/
inductive Ended (device : Device σ) (writer reader : Mover) (start : Driver σ)
    (all : Nat → Prop) : Status → Driver σ → Prop
  | complete {count : Nat} {next : Driver σ} {accesses : List Access} (finished : all count)
      (progress : Progress device writer reader start count next accesses) :
      Ended device writer reader start all .noError next
  | timedOut {next : Driver σ} {accesses : List Access}
      (interrupted : Interrupted device start next accesses) :
      Ended device writer reader start all .timedOut next

variable {all : Nat → Prop}

theorem transferCount_ended {left : Nat} (finished : all (count + left))
    (progress : Progress device writer reader start count spi accesses) :
    ∃ ret next, transferCount device left spi = (.ok ret, next) ∧
      Ended device writer reader start all ret next := by
  induction left generalizing count spi accesses with
  | zero => exact ⟨_, _, rfl, .complete finished progress⟩
  | succ left ih =>
      obtain ⟨ret, next, accesses', exchanged, ⟨rfl, more⟩ | ⟨rfl, interrupted⟩⟩ :=
        exchange_progress progress
      · rw [transferCount, Exec.bind_of_ok exchanged]
        have rest : all (count + 1 + left) := by
          rw [Nat.add_assoc, Nat.add_comm 1]
          exact finished
        exact ih rest more
      · rw [transferCount, Exec.bind_of_ok exchanged]
        exact ⟨_, _, rfl, .timedOut interrupted⟩

/-- The loop condition is a condition on the number of words. -/
def Decides (device : Device σ) (writer reader : Mover) (start : Driver σ)
    (all : Nat → Prop) (done : SpiTranData → Bool) : Prop :=
  ∀ count spi accesses, Progress device writer reader start count spi accesses →
    (done spi.data = true ↔ all count)

variable {done : SpiTranData → Bool}

/-- A loop that is not done exchanges a word. -/
theorem transferUntil_of_not_done (bound : Nat) (unfinished : ¬done spi.data = true) :
    transferUntil device done (bound + 1) spi =
      (do
        let rc ← exchange device
        if rc ≠ .noError then
          pure rc
        else
          transferUntil device done bound : Exec Stop (Driver σ) Status) spi := by
  change (if done spi.data = true then _ else _ : Exec Stop (Driver σ) Status) spi = _
  rw [if_neg unfinished]

theorem transferUntil_of_done (bound : Nat) (finished : done spi.data = true) :
    transferUntil device done (bound + 1) spi = (.ok .noError, spi) := by
  change (if done spi.data = true then _ else _ : Exec Stop (Driver σ) Status) spi = _
  rw [if_pos finished]
  rfl

/-- A loop that meets its end returns, given enough rounds. -/
theorem transferUntil_ended (decides : Decides device writer reader start all done)
    {left bound : Nat} (finished : all (count + left)) (enough : left < bound)
    (progress : Progress device writer reader start count spi accesses) :
    ∃ ret next, transferUntil device done bound spi = (.ok ret, next) ∧
      Ended device writer reader start all ret next := by
  induction bound generalizing count left spi accesses with
  | zero => exact absurd enough (Nat.not_lt_zero left)
  | succ bound ih =>
      by_cases ends : done spi.data = true
      · rw [transferUntil_of_done bound ends]
        exact ⟨_, _, rfl, .complete ((decides count spi accesses progress).mp ends) progress⟩
      · rw [transferUntil_of_not_done bound ends]
        cases left with
        | zero => exact absurd ((decides count spi accesses progress).mpr finished) ends
        | succ left =>
            obtain ⟨ret, next, accesses', exchanged, ⟨rfl, more⟩ | ⟨rfl, interrupted⟩⟩ :=
              exchange_progress progress
            · rw [Exec.bind_of_ok exchanged]
              have rest : all (count + 1 + left) := by
                rw [Nat.add_assoc, Nat.add_comm 1]
                exact finished
              exact ih rest (Nat.lt_of_succ_lt_succ enough) more
            · rw [Exec.bind_of_ok exchanged]
              exact ⟨_, _, rfl, .timedOut interrupted⟩

/-- A loop that returns has met its end or timed out. -/
theorem ended_of_transferUntil (decides : Decides device writer reader start all done)
    {bound : Nat} (progress : Progress device writer reader start count spi accesses)
    {ret : Status} {next : Driver σ}
    (returned : transferUntil device done bound spi = (.ok ret, next)) :
    Ended device writer reader start all ret next := by
  induction bound generalizing count spi accesses with
  | zero => cases returned
  | succ bound ih =>
      by_cases ends : done spi.data = true
      · rw [transferUntil_of_done bound ends] at returned
        cases returned
        exact .complete ((decides count _ _ progress).mp ends) progress
      · rw [transferUntil_of_not_done bound ends] at returned
        obtain ⟨status, middle, accesses', exchanged, ⟨rfl, more⟩ | ⟨rfl, interrupted⟩⟩ :=
          exchange_progress progress
        · rw [Exec.bind_of_ok exchanged] at returned
          exact ih more returned
        · rw [Exec.bind_of_ok exchanged] at returned
          cases returned
          exact .timedOut interrupted

end SandPlatform.Spi
