import SandPlatform.Spi.Fifo
import SandPlatform.Spi.WordSize

/-!
# Which entries a call reads

A call that succeeds has written its words and has read as many entries, the
oldest ones first.  These are the entries of its own words exactly if no earlier
call has left an entry behind.
-/

namespace SandPlatform.Spi

open SandPlatform.Foundation
open SandPlatform.Hardware
open SandPlatform.Foundation.Exec (Ends)

universe u

variable {τ : Type u} (slave : Slave τ)

/-! ## One word -/

/-- The movers of words of eight bits. -/
def Narrow (mover : Mover) : Prop :=
  mover = .null ∨ mover = .u8

/-- Where a side of the transfer stands after a word. -/
def Mover.advance (mover : Mover) (position : Nat) : Nat :=
  if mover = .u8 then position + 1 else position

/-- A word has been written. -/
structure Wrote (mover : Mover) (before after : Driver (Controller τ)) : Prop where
  sent : after.hw.device.sent = before.hw.device.sent + 1
  taken : after.hw.device.taken = before.hw.device.taken
  rxBlock : after.rxBlock = before.rxBlock
  write : after.data.write = before.data.write
  read : after.data.read = before.data.read
  tx : after.data.tx = mover.advance before.data.tx
  txEnd : after.data.txEnd = before.data.txEnd
  rx : after.data.rx = before.data.rx
  rxEnd : after.data.rxEnd = before.data.rxEnd

/-- An entry has been read, and stored by the reader that stores. -/
structure Took (mover : Mover) (before after : Driver (Controller τ)) : Prop where
  sent : after.hw.device.sent = before.hw.device.sent
  taken : after.hw.device.taken = before.hw.device.taken + 1
  rxBlock : mover = .u8 → after.rxBlock = before.rxBlock.copy before.data.rx
    (wordBytes (slave.answer before.hw.device.taken)) 0 1
  write : after.data.write = before.data.write
  read : after.data.read = before.data.read
  tx : after.data.tx = before.data.tx
  txEnd : after.data.txEnd = before.data.txEnd
  rx : after.data.rx = mover.advance before.data.rx
  rxEnd : after.data.rxEnd = before.data.rxEnd

/-- If the computation returns `NO_ERROR`, it does so in such a state. -/
def Delivers (computation : Exec Stop (Driver (Controller τ)) Status)
    (spi : Driver (Controller τ)) (post : Driver (Controller τ) → Prop) : Prop :=
  Ends computation spi (fun ret next => ret = .noError → post next) fun _ => True

theorem delivers_error {status : Status} {spi : Driver (Controller τ)}
    {post : Driver (Controller τ) → Prop} (error : status ≠ .noError) :
    Delivers (pure status) spi post :=
  fun returned => absurd returned error

/-- An error ends a call at once. -/
theorem delivers_bind {first : Exec Stop (Driver (Controller τ)) Status}
    {rest : Status → Exec Stop (Driver (Controller τ)) Status}
    {spi : Driver (Controller τ)} {middle post : Driver (Controller τ) → Prop}
    (firstDelivers : Delivers first spi middle)
    (restDelivers : ∀ next, middle next → Delivers (rest .noError) next post) :
    Delivers (do
      let rc ← first
      if rc ≠ .noError then pure rc else rest rc) spi post := by
  apply Ends.bind firstDelivers
  intro rc next reached
  by_cases error : rc ≠ .noError
  · rw [if_pos error]
    exact delivers_error error
  · rw [if_neg error]
    rw [not_not] at error
    cases error
    exact restDelivers next (reached rfl)

theorem checkTxFifo_delivers (spi : Driver (Controller τ)) :
    Delivers (onHw (checkTxFifo slave.controller)) spi fun next =>
      ∃ hw, next = spi.setHw hw ∧ SameCounts spi.hw.device hw.device :=
  (pollFifo_ends slave srTnf timeout spi.hw).zoom
    (fun _ hw holds _ => ⟨hw, rfl, holds.1⟩) fun _ => trivial

theorem checkRxFifo_delivers (spi : Driver (Controller τ)) :
    Delivers (onHw (checkRxFifo slave.controller)) spi fun next =>
      ∃ hw, next = spi.setHw hw ∧ SameCounts spi.hw.device hw.device ∧
        hw.device.taken < hw.device.arrived :=
  (pollFifo_ends slave srRne timeout spi.hw).zoom
    (fun _ hw holds ok => ⟨hw, rfl, holds.1, holds.2 rfl ok⟩) fun _ => trivial

theorem write_delivers {spi : Driver (Controller τ)} {mover : Mover}
    (installed : spi.data.write = some mover) (narrow : Narrow mover) :
    Delivers (write slave.controller) spi (Wrote mover spi) := by
  rcases narrow with rfl | rfl
  · rw [Delivers, Ends, write_of_null _ installed]
    apply delivers_bind (checkTxFifo_delivers slave spi)
    rintro _ ⟨hw, rfl, same⟩ -
    exact ⟨congrArg (· + 1) same.sent, same.taken, rfl, rfl, rfl, rfl, rfl, rfl, rfl⟩
  · rw [Delivers, Ends, write_of_u8 _ installed]
    apply delivers_bind (checkTxFifo_delivers slave spi)
    rintro _ ⟨hw, rfl, same⟩ -
    exact ⟨congrArg (· + 1) same.sent, same.taken, rfl, rfl, rfl, rfl, rfl, rfl, rfl⟩

/-- Reading the data register after a poll that has found an entry. -/
theorem take_counts {before polled : Controller τ} (same : SameCounts before polled)
    (unread : polled.taken < polled.arrived) :
    polled.take.sent = before.sent ∧ polled.take.taken = before.taken + 1 := by
  rw [Controller.sent_take, Controller.taken_take unread, same.sent, same.taken]
  exact ⟨rfl, rfl⟩

theorem read_delivers {spi : Driver (Controller τ)} {mover : Mover}
    (installed : spi.data.read = some mover) (narrow : Narrow mover) :
    Delivers (read slave.controller) spi (Took slave mover spi) := by
  rcases narrow with rfl | rfl
  · rw [Delivers, Ends, read_of_null _ installed]
    apply delivers_bind (checkRxFifo_delivers slave spi)
    rintro _ ⟨hw, rfl, same, unread⟩ -
    obtain ⟨sent, taken⟩ := take_counts same unread
    have noBlock : ¬Mover.null = .u8 := by decide
    exact ⟨sent, taken, fun same => absurd same noBlock, rfl, rfl, rfl, rfl, rfl, rfl⟩
  · rw [Delivers, Ends, read_of_u8 _ installed]
    apply delivers_bind (checkRxFifo_delivers slave spi)
    rintro _ ⟨hw, rfl, same, unread⟩ -
    obtain ⟨sent, taken⟩ := take_counts same unread
    have answer : (if hw.device.taken < hw.device.arrived then
        slave.answer hw.device.taken else 0) = slave.answer spi.hw.device.taken := by
      rw [if_pos unread, same.taken]
    have stored : (spi.setHw hw).rxBlock.copy spi.data.rx (wordBytes
        (if hw.device.taken < hw.device.arrived then
          slave.answer hw.device.taken else 0)) 0 1 =
        spi.rxBlock.copy spi.data.rx
          (wordBytes (slave.answer spi.hw.device.taken)) 0 1 := by
      rw [answer]
      rfl
    exact ⟨sent, taken, fun _ => stored, rfl, rfl, rfl, rfl, rfl, rfl⟩

/-! ## All words of a call -/

/-- What a call starts with, how many words it moves and with which movers. -/
structure Words where
  sent : Nat
  taken : Nat
  length : Nat
  writer : Mover
  reader : Mover
  writerNarrow : Narrow writer
  readerNarrow : Narrow reader

/-- The call has moved some of its words. -/
structure Reached (words : Words) (count : Nat) (spi : Driver (Controller τ)) :
    Prop where
  sent : spi.hw.device.sent = words.sent + count
  taken : spi.hw.device.taken = words.taken + count
  write : spi.data.write = some words.writer
  read : spi.data.read = some words.reader
  tx : words.writer = .u8 → spi.data.tx = count ∧ spi.data.txEnd = words.length
  rx : words.reader = .u8 → spi.data.rx = count ∧ spi.data.rxEnd = words.length
  bytes : words.reader = .u8 → ∀ i < count,
    spi.rxBlock i = Word.byte (slave.answer (words.taken + i)) 0

variable {slave} {words : Words} {count : Nat} {spi : Driver (Controller τ)}

/-- One more word. -/
theorem Reached.next {middle after : Driver (Controller τ)}
    (reached : Reached slave words count spi) (wrote : Wrote words.writer spi middle)
    (took : Took slave words.reader middle after) :
    Reached slave words (count + 1) after := by
  have taken : middle.hw.device.taken = words.taken + count := by
    rw [wrote.taken, reached.taken]
  constructor
  · rw [took.sent, wrote.sent, reached.sent, Nat.add_assoc]
  · rw [took.taken, taken, Nat.add_assoc]
  · rw [took.write, wrote.write, reached.write]
  · rw [took.read, wrote.read, reached.read]
  · intro stores
    obtain ⟨position, last⟩ := reached.tx stores
    rw [took.tx, wrote.tx, took.txEnd, wrote.txEnd, Mover.advance, if_pos stores, position]
    exact ⟨rfl, last⟩
  · intro stores
    obtain ⟨position, last⟩ := reached.rx stores
    rw [took.rx, wrote.rx, took.rxEnd, wrote.rxEnd, Mover.advance, if_pos stores, position]
    exact ⟨rfl, last⟩
  · intro stores i inside
    obtain ⟨position, -⟩ := reached.rx stores
    rw [took.rxBlock stores, wrote.rx, position, taken]
    rcases Nat.lt_succ_iff_lt_or_eq.mp inside with before | same
    · rw [Memory.copy_apply_of_lt before, wrote.rxBlock]
      exact reached.bytes stores i before
    · rw [same, Memory.copy_apply_of_mem (Nat.le_refl _) (Nat.lt_succ_self _), Nat.sub_self]
      rfl

theorem exchange_delivers (reached : Reached slave words count spi) :
    Delivers (exchange slave.controller) spi (Reached slave words (count + 1)) := by
  apply delivers_bind (write_delivers slave reached.write words.writerNarrow)
  intro middle wrote
  have installed : middle.data.read = some words.reader := by
    rw [wrote.read, reached.read]
  apply (read_delivers slave installed words.readerNarrow).mono
  · intro ret next took returned
    exact reached.next wrote (took returned)
  · exact fun _ _ => trivial

/-- A loop that goes on until its pointer is at the end. -/
theorem transferUntil_delivers {done : SpiTranData → Bool}
    (doneAt : ∀ count spi, Reached slave words count spi → done spi.data = true →
      count = words.length) (bound : Nat) (reached : Reached slave words count spi) :
    Delivers (transferUntil slave.controller done bound) spi
      (Reached slave words words.length) := by
  induction bound generalizing count spi with
  | zero => trivial
  | succ bound ih =>
      change Delivers (if done spi.data = true then pure Status.noError else _) spi _
      by_cases finished : done spi.data = true
      · rw [if_pos finished]
        intro _
        exact doneAt count spi reached finished ▸ reached
      · rw [if_neg finished]
        apply delivers_bind (exchange_delivers reached)
        intro next moved
        exact ih moved

/-- A loop that counts its words. -/
theorem transferCount_delivers {left : Nat} (all : count + left = words.length)
    (reached : Reached slave words count spi) :
    Delivers (transferCount slave.controller left) spi
      (Reached slave words words.length) := by
  induction left generalizing count spi with
  | zero =>
      intro _
      exact all ▸ reached
  | succ left ih =>
      apply delivers_bind (exchange_delivers reached)
      intro next moved
      exact ih (by omega) moved

/-- Only the hardware, and neither of its counts, has changed. -/
def SameTransfer (before after : Driver (Controller τ)) : Prop :=
  ∃ hw, after = before.setHw hw ∧ SameCounts before.hw.device hw.device

theorem Reached.of_sameTransfer {after : Driver (Controller τ)}
    (reached : Reached slave words count spi) (same : SameTransfer spi after) :
    Reached slave words count after := by
  obtain ⟨hw, rfl, counts⟩ := same
  exact ⟨counts.sent.trans reached.sent, counts.taken.trans reached.taken,
    reached.write, reached.read, reached.tx, reached.rx, reached.bytes⟩

theorem spiSetCs_sameTransfer (flag : Bool) (spi : Driver (Controller τ)) :
    Ends (onHw (spiSetCs slave.controller flag)) spi
      (fun _ next => SameTransfer spi next) fun _ => True :=
  (spiSetCs_ends slave flag spi.hw).zoom (fun _ hw same => ⟨hw, rfl, same⟩)
    fun _ => trivial

/-- The chip select around a transfer changes nothing the transfer is about. -/
theorem selected_delivers {transfer : Exec Stop (Driver (Controller τ)) Status}
    (reached : Reached slave words 0 spi)
    (delivers : ∀ spi, Reached slave words 0 spi →
      Delivers transfer spi (Reached slave words words.length)) :
    Delivers (selected slave.controller transfer) spi
      (Reached slave words words.length) := by
  apply (spiSetCs_sameTransfer true spi).bind
  intro _ chosen same
  apply (delivers chosen (reached.of_sameTransfer same)).bind
  intro ret moved all
  apply (spiSetCs_sameTransfer false moved).bind
  intro _ released same returned
  exact (all returned).of_sameTransfer same

theorem whenIdle_delivers {begin : Driver (Controller τ) → Driver (Controller τ)}
    {transfer : Exec Stop (Driver (Controller τ)) Status}
    (begins : ∀ next, SameTransfer spi next → Reached slave words 0 (begin next))
    (delivers : ∀ spi, Reached slave words 0 spi →
      Delivers transfer spi (Reached slave words words.length)) :
    Delivers (whenIdle slave.controller begin transfer) spi
      (Reached slave words words.length) := by
  have idle : Ends (onHw (spiCheckBusy slave.controller)) spi
      (fun _ next => SameTransfer spi next) fun _ => True :=
    (pollBusy_ends slave timeout spi.hw).zoom (fun _ hw same => ⟨hw, rfl, same⟩)
      fun _ => trivial
  apply idle.bind
  intro left next same
  by_cases busy : left = 0
  · rw [if_pos busy]
    exact delivers_error (by simp)
  · rw [if_neg busy]
    change Delivers (selected slave.controller transfer) (begin next) _
    exact selected_delivers (begins next same) delivers

/-! ## Calls -/

/-- A transfer. -/
inductive Request
  | read (rxBuff : Option (Memory (BitVec 8))) (rxBytes : BitVec 32)
  | write (txBuff : Option (Memory (BitVec 8))) (txBytes : BitVec 32)
  | writeread (txBuff : Option (Memory (BitVec 8))) (txBytes : BitVec 32)
      (rxBuff : Option (Memory (BitVec 8))) (rxBytes : BitVec 32)

namespace Request

/-- The number of words the request moves. -/
def length : Request → Nat
  | .read _ rxBytes => rxBytes.toNat
  | .write _ txBytes => txBytes.toNat
  | .writeread _ txBytes _ rxBytes => (txBytes + rxBytes).toNat

/-- A read sends words of zeros. -/
def writer : Request → Mover
  | .read _ _ => .null
  | _ => .u8

/-- A write drops what it receives. -/
def reader : Request → Mover
  | .write _ _ => .null
  | _ => .u8

theorem writer_narrow (request : Request) : Narrow request.writer := by
  cases request <;> simp [Narrow, writer]

theorem reader_narrow (request : Request) : Narrow request.reader := by
  cases request <;> simp [Narrow, reader]

/-- A request on the controller of a slave. -/
def perform (slave : Slave τ) (bound : Nat) :
    Request → Exec Stop (Driver (Controller τ)) Status
  | .read rxBuff rxBytes => spiRead slave.controller bound rxBuff rxBytes
  | .write txBuff txBytes => spiWrite slave.controller bound txBuff txBytes
  | .writeread txBuff txBytes rxBuff rxBytes =>
      spiWriteread slave.controller txBuff txBytes rxBuff rxBytes

theorem perform_narrow (bound : Nat) (request : Request) :
    Exec.Preserves NarrowWords (request.perform slave bound) := by
  cases request with
  | read rxBuff rxBytes => exact spiRead_narrow _ bound rxBuff rxBytes
  | write txBuff txBytes => exact spiWrite_narrow _ bound txBuff txBytes
  | writeread txBuff txBytes rxBuff rxBytes =>
      exact spiWriteread_narrow _ txBuff txBytes rxBuff rxBytes

/-- The words of a request made in some state. -/
def toWords (request : Request) (spi : Driver (Controller τ)) : Words where
  sent := spi.hw.device.sent
  taken := spi.hw.device.taken
  length := request.length
  writer := request.writer
  reader := request.reader
  writerNarrow := request.writer_narrow
  readerNarrow := request.reader_narrow

end Request

/-- The receive pointer is at its end. -/
theorem Reached.eq_of_rx_end (reached : Reached slave words count spi)
    (stores : words.reader = .u8) (finished : (spi.data.rx == spi.data.rxEnd) = true) :
    count = words.length := by
  obtain ⟨position, last⟩ := reached.rx stores
  rw [← position, ← last]
  exact eq_of_beq finished

/-- The transmit pointer is at its end. -/
theorem Reached.eq_of_tx_end (reached : Reached slave words count spi)
    (loads : words.writer = .u8) (finished : (spi.data.tx == spi.data.txEnd) = true) :
    count = words.length := by
  obtain ⟨position, last⟩ := reached.tx loads
  rw [← position, ← last]
  exact eq_of_beq finished

theorem delivers_invalidArgs {post : Driver (Controller τ) → Prop} :
    Delivers (pure .invalidArgs) spi post :=
  delivers_error (by simp)

theorem spiRead_delivers (bound : Nat) (narrow : NarrowWords spi)
    (rxBuff : Option (Memory (BitVec 8))) (rxBytes : BitVec 32) :
    Delivers (spiRead slave.controller bound rxBuff rxBytes) spi
      (Reached slave ((Request.read rxBuff rxBytes).toWords spi) rxBytes.toNat) := by
  cases rxBuff with
  | none => exact delivers_invalidArgs
  | some rx =>
      rw [spiRead]
      by_cases empty : rxBytes < 1
      · rw [if_pos empty]
        exact delivers_invalidArgs
      · rw [if_neg empty]
        apply whenIdle_delivers
        · rintro _ ⟨hw, rfl, same⟩
          have begun : NarrowWords ((spi.setHw hw).beginRx rx rxBytes) := narrow
          rw [Driver.install_of_narrow begun]
          exact ⟨same.sent, same.taken, rfl, rfl, nofun, fun _ => ⟨rfl, rfl⟩, nofun⟩
        · intro start reached
          apply transferUntil_delivers _ bound reached
          intro count next reached finished
          exact reached.eq_of_rx_end rfl finished

theorem spiWrite_delivers (bound : Nat) (narrow : NarrowWords spi)
    (txBuff : Option (Memory (BitVec 8))) (txBytes : BitVec 32) :
    Delivers (spiWrite slave.controller bound txBuff txBytes) spi
      (Reached slave ((Request.write txBuff txBytes).toWords spi) txBytes.toNat) := by
  cases txBuff with
  | none => exact delivers_invalidArgs
  | some tx =>
      rw [spiWrite]
      by_cases empty : txBytes < 1
      · rw [if_pos empty]
        exact delivers_invalidArgs
      · rw [if_neg empty]
        apply whenIdle_delivers
        · rintro _ ⟨hw, rfl, same⟩
          have begun : NarrowWords ((spi.setHw hw).beginTx tx txBytes) := narrow
          rw [Driver.install_of_narrow begun]
          exact ⟨same.sent, same.taken, rfl, rfl, fun _ => ⟨rfl, rfl⟩, nofun, nofun⟩
        · intro start reached
          apply transferUntil_delivers _ bound reached
          intro count next reached finished
          exact reached.eq_of_tx_end rfl finished

theorem spiWriteread_delivers (narrow : NarrowWords spi)
    (txBuff : Option (Memory (BitVec 8))) (txBytes : BitVec 32)
    (rxBuff : Option (Memory (BitVec 8))) (rxBytes : BitVec 32) :
    Delivers (spiWriteread slave.controller txBuff txBytes rxBuff rxBytes) spi
      (Reached slave ((Request.writeread txBuff txBytes rxBuff rxBytes).toWords spi)
        (txBytes + rxBytes).toNat) := by
  cases rxBuff with
  | none => exact delivers_invalidArgs
  | some rx =>
      cases txBuff with
      | none => exact delivers_invalidArgs
      | some tx =>
          rw [spiWriteread]
          by_cases empty : rxBytes < 1 ∨ txBytes < 1
          · rw [if_pos empty]
            exact delivers_invalidArgs
          · rw [if_neg empty]
            apply whenIdle_delivers
            · rintro _ ⟨hw, rfl, same⟩
              have begun : NarrowWords (((spi.setHw hw).beginRx rx
                  (txBytes + rxBytes)).beginTx tx (txBytes + rxBytes)) := narrow
              rw [Driver.install_of_narrow begun]
              exact ⟨same.sent, same.taken, rfl, rfl, fun _ => ⟨rfl, rfl⟩,
                fun _ => ⟨rfl, rfl⟩, nofun⟩
            · intro start reached
              exact transferCount_delivers (Nat.zero_add _) reached

/-- A request that succeeds has moved all its words. -/
theorem perform_delivers (bound : Nat) (narrow : NarrowWords spi) (request : Request) :
    Delivers (request.perform slave bound) spi
      (Reached slave (request.toWords spi) request.length) := by
  cases request with
  | read rxBuff rxBytes => exact spiRead_delivers bound narrow rxBuff rxBytes
  | write txBuff txBytes => exact spiWrite_delivers bound narrow txBuff txBytes
  | writeread txBuff txBytes rxBuff rxBytes =>
      exact spiWriteread_delivers narrow txBuff txBytes rxBuff rxBytes

end SandPlatform.Spi
