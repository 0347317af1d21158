import SandPlatform.Spi.UserCopies

/-!
# Bytes that nobody has written

The transmit buffer of `sys_trusty_spi_writeread` is as long as both lengths together,
and all of it is sent; the user has filled the first `tx_bytes` bytes.  Two runs on
blocks with different contents therefore send different words.  The other two calls
send what the user has given, or zeros.
-/

namespace SandPlatform.Spi

open SandPlatform.Foundation
open SandPlatform.Hardware
open SandPlatform.Kernel
open SandPlatform.Foundation.Exec (Alike)

universe u

variable {σ : Type u} {device : Device σ}

/-! ## Drivers that differ in their blocks -/

/-- The same hardware and driver data, and transmit buffers that begin with the same
bytes. -/
structure Sending (known : Nat) (spi spi' : Driver σ) : Prop where
  hw : spi.hw = spi'.hw
  data : spi.data = spi'.data
  txBlock : spi.txBlock.AgreeOn spi'.txBlock 0 known

variable {known : Nat} {spi spi' : Driver σ} {mover : Mover}

theorem loadWord_congr {first second : Memory (BitVec 8)} {start size : Nat}
    (same : ∀ i < size, first (start + i) = second (start + i)) :
    loadWord first start size = loadWord second start size := by
  have byte (i : Nat) : (if i < size then first (start + i) else 0) =
      if i < size then second (start + i) else 0 := by
    split
    · exact same i ‹_›
    · rfl
  simp only [loadWord, byte]

theorem wordAt_congr {first second : Memory (BitVec 8)} {position : Nat}
    (agree : first.AgreeOn second 0 known) (inside : position + mover.size ≤ known) :
    mover.wordAt first position = mover.wordAt second position := by
  have same : ∀ i < mover.size, first (position + i) = second (position + i) :=
    fun i within => agree _ (Nat.zero_le _) (by omega)
  cases mover with
  | null => rfl
  | u8 => exact loadWord_congr same
  | u16 => exact loadWord_congr same
  | u32 => exact loadWord_congr same

namespace Sending

theorem setHw (sending : Sending known spi spi') (hw : Hw σ) :
    Sending known (spi.setHw hw) (spi'.setHw hw) :=
  ⟨rfl, sending.data, sending.txBlock⟩

theorem sendWord (sending : Sending known spi spi')
    (inside : spi.data.tx + mover.size ≤ known) :
    Sending known (spi.sendWord device mover) (spi'.sendWord device mover) := by
  have word := wordAt_congr sending.txBlock inside
  constructor
  · rw [sendWord_hw, sendWord_hw, word, sending.data, sending.hw]
  · cases mover <;> simp [Driver.sendWord, Driver.advanceTx, Driver.setHw, sending.data]
  · rw [(sendWord_data device spi mover).2.2.2.2.2.2.1,
      (sendWord_data device spi' mover).2.2.2.2.2.2.1]
    exact sending.txBlock

theorem takeWord (sending : Sending known spi spi') :
    Sending known (spi.takeWord device mover) (spi'.takeWord device mover) := by
  constructor
  · rw [takeWord_hw, takeWord_hw, sending.hw]
  · cases mover <;> simp [Driver.takeWord, Driver.advanceRx, Driver.setHw, sending.data]
  · rw [(takeWord_data device spi mover).2.2.2.2.2.2.1,
      (takeWord_data device spi' mover).2.2.2.2.2.2.1]
    exact sending.txBlock

end Sending

/-! ## A word -/

theorem write_alike (sending : Sending known spi spi')
    (installed : spi.data.write = some mover) (inside : spi.data.tx + mover.size ≤ known) :
    Alike (write device) (write device) spi spi' fun next next' =>
      Sending known next next' ∧ next.data.read = spi.data.read := by
  obtain ⟨ret, hw, -, checked, -⟩ := checkTxFifo_after device spi.hw
  have checked' : checkTxFifo device spi'.hw = (.ok ret, hw) := by rwa [← sending.hw]
  have installed' : spi'.data.write = some mover := by rwa [← sending.data]
  rw [Alike, write_of_checked device installed checked,
    write_of_checked device installed' checked']
  refine ⟨rfl, ?_⟩
  split
  · exact ⟨(sending.setHw hw).sendWord inside, (sendWord_data device _ mover).2.1⟩
  · exact ⟨sending.setHw hw, rfl⟩

theorem read_alike (sending : Sending known spi spi')
    (installed : spi.data.read = some mover) :
    Alike (read device) (read device) spi spi' (Sending known) := by
  obtain ⟨ret, hw, -, checked, -⟩ := checkRxFifo_after device spi.hw
  have checked' : checkRxFifo device spi'.hw = (.ok ret, hw) := by rwa [← sending.hw]
  have installed' : spi'.data.read = some mover := by rwa [← sending.data]
  rw [Alike, read_of_checked device installed checked,
    read_of_checked device installed' checked']
  refine ⟨rfl, ?_⟩
  split
  · exact (sending.setHw hw).takeWord
  · exact sending.setHw hw

theorem exchange_alike {writer reader : Mover} (sending : Sending known spi spi')
    (write : spi.data.write = some writer) (read : spi.data.read = some reader)
    (inside : spi.data.tx + writer.size ≤ known) :
    Alike (exchange device) (exchange device) spi spi' (Sending known) := by
  refine (write_alike sending write inside).bind ?_ fun _ _ sent => sent.1
  rintro rc next next' ⟨sent, kept⟩
  refine Exec.alike_ite (fun _ => Exec.alike_pure rc sent) fun _ => ?_
  exact read_alike sent (kept.trans read)

/-! ## A transfer -/

variable {writer reader : Mover} {start : Driver σ} {all : Nat → Prop}
  {done : SpiTranData → Bool}

/-- Every word of the transfer is among the bytes that both have. -/
def Covered (writer : Mover) (start : Driver σ) (all : Nat → Prop) (known : Nat) : Prop :=
  ∀ count, (∀ earlier ≤ count, ¬all earlier) →
    start.data.tx + count * writer.size + writer.size ≤ known

theorem transferUntil_alike (decides : Decides device writer reader start all done)
    (covered : Covered writer start all known) (bound : Nat) {count : Nat}
    {accesses : List Access}
    (progress : Progress device writer reader start count spi accesses)
    (unfinished : ∀ earlier < count, ¬all earlier) (sending : Sending known spi spi') :
    Alike (transferUntil device done bound) (transferUntil device done bound) spi spi'
      (Sending known) := by
  induction bound generalizing count spi spi' accesses with
  | zero => exact Exec.alike_stop Stop.running sending
  | succ bound ih =>
      by_cases ends : done spi.data = true
      · have ends' : done spi'.data = true := by rwa [← sending.data]
        rw [Alike, transferUntil_of_done bound ends, transferUntil_of_done bound ends']
        exact ⟨rfl, sending⟩
      · have ends' : ¬done spi'.data = true := by rwa [← sending.data]
        have still : ∀ earlier < count + 1, ¬all earlier := by
          intro earlier before
          rcases Nat.lt_succ_iff_lt_or_eq.mp before with less | rfl
          · exact unfinished earlier less
          · exact fun finished => ends ((decides earlier spi accesses progress).mpr finished)
        have inside : spi.data.tx + writer.size ≤ known := by
          rw [progress.tx]
          exact covered count fun earlier le => still earlier (Nat.lt_succ_of_le le)
        obtain ⟨ret, next, accesses', exchanged, ended⟩ := exchange_progress progress
        obtain ⟨outcome, same⟩ := exchange_alike sending progress.write progress.read inside
        rcases exchanged' : exchange device spi' with ⟨outcome', next'⟩
        rw [exchanged, exchanged'] at outcome same
        cases outcome
        rw [Alike, transferUntil_of_not_done bound ends, transferUntil_of_not_done bound ends',
          Exec.bind_of_ok exchanged, Exec.bind_of_ok exchanged']
        rcases ended with ⟨rfl, more⟩ | ⟨rfl, -⟩
        · exact ih more still same
        · exact ⟨rfl, same⟩

/-! ## A call of the driver -/

/-- Only the hardware has changed since then, and is the same. -/
def OnlyHw (spi spi' next next' : Driver σ) : Prop :=
  ∃ hw, next = spi.setHw hw ∧ next' = spi'.setHw hw

theorem onHw_alike {α : Type} (inner : Exec Stop (Hw σ) α) (same : spi.hw = spi'.hw) :
    Alike (onHw inner) (onHw inner) spi spi' (OnlyHw spi spi') :=
  Exec.alike_zoom inner same fun hw => ⟨hw, rfl, rfl⟩

theorem OnlyHw.hw {next next' : Driver σ} (moved : OnlyHw spi spi' next next') :
    next.hw = next'.hw := by
  obtain ⟨hw, rfl, rfl⟩ := moved
  rfl

variable {request request' : Request} {bound : Nat}

/-- Transfers that run alike do so with the chip select around them. -/
theorem selected_alike {transfer transfer' : Exec Stop (Driver σ) Status}
    (same : spi.hw = spi'.hw)
    (transferred : ∀ hw, Alike transfer transfer' (spi.setHw hw) (spi'.setHw hw)
      fun next next' => next.hw = next'.hw) :
    Alike (selected device transfer) (selected device transfer') spi spi'
      fun next next' => next.hw = next'.hw := by
  refine (onHw_alike (spiSetCs device true) same).bind ?_ fun _ _ => OnlyHw.hw
  rintro _ _ _ ⟨hw, rfl, rfl⟩
  refine (transferred hw).bind ?_ fun _ _ => id
  intro rc next next' same
  refine (onHw_alike (spiSetCs device false) same).bind ?_ fun _ _ => OnlyHw.hw
  rintro _ _ _ ⟨hw, rfl, rfl⟩
  exact Exec.alike_pure rc rfl

/-- Calls that begin with the same driver go the same way if their transfers do. -/
theorem performOn_alike (accepted : request.Accepted) (accepted' : request'.Accepted)
    (transferred : ∀ hw, Alike (request.transferOn device bound)
      (request'.transferOn device bound) ((request.begin spi).setHw hw)
      ((request'.begin spi).setHw hw) fun next next' => next.hw = next'.hw) :
    Alike (request.performOn device bound) (request'.performOn device bound) spi spi
      fun next next' => next.hw = next'.hw := by
  rw [Request.performOn_of_accepted device accepted,
    Request.performOn_of_accepted device accepted', whenIdle, whenIdle]
  refine (onHw_alike (spiCheckBusy device) rfl).bind ?_ fun _ _ => OnlyHw.hw
  rintro left _ _ ⟨hw, rfl, rfl⟩
  refine Exec.alike_ite (fun _ => Exec.alike_pure _ rfl) fun _ => ?_
  rw [Alike, Exec.modify_bind_apply, Exec.modify_bind_apply, begin_setHw, begin_setHw]
  exact selected_alike rfl transferred

/-- A call that is refused does nothing. -/
theorem performOn_alike_of_refused (refused : ¬request.Accepted)
    (refused' : ¬request'.Accepted) :
    Alike (request.performOn device bound) (request'.performOn device bound) spi spi
      fun next next' => next.hw = next'.hw := by
  rw [Alike, Request.performOn_of_refused device refused,
    Request.performOn_of_refused device refused']
  exact ⟨rfl, rfl⟩

/-- `spi_write` sends the bytes it is given. -/
theorem spiWrite_alike (narrow : NarrowWords spi) {tx tx' : Memory (BitVec 8)}
    {txBytes : BitVec 32} (agree : tx.AgreeOn tx' 0 txBytes.toNat) :
    Alike (spiWrite device bound (some tx) txBytes) (spiWrite device bound (some tx') txBytes)
      spi spi fun next next' => next.hw = next'.hw := by
  change Alike ((Request.write (some tx) txBytes).performOn device bound)
    ((Request.write (some tx') txBytes).performOn device bound) spi spi _
  by_cases short : txBytes < 1
  · exact performOn_alike_of_refused (fun accepted => accepted.2 short)
      fun accepted => accepted.2 short
  · refine performOn_alike ⟨rfl, short⟩ ⟨rfl, short⟩ fun hw => ?_
    have chosen : moverFor spi.data.bitsPerWord = some .u8 := if_pos narrow
    have begun : Begun (.write (some tx) txBytes) .u8
        ((Request.begin (.write (some tx) txBytes) spi).setHw hw) :=
      (begin_begun chosen).setHw hw
    have sending : Sending txBytes.toNat
        (((Request.write (some tx) txBytes).begin spi).setHw hw)
        (((Request.write (some tx') txBytes).begin spi).setHw hw) := by
      have begun (tx : Memory (BitVec 8)) : NarrowWords (spi.beginTx tx txBytes) := narrow
      simp only [Request.begin, Driver.install_of_narrow (begun _)]
      exact ⟨rfl, rfl, agree⟩
    have covered : Covered .u8 (((Request.write (some tx) txBytes).begin spi).setHw hw)
        (Request.EndsAt .u8 (.write (some tx) txBytes)) txBytes.toNat := by
      intro count unfinished
      rw [(begun.tx (moverFor_ne_null chosen)).1]
      by_contra beyond
      simp only [Mover.size] at beyond
      exact unfinished txBytes.toNat (by omega) (Nat.mul_one _)
    exact (transferUntil_alike (decides_write begun (moverFor_ne_null chosen)) covered bound
      begun.progress (fun _ before => absurd before (Nat.not_lt_zero _)) sending).mono
        fun _ _ same => same.hw

/-- `spi_read` sends zeros. -/
theorem spiRead_alike (narrow : NarrowWords spi) (rx rx' : Memory (BitVec 8))
    (rxBytes : BitVec 32) :
    Alike (spiRead device bound (some rx) rxBytes) (spiRead device bound (some rx') rxBytes)
      spi spi fun next next' => next.hw = next'.hw := by
  change Alike ((Request.read (some rx) rxBytes).performOn device bound)
    ((Request.read (some rx') rxBytes).performOn device bound) spi spi _
  by_cases short : rxBytes < 1
  · exact performOn_alike_of_refused (fun accepted => accepted.2 short)
      fun accepted => accepted.2 short
  · refine performOn_alike ⟨rfl, short⟩ ⟨rfl, short⟩ fun hw => ?_
    have chosen : moverFor spi.data.bitsPerWord = some .u8 := if_pos narrow
    have begun : Begun (.read (some rx) rxBytes) .u8
        ((Request.begin (.read (some rx) rxBytes) spi).setHw hw) :=
      (begin_begun chosen).setHw hw
    let start := ((Request.read (some rx) rxBytes).begin spi).setHw hw
    have sending : Sending start.data.tx start
        (((Request.read (some rx') rxBytes).begin spi).setHw hw) := by
      have begun (rx : Memory (BitVec 8)) : NarrowWords (spi.beginRx rx rxBytes) := narrow
      simp only [start, Request.begin, Driver.install_of_narrow (begun _)]
      exact ⟨rfl, rfl, fun _ _ _ => rfl⟩
    have covered : Covered .null start (Request.EndsAt .u8 (.read (some rx) rxBytes))
        start.data.tx := by
      intro count _
      rw [Mover.size, Nat.mul_zero]
      exact Nat.le_refl _
    exact (transferUntil_alike (decides_read begun (moverFor_ne_null chosen)) covered bound
      begun.progress (fun _ before => absurd before (Nat.not_lt_zero _)) sending).mono
        fun _ _ same => same.hw

/-! ## The system calls -/

/-- The same blocks with other contents. -/
def Env.refill (env : Env) (rx tx : Memory (BitVec 8)) : Env :=
  { env with
    krxBuf := env.krxBuf.map fun _ => rx
    ktxBuf := env.ktxBuf.map fun _ => tx }

/-- The words written to the data register so far, oldest first. -/
def Kernel.clockedOut (kernel : Kernel σ) : List (BitVec 32) :=
  (sentWords kernel.spi.hw.log).reverse

namespace SpiCall

/-- What is sent is the same whatever the blocks contain. -/
def HeapFree (env : Env) (call : SpiCall) : Prop :=
  ∀ (τ : Type) (device : Device τ) (rounds bound : Nat) (hw : Hw τ)
    (earlier : List Call) (user rx tx rx' tx' : Memory (BitVec 8)),
    (call.perform device (env.refill rx tx) bound
        (Kernel.after device rounds hw earlier user)).2.clockedOut =
      (call.perform device (env.refill rx' tx') bound
        (Kernel.after device rounds hw earlier user)).2.clockedOut

/-- `copy_from_user` succeeds: all bytes are copied. -/
def CopiedIn (env : Env) : SpiCall → Prop
  | .read _ _ => True
  | .write txBuff txBytes | .writeread txBuff txBytes _ _ =>
      (env.copyIn txBuff txBytes.toNat).status = 0 ∧
        txBytes.toNat ≤ (env.copyIn txBuff txBytes.toNat).copied

/-- The sum of the lengths does not wrap. -/
def SumFits : SpiCall → Prop
  | .writeread _ txBytes _ rxBytes => txBytes.toNat + rxBytes.toNat < 2 ^ 32
  | _ => True

/-- The call does not transmit more than `copy_from_user` has filled: it is not
`sys_trusty_spi_writeread`, or is refused. -/
def Filled (env : Env) (call : SpiCall) : Prop :=
  match call with
  | .writeread _ _ _ _ => ¬call.Allocated env ∨ ¬call.NonEmpty
  | _ => True

end SpiCall

variable {env env' : Env} {kernel kernel' : Kernel σ}

theorem unlessFailed_alike (copies : env.copyOut = env'.copyOut) (ret : Status)
    (address start size : Nat) (same : kernel.spi.hw = kernel'.spi.hw) :
    Alike (unlessFailed env ret address start size) (unlessFailed env' ret address start size)
      kernel kernel' fun next next' => next.spi.hw = next'.spi.hw := by
  refine Exec.alike_ite (fun _ => Exec.alike_pure ret same) fun _ => ⟨?_, same⟩
  change Except.ok (Status.ofCopy (env.copyOut address size).status) =
    .ok (Status.ofCopy (env'.copyOut address size).status)
  rw [copies]

theorem readBuffer_alike (narrow : NarrowWords kernel.spi) (copies : env.copyOut = env'.copyOut)
    (buf buf' : Memory (BitVec 8)) (rxBuff : Nat) (rxBytes : BitVec 32) :
    Alike (readBuffer device env bound buf rxBuff rxBytes)
      (readBuffer device env' bound buf' rxBuff rxBytes) kernel kernel
      fun next next' => next.spi.hw = next'.spi.hw := by
  refine ((spiRead_alike narrow buf buf' rxBytes).zoom fun _ _ same => same).bind ?_
    fun _ _ same => same
  intro ret next next' same
  refine (unlessFailed_alike copies ret rxBuff 0 rxBytes.toNat same).bind ?_
    fun _ _ same => same
  intro ret next next' same
  exact ⟨rfl, same⟩

/-- What is copied into two blocks is the same in both. -/
theorem copy_agreeOn (first second source : Memory (BitVec 8)) (origin size : Nat) :
    Memory.AgreeOn (first.copy 0 source origin size) (second.copy 0 source origin size)
      0 size := by
  intro i lower upper
  have inside : i < 0 + size := by rwa [Nat.zero_add]
  rw [Memory.copy_apply_of_mem lower inside, Memory.copy_apply_of_mem lower inside]

theorem writeBuffer_alike (narrow : NarrowWords kernel.spi) (copies : env.copyIn = env'.copyIn)
    {txBuff : Nat} {txBytes : BitVec 32}
    (copied : txBytes.toNat ≤ (env.copyIn txBuff txBytes.toNat).copied)
    (buf buf' : Memory (BitVec 8)) :
    Alike (writeBuffer device env bound buf txBuff txBytes)
      (writeBuffer device env' bound buf' txBuff txBytes) kernel kernel
      fun next next' => next.spi.hw = next'.spi.hw := by
  let loaded := kernel.touch ⟨.tx, 0, txBytes.toNat⟩
  have whole : min (env.copyIn txBuff txBytes.toNat).copied txBytes.toNat = txBytes.toNat :=
    Nat.min_eq_right copied
  have filled (env : Env) (buf : Memory (BitVec 8))
      (all : min (env.copyIn txBuff txBytes.toNat).copied txBytes.toNat = txBytes.toNat) :
      copyFromUser env buf txBuff txBytes.toNat kernel =
        (.ok (buf.copy 0 kernel.user txBuff txBytes.toNat), loaded) := by
    change (Except.ok (buf.copy 0 kernel.user txBuff (min _ _)), kernel.touch _) = _
    rw [all]
  rw [Alike, writeBuffer, writeBuffer, Exec.bind_of_ok (filled env buf whole),
    Exec.bind_of_ok (filled env' buf' (by rwa [← copies]))]
  have started : NarrowWords loaded.spi := narrow
  have agree := copy_agreeOn buf buf' kernel.user txBuff txBytes.toNat
  have sent : Alike
      (Exec.zoom Kernel.spi Kernel.setSpi (spiWrite device bound (some _) txBytes))
      (Exec.zoom Kernel.spi Kernel.setSpi (spiWrite device bound (some _) txBytes))
      loaded loaded fun next next' => next.spi.hw = next'.spi.hw :=
    (spiWrite_alike started agree).zoom fun _ _ same => same
  refine sent.bind ?_ fun _ _ same => same
  intro ret next next' same
  exact ⟨rfl, same⟩

@[simp]
theorem allocated_refill (call : SpiCall) (rx tx : Memory (BitVec 8)) :
    call.Allocated (env.refill rx tx) ↔ call.Allocated env := by
  cases call <;> simp [SpiCall.Allocated, Env.refill]

theorem SentNothing.sentWords {before after : Hw σ} (nothing : SentNothing before after) :
    sentWords after.log = sentWords before.log := by
  obtain ⟨accesses, log, none⟩ := nothing
  have silent : Spi.sentWords accesses = [] := by
    refine List.filterMap_eq_nil_iff.mpr fun access among => ?_
    split
    · split_ifs with dr
      · subst dr
        exact absurd (.inl ⟨_, _, rfl⟩) (none _ among)
      · rfl
    · rfl
  rw [log, sentWords_append, silent, List.nil_append]

/-- A call without its buffers, or one that the driver refuses, sends nothing. -/
theorem perform_of_refused {call : SpiCall} (narrow : NarrowWords kernel.spi)
    (enough : call.length < bound) (refused : ¬call.Allocated env ∨ ¬call.NonEmpty) :
    (call.perform device env bound kernel).2.clockedOut = kernel.clockedOut := by
  refine congrArg List.reverse ?_
  by_cases present : call.Allocated env
  · obtain ⟨status, next, returned, carried⟩ := perform_of_allocated device narrow enough present
    obtain ⟨request, spi, ret, last, accepts, before, transferred, after, -⟩ :=
      carried.transferred
    have empty := refused.resolve_left (not_not_intro present)
    rw [← accepts] at empty
    rw [returned, after, ← before]
    exact (transferred.sentNothing_iff.mpr (.inl empty)).sentWords
  · obtain ⟨next, returned, same, -⟩ := perform_of_unallocated device bound kernel present
    rw [returned, same]

/-- A call that does not send more than the user has given. -/
theorem heapFree_of_filled {call : SpiCall} (copied : call.CopiedIn env)
    (filled : call.Filled env) : call.HeapFree env := by
  intro τ device rounds bound hw earlier user rx tx rx' tx'
  have narrow : NarrowWords (Kernel.after device rounds hw earlier user).spi :=
    run_narrow device rounds hw earlier
  have sent {kernel kernel' : Kernel τ} (same : kernel.spi.hw = kernel'.spi.hw) :
      kernel.clockedOut = kernel'.clockedOut :=
    congrArg (fun hw : Hw τ => (sentWords hw.log).reverse) same
  cases call with
  | read rxBuff rxBytes =>
      cases present : env.krxBuf with
      | none =>
          simp only [SpiCall.perform, sysTrustySpiRead, Env.refill, present]
          rfl
      | some buf =>
          simp only [SpiCall.perform, sysTrustySpiRead, Env.refill, present, Option.map_some]
          exact sent (readBuffer_alike narrow rfl rx rx' rxBuff rxBytes).2
  | write txBuff txBytes =>
      cases present : env.ktxBuf with
      | none =>
          simp only [SpiCall.perform, sysTrustySpiWrite, Env.refill, present]
          rfl
      | some buf =>
          simp only [SpiCall.perform, sysTrustySpiWrite, Env.refill, present, Option.map_some]
          exact sent (writeBuffer_alike narrow rfl copied.2 tx tx').2
  | writeread txBuff txBytes rxBuff rxBytes =>
      -- The loop of this call counts its words, so any bound will do.
      let call := SpiCall.writeread txBuff txBytes rxBuff rxBytes
      have silent (rx tx : Memory (BitVec 8)) :
          (call.perform device (env.refill rx tx) (call.length + 1)
            (Kernel.after device rounds hw earlier user)).2.clockedOut =
              (Kernel.after device rounds hw earlier user).clockedOut :=
        perform_of_refused narrow (Nat.lt_succ_self _)
          (filled.imp (mt (allocated_refill _ rx tx).mp) id)
      exact (silent rx tx).trans (silent rx' tx').symm

/-! ## Stale bytes -/

/-- The words of `sys_trusty_spi_writeread` are the bytes of its transmit buffer. -/
theorem exchangeBuffers_clockedOut (responsive : Responsive device)
    (narrow : NarrowWords kernel.spi) (krxBuf ktxBuf : Memory (BitVec 8)) (txBuff : Nat)
    {txBytes : BitVec 32} (rxBuff : Nat) {rxBytes : BitVec 32}
    (accepted : ¬(rxBytes < 1 ∨ txBytes < 1)) :
    (exchangeBuffers device env krxBuf ktxBuf txBuff txBytes rxBuff rxBytes
        kernel).2.clockedOut =
      kernel.clockedOut ++ (List.range (txBytes + rxBytes).toNat).map
        (Mover.u8.wordAt (ktxBuf.copy 0 kernel.user txBuff (copiedIn env txBuff txBytes))) := by
  let filled := ktxBuf.copy 0 kernel.user txBuff (copiedIn env txBuff txBytes)
  let loaded := kernel.touch ⟨.tx, 0, copiedIn env txBuff txBytes⟩
  have copied : copyFromUser env ktxBuf txBuff txBytes.toNat kernel = (.ok filled, loaded) :=
    rfl
  have chosen : moverFor loaded.spi.data.bitsPerWord = some .u8 := if_pos narrow
  let request := Request.writeread (some filled) txBytes (some krxBuf) rxBytes
  have taken : request.Accepted := ⟨⟨rfl, rfl⟩, accepted⟩
  obtain ⟨ret, next, outcome, returned⟩ :
      ∃ ret next, request.performOn device 0 loaded.spi = (.ok ret, next) ∧
        Returned device request .u8 loaded.spi ret next :=
    performOn_returned device chosen fun _ => trivial
  obtain ⟨idle, inTime⟩ := returned.prompt responsive
  obtain rfl : ret = .noError := by simpa [taken, idle, inTime] using returned.status
  have transfer : Exec.zoom Kernel.spi Kernel.setSpi
      (spiWriteread device (some filled) txBytes (some krxBuf) rxBytes) loaded =
        (.ok .noError, loaded.setSpi next) := by
    have transferred : spiWriteread device (some filled) txBytes (some krxBuf) rxBytes
        loaded.spi = (.ok .noError, next) := outcome
    rw [Exec.zoom_apply, transferred]
  obtain ⟨status, last, returning, hw, -⟩ :=
    delivered env .noError (rxBuff + txBytes.toNat) txBytes.toNat rxBytes.toNat
      (loaded.setSpi next)
  have handed : returnReceived env .noError txBytes rxBuff rxBytes (loaded.setSpi next) =
      (.ok status, last) := returning
  have block : (request.begin loaded.spi).txBlock = filled := by
    simp only [request, Request.begin, Driver.txBlock_install]
    rfl
  obtain ⟨count, rfl, sent⟩ := returned.sent chosen (moverFor_ne_null chosen)
  rw [exchangeBuffers, Exec.bind_of_ok copied, Exec.bind_of_ok transfer,
    Exec.bind_of_ok handed]
  change (sentWords last.spi.hw.log).reverse = _
  rw [hw]
  change (sentWords next.hw.log).reverse = _
  rw [sent, block]
  simp [Request.writerOf, Mover.size, Kernel.clockedOut, loaded, Kernel.touch, Kernel.setSpi,
    Driver.touch, filled]

theorem wordAt_u8 (block : Memory (BitVec 8)) (position : Nat) :
    Mover.u8.wordAt block position = Word.ofBytes (block position) 0 0 0 :=
  rfl

/-- A byte behind those of the user is sent as it was in the block. -/
theorem filled_of_heapFree {txBuff : Nat} {txBytes : BitVec 32} {rxBuff : Nat}
    {rxBytes : BitVec 32} (fits : txBytes.toNat + rxBytes.toNat < 2 ^ 32)
    (free : (SpiCall.writeread txBuff txBytes rxBuff rxBytes).HeapFree env) :
    (SpiCall.writeread txBuff txBytes rxBuff rxBytes).Filled env := by
  by_contra overlong
  obtain ⟨present, accepted⟩ := not_or.mp overlong
  obtain ⟨receives, sends⟩ := not_not.mp present
  obtain ⟨krxBuf, krx⟩ := Option.isSome_iff_exists.mp receives
  obtain ⟨ktxBuf, ktx⟩ := Option.isSome_iff_exists.mp sends
  have accepted : ¬(rxBytes < 1 ∨ txBytes < 1) := not_not.mp accepted
  let kernel := Kernel.after readyController 0 ⟨(), []⟩ [] fun _ => 0
  have narrow : NarrowWords kernel.spi := run_narrow readyController 0 ⟨(), []⟩ []
  let filled (byte : BitVec 8) : Memory (BitVec 8) :=
    Memory.copy (fun _ => byte) 0 kernel.user txBuff (copiedIn env txBuff txBytes)
  have sent (byte : BitVec 8) :
      ((SpiCall.writeread txBuff txBytes rxBuff rxBytes).perform readyController
        (env.refill (fun _ => 0) fun _ => byte) 0 kernel).2.clockedOut =
      kernel.clockedOut ++ (List.range (txBytes + rxBytes).toNat).map
        (Mover.u8.wordAt (filled byte)) := by
    simp only [SpiCall.perform, sysTrustySpiWriteread, Env.refill, krx, ktx]
    exact exchangeBuffers_clockedOut readyController_responsive narrow _ _ txBuff rxBuff
      accepted
  have same := free Unit readyController 0 0 ⟨(), []⟩ [] (fun _ => 0) (fun _ => 0)
    (fun _ => 0) (fun _ => 0) (fun _ => 1)
  have words := List.append_cancel_left ((sent 0).symm.trans (same.trans (sent 1)))
  have one : (1 : BitVec 32).toNat = 1 := rfl
  have behind : txBytes.toNat < (txBytes + rxBytes).toNat := by
    rw [BitVec.toNat_add, Nat.mod_eq_of_lt fits]
    rw [BitVec.lt_def, BitVec.lt_def, one] at accepted
    omega
  have word := List.map_inj_left.mp words txBytes.toNat (List.mem_range.mpr behind)
  have stale (byte : BitVec 8) : filled byte txBytes.toNat = byte := by
    refine Memory.copy_apply_of_ge ?_
    rw [Nat.zero_add]
    exact Nat.min_le_right _ _
  rw [wordAt_u8, wordAt_u8, stale, stale] at word
  exact absurd word (by decide)

/-- Where the user copies succeed and the lengths can be added, what a call sends does not
depend on the heap exactly if the call is not `sys_trusty_spi_writeread`, or is refused. -/
theorem heapFree_iff_filled {call : SpiCall} (copied : call.CopiedIn env)
    (fits : call.SumFits) : call.HeapFree env ↔ call.Filled env := by
  constructor
  · intro free
    cases call with
    | read rxBuff rxBytes => trivial
    | write txBuff txBytes => trivial
    | writeread txBuff txBytes rxBuff rxBytes => exact filled_of_heapFree fits free
  · exact heapFree_of_filled copied

theorem heapFree_iff_filled_write :
    (SpiCall.write 0 3).HeapFree generousEnv ↔ (SpiCall.write 0 3).Filled generousEnv := by
  have copied : (SpiCall.write 0 3).CopiedIn generousEnv := ⟨rfl, Nat.le_refl _⟩
  exact heapFree_iff_filled copied trivial

/-- The second byte that is sent is the one that `malloc` has left there. -/
theorem stale_byte_sent :
    (SpiCall.writeread 0 1 0 1).CopiedIn generousEnv ∧
      (SpiCall.writeread 0 1 0 1).SumFits ∧
      ¬(SpiCall.writeread 0 1 0 1).HeapFree generousEnv := by
  have fits : (1 : BitVec 32).toNat + (1 : BitVec 32).toNat < 2 ^ 32 := by decide
  refine ⟨⟨rfl, Nat.le_refl _⟩, fits, fun free => ?_⟩
  have same := free Unit readyController 0 0 ⟨(), []⟩ [.init] (fun _ => 7) (fun _ => 0)
    (fun _ => 0) (fun _ => 0) (fun _ => 1)
  have first : ((SpiCall.writeread 0 1 0 1).perform readyController
      (generousEnv.refill (fun _ => 0) fun _ => 0) 0
      (Kernel.after readyController 0 ⟨(), []⟩ [.init] fun _ => 7)).2.clockedOut = [7, 0] := rfl
  have second : ((SpiCall.writeread 0 1 0 1).perform readyController
      (generousEnv.refill (fun _ => 0) fun _ => 1) 0
      (Kernel.after readyController 0 ⟨(), []⟩ [.init] fun _ => 7)).2.clockedOut = [7, 1] := rfl
  rw [first, second] at same
  exact absurd same (by decide)

end SandPlatform.Spi
