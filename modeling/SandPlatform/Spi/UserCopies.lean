import Mathlib.Logic.Function.Iterate
import SandPlatform.Spi.Brackets

/-!
# User copies that fail

The system calls keep the result of a user copy and of the transfer in one variable.
A failed copy out is the last to set it.  A failed copy in is followed by the
transfer all the same, and its result is lost.
-/

namespace SandPlatform.Spi

open SandPlatform.Foundation
open SandPlatform.Hardware
open SandPlatform.Kernel

universe u

variable {σ : Type u} {device : Device σ}

/-! ## What is wanted -/

/-- A write to the data register or one that asserts the chip select. -/
def Sends (access : Access) : Prop :=
  (∃ width value, access = .write .spi width Reg.dr value) ∨
    ∃ width value, access = .write .spi width Reg.cc value ∧ value &&& csControlCsHigh = 0

/-- Nothing is sent between the two states, nor is the chip select asserted. -/
def SentNothing (before after : Hw σ) : Prop :=
  ∃ accesses, after.log = accesses ++ before.log ∧ ∀ access ∈ accesses, ¬Sends access

namespace SpiCall

/-- `copy_from_user` fails. -/
def CopyInFails (env : Env) : SpiCall → Prop
  | .read _ _ => False
  | .write txBuff txBytes | .writeread txBuff txBytes _ _ =>
      (env.copyIn txBuff txBytes.toNat).status ≠ 0

/-- `copy_to_user` fails. -/
def CopyOutFails (env : Env) : SpiCall → Prop
  | .read rxBuff rxBytes => (env.copyOut rxBuff rxBytes.toNat).status ≠ 0
  | .write _ _ => False
  | .writeread _ txBytes rxBuff rxBytes =>
      (env.copyOut (rxBuff + txBytes.toNat) rxBytes.toNat).status ≠ 0

/-- The buffers that are allocated.  The second one of `sys_trusty_spi_writeread` is
asked for if the first one is there. -/
def allocated (env : Env) : SpiCall → List Buffer
  | .read _ _ => if env.krxBuf.isSome then [.rx] else []
  | .write _ _ => if env.ktxBuf.isSome then [.tx] else []
  | .writeread _ _ _ _ =>
      if env.krxBuf.isSome then if env.ktxBuf.isSome then [.tx, .rx] else [.rx] else []

/-- All buffers of the call are there. -/
def Allocated (env : Env) : SpiCall → Prop
  | .read _ _ => env.krxBuf.isSome
  | .write _ _ => env.ktxBuf.isSome
  | .writeread _ _ _ _ => env.krxBuf.isSome ∧ env.ktxBuf.isSome

/-- The driver accepts the lengths. -/
def NonEmpty : SpiCall → Prop
  | .read _ rxBytes => ¬rxBytes < 1
  | .write _ txBytes => ¬txBytes < 1
  | .writeread _ txBytes _ rxBytes => ¬(rxBytes < 1 ∨ txBytes < 1)

/-- The number of bytes the transfer is about. -/
def length : SpiCall → Nat
  | .read _ rxBytes => rxBytes.toNat
  | .write _ txBytes => txBytes.toNat
  | .writeread _ txBytes _ rxBytes => (txBytes + rxBytes).toNat

end SpiCall

/-- A call that has returned: failed copies are reported, nothing is sent after a failed
copy in, and every allocated buffer is freed once. -/
structure Reports (env : Env) (call : SpiCall) (before after : Kernel σ) (ret : Status) :
    Prop where
  toUser : call.CopyOutFails env → ret ≠ .noError
  fromUser : call.CopyInFails env →
    ret ≠ .noError ∧ SentNothing before.spi.hw after.spi.hw
  freed : ∀ buffer, after.freed.count buffer =
    before.freed.count buffer + (call.allocated env).count buffer

/-! ## Transfers that send nothing -/

theorem Polls.not_sends {polls : List Access} (polled : Polls polls) :
    ∀ access ∈ polls, ¬Sends access := by
  rintro access among (⟨width, value, same⟩ | ⟨width, value, same, -⟩)
  · exact polled.no_write access among _ _ _ _ same
  · exact polled.no_write access among _ _ _ _ same

/-- A call of the driver sends nothing exactly if it is refused. -/
theorem Returned.sentNothing_iff {request : Request} {mover : Mover} {spi next : Driver σ}
    {ret : Status} (returned : Returned device request mover spi ret next) :
    SentNothing spi.hw next.hw ↔
      ¬request.Accepted ∨ (spiCheckBusy device spi.hw).1 = .ok 0 := by
  cases returned with
  | invalidArgs refused => exact iff_of_true ⟨[], rfl, by simp⟩ (.inl refused)
  | busy polled after same busy =>
      exact iff_of_true ⟨_, after.log, polled.not_sends⟩ (.inr busy)
  | @transferred start last _ value polls _ accepted idle selected ended deselected same =>
      obtain ⟨body, pending, ran, -⟩ := ended.exchanges
      have whole := (selected.after.trans ran).trans deselected
      refine iff_of_false ?_ (not_or.mpr ⟨not_not_intro accepted, idle⟩)
      rintro ⟨accesses, log, nothing⟩
      rw [whole.log] at log
      have made := List.append_cancel_right log
      have asserts : Sends (.write .spi .word Reg.cc (csValue true value)) :=
        .inr ⟨_, _, rfl, csValue_asserts value⟩
      have among : .write .spi .word Reg.cc (csValue true value) ∈ accesses := by
        rw [← made]
        simp [csAccesses]
      exact nothing _ among asserts

/-- A call of the driver that is refused returns an error. -/
theorem Returned.error_of_refused {request : Request} {mover : Mover}
    {spi next : Driver σ} {ret : Status}
    (returned : Returned device request mover spi ret next)
    (refused : ¬request.Accepted ∨ (spiCheckBusy device spi.hw).1 = .ok 0) :
    ret ≠ .noError := by
  cases returned with
  | invalidArgs refused => exact nofun
  | busy polled after same busy => exact nofun
  | transferred accepted idle selected ended deselected same =>
      exact absurd refused (not_or.mpr ⟨not_not_intro accepted, idle⟩)

variable (device) in
/-- A transfer inside a system call. -/
theorem transfer_returned {kernel : Kernel σ} (narrow : NarrowWords kernel.spi)
    (request : Request) {bound : Nat} (enough : request.length < bound) :
    ∃ ret next, Exec.zoom Kernel.spi Kernel.setSpi (request.performOn device bound) kernel =
        (.ok ret, kernel.setSpi next) ∧
      Returned device request .u8 kernel.spi ret next := by
  have chosen : moverFor kernel.spi.data.bitsPerWord = some .u8 := if_pos narrow
  obtain ⟨ret, next, outcome, returned⟩ :=
    performOn_returned device chosen fun _ => inReach_u8 request enough
  refine ⟨ret, next, ?_, returned⟩
  rw [Exec.zoom_apply, outcome]

/-! ## A busy bus -/

/-- What a poll of the status register finds after some others. -/
def statusAfter (device : Device σ) (state : σ) (polls : Nat) : BitVec 32 :=
  (device.read .spi .word Reg.sr
    ((fun earlier => (device.read .spi .word Reg.sr earlier).2)^[polls] state)).1

/-- Every poll of `spi_check_busy` finds the bus busy. -/
def StaysBusy (device : Device σ) (hw : Hw σ) : Prop :=
  ∀ polls < timeout, statusAfter device hw.device polls &&& srBsy ≠ 0

theorem pollBusy_eq_zero_iff (bound : Nat) (hw : Hw σ) :
    (pollBusy device bound hw).1 = .ok 0 ↔
      ∀ polls < bound, statusAfter device hw.device polls &&& srBsy ≠ 0 := by
  induction bound generalizing hw with
  | zero => simp [pollBusy]
  | succ bound ih =>
      have read : lpssSpiRead device Reg.sr hw =
          (.ok (statusAfter device hw.device 0), (lpssSpiRead device Reg.sr hw).2) := rfl
      have later (polls : Nat) :
          statusAfter device (lpssSpiRead device Reg.sr hw).2.device polls =
            statusAfter device hw.device (polls + 1) := rfl
      rw [pollBusy, Exec.bind_of_ok read, Nat.forall_lt_succ_left]
      by_cases busy : statusAfter device hw.device 0 &&& srBsy ≠ 0
      · rw [if_pos busy, ih, and_iff_right busy]
        simp only [later]
      · rw [if_neg busy]
        exact iff_of_false (by simp) fun always => busy always.1

theorem staysBusy_iff (hw : Hw σ) :
    (spiCheckBusy device hw).1 = .ok 0 ↔ StaysBusy device hw :=
  pollBusy_eq_zero_iff timeout hw

/-! ## The three calls -/

variable {env : Env} {call : SpiCall} {bound : Nat} {kernel : Kernel σ}

/-- A call that has its buffers: the driver's status is returned unless it is the
success code. -/
structure Carried (device : Device σ) (env : Env) (call : SpiCall)
    (before after : Kernel σ) (status : Status) : Prop where
  transferred : ∃ request spi ret next, (request.Accepted ↔ call.NonEmpty) ∧
    spi.hw = before.spi.hw ∧ Returned device request .u8 spi ret next ∧
    after.spi.hw = next.hw ∧ (ret ≠ .noError → status = ret)
  toUser : call.CopyOutFails env → status ≠ .noError
  freed : after.freed = before.freed ++ call.allocated env

theorem ofCopy_ne_noError {status : Int} (failed : status ≠ 0) :
    Status.ofCopy status ≠ .noError := by
  simp [Status.ofCopy, failed]

/-- A copy out follows a transfer that has succeeded, and its status is returned. -/
theorem delivered (env : Env) (ret : Status) (address start size : Nat)
    (kernel : Kernel σ) :
    ∃ status next, unlessFailed env ret address start size kernel = (.ok status, next) ∧
      next.spi.hw = kernel.spi.hw ∧ next.freed = kernel.freed ∧
      (ret ≠ .noError → status = ret) ∧
      ((env.copyOut address size).status ≠ 0 → status ≠ .noError) := by
  rw [unlessFailed]
  by_cases ok : ret = .noError
  · rw [if_neg (not_not_intro ok)]
    exact ⟨_, _, rfl, rfl, rfl, fun failed => absurd ok failed, ofCopy_ne_noError⟩
  · rw [if_pos ok]
    exact ⟨ret, kernel, rfl, rfl, rfl, fun _ => rfl, fun _ => ok⟩

theorem readBuffer_carried (narrow : NarrowWords kernel.spi) (rxBuff : Nat)
    (rxBytes : BitVec 32) (enough : rxBytes.toNat < bound) {buf : Memory (BitVec 8)}
    (present : env.krxBuf = some buf) :
    ∃ status next, readBuffer device env bound buf rxBuff rxBytes kernel =
        (.ok status, next) ∧
      Carried device env (.read rxBuff rxBytes) kernel next status := by
  obtain ⟨ret, spi, transferred, returned⟩ :=
    transfer_returned device narrow (.read (some buf) rxBytes) enough
  obtain ⟨status, next, copied, hw, freed, kept, failed⟩ :=
    delivered env ret rxBuff 0 rxBytes.toNat (kernel.setSpi spi)
  have transfer : Exec.zoom Kernel.spi Kernel.setSpi
      (spiRead device bound (some buf) rxBytes) kernel = (.ok ret, kernel.setSpi spi) :=
    transferred
  refine ⟨status, next.free .rx, ?_, ⟨_, _, ret, spi, ?_, rfl, returned, hw, kept⟩,
    failed, ?_⟩
  · rw [readBuffer, Exec.bind_of_ok transfer, Exec.bind_of_ok copied]
    rfl
  · simp [Request.Accepted, SpiCall.NonEmpty]
  · simp [Kernel.free, Kernel.setSpi, freed, SpiCall.allocated, present]

theorem writeBuffer_carried (narrow : NarrowWords kernel.spi) (txBuff : Nat)
    (txBytes : BitVec 32) (enough : txBytes.toNat < bound) {buf : Memory (BitVec 8)}
    (present : env.ktxBuf = some buf) :
    ∃ status next, writeBuffer device env bound buf txBuff txBytes kernel =
        (.ok status, next) ∧
      Carried device env (.write txBuff txBytes) kernel next status := by
  obtain ⟨filled, loaded, copied, hw, data, freed⟩ : ∃ filled loaded,
      copyFromUser env buf txBuff txBytes.toNat kernel = (.ok filled, loaded) ∧
        loaded.spi.hw = kernel.spi.hw ∧ loaded.spi.data = kernel.spi.data ∧
        loaded.freed = kernel.freed :=
    ⟨_, _, rfl, rfl, rfl, rfl⟩
  have started : NarrowWords loaded.spi := by
    rw [NarrowWords, data]
    exact narrow
  obtain ⟨ret, spi, transferred, returned⟩ :=
    transfer_returned device started (.write (some filled) txBytes) enough
  have transfer : Exec.zoom Kernel.spi Kernel.setSpi
      (spiWrite device bound (some filled) txBytes) loaded = (.ok ret, loaded.setSpi spi) :=
    transferred
  refine ⟨ret, (loaded.setSpi spi).free .tx, ?_,
    ⟨_, _, ret, spi, ?_, hw, returned, rfl, fun _ => rfl⟩, nofun, ?_⟩
  · rw [writeBuffer, Exec.bind_of_ok copied, Exec.bind_of_ok transfer]
    rfl
  · simp [Request.Accepted, SpiCall.NonEmpty]
  · simp [Kernel.free, Kernel.setSpi, freed, SpiCall.allocated, present]

theorem exchangeBuffers_carried (narrow : NarrowWords kernel.spi) (txBuff : Nat)
    (txBytes : BitVec 32) (rxBuff : Nat) (rxBytes : BitVec 32)
    {krxBuf ktxBuf : Memory (BitVec 8)} (receives : env.krxBuf = some krxBuf)
    (sends : env.ktxBuf = some ktxBuf) :
    ∃ status next, exchangeBuffers device env krxBuf ktxBuf txBuff txBytes rxBuff rxBytes
        kernel = (.ok status, next) ∧
      Carried device env (.writeread txBuff txBytes rxBuff rxBytes) kernel next status := by
  obtain ⟨filled, loaded, copied, hw, data, freed⟩ :
      ∃ filled loaded, copyFromUser env ktxBuf txBuff txBytes.toNat kernel =
          (.ok filled, loaded) ∧ loaded.spi.hw = kernel.spi.hw ∧
        loaded.spi.data = kernel.spi.data ∧ loaded.freed = kernel.freed :=
    ⟨_, _, rfl, rfl, rfl, rfl⟩
  have started : NarrowWords loaded.spi := by
    rw [NarrowWords, data]
    exact narrow
  obtain ⟨ret, spi, transferred, returned⟩ :=
    transfer_returned device started
      (.writeread (some filled) txBytes (some krxBuf) rxBytes) (Nat.lt_succ_self _)
  obtain ⟨status, next, returning, hw', freed', kept, failed⟩ :=
    delivered env ret (rxBuff + txBytes.toNat) txBytes.toNat rxBytes.toNat
      (loaded.setSpi spi)
  have transfer : Exec.zoom Kernel.spi Kernel.setSpi
      (spiWriteread device (some filled) txBytes (some krxBuf) rxBytes) loaded =
        (.ok ret, loaded.setSpi spi) :=
    transferred
  have handed : returnReceived env ret txBytes rxBuff rxBytes (loaded.setSpi spi) =
      (.ok status, next) := returning
  refine ⟨status, (next.free .tx).free .rx, ?_,
    ⟨_, _, ret, spi, ?_, hw, returned, hw', kept⟩, failed, ?_⟩
  · rw [exchangeBuffers, Exec.bind_of_ok copied, Exec.bind_of_ok transfer,
      Exec.bind_of_ok handed]
    rfl
  · simp [Request.Accepted, SpiCall.NonEmpty]
  · simp [Kernel.free, Kernel.setSpi, freed, freed', SpiCall.allocated, receives, sends]

variable (device bound kernel) in
/-- A call without its buffers frees what it has and sends nothing. -/
theorem perform_of_unallocated (missing : ¬call.Allocated env) :
    ∃ next, call.perform device env bound kernel = (.ok .noMemory, next) ∧
      next.spi = kernel.spi ∧ next.freed = kernel.freed ++ call.allocated env := by
  cases call with
  | read rxBuff rxBytes =>
      have none : env.krxBuf = none := by simpa [SpiCall.Allocated] using missing
      refine ⟨kernel, ?_, rfl, by simp [SpiCall.allocated, none]⟩
      rw [SpiCall.perform, sysTrustySpiRead, none]
      rfl
  | write txBuff txBytes =>
      have none : env.ktxBuf = none := by simpa [SpiCall.Allocated] using missing
      refine ⟨kernel, ?_, rfl, by simp [SpiCall.allocated, none]⟩
      rw [SpiCall.perform, sysTrustySpiWrite, none]
      rfl
  | writeread txBuff txBytes rxBuff rxBytes =>
      rcases receives : env.krxBuf with _ | krxBuf
      · refine ⟨kernel, ?_, rfl, by simp [SpiCall.allocated, receives]⟩
        rw [SpiCall.perform, sysTrustySpiWriteread, receives]
        rfl
      · have none : env.ktxBuf = none := by simpa [SpiCall.Allocated, receives] using missing
        refine ⟨kernel.free .rx, ?_, rfl, ?_⟩
        · rw [SpiCall.perform, sysTrustySpiWriteread, receives, none]
          rfl
        · simp [Kernel.free, SpiCall.allocated, receives, none]

variable (device) in
theorem perform_of_allocated (narrow : NarrowWords kernel.spi) (enough : call.length < bound)
    (present : call.Allocated env) :
    ∃ status next, call.perform device env bound kernel = (.ok status, next) ∧
      Carried device env call kernel next status := by
  cases call with
  | read rxBuff rxBytes =>
      obtain ⟨buf, there⟩ := Option.isSome_iff_exists.mp present
      rw [SpiCall.perform, sysTrustySpiRead, there]
      exact readBuffer_carried narrow rxBuff rxBytes enough there
  | write txBuff txBytes =>
      obtain ⟨buf, there⟩ := Option.isSome_iff_exists.mp present
      rw [SpiCall.perform, sysTrustySpiWrite, there]
      exact writeBuffer_carried narrow txBuff txBytes enough there
  | writeread txBuff txBytes rxBuff rxBytes =>
      obtain ⟨krxBuf, receives⟩ := Option.isSome_iff_exists.mp present.1
      obtain ⟨ktxBuf, sends⟩ := Option.isSome_iff_exists.mp present.2
      rw [SpiCall.perform, sysTrustySpiWriteread, receives, sends]
      exact exchangeBuffers_carried narrow txBuff txBytes rxBuff rxBytes receives sends

/-! ## Failed copies -/

/-- After a failed copy in, a call that has its buffers reports the failure exactly if
the driver refuses the transfer. -/
theorem Carried.reports_iff {after : Kernel σ} {status : Status}
    (carried : Carried device env call kernel after status) :
    Reports env call kernel after status ↔
      ¬call.CopyInFails env ∨ ¬call.NonEmpty ∨ StaysBusy device kernel.spi.hw := by
  obtain ⟨request, spi, ret, next, accepts, hw, returned, hw', kept⟩ :=
    carried.transferred
  have sent := returned.sentNothing_iff
  rw [accepts, hw, ← hw', staysBusy_iff] at sent
  rw [← sent]
  constructor
  · intro reports
    by_cases fails : call.CopyInFails env
    · exact .inr (reports.fromUser fails).2
    · exact .inl fails
  · intro fine
    refine ⟨carried.toUser, fun fails => ?_, ?_⟩
    · have nothing := fine.resolve_left (not_not_intro fails)
      have refused := returned.sentNothing_iff.mp (by rwa [hw, ← hw'])
      have error := returned.error_of_refused refused
      rw [kept error]
      exact ⟨error, nothing⟩
    · intro buffer
      rw [carried.freed, List.count_append]

/-- Wherever the driver is after earlier calls, a system call reports a failed copy, and
does not begin to send after a failed copy in, exactly if there is none, a buffer is
missing, or the driver refuses the transfer. -/
theorem perform_reports_iff (hw : Hw σ) (earlier : List Call) (rounds : Nat)
    (user : Memory (BitVec 8)) (enough : call.length < bound) :
    (∃ ret next, call.perform device env bound
          (Kernel.after device rounds hw earlier user) = (.ok ret, next) ∧
        Reports env call (Kernel.after device rounds hw earlier user) next ret) ↔
      ¬call.CopyInFails env ∨ ¬call.Allocated env ∨ ¬call.NonEmpty ∨
        StaysBusy device (Kernel.after device rounds hw earlier user).spi.hw := by
  have narrow : NarrowWords (Kernel.after device rounds hw earlier user).spi :=
    run_narrow device rounds hw earlier
  by_cases present : call.Allocated env
  · obtain ⟨status, after, returned, carried⟩ :=
      perform_of_allocated device narrow enough present
    have reports := carried.reports_iff
    simp only [returned, present, not_true, false_or, ← reports, Prod.mk.injEq,
      Except.ok.injEq]
    constructor
    · rintro ⟨ret, next, ⟨rfl, rfl⟩, wanted⟩
      exact wanted
    · intro wanted
      exact ⟨status, after, ⟨rfl, rfl⟩, wanted⟩
  · obtain ⟨after, returned, spi, freed⟩ :=
      perform_of_unallocated device bound (Kernel.after device rounds hw earlier user)
        present
    refine iff_of_true ⟨_, after, returned, nofun, fun _ => ⟨nofun, [], ?_, nofun⟩, ?_⟩
      (.inr (.inl present))
    · rw [spi]
      rfl
    · intro buffer
      rw [freed, List.count_append]

/-- Two blocks, and users whose transmit buffers cannot be read. -/
def unreadableEnv : Env :=
  { generousEnv with copyIn := fun _ _ => ⟨0, -9⟩ }

/-- Three bytes that can be read from the user. -/
theorem perform_reports_three :
    ∃ ret next, (SpiCall.write 0 3).perform readyController generousEnv 4
          (Kernel.after readyController 0 ⟨(), []⟩ [.init] fun _ => 0) = (.ok ret, next) ∧
        Reports generousEnv (.write 0 3)
          (Kernel.after readyController 0 ⟨(), []⟩ [.init] fun _ => 0) next ret := by
  have enough : (SpiCall.write 0 3).length < 4 := by decide
  have readable : ¬(SpiCall.write 0 3).CopyInFails generousEnv := by
    simp [SpiCall.CopyInFails, generousEnv]
  exact (perform_reports_iff ⟨(), []⟩ [.init] 0 (fun _ => 0) enough).mpr (.inl readable)

/-- Three bytes that cannot be read from the user are written all the same, and without
error. -/
theorem unreadable_bytes_sent :
    (SpiCall.write 0 3).CopyInFails unreadableEnv ∧
      sentWords ((SpiCall.write 0 3).perform readyController unreadableEnv 4
        (Kernel.after readyController 0 ⟨(), []⟩ [.init] fun _ => 0)).2.spi.hw.log =
          [0, 0, 0] ∧
      ¬∃ ret next, (SpiCall.write 0 3).perform readyController unreadableEnv 4
            (Kernel.after readyController 0 ⟨(), []⟩ [.init] fun _ => 0) = (.ok ret, next) ∧
          Reports unreadableEnv (.write 0 3)
            (Kernel.after readyController 0 ⟨(), []⟩ [.init] fun _ => 0) next ret := by
  have fails : (SpiCall.write 0 3).CopyInFails unreadableEnv := by
    simp [SpiCall.CopyInFails, unreadableEnv]
  have success : ((SpiCall.write 0 3).perform readyController unreadableEnv 4
      (Kernel.after readyController 0 ⟨(), []⟩ [.init] fun _ => 0)).1 = .ok .noError := rfl
  refine ⟨fails, rfl, ?_⟩
  rintro ⟨ret, next, returned, reports⟩
  rw [returned] at success
  cases success
  exact (reports.fromUser fails).1 rfl

end SandPlatform.Spi
