import SandPlatform.Spi.Syscall
import SandPlatform.Spi.WordSize

/-!
# Accesses to the buffers of a transfer

Both buffers are allocated with the 32-bit sum of the two lengths.  The transfer
itself stays inside whatever that sum is; the two user copies use the lengths
and not the sum.
-/

namespace SandPlatform.Spi

open SandPlatform.Foundation
open SandPlatform.Hardware
open SandPlatform.Kernel

universe u

/-- No byte at `total` or behind it is accessed. -/
def Touch.Within (total : Nat) (access : Touch) : Prop :=
  access.size = 0 ∨ access.start + access.size ≤ total

/-- Every access is inside its buffer. -/
def Contained (total : Nat) (touches : List Touch) : Prop :=
  ∀ access, access ∈ touches → access.Within total

theorem contained_snoc_iff (total : Nat) (touches : List Touch) (access : Touch) :
    Contained total (touches ++ [access]) ↔
      Contained total touches ∧ access.Within total :=
  forall_mem_snoc

theorem contained_nil (total : Nat) : Contained total [] := by
  intro access member
  cases member

variable {σ : Type u} (device : Device σ)

/-! ## One word -/

@[simp]
theorem Driver.data_setHw (hw : Hw σ) (spi : Driver σ) :
    (spi.setHw hw).data = spi.data :=
  rfl

@[simp]
theorem Driver.touches_setHw (hw : Hw σ) (spi : Driver σ) :
    (spi.setHw hw).touches = spi.touches :=
  rfl

@[simp]
theorem Driver.touches_install (write read : Mover → Mover) (spi : Driver σ) :
    (spi.install write read).touches = spi.touches := by
  rw [Driver.install]
  cases moverFor spi.data.bitsPerWord with
  | none => rfl
  | some mover => rfl

@[simp]
theorem Driver.txBlock_install (write read : Mover → Mover) (spi : Driver σ) :
    (spi.install write read).txBlock = spi.txBlock := by
  rw [Driver.install]
  cases moverFor spi.data.bitsPerWord with
  | none => rfl
  | some mover => rfl

theorem contained_advanceTx_iff (total size : Nat) (spi : Driver σ) :
    Contained total (spi.advanceTx size).touches ↔
      Contained total spi.touches ∧
        (Touch.mk .tx spi.data.tx size).Within total :=
  contained_snoc_iff _ _ _

theorem contained_advanceRx_iff (total size : Nat) (value : BitVec 32)
    (spi : Driver σ) :
    Contained total (spi.advanceRx size value).touches ↔
      Contained total spi.touches ∧
        (Touch.mk .rx spi.data.rx size).Within total :=
  contained_snoc_iff _ _ _

/-- A writer advances by its word, or gives up and changes the hardware only. -/
theorem wordWriter_returns (size : Nat) (spi : Driver σ) :
    ∃ rc hw, wordWriter device size spi =
        (.ok rc, if rc = .noError then (spi.setHw hw).advanceTx size
          else spi.setHw hw) ∧
      (Responsive device → rc = .noError) := by
  obtain ⟨ret, next, returned, ready⟩ := checkTxFifo_returns device spi.hw
  rw [wordWriter, Exec.bind_of_ok (onHw_of_eq returned)]
  by_cases ok : ret = .noError
  · cases ok
    exact ⟨.noError, _, rfl, fun _ => rfl⟩
  · rw [if_pos ok]
    refine ⟨ret, next, ?_, ready⟩
    rw [if_neg ok]
    rfl

theorem wordReader_returns (size : Nat) (spi : Driver σ) :
    ∃ rc hw word, wordReader device size spi =
        (.ok rc, if rc = .noError then (spi.setHw hw).advanceRx size word
          else spi.setHw hw) ∧
      (Responsive device → rc = .noError) := by
  obtain ⟨ret, next, returned, ready⟩ := checkRxFifo_returns device spi.hw
  rw [wordReader, Exec.bind_of_ok (onHw_of_eq returned)]
  by_cases ok : ret = .noError
  · cases ok
    exact ⟨.noError, _, _, rfl, fun _ => rfl⟩
  · rw [if_pos ok]
    refine ⟨ret, next, 0, ?_, ready⟩
    rw [if_neg ok]
    rfl

/-- Both sides move bytes and stand at the same position. -/
structure Aligned (position : Nat) (spi : Driver σ) : Prop where
  writer : spi.data.write = some .u8
  reader : spi.data.read = some .u8
  tx : spi.data.tx = position
  rx : spi.data.rx = position

/-- One exchange inside the buffers stays inside them, and leaves both sides one
position further unless it fails. -/
theorem exchange_returns {position total : Nat} {spi : Driver σ}
    (aligned : Aligned position spi) (room : position < total) :
    ∃ rc next, exchange device spi = (.ok rc, next) ∧
      (Contained total next.touches ↔ Contained total spi.touches) ∧
      (rc = .noError → Aligned (position + 1) next) ∧
      (Responsive device → rc = .noError) := by
  have within (buffer : Buffer) : (Touch.mk buffer position 1).Within total :=
    Or.inr room
  obtain ⟨rc, hw, wrote, writes⟩ := wordWriter_returns device 1 spi
  rw [exchange]
  by_cases ok : rc = .noError
  · rw [if_pos ok, ← write_of_u8 device aligned.writer] at wrote
    have reader : ((spi.setHw hw).advanceTx 1).data.read = some .u8 := aligned.reader
    rcases wordReader_returns device 1 ((spi.setHw hw).advanceTx 1) with
      ⟨rc', hw', word, took, reads⟩
    rw [← read_of_u8 device reader] at took
    rw [Exec.bind_of_ok wrote, if_neg (not_not_intro ok), took]
    have sent : Contained total ((spi.setHw hw).advanceTx 1).touches ↔
        Contained total spi.touches := by
      rw [contained_advanceTx_iff, Driver.data_setHw, Driver.touches_setHw,
        aligned.tx]
      exact and_iff_left (within .tx)
    have receiver : ((spi.setHw hw).advanceTx 1).data.rx = position := aligned.rx
    refine ⟨rc', _, rfl, ?_, ?_, reads⟩
    · by_cases ok' : rc' = .noError
      · rw [if_pos ok', contained_advanceRx_iff, Driver.data_setHw,
          Driver.touches_setHw, receiver, sent]
        exact and_iff_left (within .rx)
      · rw [if_neg ok', Driver.touches_setHw, sent]
    · intro ok'
      rw [if_pos ok']
      constructor
      · exact aligned.writer
      · exact aligned.reader
      · exact congrArg (fun offset => offset + 1) aligned.tx
      · exact congrArg (fun offset => offset + 1) aligned.rx
  · rw [if_neg ok, ← write_of_u8 device aligned.writer] at wrote
    rw [Exec.bind_of_ok wrote, if_pos ok]
    exact ⟨rc, _, rfl, Iff.rfl, fun same => absurd same ok, writes⟩

/-! ## The transfer -/

/-- As many exchanges as there are bytes left stay inside the buffers. -/
theorem transferCount_returns {position total left : Nat} {spi : Driver σ}
    (aligned : Aligned position spi) (fits : position + left = total) :
    ∃ rc next, transferCount device left spi = (.ok rc, next) ∧
      (Contained total next.touches ↔ Contained total spi.touches) ∧
      (Responsive device → rc = .noError) := by
  induction left generalizing position spi with
  | zero => exact ⟨.noError, spi, rfl, Iff.rfl, fun _ => rfl⟩
  | succ left ih =>
      have room : position < total := by omega
      rcases exchange_returns device aligned room with
        ⟨rc, next, exchanged, contained, advanced, succeeds⟩
      rw [transferCount, Exec.bind_of_ok exchanged]
      by_cases ok : rc = .noError
      · rw [if_neg (not_not_intro ok)]
        obtain ⟨rc', final, rest, contained', succeeds'⟩ := ih (advanced ok) (by omega)
        exact ⟨rc', final, rest, contained'.trans contained, succeeds'⟩
      · rw [if_pos ok]
        exact ⟨rc, next, rfl, contained, succeeds⟩

theorem selected_returns {total : Nat} {transfer : Exec Stop (Driver σ) Status}
    (returns : ∀ spi : Driver σ, Aligned 0 spi →
      ∃ rc next, transfer spi = (.ok rc, next) ∧
        (Contained total next.touches ↔ Contained total spi.touches) ∧
        (Responsive device → rc = .noError)) {spi : Driver σ}
    (aligned : Aligned 0 spi) :
    ∃ rc next, selected device transfer spi = (.ok rc, next) ∧
      (Contained total next.touches ↔ Contained total spi.touches) ∧
      (Responsive device → rc = .noError) := by
  obtain ⟨hw, asserted⟩ := spiSetCs_returns device true spi.hw
  have start : Aligned 0 (spi.setHw hw) :=
    ⟨aligned.writer, aligned.reader, aligned.tx, aligned.rx⟩
  obtain ⟨rc, next, returned, contained, succeeds⟩ := returns _ start
  obtain ⟨hw', deasserted⟩ := spiSetCs_returns device false next.hw
  rw [selected, Exec.bind_of_ok (onHw_of_eq asserted), Exec.bind_of_ok returned,
    Exec.bind_of_ok (onHw_of_eq deasserted)]
  exact ⟨rc, _, rfl, contained, succeeds⟩

/-- `spi_writeread` stays inside buffers of the 32-bit sum of the lengths,
whatever the hardware does. -/
theorem spiWriteread_returns {spi : Driver σ} (narrow : NarrowWords spi)
    (tx rx : Memory (BitVec 8)) (txBytes rxBytes : BitVec 32) :
    ∃ rc next, spiWriteread device (some tx) txBytes (some rx) rxBytes spi =
        (.ok rc, next) ∧
      (Contained (txBytes + rxBytes).toNat next.touches ↔
        Contained (txBytes + rxBytes).toNat spi.touches) ∧
      (Responsive device → ¬ (rxBytes < 1 ∨ txBytes < 1) → rc = .noError) := by
  by_cases refused : rxBytes < 1 ∨ txBytes < 1
  · have outcome : spiWriteread device (some tx) txBytes (some rx) rxBytes spi =
        (.ok .invalidArgs, spi) := congrFun (congrArg Exec.run (if_pos refused)) spi
    exact ⟨_, spi, outcome, Iff.rfl, fun _ accepted => absurd refused accepted⟩
  · have outcome : spiWriteread device (some tx) txBytes (some rx) rxBytes spi =
        whenIdle device
          (fun spi => ((spi.beginRx rx (txBytes + rxBytes)).beginTx tx
            (txBytes + rxBytes)).install id id)
          (transferCount device (txBytes + rxBytes).toNat) spi :=
      congrFun (congrArg Exec.run (if_neg refused)) spi
    obtain ⟨left, hw, checked, idle⟩ := spiCheckBusy_returns device spi.hw
    rw [outcome, whenIdle, Exec.bind_of_ok (onHw_of_eq checked)]
    by_cases busy : left = 0
    · rw [if_pos busy]
      exact ⟨.busy, _, rfl, Iff.rfl,
        fun responsive _ => absurd busy (idle responsive)⟩
    · rw [if_neg busy, Exec.modify_bind_apply]
      have aligned : Aligned 0 ((((spi.setHw hw).beginRx rx
          (txBytes + rxBytes)).beginTx tx (txBytes + rxBytes)).install id id) := by
        rw [Driver.install_of_narrow (by exact narrow)]
        exact ⟨rfl, rfl, rfl, rfl⟩
      rcases selected_returns device
          (fun _ aligned => transferCount_returns device aligned (Nat.zero_add _))
          aligned with
        ⟨rc, next, returned, contained, succeeds⟩
      rw [Driver.touches_install] at contained
      exact ⟨rc, next, returned, contained, fun responsive _ => succeeds responsive⟩

/-! ## The system call -/

variable (env : Env)

/-- The bytes `copy_from_user` really writes. -/
def copiedIn (txBuff : Nat) (txBytes : BitVec 32) : Nat :=
  min (env.copyIn txBuff txBytes.toNat).copied txBytes.toNat

/-- The bytes `copy_to_user` really reads. -/
def copiedOut (txBytes : BitVec 32) (rxBuff : Nat) (rxBytes : BitVec 32) : Nat :=
  min (env.copyOut (rxBuff + txBytes.toNat) rxBytes.toNat).copied rxBytes.toNat

/-- The accesses of the call are those of the two user copies, as far as
containment goes; the second one needs a transfer without error. -/
theorem exchangeBuffers_contained {kernel : Kernel σ}
    (narrow : NarrowWords kernel.spi) (krxBuf ktxBuf : Memory (BitVec 8))
    (txBuff : Nat) (txBytes : BitVec 32) (rxBuff : Nat) (rxBytes : BitVec 32) :
    ∃ rc : Status,
      (Contained (txBytes + rxBytes).toNat
          (exchangeBuffers device env krxBuf ktxBuf txBuff txBytes rxBuff rxBytes
            kernel).2.spi.touches ↔
        (Contained (txBytes + rxBytes).toNat kernel.spi.touches ∧
          (Touch.mk .tx 0 (copiedIn env txBuff txBytes)).Within
            (txBytes + rxBytes).toNat) ∧
        (rc = .noError →
          (Touch.mk .rx txBytes.toNat (copiedOut env txBytes rxBuff rxBytes)).Within
            (txBytes + rxBytes).toNat)) ∧
      (Responsive device → ¬ (rxBytes < 1 ∨ txBytes < 1) → rc = .noError) := by
  let filled := ktxBuf.copy 0 kernel.user txBuff (copiedIn env txBuff txBytes)
  let loaded := kernel.touch ⟨.tx, 0, copiedIn env txBuff txBytes⟩
  have copied : copyFromUser env ktxBuf txBuff txBytes.toNat kernel =
      (.ok filled, loaded) := rfl
  have started : NarrowWords loaded.spi := narrow
  rcases spiWriteread_returns device started filled krxBuf txBytes rxBytes with
    ⟨rc, next, transferred, contained, succeeds⟩
  have transfer : Exec.zoom Kernel.spi Kernel.setSpi
      (spiWriteread device (some filled) txBytes (some krxBuf) rxBytes) loaded =
        (.ok rc, loaded.setSpi next) := by
    rw [Exec.zoom_apply, transferred]
  have before := contained.trans (contained_snoc_iff _ _ _)
  refine ⟨rc, ?_, succeeds⟩
  rw [exchangeBuffers, Exec.bind_of_ok copied, Exec.bind_of_ok transfer, ← before]
  by_cases ok : rc = .noError
  · have returned : returnReceived env rc txBytes rxBuff rxBytes
        (loaded.setSpi next) =
          copyToUser env (rxBuff + txBytes.toNat) txBytes.toNat rxBytes.toNat
            (loaded.setSpi next) :=
      congrFun (congrArg Exec.run (if_neg (not_not_intro ok))) _
    have delivered : copyToUser env (rxBuff + txBytes.toNat) txBytes.toNat
        rxBytes.toNat (loaded.setSpi next) = (.ok _, _) := rfl
    rw [Exec.bind_of_ok (returned.trans delivered), forall_prop_of_true ok]
    exact contained_snoc_iff _ _ _
  · have returned : returnReceived env rc txBytes rxBuff rxBytes
        (loaded.setSpi next) = (.ok rc, loaded.setSpi next) :=
      congrFun (congrArg Exec.run (if_pos ok)) _
    rw [Exec.bind_of_ok returned]
    exact (and_iff_left fun same => absurd same ok).symm

/-- A buffer of the wrapped sum is too small for either user copy. -/
theorem wrapped_sum {txBytes rxBytes : BitVec 32}
    (wraps : ¬ txBytes.toNat + rxBytes.toNat < 2 ^ 32) :
    (txBytes + rxBytes).toNat < txBytes.toNat ∧ ¬ (rxBytes < 1 ∨ txBytes < 1) := by
  have txBound := txBytes.isLt
  have rxBound := rxBytes.isLt
  rw [BitVec.toNat_add]
  constructor
  · omega
  · rw [BitVec.lt_def, BitVec.lt_def]
    have one : (1 : BitVec 32).toNat = 1 := rfl
    omega

/-- A controller that is never busy and never keeps the driver waiting. -/
def readyController : Device Unit where
  read _ _ _ _ := (srTnf ||| srRne, ())
  write _ _ _ _ _ := ()
  mapPhysical _ _ := (none, ())

theorem readyController_responsive : Responsive readyController := by
  constructor <;> (intro state; cases state; decide)

/-- A system call on the driver as earlier calls have left it. -/
def Kernel.after (bound : Nat) (hw : Hw σ) (earlier : List Call)
    (user : Memory (BitVec 8)) : Kernel σ :=
  Kernel.start (run (step device bound) (Driver.start hw) earlier) user

/-- Without a wrap both user copies are inside the buffers. -/
theorem copies_within {txBytes rxBytes : BitVec 32}
    (sum : txBytes.toNat + rxBytes.toNat < 2 ^ 32) (txBuff rxBuff : Nat) :
    (Touch.mk .tx 0 (copiedIn env txBuff txBytes)).Within
        (txBytes + rxBytes).toNat ∧
      (Touch.mk .rx txBytes.toNat (copiedOut env txBytes rxBuff rxBytes)).Within
        (txBytes + rxBytes).toNat := by
  have total : (txBytes + rxBytes).toNat = txBytes.toNat + rxBytes.toNat := by
    rw [BitVec.toNat_add, Nat.mod_eq_of_lt sum]
  rw [total]
  constructor
  · rw [Touch.Within, Nat.zero_add]
    exact Or.inr (Nat.le_trans (Nat.min_le_right _ _) (Nat.le_add_right _ _))
  · exact Or.inr (Nat.add_le_add_left (Nat.min_le_right _ _) _)

/-- Every access of `sys_trusty_spi_writeread` to its two buffers is inside the
bytes allocated for them, whatever the hardware does and whatever calls came
before, exactly when a buffer is missing, the sum of the lengths does not wrap,
or the user copies happen to move few enough bytes. -/
theorem sysTrustySpiWriteread_contained_iff (txBuff : Nat) (txBytes : BitVec 32)
    (rxBuff : Nat) (rxBytes : BitVec 32) :
    (∀ (τ : Type) (device : Device τ) (bound : Nat) (hw : Hw τ)
        (earlier : List Call) (user : Memory (BitVec 8)),
      Contained (txBytes + rxBytes).toNat
        (sysTrustySpiWriteread device env txBuff txBytes rxBuff rxBytes
          (Kernel.after device bound hw earlier user)).2.spi.touches) ↔
      env.krxBuf = none ∨ env.ktxBuf = none ∨
        txBytes.toNat + rxBytes.toNat < 2 ^ 32 ∨
        copiedIn env txBuff txBytes ≤ (txBytes + rxBytes).toNat ∧
          copiedOut env txBytes rxBuff rxBytes = 0 := by
  have blank (τ : Type) (device : Device τ) (bound : Nat) (hw : Hw τ)
      (earlier : List Call) (user : Memory (BitVec 8)) :
      Contained (txBytes + rxBytes).toNat
        (Kernel.after device bound hw earlier user).spi.touches :=
    contained_nil _
  have narrow (τ : Type) (device : Device τ) (bound : Nat) (hw : Hw τ)
      (earlier : List Call) (user : Memory (BitVec 8)) :
      NarrowWords (Kernel.after device bound hw earlier user).spi :=
    run_narrow device bound hw earlier
  rcases krx : env.krxBuf with _ | krxBuf
  · refine iff_of_true ?_ (Or.inl rfl)
    intro τ device bound hw earlier user
    rw [sysTrustySpiWriteread, krx]
    exact blank τ device bound hw earlier user
  · rcases ktx : env.ktxBuf with _ | ktxBuf
    · refine iff_of_true ?_ (Or.inr (Or.inl rfl))
      intro τ device bound hw earlier user
      rw [sysTrustySpiWriteread, krx, ktx]
      exact blank τ device bound hw earlier user
    · simp only [sysTrustySpiWriteread, krx, ktx, reduceCtorEq, false_or]
      constructor
      · intro contained
        by_cases wraps : txBytes.toNat + rxBytes.toNat < 2 ^ 32
        · exact Or.inl wraps
        · obtain ⟨short, accepted⟩ := wrapped_sum wraps
          have run := contained Unit readyController 0 ⟨(), []⟩ [] fun _ => 0
          rcases exchangeBuffers_contained readyController env
              (narrow Unit readyController 0 ⟨(), []⟩ [] fun _ => 0) krxBuf ktxBuf
              txBuff txBytes rxBuff rxBytes with ⟨rc, touches, succeeds⟩
          obtain ⟨⟨_, written⟩, taken⟩ := touches.mp run
          have taken := taken (succeeds readyController_responsive accepted)
          simp only [Touch.Within, Nat.zero_add] at written taken
          omega
      · intro fine τ device bound hw earlier user
        rcases exchangeBuffers_contained device env
            (narrow τ device bound hw earlier user) krxBuf ktxBuf txBuff txBytes
            rxBuff rxBytes with ⟨rc, touches, _⟩
        rcases fine with sum | ⟨written, nothing⟩
        · have within := copies_within env sum txBuff rxBuff
          exact touches.mpr ⟨⟨blank τ device bound hw earlier user, within.1⟩,
            fun _ => within.2⟩
        · refine touches.mpr ⟨⟨blank τ device bound hw earlier user, ?_⟩, ?_⟩
          · rw [Touch.Within, Nat.zero_add]
            exact Or.inr written
          · intro _
            exact Or.inl nothing

/-- Two blocks, and user copies that move all they are asked to. -/
def generousEnv : Env where
  krxBuf := some fun _ => 0
  ktxBuf := some fun _ => 0
  copyIn _ size := ⟨size, 0⟩
  copyOut _ size := ⟨size, 0⟩

/-- Sixteen bytes are written to a transmit buffer of eight. -/
theorem sysTrustySpiWriteread_overruns :
    ¬ Contained ((16 : BitVec 32) + 0xFFFFFFF8).toNat
      (sysTrustySpiWriteread readyController generousEnv 0 16 0 0xFFFFFFF8
        (Kernel.after readyController 0 ⟨(), []⟩ [.init] fun _ => 0)).2.spi.touches := by
  intro contained
  have narrow : NarrowWords (Kernel.after readyController 0 ⟨(), []⟩ [.init]
      fun _ => 0).spi := run_narrow readyController 0 ⟨(), []⟩ [.init]
  rcases exchangeBuffers_contained readyController generousEnv narrow (fun _ => 0)
      (fun _ => 0) 0 16 0 0xFFFFFFF8 with ⟨rc, touches, _⟩
  have written := (touches.mp contained).1.2
  rcases written with empty | short
  · exact absurd empty (by decide)
  · exact absurd short (by decide)

end SandPlatform.Spi
