import SandPlatform.Spi.Driver

/-!
# The word size over the life of the driver

Only `spi_init` sets the word size, so the driver never sees a word of more than
eight bits: the `u8` reader and writer are the only ones a call installs.
-/

namespace SandPlatform.Spi

open SandPlatform.Foundation
open SandPlatform.Hardware
open SandPlatform.Foundation.Exec (Preserves)

universe u

variable {σ : Type u} (device : Device σ)

/-- Words have at most eight bits. -/
def NarrowWords (spi : Driver σ) : Prop :=
  spi.data.bitsPerWord ≤ 8

theorem Driver.install_of_narrow {spi : Driver σ} (narrow : NarrowWords spi)
    (write read : Mover → Mover) :
    spi.install write read =
      { spi with data := { spi.data with
          write := some (write .u8)
          read := some (read .u8) } } := by
  have mover : moverFor spi.data.bitsPerWord = some .u8 := if_pos narrow
  rw [Driver.install, mover]

theorem narrowWords_install {spi : Driver σ} (narrow : NarrowWords spi)
    (write read : Mover → Mover) : NarrowWords (spi.install write read) := by
  rw [Driver.install_of_narrow narrow]
  exact narrow

theorem onHw_narrow {α : Type} (inner : Exec Stop (Hw σ) α) :
    Preserves NarrowWords (onHw inner) :=
  fun _ narrow => narrow

/-- A reader or writer does not change the word size. -/
theorem mover_narrow {check : Exec Stop (Hw σ) Status}
    {move : Status → Exec Stop (Driver σ) Status}
    (moveKeeps : ∀ ret, Preserves NarrowWords (move ret)) :
    Preserves NarrowWords (do
      let ret ← onHw check
      if ret ≠ .noError then pure ret else move ret) :=
  Exec.preserves_bind (onHw_narrow check) fun ret =>
    Exec.preserves_ite (Exec.preserves_pure _ ret) (moveKeeps ret)

theorem nullWriter_narrow : Preserves NarrowWords (nullWriter device) :=
  mover_narrow fun ret =>
    Exec.preserves_bind (onHw_narrow _) fun _ => Exec.preserves_pure _ ret

theorem nullReader_narrow : Preserves NarrowWords (nullReader device) :=
  mover_narrow fun ret =>
    Exec.preserves_bind (onHw_narrow _) fun _ => Exec.preserves_pure _ ret

theorem wordWriter_narrow (size : Nat) :
    Preserves NarrowWords (wordWriter device size) :=
  mover_narrow fun ret =>
    Exec.preserves_bind (Exec.preserves_gets _ _) fun _ =>
      Exec.preserves_bind (onHw_narrow _) fun _ =>
        Exec.preserves_bind (Exec.preserves_modify fun _ narrow => narrow) fun _ =>
          Exec.preserves_pure _ ret

theorem wordReader_narrow (size : Nat) :
    Preserves NarrowWords (wordReader device size) :=
  mover_narrow fun ret =>
    Exec.preserves_bind (onHw_narrow _) fun _ =>
      Exec.preserves_bind (Exec.preserves_modify fun _ narrow => narrow) fun _ =>
        Exec.preserves_pure _ ret

theorem write_narrow : Preserves NarrowWords (write device) := by
  refine Exec.preserves_bind (Exec.preserves_gets _ _) fun writer => ?_
  cases writer with
  | none => exact Exec.preserves_stop _ _
  | some mover =>
      cases mover with
      | null => exact nullWriter_narrow device
      | u8 => exact wordWriter_narrow device 1
      | u16 => exact wordWriter_narrow device 2
      | u32 => exact wordWriter_narrow device 4

theorem read_narrow : Preserves NarrowWords (read device) := by
  refine Exec.preserves_bind (Exec.preserves_gets _ _) fun reader => ?_
  cases reader with
  | none => exact Exec.preserves_stop _ _
  | some mover =>
      cases mover with
      | null => exact nullReader_narrow device
      | u8 => exact wordReader_narrow device 1
      | u16 => exact wordReader_narrow device 2
      | u32 => exact wordReader_narrow device 4

theorem exchange_narrow : Preserves NarrowWords (exchange device) :=
  Exec.preserves_bind (write_narrow device) fun rc =>
    Exec.preserves_ite (Exec.preserves_pure _ rc) (read_narrow device)

theorem transferUntil_narrow (done : SpiTranData → Bool) (bound : Nat) :
    Preserves NarrowWords (transferUntil device done bound) := by
  induction bound with
  | zero => exact Exec.preserves_stop _ _
  | succ bound ih =>
      exact Exec.preserves_bind (Exec.preserves_gets _ _) fun finished =>
        Exec.preserves_ite (Exec.preserves_pure _ _)
          (Exec.preserves_bind (exchange_narrow device) fun rc =>
            Exec.preserves_ite (Exec.preserves_pure _ rc) ih)

theorem transferCount_narrow (totalLength : Nat) :
    Preserves NarrowWords (transferCount device totalLength) := by
  induction totalLength with
  | zero => exact Exec.preserves_pure _ _
  | succ totalLength ih =>
      exact Exec.preserves_bind (exchange_narrow device) fun rc =>
        Exec.preserves_ite (Exec.preserves_pure _ rc) ih

theorem selected_narrow {transfer : Exec Stop (Driver σ) Status}
    (keeps : Preserves NarrowWords transfer) :
    Preserves NarrowWords (selected device transfer) :=
  Exec.preserves_bind (onHw_narrow _) fun _ =>
    Exec.preserves_bind keeps fun rc =>
      Exec.preserves_bind (onHw_narrow _) fun _ => Exec.preserves_pure _ rc

theorem whenIdle_narrow {begin : Driver σ → Driver σ}
    {transfer : Exec Stop (Driver σ) Status}
    (begins : ∀ spi, NarrowWords spi → NarrowWords (begin spi))
    (keeps : Preserves NarrowWords transfer) :
    Preserves NarrowWords (whenIdle device begin transfer) :=
  Exec.preserves_bind (onHw_narrow _) fun _ =>
    Exec.preserves_ite (Exec.preserves_pure _ _)
      (Exec.preserves_bind (Exec.preserves_modify begins) fun _ =>
        selected_narrow device keeps)

theorem spiRead_narrow (bound : Nat) (rxBuff : Option (Memory (BitVec 8)))
    (rxBytes : BitVec 32) :
    Preserves NarrowWords (spiRead device bound rxBuff rxBytes) := by
  cases rxBuff with
  | none => exact Exec.preserves_pure _ _
  | some rx =>
      refine Exec.preserves_ite (Exec.preserves_pure _ _)
        (whenIdle_narrow device ?_ (transferUntil_narrow device _ bound))
      intro spi narrow
      have begun : NarrowWords (spi.beginRx rx rxBytes) := narrow
      exact narrowWords_install begun _ _

theorem spiWrite_narrow (bound : Nat) (txBuff : Option (Memory (BitVec 8)))
    (txBytes : BitVec 32) :
    Preserves NarrowWords (spiWrite device bound txBuff txBytes) := by
  cases txBuff with
  | none => exact Exec.preserves_pure _ _
  | some tx =>
      refine Exec.preserves_ite (Exec.preserves_pure _ _)
        (whenIdle_narrow device ?_ (transferUntil_narrow device _ bound))
      intro spi narrow
      have begun : NarrowWords (spi.beginTx tx txBytes) := narrow
      exact narrowWords_install begun _ _

theorem spiWriteread_narrow (txBuff : Option (Memory (BitVec 8)))
    (txBytes : BitVec 32) (rxBuff : Option (Memory (BitVec 8)))
    (rxBytes : BitVec 32) :
    Preserves NarrowWords (spiWriteread device txBuff txBytes rxBuff rxBytes) := by
  cases rxBuff with
  | none => exact Exec.preserves_pure _ _
  | some rx =>
      cases txBuff with
      | none => exact Exec.preserves_pure _ _
      | some tx =>
          refine Exec.preserves_ite (Exec.preserves_pure _ _)
            (whenIdle_narrow device ?_ (transferCount_narrow device _))
          intro spi narrow
          have begun : NarrowWords ((spi.beginRx rx (txBytes + rxBytes)).beginTx tx
              (txBytes + rxBytes)) := narrow
          exact narrowWords_install begun _ _

theorem step_narrow (bound : Nat) {spi : Driver σ} (call : Call)
    (narrow : NarrowWords spi) : NarrowWords (step device bound spi call) := by
  cases call with
  | init => exact Nat.le_refl 8
  | read rxBuff rxBytes => exact spiRead_narrow device bound rxBuff rxBytes spi narrow
  | write txBuff txBytes =>
      exact spiWrite_narrow device bound txBuff txBytes spi narrow
  | writeread txBuff txBytes rxBuff rxBytes =>
      exact spiWriteread_narrow device txBuff txBytes rxBuff rxBytes spi narrow

/-- Words are narrow after every sequence of calls. -/
theorem run_narrow (bound : Nat) (hw : Hw σ) (calls : List Call) :
    NarrowWords (run (step device bound) (Driver.start hw) calls) := by
  have first : NarrowWords (Driver.start hw) := Nat.zero_le 8
  apply run_of_kept _ calls first
  intro spi call narrow
  exact step_narrow device bound call narrow

end SandPlatform.Spi
