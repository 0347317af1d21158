import SandPlatform.Foundation.Word
import SandPlatform.Hardware.Device

/-!
# The SPI controller

Register accesses, the three polls of the status register and the chip select.
Every poll gives up after `TIMEOUT` reads, so none of them needs a bound of its
own.
-/

namespace SandPlatform.Spi

open SandPlatform.Foundation
open SandPlatform.Hardware

universe u

/-- Error codes.  A failed user copy keeps the code the copy returned. -/
inductive Status
  | noError
  | invalidArgs
  | busy
  | timedOut
  | noMemory
  | fault (code : Int)
  deriving DecidableEq

/-! ## Registers -/

namespace Reg

/-- `SPI_CR0`, the first control register. -/
def cr0 : Nat := 0x00

/-- `SPI_CR1`, the second control register. -/
def cr1 : Nat := 0x04

/-- Status register. -/
def sr : Nat := 0x08

/-- Data register. -/
def dr : Nat := 0x10

/-- `SPI_CLK`, the clock register. -/
def clk : Nat := 0x200

/-- `SPI_RESET`, the reset register. -/
def reset : Nat := 0x204

/-- Chip select. -/
def cc : Nat := 0x224

end Reg

/-- `SPI_SR_TNF`: the transmit FIFO is not full. -/
def srTnf : BitVec 32 := 1 <<< 2

/-- `SPI_SR_RNE`: the receive FIFO is not empty. -/
def srRne : BitVec 32 := 1 <<< 3

/-- `SPI_SR_BSY`: the bus is busy. -/
def srBsy : BitVec 32 := 1 <<< 4

/-- `SPI_CS_CONTROL_SW_MODE`: the software drives the chip select. -/
def csControlSwMode : BitVec 32 := 1 <<< 0

/-- `SPI_CS_CONTROL_CS_HIGH`, the level of the chip select; low selects the slave. -/
def csControlCsHigh : BitVec 32 := 1 <<< 1

/-- `SPI_CR0_SSE`, which enables the port. -/
def cr0Sse : BitVec 32 := 1 <<< 7

/-- `SPI_CR0_EDSS`, for words of more than 16 bits. -/
def cr0Edss : BitVec 32 := 1 <<< 20

/-- `TIMEOUT`, the polls of a wait. -/
def timeout : Nat := 400000

variable {σ : Type u} (device : Device σ)

/-- `lpss_spi_read`. -/
def lpssSpiRead (reg : Nat) : Exec Stop (Hw σ) (BitVec 32) :=
  readReg device .spi .word reg

/-- `lpss_spi_write`. -/
def lpssSpiWrite (reg : Nat) (value : BitVec 32) : Exec Stop (Hw σ) Unit :=
  writeReg device .spi .word reg value

/-! ## Polls -/

/-- Read the status register until the flag is set, at most so many times. -/
def pollFifo (flag : BitVec 32) : Nat → Exec Stop (Hw σ) Status
  | 0 => pure .timedOut
  | timeout + 1 => do
      let status ← lpssSpiRead device Reg.sr
      if status &&& flag ≠ 0 then
        pure .noError
      else
        pollFifo flag timeout

/-- `check_tx_fifo`: until there is room for a word to be sent. -/
def checkTxFifo : Exec Stop (Hw σ) Status :=
  pollFifo device srTnf timeout

/-- `check_rx_fifo`: until a word has arrived. -/
def checkRxFifo : Exec Stop (Hw σ) Status :=
  pollFifo device srRne timeout

/-- Read the status register until the bus is idle, at most so many times.  The
result is zero exactly when the reads are used up. -/
def pollBusy : Nat → Exec Stop (Hw σ) Nat
  | 0 => pure 0
  | timeout + 1 => do
      let status ← lpssSpiRead device Reg.sr
      if status &&& srBsy ≠ 0 then
        pollBusy timeout
      else
        pure (timeout + 1)

/-- `spi_check_busy`. -/
def spiCheckBusy : Exec Stop (Hw σ) Nat :=
  pollBusy device timeout

/-- The status register always reports room for a word, a word to read and an
idle bus. -/
structure Responsive : Prop where
  room : ∀ state, (device.read .spi .word Reg.sr state).1 &&& srTnf ≠ 0
  data : ∀ state, (device.read .spi .word Reg.sr state).1 &&& srRne ≠ 0
  idle : ∀ state, (device.read .spi .word Reg.sr state).1 &&& srBsy = 0

/-- A poll returns, and on a flag that is always set it returns without error. -/
theorem pollFifo_returns (flag : BitVec 32) (timeout : Nat) (hw : Hw σ) :
    ∃ ret next, pollFifo device flag timeout hw = (.ok ret, next) ∧
      ((∀ state, (device.read .spi .word Reg.sr state).1 &&& flag ≠ 0) →
        0 < timeout → ret = .noError) := by
  induction timeout generalizing hw with
  | zero => exact ⟨_, hw, rfl, fun _ positive => absurd positive (Nat.lt_irrefl 0)⟩
  | succ timeout ih =>
      let answer := device.read .spi .word Reg.sr hw.device
      have read : lpssSpiRead device Reg.sr hw = (.ok answer.1,
          ⟨answer.2, .read .spi .word Reg.sr answer.1 :: hw.log⟩) := rfl
      rw [pollFifo, Exec.bind_of_ok read]
      by_cases ready : answer.1 &&& flag ≠ 0
      · rw [if_pos ready]
        exact ⟨_, _, rfl, fun _ _ => rfl⟩
      · rw [if_neg ready]
        rcases ih ⟨answer.2, .read .spi .word Reg.sr answer.1 :: hw.log⟩ with
          ⟨ret, next, returned, _⟩
        exact ⟨ret, next, returned, fun always _ => absurd (always hw.device) ready⟩

theorem checkTxFifo_returns (hw : Hw σ) :
    ∃ ret next, checkTxFifo device hw = (.ok ret, next) ∧
      (Responsive device → ret = .noError) := by
  obtain ⟨ret, next, returned, ready⟩ := pollFifo_returns device srTnf timeout hw
  exact ⟨ret, next, returned, fun responsive => ready responsive.room (by decide)⟩

theorem checkRxFifo_returns (hw : Hw σ) :
    ∃ ret next, checkRxFifo device hw = (.ok ret, next) ∧
      (Responsive device → ret = .noError) := by
  obtain ⟨ret, next, returned, ready⟩ := pollFifo_returns device srRne timeout hw
  exact ⟨ret, next, returned, fun responsive => ready responsive.data (by decide)⟩

theorem pollBusy_returns (timeout : Nat) (hw : Hw σ) :
    ∃ left next, pollBusy device timeout hw = (.ok left, next) ∧
      (Responsive device → left = timeout) := by
  induction timeout generalizing hw with
  | zero => exact ⟨0, hw, rfl, fun _ => rfl⟩
  | succ timeout ih =>
      let answer := device.read .spi .word Reg.sr hw.device
      have read : lpssSpiRead device Reg.sr hw = (.ok answer.1,
          ⟨answer.2, .read .spi .word Reg.sr answer.1 :: hw.log⟩) := rfl
      rw [pollBusy, Exec.bind_of_ok read]
      by_cases busy : answer.1 &&& srBsy ≠ 0
      · rw [if_pos busy]
        rcases ih ⟨answer.2, .read .spi .word Reg.sr answer.1 :: hw.log⟩ with
          ⟨left, next, returned, _⟩
        exact ⟨left, next, returned,
          fun responsive => absurd (responsive.idle hw.device) busy⟩
      · rw [if_neg busy]
        exact ⟨_, _, rfl, fun _ => rfl⟩

theorem spiCheckBusy_returns (hw : Hw σ) :
    ∃ left next, spiCheckBusy device hw = (.ok left, next) ∧
      (Responsive device → left ≠ 0) := by
  obtain ⟨left, next, returned, idle⟩ := pollBusy_returns device timeout hw
  refine ⟨left, next, returned, fun responsive => ?_⟩
  rw [idle responsive]
  decide

/-! ## Chip select -/

/-- Assert the chip select, or deassert it. -/
def spiSetCs (flag : Bool) : Exec Stop (Hw σ) Unit := do
  let value ← lpssSpiRead device Reg.cc
  lpssSpiWrite device Reg.cc
    (if flag then value &&& ~~~csControlCsHigh else value ||| csControlCsHigh)

theorem spiSetCs_returns (flag : Bool) (hw : Hw σ) :
    ∃ next, spiSetCs device flag hw = (.ok (), next) :=
  ⟨_, rfl⟩

end SandPlatform.Spi
