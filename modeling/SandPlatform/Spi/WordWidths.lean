import SandPlatform.Spi.Frame

/-!
# Words of more than eight bits

`spi_read` and `spi_write` go on until a pointer meets its end, by steps of the word
size; `spi_writeread` counts words where its lengths are in bytes.  What a call
touches of its buffers therefore depends on the word size.
-/

namespace SandPlatform.Spi

open SandPlatform.Foundation
open SandPlatform.Hardware
open SandPlatform.Foundation.Exec (Yields)

universe u

variable {σ : Type u} {device : Device σ}

/-! ## What is wanted -/

/-- The offsets of a buffer that have been accessed, in this order. -/
def touchedBytes (buffer : Buffer) (touches : List Touch) : List Nat :=
  touches.flatMap fun access =>
    if access.buffer = buffer then List.range' access.start access.size else []

namespace Request

/-- The bytes to store. -/
def stored : Request → Nat
  | .read _ rxBytes => rxBytes.toNat
  | .write _ _ => 0
  | .writeread _ txBytes _ rxBytes => txBytes.toNat + rxBytes.toNat

/-- The bytes to transmit. -/
def consumed : Request → Nat
  | .read _ _ => 0
  | .write _ txBytes => txBytes.toNat
  | .writeread _ txBytes _ rxBytes => txBytes.toNat + rxBytes.toNat

end Request

/-- With no access on record. -/
def Driver.untouched (spi : Driver σ) : Driver σ :=
  { spi with touches := [] }

/-- The call returns without error, and has accessed every byte of its buffers once,
and no other. -/
def ExactBytes (device : Device σ) (request : Request) (spi : Driver σ) : Prop :=
  ∃ bound next, request.performOn device bound spi.untouched = (.ok .noError, next) ∧
    touchedBytes .rx next.touches = List.range request.stored ∧
    touchedBytes .tx next.touches = List.range request.consumed

/-- The hardware never lets the call time out. -/
def Prompt (device : Device σ) (request : Request) (spi : Driver σ) : Prop :=
  ∀ bound ret next, request.performOn device bound spi.untouched = (.ok ret, next) →
    ret ≠ .busy ∧ ret ≠ .timedOut

/-- The bytes of a word. -/
def wordSize (bitsPerWord : Nat) : Nat :=
  if bitsPerWord ≤ 8 then 1 else if bitsPerWord ≤ 16 then 2 else 4

/-- Words of the size make up the lengths of the request. -/
def Request.MadeOfWords (size : Nat) : Request → Prop
  | .read _ rxBytes => size ∣ rxBytes.toNat
  | .write _ txBytes => size ∣ txBytes.toNat
  | .writeread _ txBytes _ rxBytes => size = 1 ∧ txBytes.toNat + rxBytes.toNat < 2 ^ 32

/-! ## What is touched -/

@[simp]
theorem touchedBytes_append (buffer : Buffer) (first second : List Touch) :
    touchedBytes buffer (first ++ second) =
      touchedBytes buffer first ++ touchedBytes buffer second :=
  List.flatMap_append

@[simp]
theorem touchedBytes_self (mover : Mover) (buffer : Buffer) (position : Nat) :
    touchedBytes buffer (mover.touches buffer position) =
      List.range' position mover.size := by
  cases mover <;> simp [touchedBytes, Mover.touches, Mover.size]

@[simp]
theorem touchedBytes_other (mover : Mover) {buffer other : Buffer}
    (different : other ≠ buffer) (position : Nat) :
    touchedBytes buffer (mover.touches other position) = [] := by
  cases mover <;> simp [touchedBytes, Mover.touches, different]

theorem touchedBytes_words (writer reader : Mover) (start : Driver σ) (count : Nat) :
    touchedBytes .tx ((List.range count).flatMap (wordTouches writer reader start)) =
        List.range' start.data.tx (count * writer.size) ∧
      touchedBytes .rx ((List.range count).flatMap (wordTouches writer reader start)) =
        List.range' start.data.rx (count * reader.size) := by
  induction count with
  | zero => simp [touchedBytes]
  | succ count ih =>
      have flat : (List.range (count + 1)).flatMap (wordTouches writer reader start) =
          (List.range count).flatMap (wordTouches writer reader start) ++
            wordTouches writer reader start count := by
        simp [List.range_succ]
      rw [flat, touchedBytes_append, touchedBytes_append, ih.1, ih.2]
      simp [wordTouches, Nat.succ_mul, List.range'_append_1]

/-! ## A call -/

theorem moverFor_size {bitsPerWord : Nat} (bounded : bitsPerWord ≤ 32) :
    ∃ mover, moverFor bitsPerWord = some mover ∧ mover.size = wordSize bitsPerWord := by
  simp only [moverFor, wordSize]
  split_ifs
  · exact ⟨.u8, rfl, rfl⟩
  · exact ⟨.u16, rfl, rfl⟩
  · exact ⟨.u32, rfl, rfl⟩

@[simp]
theorem begin_touches (request : Request) (spi : Driver σ) :
    (request.begin spi).touches = spi.touches := by
  cases request <;> simp only [Request.begin, Driver.touches_install] <;> rfl

variable {request : Request} {mover : Mover} {spi : Driver σ}

/-- A side of the transfer that moves no bytes touches none. -/
theorem touched_of_begun {installed : Mover} {position length count : Nat}
    (first : installed ≠ .null → position = 0 ∧ length = request.length) :
    List.range' position (count * installed.size) = List.range (count * installed.size) := by
  by_cases null : installed = .null
  · simp [null, Mover.size]
  · rw [(first null).1, List.range_eq_range']

/-- What a call without error has touched. -/
theorem Returned.touched {next : Driver σ}
    (chosen : moverFor spi.data.bitsPerWord = some mover)
    (returned : Returned device request mover spi.untouched .noError next) :
    ∃ count, request.EndsAt mover count ∧
      touchedBytes .tx next.touches =
        List.range (count * (request.writerOf mover).size) ∧
      touchedBytes .rx next.touches =
        List.range (count * (request.readerOf mover).size) := by
  cases returned with
  | @transferred start last _ value polls _ accepted idle selected ended deselected same =>
      have begun : Begun request mover start := selected.begun_start chosen
      have fresh : start.touches = [] := by
        rw [selected.begun]
        exact begin_touches request spi.untouched
      cases ended with
      | @complete count _ accesses finished progress =>
          have touches : next.touches = (List.range count).flatMap
              (wordTouches (request.writerOf mover) (request.readerOf mover) start) := by
            rw [same, Driver.touches_setHw, progress.touches, fresh, List.nil_append]
          obtain ⟨sent, received⟩ := touchedBytes_words (request.writerOf mover)
            (request.readerOf mover) start count
          rw [touches, sent, received]
          exact ⟨count, finished, touched_of_begun begun.tx, touched_of_begun begun.rx⟩

theorem Mover.size_of_ne_null {mover : Mover} (moves : mover ≠ .null) :
    mover.size = 1 ∨ mover.size = 2 ∨ mover.size = 4 := by
  cases mover <;> simp_all [Mover.size]

/-- A sum that may have wrapped, counted in words, is the sum in bytes only for words of
one byte. -/
theorem wrapped_words {sum size : Nat} (positive : 0 < sum) (bound : sum < 2 * 4294967296)
    (sizes : size = 1 ∨ size = 2 ∨ size = 4) (total : sum % 4294967296 * size = sum) :
    size = 1 ∧ sum < 4294967296 := by
  rcases Nat.lt_or_ge sum 4294967296 with small | large
  · rw [Nat.mod_eq_of_lt small] at total
    exact ⟨Nat.eq_of_mul_eq_mul_left positive (total.trans (Nat.mul_one sum).symm), small⟩
  · obtain ⟨rest, rfl⟩ := Nat.exists_eq_add_of_le large
    have wrapped : (4294967296 + rest) % 4294967296 = rest := by omega
    rw [wrapped] at total
    rcases sizes with rfl | rfl | rfl <;> omega

theorem size_of_total {txBytes rxBytes : BitVec 32} (moves : mover ≠ .null)
    (accepted : ¬(rxBytes < 1 ∨ txBytes < 1))
    (total : (txBytes + rxBytes).toNat * mover.size = txBytes.toNat + rxBytes.toNat) :
    mover.size = 1 ∧ txBytes.toNat + rxBytes.toNat < 2 ^ 32 := by
  have one : (1 : BitVec 32).toNat = 1 := rfl
  have txBound := txBytes.isLt
  have rxBound := rxBytes.isLt
  rw [BitVec.lt_def, BitVec.lt_def, one] at accepted
  rw [BitVec.toNat_add] at total
  exact wrapped_words (by omega) (by omega) (Mover.size_of_ne_null moves) total

/-- The words of a call that has touched its bytes make up its lengths. -/
theorem madeOfWords_of_touched {count : Nat} (moves : mover ≠ .null)
    (accepted : request.Accepted) (finished : request.EndsAt mover count)
    (sent : List.range (count * (request.writerOf mover).size) =
      List.range request.consumed) : request.MadeOfWords mover.size := by
  cases request with
  | read rxBuff rxBytes => exact ⟨count, finished.symm.trans (Nat.mul_comm _ _)⟩
  | write txBuff txBytes => exact ⟨count, finished.symm.trans (Nat.mul_comm _ _)⟩
  | writeread txBuff txBytes rxBuff rxBytes =>
      have total := congrArg List.length sent
      simp only [List.length_range] at total
      rw [finished] at total
      exact size_of_total moves accepted.2 total

/-- Words that make up the lengths are all bytes there are. -/
theorem moved_of_madeOfWords {count : Nat} (made : request.MadeOfWords mover.size)
    (finished : request.EndsAt mover count) :
    count * (request.writerOf mover).size = request.consumed ∧
      count * (request.readerOf mover).size = request.stored := by
  cases request with
  | read rxBuff rxBytes => exact ⟨Nat.mul_zero count, finished⟩
  | write txBuff txBytes => exact ⟨finished, Nat.mul_zero count⟩
  | writeread txBuff txBytes rxBuff rxBytes =>
      obtain ⟨bytes, sum⟩ := made
      have words : count = (txBytes + rxBytes).toNat := finished
      rw [BitVec.toNat_add, Nat.mod_eq_of_lt sum] at words
      simp only [Request.writerOf, Request.readerOf, Request.consumed, Request.stored, bytes,
        words, Nat.mul_one, and_self]

theorem inReach_of_madeOfWords (made : request.MadeOfWords mover.size) :
    ∃ bound, request.InReach mover bound := by
  cases request with
  | read rxBuff rxBytes =>
      obtain ⟨count, total⟩ := made
      exact ⟨count + 1, count, Nat.lt_succ_self count,
        (Nat.mul_comm _ _).trans total.symm⟩
  | write txBuff txBytes =>
      obtain ⟨count, total⟩ := made
      exact ⟨count + 1, count, Nat.lt_succ_self count,
        (Nat.mul_comm _ _).trans total.symm⟩
  | writeread txBuff txBytes rxBuff rxBytes => exact ⟨0, trivial⟩

theorem madeOfWords_of_exact (chosen : moverFor spi.data.bitsPerWord = some mover)
    (accepted : request.Accepted) (exact : ExactBytes device request spi) :
    request.MadeOfWords mover.size := by
  obtain ⟨bound, next, outcome, -, sent⟩ := exact
  have started : moverFor spi.untouched.data.bitsPerWord = some mover := chosen
  have returned := returned_of_performOn started outcome
  obtain ⟨count, finished, sent', -⟩ := returned.touched chosen
  exact madeOfWords_of_touched (moverFor_ne_null chosen) accepted finished
    (sent'.symm.trans sent)

theorem exact_of_madeOfWords (chosen : moverFor spi.data.bitsPerWord = some mover)
    (accepted : request.Accepted) (prompt : Prompt device request spi)
    (made : request.MadeOfWords mover.size) : ExactBytes device request spi := by
  obtain ⟨bound, reached⟩ := inReach_of_madeOfWords made
  have started : moverFor spi.untouched.data.bitsPerWord = some mover := chosen
  obtain ⟨ret, next, outcome, returned⟩ :=
    performOn_returned device started fun _ => reached
  have status : ret = .noError := by
    obtain ⟨notBusy, notTimedOut⟩ := prompt bound ret next outcome
    simpa [accepted, notBusy, notTimedOut] using returned.status
  subst status
  obtain ⟨count, finished, sent, received⟩ := returned.touched chosen
  obtain ⟨consumed, stored⟩ := moved_of_madeOfWords made finished
  refine ⟨bound, next, outcome, ?_, ?_⟩
  · rw [received, stored]
  · rw [sent, consumed]

/-- On hardware that never times out a call touches exactly its bytes if and only if its
lengths are made of words, which for `spi_writeread` have to be bytes. -/
theorem exact_iff_madeOfWords (bounded : spi.data.bitsPerWord ≤ 32)
    (accepted : request.Accepted) (prompt : Prompt device request spi) :
    ExactBytes device request spi ↔
      request.MadeOfWords (wordSize spi.data.bitsPerWord) := by
  obtain ⟨mover, chosen, size⟩ := moverFor_size bounded
  rw [← size]
  constructor
  · exact madeOfWords_of_exact chosen accepted
  · exact exact_of_madeOfWords chosen accepted prompt

/-- A controller that is always ready does not let a call time out. -/
theorem prompt_of_responsive (responsive : Responsive device)
    (bounded : spi.data.bitsPerWord ≤ 32) (request : Request) :
    Prompt device request spi := by
  obtain ⟨mover, chosen, -⟩ := moverFor_size bounded
  have started : moverFor spi.untouched.data.bitsPerWord = some mover := chosen
  intro bound ret next outcome
  exact (returned_of_performOn started outcome).prompt responsive

/-- The driver with words of sixteen bits. -/
def wideDriver : Driver Unit :=
  { Driver.start ⟨(), []⟩ with data := { spiDrvData with bitsPerWord := 16 } }

theorem exact_iff_madeOfWords_four :
    ExactBytes readyController (.read (some fun _ => 0) 4) wideDriver ↔
      Request.MadeOfWords 2 (.read (some fun _ => 0) 4) := by
  have accepted : (Request.read (some fun _ => 0) 4).Accepted := ⟨rfl, by decide⟩
  have bounded : wideDriver.data.bitsPerWord ≤ 32 := by decide
  have prompt : Prompt readyController (.read (some fun _ => 0) 4) wideDriver :=
    prompt_of_responsive readyController_responsive bounded _
  exact exact_iff_madeOfWords bounded accepted prompt

/-- The loop of `spi_read` steps over the end of three bytes. -/
theorem three_bytes_inexact :
    Prompt readyController (.read (some fun _ => 0) 3) wideDriver ∧
      ¬ExactBytes readyController (.read (some fun _ => 0) 3) wideDriver := by
  have chosen : moverFor wideDriver.data.bitsPerWord = some .u16 := rfl
  have accepted : (Request.read (some fun _ => 0) 3).Accepted := ⟨rfl, by decide⟩
  refine ⟨prompt_of_responsive readyController_responsive (by decide) _, fun exact => ?_⟩
  have even : 2 ∣ 3 := madeOfWords_of_exact chosen accepted exact
  exact absurd even (by decide)

end SandPlatform.Spi
