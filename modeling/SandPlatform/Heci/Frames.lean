import Mathlib.Algebra.GroupWithZero.Nat
import SandPlatform.Foundation.Framing
import SandPlatform.Heci.Transport

/-!
# Fragments on the bus

What matters of the accesses of a transfer: the words that went through the read
and the write window, and the words that were stored in the message buffer.  The
words of either window are cut into fragments by their headers; polling and the
control registers do not count.
-/

namespace SandPlatform.Heci

open SandPlatform.Foundation
open SandPlatform.Hardware

universe u

/-! ## Fragments -/

/-- A header and its data words. -/
abbrev Fragment : Type :=
  Frame (BitVec 32)

namespace Fragment

/-- The number of payload bytes. -/
def length (fragment : Fragment) : Nat :=
  HeciMsgHdr.length fragment.head

/-- The fragment says that it is the last one of its message. -/
def Last (fragment : Fragment) : Prop :=
  HeciMsgHdr.messageComplete fragment.head = 1

/-- The bytes in front of the padding of the last data word. -/
def payload (fragment : Fragment) : List (BitVec 8) :=
  (List.range fragment.length).map fun offset =>
    Word.byte (fragment.body.getD (offset / 4) 0) (offset % 4)

@[simp]
theorem length_payload (fragment : Fragment) : fragment.payload.length = fragment.length := by
  simp [payload]

/-- The data words cover the payload. -/
theorem length_le_dataWords (fragment : Fragment) :
    fragment.length ≤ 4 * HeciMsgHdr.dataWords fragment.head := by
  rw [length, HeciMsgHdr.dataWords]
  omega

end Fragment

/-- The payload bytes of a message in fragments. -/
def totalLength (fragments : List Fragment) : Nat :=
  (fragments.map Fragment.length).sum

theorem length_flatMap_payload (fragments : List Fragment) :
    (fragments.flatMap Fragment.payload).length = totalLength fragments := by
  induction fragments with
  | nil => rfl
  | cons fragment rest ih => simp [totalLength, ih]

theorem totalLength_append (first second : List Fragment) :
    totalLength (first ++ second) = totalLength first + totalLength second := by
  simp [totalLength]

/-- Fragments without payload. -/
theorem totalLength_eq_zero_iff (fragments : List Fragment) :
    totalLength fragments = 0 ↔ ∀ fragment ∈ fragments, fragment.length = 0 := by
  induction fragments with
  | nil => simp [totalLength]
  | cons fragment rest ih =>
      rw [totalLength] at ih
      simp [totalLength, ih]

/-! ## Traffic -/

/-- The words read from the device, the words written to it, and the words stored,
oldest first. -/
structure Traffic where
  delivered : List (BitVec 32)
  written : List (BitVec 32)
  stored : List (Nat × BitVec 32)

namespace Traffic

/-- No word has been transferred. -/
def none : Traffic :=
  ⟨[], [], []⟩

/-- A word is read from the device. -/
def deliver (value : BitVec 32) (traffic : Traffic) : Traffic :=
  { traffic with delivered := traffic.delivered ++ [value] }

/-- A word is written to the device. -/
def write (value : BitVec 32) (traffic : Traffic) : Traffic :=
  { traffic with written := traffic.written ++ [value] }

/-- A word is stored in the buffer of the caller. -/
def store (index : Nat) (value : BitVec 32) (traffic : Traffic) : Traffic :=
  { traffic with stored := traffic.stored ++ [(index, value)] }

/-- The effect of an access. -/
def note (base : Nat) (traffic : Traffic) : Access → Traffic
  | .read window _ offset value =>
      if (window, offset) = (.heci base, secCbRw) then traffic.deliver value else traffic
  | .write window _ offset value =>
      if (window, offset) = (.heci base, hCbWw) then traffic.write value else traffic
  | .map _ _ => traffic
  | .store index value => traffic.store index value

/-- The fragments that were received, newest first. -/
def incoming (traffic : Traffic) : List Fragment :=
  Frame.parse HeciMsgHdr.dataWords traffic.delivered

/-- The fragments that were sent, newest first. -/
def outgoing (traffic : Traffic) : List Fragment :=
  Frame.parse HeciMsgHdr.dataWords traffic.written

theorem incoming_deliver (value : BitVec 32) (traffic : Traffic) :
    (traffic.deliver value).incoming =
      Frame.push HeciMsgHdr.dataWords traffic.incoming value :=
  Frame.parse_snoc _ _

end Traffic

/-- The traffic of the accesses on record. -/
def traffic (base : Nat) (log : List Access) : Traffic :=
  log.foldr (fun access traffic => traffic.note base access) Traffic.none

theorem traffic_cons (base : Nat) (access : Access) (log : List Access) :
    traffic base (access :: log) = (traffic base log).note base access :=
  rfl

/-- The stored words are those on record. -/
theorem mem_stored_iff (base : Nat) {log : List Access} {index : Nat} {value : BitVec 32} :
    (index, value) ∈ (traffic base log).stored ↔ .store index value ∈ log := by
  induction log with
  | nil => simp [traffic, Traffic.none]
  | cons access log ih =>
      rw [traffic_cons]
      cases access with
      | read window width offset read =>
          rw [Traffic.note]
          split <;> simp [Traffic.deliver, ih]
      | write window width offset written =>
          rw [Traffic.note]
          split <;> simp [Traffic.write, ih]
      | map physical virtual => simp [Traffic.note, ih]
      | store index' value' =>
          simp [Traffic.note, Traffic.store, ih, or_comm]

/-! ## What counts and what does not -/

section Passed

variable {σ : Type u} {device : Device σ} {base : Nat}

/-- The traffic so far. -/
def Passed (base : Nat) (passed : Traffic) (hw : Hw σ) : Prop :=
  traffic base hw.log = passed

variable {passed : Traffic}

theorem readReg_passed {window : Window} {width : Width} {offset : Nat}
    (other : (window, offset) ≠ (.heci base, secCbRw)) :
    Exec.Preserves (Passed base passed) (readReg device window width offset) := by
  intro hw before
  rw [readReg_apply, Passed, traffic_cons, Traffic.note, if_neg other]
  exact before

theorem writeReg_passed {window : Window} {width : Width} {offset : Nat}
    (other : (window, offset) ≠ (.heci base, hCbWw)) (value : BitVec 32) :
    Exec.Preserves (Passed base passed) (writeReg device window width offset value) := by
  intro hw before
  rw [writeReg_apply, Passed, traffic_cons, Traffic.note, if_neg other]
  exact before

/-- Reading and judging a register that is not the read window. -/
theorem poll_passed {α : Type} {window : Window} {width : Width} {offset : Nat}
    (other : (window, offset) ≠ (.heci base, secCbRw)) (judge : BitVec 32 → α) :
    Exec.Preserves (Passed base passed) (do
      let reg ← readReg device window width offset
      pure (judge reg)) :=
  Exec.preserves_bind (readReg_passed other) fun reg => Exec.preserves_pure _ (judge reg)

/-- Waiting moves no data. -/
theorem waitEvent_passed {predicate : Exec Stop (Hw σ) Int}
    (polls : Exec.Preserves (Passed base passed) predicate) (bound : Nat)
    (timeout : BitVec 32) :
    Exec.Preserves (Passed base passed)
      (waitEvent device bound timeout (some predicate)) :=
  waitEvent_preserves (fun _ => readReg_passed (by simp)) polls
    (fun _ value => writeReg_passed (by simp) value) bound timeout

theorem isDevReady_passed :
    Exec.Preserves (Passed base passed) (isDevReady device base) :=
  poll_passed (by simp [secCsrHa, secCbRw]) _

theorem isDevDataReady_passed :
    Exec.Preserves (Passed base passed) (isDevDataReady device base) :=
  poll_passed (by simp [secCsrHa, secCbRw]) _

/-- A wait ends with the traffic as it was. -/
theorem waitEvent_ends {predicate : Exec Stop (Hw σ) Int} {hw : Hw σ}
    (polls : Exec.Preserves (Passed base (traffic base hw.log)) predicate) (bound : Nat)
    (timeout : BitVec 32) :
    Exec.Ends (waitEvent device bound timeout (some predicate)) hw
      (fun _ next => traffic base next.log = traffic base hw.log)
      (fun final => traffic base final.log = traffic base hw.log) :=
  Exec.ends_of_preserves (waitEvent_passed polls bound timeout) rfl

/-- A word taken from the read window is delivered. -/
theorem take_ends (hw : Hw σ) (halt : Hw σ → Prop) :
    Exec.Ends (heciRegRead device base secCbRw) hw
      (fun value next => traffic base next.log = (traffic base hw.log).deliver value)
      halt :=
  Exec.ends_of_eq (readReg_apply device _ _ _ hw) (if_pos rfl)

/-- Reading a control register ends with the traffic as it was. -/
theorem readCsr_ends (hw : Hw σ) (halt : Hw σ → Prop) :
    Exec.Ends (heciRegRead device base hCsr) hw
      (fun _ next => traffic base next.log = traffic base hw.log) halt :=
  Exec.ends_of_eq (readReg_apply device _ _ _ hw) (if_neg (by simp [hCsr, secCbRw]))

theorem writeCsr_ends (value : BitVec 32) (hw : Hw σ) (halt : Hw σ → Prop) :
    Exec.Ends (heciRegWrite device base hCsr value) hw
      (fun _ next => traffic base next.log = traffic base hw.log) halt :=
  Exec.ends_of_eq (writeReg_apply device _ _ _ _ hw) (if_neg (by simp [hCsr, hCbWw]))

end Passed

end SandPlatform.Heci
