import Mathlib.Algebra.Order.Floor.Div
import SandPlatform.Heci.Bounds
import SandPlatform.Heci.Sending

/-!
# Waits between fragments

A send waits for the device before each fragment and for the host interrupt behind
each fragment but the last.  The send is watched: every wait is noted with the state
in which it begins, so that it can be said afterwards how the device answered.  A
wait for the interrupt that is answered counts as a failure, so a device that
answers every wait gets a message only if it is a single fragment.
-/

namespace SandPlatform.Heci

open SandPlatform.Foundation
open SandPlatform.Hardware

universe u v

/-! ## The skeleton of the loop -/

/-- What a send waits for. -/
inductive Awaited
  | ready
  | raised

variable {σ : Type u}

/-- The callback that a wait is given. -/
def Awaited.predicate (device : Device σ) (base : Nat) :
    Awaited → Exec Stop (Hw σ) Int
  | .ready => isDevReady device base
  | .raised => isInterruptRaised device base

/-- A wait as the send makes it. -/
def Awaited.wait (device : Device σ) (bound base : Nat) (awaited : Awaited) :
    Exec Stop (Hw σ) Int :=
  waitEvent device bound heciEventTimeout (some (awaited.predicate device base))

/-- The fragment loop over any way to wait and to send a fragment. -/
def sendLoopWith {τ : Type v} (wait : Awaited → Exec Stop τ Int)
    (fragment : Nat → Nat → Nat → Exec Stop τ Unit) (maxBuffer : Nat) :
    Nat → Nat → Nat → Exec Stop τ Int
  | 0, _, _ => Exec.stop .running
  | rounds + 1, leftSize, writeSize =>
      if leftSize = 0 then
        pure 0
      else do
        let ready ← wait .ready
        if ready < 0 then
          pure 1
        else do
          let size := if maxBuffer < leftSize then maxBuffer else leftSize
          fragment size (leftSize - size) writeSize
          if 0 < leftSize - size then do
            let raised ← wait .raised
            if raised ≠ 0 then
              pure 1
            else
              sendLoopWith wait fragment maxBuffer rounds (leftSize - size)
                ((writeSize + size) % 2 ^ 32)
          else
            sendLoopWith wait fragment maxBuffer rounds (leftSize - size)
              ((writeSize + size) % 2 ^ 32)

theorem sendLoop_eq_with (device : Device σ) (bound base : Nat) (message : Message)
    (length : Nat) (hostAddress devAddr : BitVec 8)
    (maxBuffer rounds leftSize writeSize : Nat) :
    sendLoop device bound base message length hostAddress devAddr maxBuffer rounds
        leftSize writeSize =
      sendLoopWith (Awaited.wait device bound base)
        (sendFragment device base message length hostAddress devAddr) maxBuffer rounds
        leftSize writeSize := by
  induction rounds generalizing leftSize writeSize with
  | zero => rfl
  | succ rounds ih =>
      simp only [sendLoop, sendLoopWith, ih]
      rfl

/-- Loops whose waits and fragments run alike run alike. -/
theorem simulates_sendLoopWith {τ : Type u} {τ' : Type v} {related : τ → τ' → Prop}
    {wait : Awaited → Exec Stop τ Int} {wait' : Awaited → Exec Stop τ' Int}
    {fragment : Nat → Nat → Nat → Exec Stop τ Unit}
    {fragment' : Nat → Nat → Nat → Exec Stop τ' Unit}
    (waits : ∀ awaited, Exec.Simulates related (wait awaited) (wait' awaited))
    (fragments : ∀ size leftSize writeSize, Exec.Simulates related
      (fragment size leftSize writeSize) (fragment' size leftSize writeSize))
    (maxBuffer rounds leftSize writeSize : Nat) :
    Exec.Simulates related
      (sendLoopWith wait fragment maxBuffer rounds leftSize writeSize)
      (sendLoopWith wait' fragment' maxBuffer rounds leftSize writeSize) := by
  induction rounds generalizing leftSize writeSize with
  | zero => exact Exec.simulates_stop _ _
  | succ rounds ih =>
      rw [sendLoopWith, sendLoopWith]
      apply Exec.simulates_ite
      · exact Exec.simulates_pure _ _
      · refine (waits _).bind fun ready => ?_
        apply Exec.simulates_ite
        · exact Exec.simulates_pure _ _
        · refine (fragments _ _ _).bind fun _ => ?_
          apply Exec.simulates_ite
          · refine (waits _).bind fun raised => ?_
            apply Exec.simulates_ite
            · exact Exec.simulates_pure _ _
            · exact ih _ _
          · exact ih _ _

/-! ## A watched send -/

/-- A wait that begins in a state, or a fragment of some words. -/
inductive SendEvent (σ : Type u)
  | waits (hw : Hw σ) (awaited : Awaited)
  | sends (words : Nat)

/-- The hardware and the events of a send, oldest first. -/
structure Watched (σ : Type u) where
  hw : Hw σ
  events : List (SendEvent σ)

namespace Watched

/-- An event in the present state. -/
def note (event : Hw σ → SendEvent σ) (watched : Watched σ) : Watched σ :=
  { watched with events := watched.events ++ [event watched.hw] }

/-- The hardware of the next step. -/
def move (hw : Hw σ) (watched : Watched σ) : Watched σ :=
  { watched with hw := hw }

/-- What the code does, with an event noted before. -/
def noting {α : Type} (event : Hw σ → SendEvent σ) (inner : Exec Stop (Hw σ) α) :
    Exec Stop (Watched σ) α := do
  Exec.modify (note event)
  Exec.zoom hw move inner

theorem noting_apply {α : Type} (event : Hw σ → SendEvent σ)
    (inner : Exec Stop (Hw σ) α) (watched : Watched σ) :
    noting event inner watched =
      ((inner watched.hw).1, (watched.note event).move (inner watched.hw).2) :=
  rfl

theorem simulates_noting {α : Type} (event : Hw σ → SendEvent σ)
    (inner : Exec Stop (Hw σ) α) :
    Exec.Simulates (fun watched hw => Watched.hw watched = hw) (noting event inner)
      inner := by
  rintro watched hw rfl
  exact ⟨rfl, rfl⟩

theorem simulates_zoom {α : Type} (inner : Exec Stop (Hw σ) α) :
    Exec.Simulates (fun watched hw => Watched.hw watched = hw)
      (Exec.zoom hw move inner) inner := by
  rintro watched hw rfl
  exact ⟨rfl, rfl⟩

end Watched

variable (device : Device σ) (bound base : Nat)

/-- A wait of the send, with its event. -/
def watchedWait (awaited : Awaited) : Exec Stop (Watched σ) Int :=
  Watched.noting (.waits · awaited) (awaited.wait device bound base)

/-- A fragment of the send, with its event. -/
def watchedFragment (message : Message) (length : Nat) (hostAddress devAddr : BitVec 8)
    (size leftSize writeSize : Nat) : Exec Stop (Watched σ) Unit :=
  Watched.noting (fun _ => .sends size)
    (sendFragment device base message length hostAddress devAddr size leftSize writeSize)

/-- `heciSendImpl` with its waits and fragments noted. -/
def watchedSend (message : Option Message) (length : Nat)
    (hostAddress devAddr : BitVec 8) : Exec Stop (Watched σ) Int :=
  match message with
  | none => pure 1
  | some message =>
      if length = 0 then
        pure 1
      else do
        let hcr ← Exec.zoom Watched.hw Watched.move (heciRegRead device base hCsr)
        let maxBuffer := ((HostCtrlReg.hCbd hcr).toNat + (2 ^ 32 - 1)) % 2 ^ 32
        let leftSize := (length + 3) % 2 ^ 32 / 4
        Exec.zoom Watched.hw Watched.move
          (heciRegWrite device base hCsr (HostCtrlReg.setHRdy hcr 1))
        sendLoopWith (watchedWait device bound base)
          (watchedFragment device base message length hostAddress devAddr) maxBuffer
          bound leftSize 0

/-- Watching changes neither the result nor the hardware. -/
theorem simulates_watchedSend (message : Option Message) (length : Nat)
    (hostAddress devAddr : BitVec 8) :
    Exec.Simulates (fun watched hw => Watched.hw watched = hw)
      (watchedSend device bound base message length hostAddress devAddr)
      (heciSendImpl device bound base message length hostAddress devAddr) := by
  cases message with
  | none => exact Exec.simulates_pure _ _
  | some message =>
      apply Exec.simulates_ite
      · exact Exec.simulates_pure _ _
      · refine (Watched.simulates_zoom _).bind fun hcr => ?_
        refine (Watched.simulates_zoom _).bind fun _ => ?_
        rw [sendLoop_eq_with]
        exact simulates_sendLoopWith (fun _ => Watched.simulates_noting _ _)
          (fun _ _ _ => Watched.simulates_noting _ _) _ _ _ _

/-! ## One round -/

section Round

variable (message : Message) (length : Nat) (hostAddress devAddr : BitVec 8)
variable (maxBuffer rounds leftSize : Nat)

/-- The hardware once the first fragment is sent. -/
def fragmentSent (after : Hw σ) : Hw σ :=
  (sendFragment device base message length hostAddress devAddr
    (if maxBuffer < leftSize then maxBuffer else leftSize)
    (leftSize - if maxBuffer < leftSize then maxBuffer else leftSize) 0 after).2

theorem sendFragment_returns (size left writeSize : Nat) (hw : Hw σ) :
    (sendFragment device base message length hostAddress devAddr size left writeSize
      hw).1 = .ok () := by
  have ends : Exec.Ends (sendFragment device base message length hostAddress devAddr size
      left writeSize) hw _ fun _ => False :=
    sendFragment_ends message length hostAddress devAddr size left writeSize hw _
  rw [Exec.Ends] at ends
  rcases outcome : sendFragment device base message length hostAddress devAddr size left
      writeSize hw with ⟨reason | value, final⟩
  · rw [outcome] at ends
    exact ends.elim
  · rfl

/-- How a loop with words left goes on: it waits for the device, sends a fragment,
and with more to send waits for the interrupt and ends. -/
inductive Round (start : Watched σ) : Except Stop Int × Watched σ → Prop
  | polling {reason : Stop} {after : Hw σ}
      (wait : Awaited.ready.wait device bound base start.hw = (.error reason, after)) :
      Round start
        (.error reason, ⟨after, start.events ++ [.waits start.hw .ready]⟩)
  | late {res : Int} {after : Hw σ}
      (wait : Awaited.ready.wait device bound base start.hw = (.ok res, after))
      (negative : res < 0) :
      Round start (.ok 1, ⟨after, start.events ++ [.waits start.hw .ready]⟩)
  | whole {res : Int} {after : Hw σ} {ended : Except Stop Int}
      (wait : Awaited.ready.wait device bound base start.hw = (.ok res, after))
      (positive : 0 < res) (fits : leftSize ≤ maxBuffer)
      (decided : ended = if rounds = 0 then .error .running else .ok 0) :
      Round start
        (ended, ⟨fragmentSent device base message length hostAddress devAddr maxBuffer
          leftSize after,
          start.events ++ [.waits start.hw .ready, .sends leftSize]⟩)
  | raising {res : Int} {after last : Hw σ} {reason : Stop}
      (wait : Awaited.ready.wait device bound base start.hw = (.ok res, after))
      (positive : 0 < res) (more : maxBuffer < leftSize)
      (wait' : Awaited.raised.wait device bound base (fragmentSent device base message
        length hostAddress devAddr maxBuffer leftSize after) = (.error reason, last)) :
      Round start
        (.error reason, ⟨last, start.events ++ [.waits start.hw .ready,
          .sends maxBuffer, .waits (fragmentSent device base message length hostAddress
            devAddr maxBuffer leftSize after) .raised]⟩)
  | stopped {res res' : Int} {after last : Hw σ}
      (wait : Awaited.ready.wait device bound base start.hw = (.ok res, after))
      (positive : 0 < res) (more : maxBuffer < leftSize)
      (wait' : Awaited.raised.wait device bound base (fragmentSent device base message
        length hostAddress devAddr maxBuffer leftSize after) = (.ok res', last)) :
      Round start
        (.ok 1, ⟨last, start.events ++ [.waits start.hw .ready,
          .sends maxBuffer, .waits (fragmentSent device base message length hostAddress
            devAddr maxBuffer leftSize after) .raised]⟩)

theorem watchedWait_apply (awaited : Awaited) (watched : Watched σ) :
    watchedWait device bound base awaited watched =
      ((awaited.wait device bound base watched.hw).1,
        ⟨(awaited.wait device bound base watched.hw).2,
          watched.events ++ [.waits watched.hw awaited]⟩) :=
  rfl

theorem watchedFragment_apply (size left writeSize : Nat) (watched : Watched σ) :
    watchedFragment device base message length hostAddress devAddr size left writeSize
        watched =
      (.ok (), ⟨(sendFragment device base message length hostAddress devAddr size left
        writeSize watched.hw).2, watched.events ++ [.sends size]⟩) := by
  rw [watchedFragment, Watched.noting_apply, sendFragment_returns]
  rfl

/-- A wait that is not answered in time is the last thing a send does. -/
theorem wait_positive {enough : Nat} {awaited : Awaited} {hw after : Hw σ} {res : Int}
    (wait : awaited.wait device enough base hw = (.ok res, after))
    (notLate : ¬ res < 0) : 0 < res := by
  have outcome := waitEvent_yields device enough heciEventTimeout _ _ _ _ wait
  omega

/-- With more to send than fits, the send ends with the wait for the interrupt. -/
theorem round_more {res : Int} {start : Watched σ} {after : Hw σ}
    (wait : Awaited.ready.wait device bound base start.hw = (.ok res, after))
    (positive : 0 < res) (more : maxBuffer < leftSize) (rest : Exec Stop (Watched σ) Int) :
    Round device bound base message length hostAddress devAddr maxBuffer rounds leftSize
      start
      ((do
        watchedFragment device base message length hostAddress devAddr maxBuffer
          (leftSize - maxBuffer) 0
        let raised ← watchedWait device bound base .raised
        if raised ≠ 0 then
          pure 1
        else
          rest : Exec Stop (Watched σ) Int)
        ⟨after, start.events ++ [.waits start.hw .ready]⟩) := by
  let sent := fragmentSent device base message length hostAddress devAddr maxBuffer
    leftSize after
  have fragment : watchedFragment device base message length hostAddress devAddr maxBuffer
      (leftSize - maxBuffer) 0 ⟨after, start.events ++ [.waits start.hw .ready]⟩ =
        (.ok (), ⟨sent, start.events ++ [.waits start.hw .ready, .sends maxBuffer]⟩) := by
    rw [watchedFragment_apply, List.append_assoc]
    simp only [sent, fragmentSent, if_pos more]
    rfl
  have raised := watchedWait_apply device bound base .raised
    ⟨sent, start.events ++ [.waits start.hw .ready, .sends maxBuffer]⟩
  rw [List.append_assoc] at raised
  rw [Exec.bind_of_ok fragment]
  rcases wait' : Awaited.raised.wait device bound base sent with ⟨reason | res', last⟩
  · rw [wait'] at raised
    rw [Exec.bind_of_error raised]
    exact .raising wait positive more wait'
  · rw [wait'] at raised
    have nonzero : res' ≠ 0 := by
      have outcome := waitEvent_yields device bound heciEventTimeout _ _ _ _ wait'
      omega
    rw [Exec.bind_of_ok raised, if_pos nonzero]
    exact .stopped wait positive more wait'

/-- A message that fits is sent whole, and the loop ends at its next round. -/
theorem round_whole {res : Int} {start : Watched σ} {after : Hw σ}
    (wait : Awaited.ready.wait device bound base start.hw = (.ok res, after))
    (positive : 0 < res) (fits : leftSize ≤ maxBuffer) (writeSize : Nat) :
    Round device bound base message length hostAddress devAddr maxBuffer rounds leftSize
      start
      ((do
        watchedFragment device base message length hostAddress devAddr leftSize 0 0
        sendLoopWith (watchedWait device bound base)
          (watchedFragment device base message length hostAddress devAddr) maxBuffer
          rounds 0 writeSize : Exec Stop (Watched σ) Int)
        ⟨after, start.events ++ [.waits start.hw .ready]⟩) := by
  have fragment : watchedFragment device base message length hostAddress devAddr leftSize
      0 0 ⟨after, start.events ++ [.waits start.hw .ready]⟩ =
        (.ok (), ⟨fragmentSent device base message length hostAddress devAddr maxBuffer
          leftSize after, start.events ++ [.waits start.hw .ready, .sends leftSize]⟩) := by
    rw [watchedFragment_apply, List.append_assoc]
    simp only [fragmentSent, if_neg (Nat.not_lt.mpr fits), Nat.sub_self]
    rfl
  rw [Exec.bind_of_ok fragment]
  cases rounds with
  | zero => exact .whole wait positive fits rfl
  | succ rounds =>
      rw [sendLoopWith, if_pos rfl]
      exact .whole wait positive fits rfl

theorem round (nonempty : leftSize ≠ 0) (start : Watched σ) :
    Round device bound base message length hostAddress devAddr maxBuffer rounds leftSize
      start
      (sendLoopWith (watchedWait device bound base)
        (watchedFragment device base message length hostAddress devAddr) maxBuffer
        (rounds + 1) leftSize 0 start) := by
  have ready := watchedWait_apply device bound base .ready start
  rw [sendLoopWith, if_neg nonempty]
  rcases wait : Awaited.ready.wait device bound base start.hw with
    ⟨reason | res, after⟩
  · rw [wait] at ready
    rw [Exec.bind_of_error ready]
    exact .polling wait
  · rw [wait] at ready
    rw [Exec.bind_of_ok ready]
    by_cases negative : res < 0
    · rw [if_pos negative]
      exact .late wait negative
    · have positive := wait_positive device base wait negative
      rw [if_neg negative]
      by_cases more : maxBuffer < leftSize
      · have remaining : 0 < leftSize - maxBuffer := by omega
        simp only [if_pos more, if_pos remaining]
        exact round_more device bound base message length hostAddress devAddr maxBuffer
          rounds leftSize wait positive more _
      · simp only [if_neg more, Nat.sub_self, Nat.lt_irrefl, if_false]
        exact round_whole device bound base message length hostAddress devAddr maxBuffer
          rounds leftSize wait positive (Nat.le_of_not_lt more) _

end Round

/-! ## Whole sends -/

namespace SendEvent

variable (enough : Nat)

/-- The wait is answered with a positive result within a number of polls. -/
def answered : SendEvent σ → Bool
  | .waits hw awaited =>
      match (awaited.wait device enough base hw).1 with
      | .ok res => decide (0 < res)
      | .error _ => false
  | .sends _ => true

/-- The wait times out. -/
def late : SendEvent σ → Bool
  | .waits hw awaited =>
      match (awaited.wait device enough base hw).1 with
      | .ok res => decide (res < 0)
      | .error _ => false
  | .sends _ => false

/-- Whether an event is a fragment. -/
def isFragment : SendEvent σ → Bool
  | .waits _ _ => false
  | .sends _ => true

theorem answered_waits_iff {hw : Hw σ} {awaited : Awaited} :
    (waits hw awaited).answered device base enough = true ↔
      ∃ res after, awaited.wait device enough base hw = (.ok res, after) ∧ 0 < res := by
  rw [answered]
  rcases awaited.wait device enough base hw with ⟨reason | res, after⟩ <;> simp

theorem late_waits_iff {hw : Hw σ} {awaited : Awaited} :
    (waits hw awaited).late device base enough = true ↔
      ∃ res after, awaited.wait device enough base hw = (.ok res, after) ∧ res < 0 := by
  rw [late]
  rcases awaited.wait device enough base hw with ⟨reason | res, after⟩ <;> simp

end SendEvent

/-- The arguments of a send. -/
structure SendCall where
  message : Option Message
  length : Nat
  hostAddress : BitVec 8
  devAddr : BitVec 8

namespace SendCall

variable (state : σ) (call : SendCall)

/-- How a send ends within a bound on its loops. -/
def result : Except Stop Int :=
  (heciSendImpl device bound base call.message call.length call.hostAddress call.devAddr
    ⟨state, []⟩).1

/-- The waits and the fragments of the same send. -/
def events : List (SendEvent σ) :=
  (watchedSend device bound base call.message call.length call.hostAddress call.devAddr
    ⟨⟨state, []⟩, []⟩).2.events

/-- The number of fragments that a message of the call's length takes. -/
def fragmentsNeeded : Nat :=
  (call.length ⌈/⌉ 4) ⌈/⌉ (depthAt device base state - 1)

/-- Every wait of the send is answered in time. -/
def Prompt : Prop :=
  ∃ enough, ∀ bound, ∀ event ∈ call.events device bound base state,
    event.answered device base enough = true

/-- A wait of the send times out. -/
def TimedOut : Prop :=
  ∃ event ∈ call.events device bound base state, event.late device base bound = true

/-- A device that answers every wait in time gets all fragments and zero is returned;
one is returned only when a wait timed out or there was nothing to send. -/
structure SendsAll : Prop where
  complete : call.message.isSome → call.length ≠ 0 → call.Prompt device base state →
    ∃ enough, ∀ bound, enough ≤ bound →
      call.result device bound base state = .ok 0 ∧
        (call.events device bound base state).countP SendEvent.isFragment =
          call.fragmentsNeeded device base state
  honest : ∀ bound, call.result device bound base state = .ok 1 →
    call.message = none ∨ call.length = 0 ∨ call.TimedOut device bound base state

theorem result_eq :
    call.result device bound base state =
      (watchedSend device bound base call.message call.length call.hostAddress
        call.devAddr ⟨⟨state, []⟩, []⟩).1 :=
  (simulates_watchedSend device bound base call.message call.length call.hostAddress
    call.devAddr ⟨⟨state, []⟩, []⟩ ⟨state, []⟩ rfl).1.symm

end SendCall

/-- A send with something to send comes to its loop in a state that does not depend
on the bound. -/
theorem watchedSend_begins (message : Message) {length : Nat} (nonempty : length ≠ 0)
    (hostAddress devAddr : BitVec 8) (state : σ) :
    ∃ begun : Hw σ, ∀ bound,
      watchedSend device bound base (some message) length hostAddress devAddr
          ⟨⟨state, []⟩, []⟩ =
        sendLoopWith (watchedWait device bound base)
          (watchedFragment device base message length hostAddress devAddr)
          ((depthAt device base state + (2 ^ 32 - 1)) % 2 ^ 32) bound
          ((length + 3) % 2 ^ 32 / 4) 0 ⟨begun, []⟩ := by
  let hcr := (device.read (.heci base) .word hCsr state).1
  let read := (heciRegRead device base hCsr ⟨state, []⟩).2
  refine ⟨(heciRegWrite device base hCsr (HostCtrlReg.setHRdy hcr 1) read).2,
    fun bound => ?_⟩
  simp only [watchedSend, if_neg nonempty]
  rfl

theorem wait_unique {device : Device σ} {base small large : Nat} {awaited : Awaited}
    {hw after after' : Hw σ} {res res' : Int}
    (wait : awaited.wait device small base hw = (.ok res, after))
    (wait' : awaited.wait device large base hw = (.ok res', after')) :
    res = res' ∧ after = after' :=
  Exec.unique_of_extends
    (fun _ _ le => waitEvent_extends device heciEventTimeout
      (some (awaited.predicate device base)) le) wait wait'

namespace SendCall

variable {device : Device σ} {base : Nat} {state : σ} {call : SendCall}

/-- `MaxBuffer`. -/
def maxBuffer (device : Device σ) (base : Nat) (state : σ) : Nat :=
  (depthAt device base state + (2 ^ 32 - 1)) % 2 ^ 32

/-- `LeftSize` at the start. -/
def leftSize (call : SendCall) : Nat :=
  (call.length + 3) % 2 ^ 32 / 4

theorem maxBuffer_eq (deep : 2 ≤ depthAt device base state) :
    maxBuffer device base state = depthAt device base state - 1 := by
  have small := depthAt_lt device base state
  rw [maxBuffer]
  omega

theorem leftSize_eq (small : call.length + 3 < 2 ^ 32) :
    call.leftSize = call.length ⌈/⌉ 4 := by
  rw [leftSize, Nat.mod_eq_of_lt small, Nat.ceilDiv_eq_add_pred_div]
  rfl

end SendCall

/-! ## What a round says of its answers -/

namespace Round

variable {device : Device σ} {bound base : Nat} {message : Message} {length : Nat}
variable {hostAddress devAddr : BitVec 8} {maxBuffer rounds leftSize : Nat}
variable {start : Watched σ} {ended : Except Stop Int × Watched σ}

/-- A message that fits is sent once the device answers. -/
theorem whole_of_answered {enough : Nat}
    (round : Round device bound base message length hostAddress devAddr maxBuffer rounds
      leftSize start ended)
    (fits : leftSize ≤ maxBuffer) (again : rounds ≠ 0) (le : enough ≤ bound)
    (prompt : ∀ event ∈ ended.2.events, event.answered device base enough = true) :
    ended.1 = .ok 0 ∧ ended.2.events.countP SendEvent.isFragment =
      start.events.countP SendEvent.isFragment + 1 := by
  have first : SendEvent.waits start.hw .ready ∈ ended.2.events →
      ∃ res after, 0 < res ∧
        Awaited.ready.wait device bound base start.hw = (.ok res, after) := by
    intro member
    obtain ⟨res, after, returned, positive⟩ :=
      (SendEvent.answered_waits_iff device base enough).mp (prompt _ member)
    exact ⟨res, after, positive, waitEvent_extends device _ _ le _ _ _ returned⟩
  cases round with
  | polling wait =>
      obtain ⟨res, after, _, returned⟩ := first (by simp)
      rw [returned] at wait
      cases wait
  | late wait negative =>
      obtain ⟨res, after, positive, returned⟩ := first (by simp)
      rw [returned] at wait
      cases wait
      omega
  | whole wait positive fits decided =>
      rw [decided, if_neg again]
      simp [SendEvent.isFragment, List.countP_cons]
  | raising wait positive more wait' => omega
  | stopped wait positive more wait' => omega

/-- A message that does not fit is never sent. -/
theorem nonzero_of_more
    (round : Round device bound base message length hostAddress devAddr maxBuffer rounds
      leftSize start ended)
    (more : maxBuffer < leftSize) : ended.1 ≠ .ok 0 := by
  cases round with
  | polling wait => simp
  | late wait negative => simp
  | whole wait positive fits decided => omega
  | raising wait positive more wait' => simp
  | stopped wait positive more wait' => simp

/-- A send that fails had a wait time out, or the message does not fit and every wait
is answered. -/
theorem late_or_answered
    (round : Round device bound base message length hostAddress devAddr maxBuffer rounds
      leftSize start ended)
    (failed : ended.1 = .ok 1) :
    (∃ event ∈ ended.2.events, event.late device base bound = true) ∨
      maxBuffer < leftSize ∧ ∀ bound' rounds' ended',
        Round device bound' base message length hostAddress devAddr maxBuffer rounds'
          leftSize start ended' →
        ∀ event ∈ ended'.2.events, event ∈ start.events ∨
          event.answered device base bound = true := by
  cases round with
  | polling wait => cases failed
  | late wait negative =>
      refine Or.inl ⟨.waits start.hw .ready, by simp, ?_⟩
      exact (SendEvent.late_waits_iff device base bound).mpr ⟨_, _, wait, negative⟩
  | whole wait positive fits decided =>
      rw [decided] at failed
      split at failed <;> cases failed
  | raising wait positive more wait' => cases failed
  | @stopped res res' after last wait positive more wait' =>
      let sent := fragmentSent device base message length hostAddress devAddr maxBuffer
        leftSize after
      have ready : (SendEvent.waits start.hw .ready).answered device base bound = true :=
        (SendEvent.answered_waits_iff device base bound).mpr ⟨_, _, wait, positive⟩
      by_cases negative : res' < 0
      · refine Or.inl ⟨.waits sent .raised, by simp [sent], ?_⟩
        exact (SendEvent.late_waits_iff device base bound).mpr ⟨_, _, wait', negative⟩
      · have raised : (SendEvent.waits sent .raised).answered device base bound = true :=
          (SendEvent.answered_waits_iff device base bound).mpr
            ⟨_, _, wait', wait_positive device base wait' negative⟩
        refine Or.inr ⟨more, fun bound' rounds' ended' round' event member => ?_⟩
        -- Whatever the bound, the waits begin in the same states.
        cases round' with
        | polling readyWait => grind
        | late readyWait negative => grind
        | whole readyWait positive fits decided => omega
        | raising readyWait positive' more' raisedWait =>
            obtain ⟨_, same⟩ := wait_unique wait readyWait
            subst same
            grind [SendEvent.answered]
        | stopped readyWait positive' more' raisedWait =>
            obtain ⟨_, same⟩ := wait_unique wait readyWait
            subst same
            grind [SendEvent.answered]

end Round

namespace SendCall

variable {device : Device σ} {base : Nat} {state : σ} {call : SendCall}

/-- The rounds of a send with words to send, at every bound. -/
theorem begins (device : Device σ) (base : Nat) (state : σ) {message : Message}
    (some : call.message = some message)
    (nonempty : call.length ≠ 0) (unsent : call.leftSize ≠ 0) :
    ∃ begun : Hw σ, ∀ rounds,
      Round device (rounds + 1) base message call.length call.hostAddress call.devAddr
        (maxBuffer device base state) rounds call.leftSize ⟨begun, []⟩
        (watchedSend device (rounds + 1) base call.message call.length call.hostAddress
          call.devAddr ⟨⟨state, []⟩, []⟩) := by
  obtain ⟨begun, begins⟩ := watchedSend_begins device base message nonempty
    call.hostAddress call.devAddr state
  refine ⟨begun, fun rounds => ?_⟩
  rw [some, begins (rounds + 1)]
  exact round device (rounds + 1) base message call.length call.hostAddress call.devAddr
    (maxBuffer device base state) rounds call.leftSize unsent ⟨begun, []⟩

theorem running_at_zero {message : Message} (some : call.message = some message)
    (nonempty : call.length ≠ 0) :
    call.result device 0 base state = .error .running ∧
      call.events device 0 base state = [] := by
  obtain ⟨begun, begins⟩ := watchedSend_begins device base message nonempty
    call.hostAddress call.devAddr state
  rw [result_eq, events, some, begins 0]
  exact ⟨rfl, rfl⟩

/-- A message of at least 2³² − 3 bytes is taken for one without words. -/
theorem events_of_nothing {bound : Nat} {message : Message}
    (some : call.message = some message) (nonempty : call.length ≠ 0)
    (nothing : call.leftSize = 0) :
    call.events device bound base state = [] := by
  obtain ⟨begun, begins⟩ := watchedSend_begins device base message nonempty
    call.hostAddress call.devAddr state
  rw [events, some, begins bound]
  cases bound with
  | zero => rfl
  | succ rounds =>
      rw [leftSize] at nothing
      rw [sendLoopWith, if_pos nothing]
      rfl

/-- The message is a single fragment. -/
def Fits (device : Device σ) (base : Nat) (state : σ) (call : SendCall) : Prop :=
  call.length ⌈/⌉ 4 ≤ depthAt device base state - 1

theorem Fits.words (fits : Fits device base state call)
    (deep : 2 ≤ depthAt device base state) (nonempty : call.length ≠ 0) :
    call.leftSize ≠ 0 ∧ call.leftSize ≤ maxBuffer device base state ∧
      call.fragmentsNeeded device base state = 1 := by
  have depth := depthAt_lt device base state
  rw [Fits, Nat.ceilDiv_eq_add_pred_div] at fits
  have words : call.leftSize = call.length ⌈/⌉ 4 := leftSize_eq (by omega)
  rw [maxBuffer_eq deep, fragmentsNeeded, ← words, Nat.ceilDiv_eq_add_pred_div]
  rw [Nat.ceilDiv_eq_add_pred_div] at words
  refine ⟨by omega, by omega, ?_⟩
  apply Nat.div_eq_of_lt_le <;> omega

/-- A message that fits is sent by a device that answers. -/
theorem complete_of_fits (deep : 2 ≤ depthAt device base state)
    (fits : Fits device base state call) {message : Message}
    (some : call.message = some message) (nonempty : call.length ≠ 0)
    (prompt : call.Prompt device base state) :
    ∃ enough, ∀ bound, enough ≤ bound →
      call.result device bound base state = .ok 0 ∧
        (call.events device bound base state).countP SendEvent.isFragment =
          call.fragmentsNeeded device base state := by
  obtain ⟨unsent, room, single⟩ := fits.words deep nonempty
  obtain ⟨begun, begins⟩ := begins device base state
    some nonempty unsent
  obtain ⟨enough, answered⟩ := prompt
  refine ⟨enough + 2, fun bound le => ?_⟩
  cases bound with
  | zero => omega
  | succ rounds =>
      rw [result_eq, single]
      exact (begins rounds).whole_of_answered room (by omega) (by omega)
        (answered (rounds + 1))

/-- A send that fails had a wait time out, or more to send and every wait answered. -/
theorem late_or_prompt {message : Message} (some : call.message = some message)
    (nonempty : call.length ≠ 0) (unsent : call.leftSize ≠ 0) {bound : Nat}
    (failed : call.result device bound base state = .ok 1) :
    call.TimedOut device bound base state ∨
      maxBuffer device base state < call.leftSize ∧ call.Prompt device base state := by
  obtain ⟨begun, begins⟩ := begins device base state
    some nonempty unsent
  cases bound with
  | zero =>
      rw [(running_at_zero some nonempty).1] at failed
      cases failed
  | succ rounds =>
      rw [result_eq] at failed
      rcases (begins rounds).late_or_answered failed with late | ⟨more, answered⟩
      · exact Or.inl late
      · refine Or.inr ⟨more, rounds + 1, fun bound event member => ?_⟩
        cases bound with
        | zero =>
            rw [(running_at_zero some nonempty).2] at member
            cases member
        | succ rounds' =>
            have outcome := answered _ _ _ (begins rounds') event member
            simpa using outcome

/-- A message that does not fit is not sent by any device. -/
theorem not_sent_of_more (deep : 2 ≤ depthAt device base state)
    (word : call.length < 2 ^ 32) (more : ¬ Fits device base state call)
    {message : Message} (some : call.message = some message) (nonempty : call.length ≠ 0)
    (rounds : Nat) (sent : call.result device (rounds + 1) base state = .ok 0) :
    (call.events device (rounds + 1) base state).countP SendEvent.isFragment ≠
      call.fragmentsNeeded device base state := by
  by_cases unsent : call.leftSize = 0
  · -- Nothing is sent although some fragment is needed.
    rw [events_of_nothing some nonempty unsent, List.countP_nil, fragmentsNeeded,
      Nat.ceilDiv_eq_add_pred_div]
    rw [Fits] at more
    have needed : 0 < (call.length ⌈/⌉ 4 + (depthAt device base state - 1) - 1) /
        (depthAt device base state - 1) := Nat.div_pos (by omega) (by omega)
    exact needed.ne
  · obtain ⟨begun, begins⟩ := begins device base state
      some nonempty unsent
    rw [result_eq] at sent
    refine absurd sent ((begins rounds).nonzero_of_more ?_)
    have small : call.length + 3 < 2 ^ 32 := by
      rw [leftSize] at unsent
      omega
    rw [maxBuffer_eq deep, leftSize_eq small]
    exact Nat.lt_of_not_le more

/-- Where the message fits or the device lets a wait go by, a failure has a cause. -/
theorem timedOut_of_failed (deep : 2 ≤ depthAt device base state) {message : Message}
    (some : call.message = some message) (nonempty : call.length ≠ 0)
    (condition : Fits device base state call ∨ ¬ call.Prompt device base state)
    {bound : Nat} (failed : call.result device bound base state = .ok 1) :
    call.TimedOut device bound base state := by
  by_cases unsent : call.leftSize = 0
  · rcases condition with fits | slow
    · exact absurd unsent (fits.words deep nonempty).1
    · refine absurd ⟨0, fun bound event member => ?_⟩ slow
      rw [events_of_nothing some nonempty unsent] at member
      cases member
  · rcases late_or_prompt some nonempty unsent failed with late | ⟨more, prompt⟩
    · exact late
    · rcases condition with fits | slow
      · have room := (fits.words deep nonempty).2.1
        omega
      · exact absurd prompt slow

/-- A send keeps its promise exactly when there is nothing to send, the message is a
single fragment, or the device lets a wait go by. -/
theorem sendsAll_iff (word : call.length < 2 ^ 32)
    (deep : 2 ≤ depthAt device base state) :
    call.SendsAll device base state ↔
      call.message = none ∨ call.length = 0 ∨ Fits device base state call ∨
        ¬ call.Prompt device base state := by
  constructor
  · intro sends
    by_contra fails
    rw [not_or, not_or, not_or, not_not] at fails
    obtain ⟨present, nonempty, more, prompt⟩ := fails
    obtain ⟨message, some⟩ := Option.ne_none_iff_exists'.mp present
    obtain ⟨enough, complete⟩ := sends.complete (by simp [some]) nonempty prompt
    obtain ⟨sent, all⟩ := complete (enough + 1) (Nat.le_succ enough)
    exact not_sent_of_more deep word more some nonempty enough sent all
  · intro condition
    rcases present : call.message with _ | message
    · exact ⟨fun some => by simp [present] at some, fun _ _ => Or.inl present⟩
    · by_cases nonempty : call.length = 0
      · exact ⟨fun _ positive => absurd nonempty positive,
          fun _ _ => Or.inr (Or.inl nonempty)⟩
      · have excluded : Fits device base state call ∨ ¬ call.Prompt device base state := by
          simpa [present, nonempty] using condition
        constructor
        · intro _ _ prompt
          rcases excluded with fits | slow
          · exact complete_of_fits deep fits present nonempty prompt
          · exact absurd prompt slow
        · intro bound failed
          exact Or.inr (Or.inr (timedOut_of_failed deep present nonempty excluded failed))

/-- Zeroes of some length, with the addresses of the driver. -/
def ofZeroes (length : Nat) : SendCall :=
  ⟨some zeroes, length, biosFixedHostAddr, biosSecAddr⟩

/-- Twelve bytes go into a buffer of eight words. -/
theorem sendsAll_twelve : (ofZeroes 12).SendsAll (steadyDevice 8) 0 () := by
  refine (sendsAll_iff (by decide) (by decide)).mpr (Or.inr (Or.inr (Or.inl ?_)))
  rw [Fits, Nat.ceilDiv_eq_add_pred_div]
  decide

/-- Eight bytes do not go through a buffer of two words: the interrupt is raised at
once, and the send fails. -/
theorem second_fragment_not_sent : ¬ (ofZeroes 8).SendsAll (steadyDevice 2) 0 () := by
  intro sends
  have failed : ((ofZeroes 8).result (steadyDevice 2) 2 0 ()).toOption = some 1 := by
    decide +kernel
  have inTime : ((ofZeroes 8).events (steadyDevice 2) 2 0 ()).any
      (SendEvent.late (steadyDevice 2) 0 2) = false := by
    decide +kernel
  rcases outcome : (ofZeroes 8).result (steadyDevice 2) 2 0 () with reason | status
  · rw [outcome] at failed
    cases failed
  · rw [outcome] at failed
    cases failed
    rcases sends.honest 2 outcome with absent | empty | ⟨event, member, late⟩
    · cases absent
    · cases empty
    · exact absurd late (List.any_eq_false.mp inTime event member)

end SendCall

end SandPlatform.Heci
