import Mathlib.Data.List.GetD
import SandPlatform.Debug.Uart
import SandPlatform.Foundation.Ring
import SandPlatform.Foundation.Run

/-!
# What the console sends

`uart_putc` advances `put_idx` before it stores, so the slot `get_idx` starts at
is never filled and the slot of the newest character is never sent.  The bytes
sent are those of the sequence that starts with the initial byte of the ring, and
always one short of its end.
-/

namespace SandPlatform.Debug

open SandPlatform.Foundation
open SandPlatform.Hardware
open SandPlatform.Foundation.Exec (Ends)

universe u

/-- The characters put, behind the byte the ring starts with. -/
def sequence (put : List (BitVec 8)) (k : Nat) : BitVec 8 :=
  (0 :: put).getD k 0

theorem sequence_snoc_of_le {put : List (BitVec 8)} {k : Nat}
    (earlier : k ≤ put.length) (c : BitVec 8) :
    sequence (put ++ [c]) k = sequence put k := by
  have inside : k < (0 :: put).length := Nat.lt_succ_of_le earlier
  rw [sequence, ← List.cons_append, List.getD_append _ _ _ _ inside]
  rfl

theorem sequence_snoc_last (put : List (BitVec 8)) (c : BitVec 8) :
    sequence (put ++ [c]) (put.length + 1) = c := by
  simp [sequence]

/-- The bytes at the positions from `low` up to `high`. -/
def stretch (put : List (BitVec 8)) (low high : Nat) : List (BitVec 8) :=
  ((0 :: put).take high).drop low

theorem stretch_self (put : List (BitVec 8)) (low : Nat) :
    stretch put low low = [] :=
  List.drop_eq_nil_of_le (List.length_take_le _ _)

theorem stretch_snoc {put : List (BitVec 8)} {low high : Nat}
    (ordered : low ≤ high) (inside : high ≤ put.length) :
    stretch put low (high + 1) = stretch put low high ++ [sequence put high] := by
  have bound : high < (0 :: put).length := Nat.lt_succ_of_le inside
  have whole : low ≤ ((0 :: put).take high).length := by
    rw [List.length_take]
    omega
  rw [stretch, List.take_succ_eq_append_getElem bound,
    List.drop_append_of_le_length whole, sequence,
    List.getD_eq_getElem _ _ bound, stretch]

theorem stretch_append {put : List (BitVec 8)} {low high : Nat}
    (inside : high ≤ put.length + 1) (c : BitVec 8) :
    stretch (put ++ [c]) low high = stretch put low high := by
  rw [stretch, ← List.cons_append, List.take_append_of_le_length inside, stretch]

/-! ## The representation -/

namespace Console

variable {σ : Type u}

/-- The ring holds the sequence from position `first` on. -/
structure Stored (console : Console σ) (first : Nat) : Prop where
  putIdx : console.putIdx = console.put.length % bufSize
  getIdx : console.getIdx = first % bufSize
  first_le : first ≤ console.put.length
  window : Ring.Window bufSize console.uartEarlyBuf (sequence console.put) first
    (console.put.length + 1)

/-- The part of the state the representation is about. -/
def ring (console : Console σ) :
    Memory (BitVec 8) × Nat × Nat × List (BitVec 8) :=
  (console.uartEarlyBuf, console.putIdx, console.getIdx, console.put)

theorem Stored.frame {console console' : Console σ} {first : Nat}
    (stored : Stored console first) (same : console'.ring = console.ring) :
    Stored console' first := by
  simp only [ring, Prod.mk.injEq] at same
  obtain ⟨cells, putIdx, getIdx, put⟩ := same
  constructor
  · rw [putIdx, put]
    exact stored.putIdx
  · rw [getIdx]
    exact stored.getIdx
  · rw [put]
    exact stored.first_le
  · rw [cells, put]
    exact stored.window

theorem advance_mod (position : Nat) :
    advance (position % bufSize) = (position + 1) % bufSize :=
  Nat.mod_add_mod position bufSize 1

/-- A full ring drops its oldest entry for a new one. -/
theorem Stored.store {console : Console σ} {first : Nat}
    (stored : Stored console first) (c : BitVec 8) :
    Stored (console.store c) (max first (console.put.length + 2 - bufSize)) := by
  have size : bufSize = 4096 := rfl
  have inside := stored.first_le
  have fits := stored.window.fits
  have slot : advance console.putIdx = (console.put.length + 1) % bufSize := by
    rw [stored.putIdx, advance_mod]
  have length : (console.store c).put.length = console.put.length + 1 :=
    List.length_append
  constructor
  · rw [length]
    exact slot
  · change (if advance console.putIdx = console.getIdx then _ else _) = _
    rw [slot, stored.getIdx]
    by_cases full : console.put.length + 1 = first + bufSize
    · rw [if_pos (by rw [full, Ring.slot_add_size]), advance_mod]
      have next : max first (console.put.length + 2 - bufSize) = first + 1 := by
        omega
      rw [next]
    · have apart := Ring.slot_ne (by omega : first < console.put.length + 1)
        (by omega : console.put.length + 1 < first + bufSize)
      rw [if_neg (Ne.symm apart)]
      have same : max first (console.put.length + 2 - bufSize) = first := by omega
      rw [same]
  · rw [length]
    omega
  · rw [length]
    have renamed := stored.window.congr
      fun k _ before => (sequence_snoc_of_le (by omega) c).symm
    have pushed := renamed.push (Nat.le_max_left first
      (console.put.length + 2 - bufSize)) (by omega)
    rw [sequence_snoc_last, ← slot] at pushed
    exact pushed

/-- No base address so far: the newest entries wait in the ring. -/
structure Buffering (console : Console σ) : Prop where
  stored : Stored console (console.put.length + 1 - bufSize)
  buffered : console.buffered = console.put.length
  sent : console.sent = []

/-- Every entry but the newest has been sent. -/
structure Live (build : Build) (console : Console σ) : Prop where
  stored : Stored console console.put.length
  buffered : console.buffered < console.put.length
  sent : console.sent = stretch console.put (console.buffered + 2 - bufSize)
    console.put.length
  available : (console.ioBase build).isSome

/-- A character has been stored and the entries before `first` are sent. -/
structure Sending (console : Console σ) (first : Nat) : Prop where
  stored : Stored console first
  buffered : console.buffered < console.put.length
  low : console.buffered + 2 - bufSize ≤ first
  sent : console.sent = stretch console.put (console.buffered + 2 - bufSize) first

theorem Buffering.store {console : Console σ} (buffering : Buffering console)
    (c : BitVec 8) :
    Sending (console.store c) ((console.store c).put.length + 1 - bufSize) := by
  have size : bufSize = 4096 := rfl
  have length : (console.store c).put.length = console.put.length + 1 :=
    List.length_append
  have stored := buffering.stored.store c
  have first : max (console.put.length + 1 - bufSize)
      (console.put.length + 2 - bufSize) =
        (console.store c).put.length + 1 - bufSize := by omega
  rw [first] at stored
  have buffered : (console.store c).buffered = console.put.length :=
    buffering.buffered
  have low : (console.store c).buffered + 2 - bufSize =
      (console.store c).put.length + 1 - bufSize := by omega
  constructor
  · exact stored
  · omega
  · omega
  · rw [low, stretch_self]
    exact buffering.sent

theorem Live.store {build : Build} {console : Console σ} (live : Live build console)
    (c : BitVec 8) : Sending (console.store c) console.put.length := by
  have size : bufSize = 4096 := rfl
  have inside := live.buffered
  have stored := live.stored.store c
  have first : max console.put.length (console.put.length + 2 - bufSize) =
      console.put.length := by omega
  rw [first] at stored
  constructor
  · exact stored
  · exact Nat.lt_of_lt_of_le inside (by simp [Console.store])
  · change console.buffered + 2 - bufSize ≤ console.put.length
    omega
  · change console.sent = stretch (console.put ++ [c]) _ _
    rw [stretch_append (Nat.le_succ _)]
    exact live.sent

/-- The loop ends where the two indices meet, and they meet nowhere else. -/
theorem Sending.drained_iff {console : Console σ} {first : Nat}
    (sending : Sending console first) :
    console.drained = true ↔ first = console.put.length := by
  have inside := sending.stored.first_le
  have fits := sending.stored.window.fits
  rw [drained, beq_iff_eq, sending.stored.putIdx, sending.stored.getIdx]
  constructor
  · intro met
    by_contra apart
    exact Ring.slot_ne (by omega : first < console.put.length) (by omega) met.symm
  · intro same
    rw [same]

theorem Sending.live {build : Build} {console : Console σ}
    (sending : Sending console console.put.length)
    (available : (console.ioBase build).isSome) : Live build console where
  stored := sending.stored
  buffered := sending.buffered
  sent := sending.sent
  available := available

/-- The oldest entry is sent. -/
theorem Sending.send {console : Console σ} {first : Nat}
    (sending : Sending console first) (more : first < console.put.length)
    (device : σ) :
    Sending (skip { console with
      device := device
      sent := console.sent ++ [console.oldest] }) (first + 1) where
  stored := {
    putIdx := sending.stored.putIdx
    getIdx := by
      change advance console.getIdx = _
      rw [sending.stored.getIdx, advance_mod]
    first_le := more
    window := sending.stored.window.pop }
  buffered := sending.buffered
  low := Nat.le_succ_of_le sending.low
  sent := by
    have oldest : console.oldest = sequence console.put first := by
      rw [oldest, sending.stored.getIdx]
      exact sending.stored.window.holds first (Nat.le_refl _) (by omega)
    change console.sent ++ [console.oldest] =
      stretch console.put (console.buffered + 2 - bufSize) (first + 1)
    rw [stretch_snoc sending.low (Nat.le_of_lt more), oldest, sending.sent]

end Console

/-! ## The loops -/

variable {σ : Type u} (uart : Uart σ) (build : Build)

/-- Waiting for the UART changes nothing but the UART. -/
theorem waitThre_ends (baseAddr : BitVec 64) (bound : Nat) (console : Console σ) :
    Ends (waitThre uart build baseAddr bound) console
      (fun _ next => ∃ device, next = { console with device := device })
      (fun next => next.checkpoints = console.checkpoints) := by
  induction bound generalizing console with
  | zero => exact Exec.ends_stop rfl
  | succ bound ih =>
      let answer := uart.read (place build baseAddr uartRegisterLsr) console.device
      change Ends (if thre answer.1 then pure () else waitThre uart build baseAddr bound)
        { console with device := answer.2 } _ _
      by_cases empty : thre answer.1
      · rw [if_pos empty]
        exact Exec.ends_of_eq rfl ⟨answer.2, rfl⟩
      · rw [if_neg empty]
        exact ih { console with device := answer.2 }

/-- If the loop returns, everything in front of the newest character is sent. -/
theorem drain_ends (bound : Nat) (baseAddr : BitVec 64) (rounds : Nat)
    {console : Console σ} {first : Nat} (sending : console.Sending first)
    (available : (console.ioBase build).isSome) :
    Ends (drain uart build bound baseAddr rounds) console
      (fun _ final => final.Live build ∧ final.checkpoints = console.checkpoints)
      (fun final => final.checkpoints = console.checkpoints) := by
  induction rounds generalizing console first with
  | zero => exact Exec.ends_stop rfl
  | succ rounds ih =>
      change Ends (if console.drained = true then pure () else _) console _ _
      by_cases finished : console.drained = true
      · rw [if_pos finished]
        have met := sending.drained_iff.mp finished
        rw [met] at sending
        exact Exec.ends_of_eq rfl ⟨sending.live available, rfl⟩
      · rw [if_neg finished]
        have more : first < console.put.length :=
          Nat.lt_of_le_of_ne sending.stored.first_le
            fun met => finished (sending.drained_iff.mpr met)
        apply Exec.Ends.bind (waitThre_ends uart build baseAddr bound console)
        rintro _ _ ⟨device, rfl⟩
        exact ih (sending.send more _) available

/-! ## Runs -/

/-- The bytes sent are those of the sequence, short of its newest entry. -/
structure Checkpoint.Shifted (checkpoint : Checkpoint) : Prop where
  buffered : checkpoint.buffered < checkpoint.put.length
  sent : checkpoint.sent = stretch checkpoint.put (checkpoint.buffered + 2 - bufSize)
    checkpoint.put.length

namespace Console

/-- What has been recorded so far is shifted. -/
def Checked (console : Console σ) : Prop :=
  ∀ checkpoint ∈ console.checkpoints, checkpoint.Shifted

/-- Between two calls. -/
def Coherent (console : Console σ) : Prop :=
  (Buffering console ∨ Live build console) ∧ Checked console

variable {build}

theorem Live.noteSent {console : Console σ} (live : Live build console)
    (checked : Checked console) : Coherent build console.noteSent := by
  constructor
  · right
    exact ⟨live.stored.frame rfl, live.buffered, live.sent, live.available⟩
  · exact forall_mem_snoc.mpr ⟨checked, live.buffered, live.sent⟩

theorem Buffering.noteBuffered {console : Console σ} (buffering : Buffering console)
    (c : BitVec 8) : Buffering (console.store c).noteBuffered where
  stored := (buffering.store c).stored.frame rfl
  buffered := rfl
  sent := buffering.sent

/-- Storing a character leaves the console ready to send, or waiting for a base
address. -/
theorem Coherent.store {console : Console σ} (coherent : Coherent build console)
    (c : BitVec 8) :
    (∃ first, Sending (console.store c) first) ∧
      (console.ioBase build = none → Buffering (console.store c).noteBuffered) := by
  rcases coherent.1 with buffering | live
  · exact ⟨⟨_, buffering.store c⟩, fun _ => buffering.noteBuffered c⟩
  · constructor
    · exact ⟨_, live.store c⟩
    · intro missing
      have available := live.available
      rw [missing] at available
      exact absurd available Bool.false_ne_true

theorem Coherent.setBase {console : Console σ} (coherent : Coherent .mmio console)
    {base : BitVec 64} (nonzero : base ≠ 0) :
    Coherent .mmio (console.setBase base) := by
  refine ⟨?_, coherent.2⟩
  rcases coherent.1 with buffering | live
  · left
    exact ⟨buffering.stored.frame rfl, buffering.buffered, buffering.sent⟩
  · right
    refine ⟨live.stored.frame rfl, live.buffered, live.sent, ?_⟩
    change Option.isSome (if base = 0 then none else some base) = true
    rw [if_neg nonzero]
    rfl

end Console

/-- `uart_putc` when the build has a UART. -/
theorem putc_ends {build : Build} (bound : Nat) (c : BitVec 8) {console : Console σ}
    (coherent : console.Coherent build) :
    Ends (do
        Exec.modify (Console.store c)
        let base ← Exec.gets (Console.ioBase build)
        match base with
        | none => Exec.modify Console.noteBuffered
        | some base => do
            drain uart build bound base bound
            Exec.modify Console.noteSent) console
      (fun _ next => next.Coherent build) Console.Checked := by
  obtain ⟨⟨first, sending⟩, waiting⟩ := coherent.store c
  have same : (console.store c).ioBase build = console.ioBase build := rfl
  change Ends (match (console.store c).ioBase build with
    | none => Exec.modify Console.noteBuffered
    | some base => _) (console.store c) _ _
  rw [same]
  cases base : console.ioBase build with
  | none => exact Exec.ends_of_eq rfl ⟨Or.inl (waiting base), coherent.2⟩
  | some address =>
      have available : ((console.store c).ioBase build).isSome := by
        rw [same, base]
        rfl
      have stopped (next : Console σ) (unchanged : next.checkpoints = console.checkpoints) :
          next.Checked := by
        rw [Console.Checked, unchanged]
        exact coherent.2
      have drained := (drain_ends uart build bound address bound sending available).mono
        (fun _ _ ended => ended) stopped
      apply drained.bind
      rintro _ next ⟨live, unchanged⟩
      exact Exec.ends_of_eq rfl (live.noteSent (stopped next unchanged))

theorem uartPutc_ends (bound : Nat) (c : BitVec 8) {console : Console σ}
    (coherent : console.Coherent build) :
    Ends (uartPutc uart build bound c) console
      (fun _ next => next.Coherent build) Console.Checked := by
  cases build with
  | mmio => exact putc_ends uart bound c coherent
  | ioPort base => exact putc_ends uart bound c coherent
  | silent => exact Exec.ends_of_eq rfl coherent

theorem platformDputc_ends (bound : Nat) (havingPrintCb : Int) (c : BitVec 8)
    {console : Console σ} (coherent : console.Coherent build) :
    Ends (platformDputc uart build bound havingPrintCb c) console
      (fun _ next => next.Coherent build) Console.Checked := by
  rw [platformDputc]
  by_cases registered : havingPrintCb ≠ 0
  · rw [if_pos registered]
    exact Exec.ends_of_eq rfl coherent
  · rw [if_neg registered]
    by_cases newline : c = 0x0A
    · rw [if_pos newline]
      apply (uartPutc_ends uart build bound 0x0D coherent).bind
      intro _ next coherent
      exact uartPutc_ends uart build bound c coherent
    · rw [if_neg newline]
      exact uartPutc_ends uart build bound c coherent

/-- The address `init_uart` computes is not null. -/
theorem mapped_ne_zero (bar : BitVec 32) :
    kernelAspaceBase + (bar &&& ~~~0xF).setWidth 64 ≠ 0 := by
  intro zero
  have sum := congrArg BitVec.toNat zero
  have small := (bar &&& ~~~0xF).isLt
  have base : kernelAspaceBase.toNat = 0xFFFFFF8000000000 := rfl
  have null : (0 : BitVec 64).toNat = 0 := rfl
  rw [BitVec.toNat_add, BitVec.toNat_setWidth, base, null] at sum
  omega

theorem perform_ends (bound : Nat) (event : Event) {console : Console σ}
    (coherent : console.Coherent build) :
    Ends (perform uart build bound event) console
      (fun _ next => next.Coherent build) Console.Checked := by
  cases event with
  | dputc c => exact platformDputc_ends uart build bound 0 c coherent
  | init bar =>
      cases build with
      | mmio =>
          exact uartPutc_ends uart .mmio bound 0x0A
            (coherent.setBase (mapped_ne_zero bar))
      | ioPort base => exact Exec.ends_of_eq rfl coherent
      | silent => exact Exec.ends_of_eq rfl coherent
  | remap mapped =>
      cases build with
      | mmio =>
          cases mapped with
          | none => exact Exec.ends_of_eq rfl coherent
          | some address =>
              exact Exec.ends_of_eq rfl (coherent.setBase address.property)
      | ioPort base => exact Exec.ends_of_eq rfl coherent
      | silent => exact Exec.ends_of_eq rfl coherent

theorem performAll_ends (bound : Nat) (events : List Event) {console : Console σ}
    (coherent : console.Coherent build) :
    Ends (performAll uart build bound events) console
      (fun _ next => next.Coherent build) Console.Checked := by
  induction events generalizing console with
  | nil => exact Exec.ends_of_eq rfl coherent
  | cons event rest ih =>
      apply (perform_ends uart build bound event coherent).bind
      intro _ next coherent
      exact ih coherent

theorem Console.start_coherent (device : σ) :
    (Console.start device).Coherent build := by
  constructor
  · left
    have window : Ring.Window bufSize (fun _ => 0) (sequence []) 0 1 :=
      ⟨by simp [bufSize], fun k _ before => by rw [Nat.lt_one_iff.mp before]; rfl⟩
    have stored : (Console.start device).Stored 0 :=
      ⟨rfl, rfl, Nat.le_refl 0, window⟩
    have low : (Console.start device).put.length + 1 - bufSize = 0 := by
      simp [Console.start, bufSize]
    exact ⟨by rw [low]; exact stored, rfl, rfl⟩
  · intro checkpoint member
    cases member

/-- Every call that found the base address has sent everything but the newest
character, one byte late. -/
theorem performAll_shifted (bound : Nat) (device : σ) (events : List Event) :
    (performAll uart build bound events (Console.start device)).2.Checked := by
  have ends := performAll_ends uart build bound events
    (Console.start_coherent build device)
  rw [Ends] at ends
  rcases outcome : performAll uart build bound events (Console.start device) with
    ⟨reason | value, final⟩
  · rw [outcome] at ends
    exact ends
  · rw [outcome] at ends
    exact ends.2

/-! ## When the shift cannot be seen -/

/-- Exactly the characters put, except that the oldest ones may be missing when
more than the ring can keep were buffered; the newest one is there. -/
def Checkpoint.Faithful (checkpoint : Checkpoint) : Prop :=
  ∃ dropped, checkpoint.sent = checkpoint.put.drop dropped ∧
    dropped < checkpoint.put.length ∧
    (dropped ≠ 0 → bufSize - 1 < checkpoint.buffered)

/-- The characters that decide what is sent cannot be told apart: null bytes only
if the ring did not fill up, and equal ones from the oldest one kept if it did. -/
def Checkpoint.Uniform (checkpoint : Checkpoint) : Prop :=
  (checkpoint.buffered + 1 < bufSize ∧ ∀ c ∈ checkpoint.put, c = 0) ∨
    (bufSize ≤ checkpoint.buffered ∧
      ∃ c, ∀ c' ∈ checkpoint.put.drop (checkpoint.buffered + 1 - bufSize), c' = c)

theorem length_stretch (put : List (BitVec 8)) (low : Nat) :
    (stretch put low put.length).length = put.length - low := by
  simp [stretch]

/-- The shifted bytes are the right ones exactly when neighbours agree. -/
theorem stretch_eq_drop_iff (put : List (BitVec 8)) (low : Nat) :
    stretch put low put.length = put.drop low ↔
      ∀ k, low ≤ k → k < put.length → sequence put k = sequence put (k + 1) := by
  have sent (i : Nat) (inside : low + i < put.length) :
      (stretch put low put.length)[i]? = some (sequence put (low + i)) := by
    have bound : low + i < (0 :: put).length := Nat.lt_succ_of_lt inside
    rw [stretch, List.getElem?_drop, List.getElem?_take_of_lt inside,
      List.getElem?_eq_getElem bound, sequence, List.getD_eq_getElem _ _ bound]
  have kept (i : Nat) (inside : low + i < put.length) :
      (put.drop low)[i]? = some (sequence put (low + i + 1)) := by
    rw [List.getElem?_drop, List.getElem?_eq_getElem inside, sequence,
      List.getD_cons_succ, List.getD_eq_getElem _ _ inside]
  constructor
  · intro same k lower upper
    obtain ⟨i, rfl⟩ := Nat.exists_eq_add_of_le lower
    have entry := sent i upper
    rw [same, kept i upper] at entry
    exact (Option.some.inj entry).symm
  · intro neighbours
    apply List.ext_getElem?
    intro i
    by_cases inside : low + i < put.length
    · rw [sent i inside, kept i inside,
        neighbours (low + i) (Nat.le_add_right low i) inside]
    · have shifted : (stretch put low put.length).length ≤ i := by
        rw [length_stretch]
        omega
      have dropped : (put.drop low).length ≤ i := by
        rw [List.length_drop]
        omega
      rw [List.getElem?_eq_none shifted, List.getElem?_eq_none dropped]

/-- Neighbours agree from a position on exactly when all entries from there on
are equal. -/
theorem neighbours_iff (put : List (BitVec 8)) (low : Nat) :
    (∀ k, low ≤ k → k < put.length → sequence put k = sequence put (k + 1)) ↔
      ∀ k, low ≤ k → k ≤ put.length → sequence put k = sequence put low := by
  constructor
  · intro neighbours k lower upper
    induction lower with
    | refl => rfl
    | @step k lower ih =>
        rw [← neighbours k lower upper]
        exact ih (Nat.le_of_succ_le upper)
  · intro equal k lower upper
    rw [equal k lower (Nat.le_of_lt upper), equal (k + 1) (by omega) upper]

/-- The entries behind position `low` are the characters dropped up to there. -/
theorem forall_drop_iff (put : List (BitVec 8)) (low : Nat) (c : BitVec 8) :
    (∀ c' ∈ put.drop low, c' = c) ↔
      ∀ k, low < k → k ≤ put.length → sequence put k = c := by
  constructor
  · intro equal k lower upper
    obtain ⟨i, rfl⟩ := Nat.exists_eq_add_of_lt lower
    have inside : low + i < put.length := upper
    rw [sequence, List.getD_cons_succ, List.getD_eq_getElem _ _ inside]
    apply equal
    rw [List.mem_iff_getElem]
    exact ⟨i, by rw [List.length_drop]; omega, List.getElem_drop⟩
  · intro equal c' member
    obtain ⟨i, inside, rfl⟩ := List.mem_iff_getElem.mp member
    rw [List.length_drop] at inside
    have entry := equal (low + i + 1) (by omega) (by omega)
    rw [sequence, List.getD_cons_succ, List.getD_eq_getElem _ _ (by omega)] at entry
    rw [List.getElem_drop]
    exact entry

/-- How many characters are missing is settled by the lengths. -/
theorem dropped_eq {checkpoint : Checkpoint} (shifted : checkpoint.Shifted)
    {dropped : Nat} (sent : checkpoint.sent = checkpoint.put.drop dropped)
    (some : dropped < checkpoint.put.length) :
    dropped = checkpoint.buffered + 2 - bufSize := by
  have size : bufSize = 4096 := rfl
  have before := shifted.buffered
  have lengths := congrArg List.length sent
  rw [shifted.sent, length_stretch, List.length_drop] at lengths
  omega

theorem faithful_iff_uniform {checkpoint : Checkpoint}
    (shifted : checkpoint.Shifted) : checkpoint.Faithful ↔ checkpoint.Uniform := by
  have size : bufSize = 4096 := rfl
  have before := shifted.buffered
  have agree := (stretch_eq_drop_iff checkpoint.put
    (checkpoint.buffered + 2 - bufSize)).trans (neighbours_iff _ _)
  constructor
  · rintro ⟨dropped, sent, some, overflow⟩
    have amount := dropped_eq shifted sent some
    rw [amount, shifted.sent] at sent
    have equal := agree.mp sent
    by_cases room : checkpoint.buffered + 1 < bufSize
    · left
      refine ⟨room, ?_⟩
      have none : checkpoint.buffered + 2 - bufSize = 0 := by omega
      rw [none] at equal
      have zero := (forall_drop_iff checkpoint.put 0 0).mpr
        fun k lower upper => equal k (Nat.zero_le k) upper
      exact zero
    · right
      have full := overflow (by omega)
      refine ⟨by omega, sequence checkpoint.put (checkpoint.buffered + 2 - bufSize), ?_⟩
      apply (forall_drop_iff _ _ _).mpr
      intro k lower upper
      exact equal k (by omega) upper
  · intro uniform
    refine ⟨checkpoint.buffered + 2 - bufSize, ?_, by omega, ?_⟩
    · rw [shifted.sent]
      apply agree.mpr
      intro k lower upper
      rcases uniform with ⟨room, zero⟩ | ⟨full, c, equal⟩
      · have none : checkpoint.buffered + 2 - bufSize = 0 := by omega
        have entries := (forall_drop_iff checkpoint.put 0 0).mp zero
        rw [none]
        cases k with
        | zero => rfl
        | succ k => exact entries (k + 1) (Nat.succ_pos k) upper
      · have entries := (forall_drop_iff _ _ _).mp equal
        rw [entries k (by omega) upper, entries _ (by omega) (by omega)]
    · intro overflow
      rcases uniform with ⟨room, _⟩ | ⟨full, _⟩
      · exact absurd (by omega) overflow
      · omega

/-- Whatever the UART, the build, the events and the point at which the base
address becomes available: in all calls that find it what is sent is what was put
exactly when the characters cannot be told apart. -/
theorem sent_faithful_iff (bound : Nat) (device : σ) (events : List Event) :
    (∀ checkpoint ∈ (performAll uart build bound events
        (Console.start device)).2.checkpoints, checkpoint.Faithful) ↔
      ∀ checkpoint ∈ (performAll uart build bound events
        (Console.start device)).2.checkpoints, checkpoint.Uniform := by
  have checked := performAll_shifted uart build bound device events
  constructor
  · intro faithful checkpoint member
    exact (faithful_iff_uniform (checked checkpoint member)).mp
      (faithful checkpoint member)
  · intro uniform checkpoint member
    exact (faithful_iff_uniform (checked checkpoint member)).mpr
      (uniform checkpoint member)

/-- A UART that is always ready. -/
def readyUart : Uart Unit where
  read _ device := (0x20, device)
  write _ _ device := device

/-- A letter put before the UART is mapped and the newline that `init_uart` puts:
a null byte and the letter are sent. -/
theorem newest_character_not_sent :
    ¬ ∀ checkpoint ∈ (performAll readyUart .mmio 3 [.dputc 0x41, .init 0xFE000000]
        (Console.start ())).2.checkpoints, checkpoint.Faithful := by
  intro faithful
  have recorded : (performAll readyUart .mmio 3 [.dputc 0x41, .init 0xFE000000]
      (Console.start ())).2.checkpoints = [⟨[0x41, 0x0A], 1, [0, 0x41]⟩] := rfl
  rw [recorded] at faithful
  obtain ⟨dropped, sent, _, overflow⟩ := faithful _ (List.mem_singleton_self _)
  by_cases none : dropped = 0
  · rw [none] at sent
    exact absurd sent (by decide)
  · exact absurd (overflow none) (by decide)

end SandPlatform.Debug
