import Mathlib.Logic.Function.Iterate
import SandPlatform.Boot.Entries
import SandPlatform.Foundation.LittleEndian
import SandPlatform.Hardware.Device

/-!
# Clearing the .bss section

The loop of `_start` clears eight bytes and goes on by four.  The number of its
rounds is right for the four, so the last one also clears the four bytes behind the
section.
-/

namespace SandPlatform.Boot

open SandPlatform.Foundation
open SandPlatform.Hardware

/-! ## The loop -/

/-- Where the section is, as the linker script aligns it. -/
structure BssLayout where
  bssStart : BitVec 64
  bssEnd : BitVec 64
  pageAligned : bssStart.toNat % 4096 = 0
  aligned : bssEnd.toNat % 8 = 0
  above : bssStart.toNat < bssEnd.toNat

/-- The registers of the loop, and memory by its addresses. -/
structure BssState where
  rax : BitVec 64
  rcx : BitVec 64
  memory : Memory (BitVec 8)

namespace BssState

/-- `lea`, `lea`, `sub` and `shr`. -/
def enter (layout : BssLayout) (state : BssState) : BssState :=
  { state with
    rax := layout.bssStart
    rcx := (layout.bssEnd - layout.bssStart) >>> 2 }

/-- `movq` and `add`, and the part of `loop` that counts down. -/
def round (state : BssState) : BssState where
  rax := state.rax + 4
  rcx := state.rcx - 1
  memory := state.memory.store state.rax.toNat 8 (0 : BitVec 64)

end BssState

/-- `loop` goes back until the count is zero. -/
def clearLoop : Nat → Exec Stop BssState Unit
  | 0 => Exec.stop .running
  | bound + 1 => do
      Exec.modify BssState.round
      let rcx ← Exec.gets BssState.rcx
      if rcx ≠ 0 then
        clearLoop bound
      else
        pure ()

/-- The part of `_start` that zeroes the section. -/
def clearBss (layout : BssLayout) (bound : Nat) : Exec Stop BssState Unit := do
  Exec.modify (BssState.enter layout)
  clearLoop bound

/-- The section is zero, and everything else is as it was. -/
structure BssLayout.ClearsExactly (layout : BssLayout)
    (before after : Memory (BitVec 8)) : Prop where
  zeroed : ∀ i, layout.bssStart.toNat ≤ i → i < layout.bssEnd.toNat → after i = 0
  framed : ∀ i, ¬ (layout.bssStart.toNat ≤ i ∧ i < layout.bssEnd.toNat) →
    after i = before i

/-! ## Rounds -/

namespace BssState

variable (state : BssState)

theorem rax_iterate (rounds : Nat) :
    (round^[rounds] state).rax = state.rax + .ofNat 64 (4 * rounds) := by
  induction rounds with
  | zero => simp
  | succ rounds ih =>
      rw [Function.iterate_succ_apply', round, ih, Nat.mul_succ, BitVec.ofNat_add,
        BitVec.add_assoc]
      rfl

/-- Each store begins inside the one before it, so that there is no gap. -/
theorem memory_iterate (rounds : Nat)
    (fits : state.rax.toNat + 4 * rounds + 8 ≤ 2 ^ 64) :
    (round^[rounds + 1] state).memory =
      state.memory.fill state.rax.toNat (4 * rounds + 8) 0 := by
  induction rounds with
  | zero => exact Memory.store_zero _ _
  | succ rounds ih =>
      have place : (round^[rounds + 1] state).rax.toNat =
          state.rax.toNat + 4 * (rounds + 1) := by
        rw [rax_iterate, BitVec.toNat_add, BitVec.toNat_ofNat]
        omega
      rw [Function.iterate_succ_apply', round, place, ih (by omega), Memory.store_zero,
        Memory.fill_fill (by omega) (by omega) (by omega), Nat.add_sub_cancel_left]

end BssState

theorem clearLoop_succ (bound : Nat) (state : BssState) :
    clearLoop (bound + 1) state =
      if state.round.rcx ≠ 0 then clearLoop bound state.round
      else (.ok (), state.round) := by
  rw [clearLoop, Exec.modify_bind_apply, Exec.gets_bind_apply]
  by_cases more : state.round.rcx ≠ 0
  · rw [if_pos more, if_pos more]
  · rw [if_neg more, if_neg more]
    rfl

theorem BssState.rcx_round {state : BssState} {rounds : Nat}
    (counted : state.rcx.toNat = rounds + 1) : state.round.rcx.toNat = rounds := by
  have one : (1 : BitVec 64).toNat = 1 := rfl
  rw [round, BitVec.toNat_sub, one]
  omega

/-- The loop makes as many rounds as are counted. -/
theorem clearLoop_eq {state : BssState} {rounds bound : Nat}
    (counted : state.rcx.toNat = rounds + 1) (enough : rounds < bound) :
    clearLoop bound state = (.ok (), BssState.round^[rounds + 1] state) := by
  have left := BssState.rcx_round counted
  obtain ⟨bound, rfl⟩ := Nat.exists_eq_add_one.mpr (Nat.zero_lt_of_lt enough)
  rw [clearLoop_succ]
  induction rounds generalizing state bound with
  | zero =>
      have last : ¬ state.round.rcx ≠ 0 := not_not.mpr (BitVec.eq_of_toNat_eq left)
      rw [if_neg last]
      rfl
  | succ rounds ih =>
      have more : state.round.rcx ≠ 0 := by
        intro zero
        rw [zero] at left
        cases left
      obtain ⟨bound, rfl⟩ :=
        Nat.exists_eq_add_one.mpr (Nat.zero_lt_of_lt (Nat.lt_of_succ_lt_succ enough))
      rw [if_pos more, clearLoop_succ,
        ih left (BssState.rcx_round left) bound (Nat.lt_of_succ_lt_succ enough)]
      rfl

/-! ## The section -/

section Section

variable (layout : BssLayout) (state : BssState)

/-- A quarter of the bytes of the section is counted, and the loop comes to its end
with four bytes too many cleared. -/
theorem clearBss_achieves :
    Exec.Achieves (clearBss layout) state fun _ final =>
      final.memory = state.memory.fill layout.bssStart.toNat
        (layout.bssEnd.toNat - layout.bssStart.toNat + 4) 0 := by
  have pageAligned := layout.pageAligned
  have aligned := layout.aligned
  have above := layout.above
  have atEnd := layout.bssEnd.isLt
  obtain ⟨rounds, length⟩ : ∃ rounds,
      layout.bssEnd.toNat - layout.bssStart.toNat = 4 * (rounds + 1) :=
    ⟨(layout.bssEnd.toNat - layout.bssStart.toNat) / 4 - 1, by omega⟩
  have counted : (state.enter layout).rcx.toNat = rounds + 1 := by
    rw [BssState.enter, BitVec.toNat_ushiftRight, Nat.shiftRight_eq_div_pow,
      BitVec.toNat_sub]
    omega
  have atStart : (state.enter layout).rax = layout.bssStart := rfl
  have cleared := (state.enter layout).memory_iterate rounds
    (by rw [atStart]; omega)
  refine ⟨(), BssState.round^[rounds + 1] (state.enter layout), ?_, rounds + 1, ?_⟩
  · rw [length]
    exact cleared
  · intro bound enough
    rw [clearBss, Exec.modify_bind_apply]
    exact clearLoop_eq counted enough

/-- Whatever run is looked at, memory is the same in the end. -/
theorem clearBss_achieves_iff (post : Memory (BitVec 8) → Prop) :
    Exec.Achieves (clearBss layout) state (fun _ final => post final.memory) ↔
      post (state.memory.fill layout.bssStart.toNat
        (layout.bssEnd.toNat - layout.bssStart.toNat + 4) 0) := by
  obtain ⟨_, final, memory, bound, returns⟩ := clearBss_achieves layout state
  constructor
  · rintro ⟨_, final', holds, bound', returns'⟩
    have first := returns (max bound bound') (Nat.le_max_left _ _)
    have second := returns' (max bound bound') (Nat.le_max_right _ _)
    rw [first] at second
    cases second
    rw [← memory]
    exact holds
  · intro holds
    rw [← memory] at holds
    exact ⟨(), final, holds, bound, returns⟩

variable {layout}

theorem clearsExactly_fill_iff {memory : Memory (BitVec 8)} :
    layout.ClearsExactly memory (memory.fill layout.bssStart.toNat
        (layout.bssEnd.toNat - layout.bssStart.toNat + 4) 0) ↔
      ∀ i < 4, memory (layout.bssEnd.toNat + i) = 0 := by
  have above := layout.above
  constructor
  · intro clears i inside
    have kept := clears.framed (layout.bssEnd.toNat + i) (by omega)
    rw [Memory.fill_apply_of_mem (by omega) (by omega)] at kept
    exact kept.symm
  · intro behind
    constructor
    · intro i lower upper
      exact Memory.fill_apply_of_mem lower (by omega)
    · intro i outside
      by_cases past : layout.bssEnd.toNat ≤ i ∧ i < layout.bssEnd.toNat + 4
      · have zero := behind (i - layout.bssEnd.toNat) (by omega)
        rw [Nat.add_sub_cancel' past.1] at zero
        rw [zero, Memory.fill_apply_of_mem (by omega) (by omega)]
      · exact Memory.fill_apply_of_not_mem (by omega)

variable (layout)

/-- The loop comes to its end, clears the section and changes nothing else exactly if
the four bytes behind the section are zero already. -/
theorem clearBss_exact_iff :
    Exec.Achieves (clearBss layout) state (fun _ final =>
        layout.ClearsExactly state.memory final.memory) ↔
      ∀ i < 4, state.memory (layout.bssEnd.toNat + i) = 0 := by
  rw [clearBss_achieves_iff, clearsExactly_fill_iff]

end Section

/-- A section of a page. -/
def onePage : BssLayout where
  bssStart := 0x1000
  bssEnd := 0x2000
  pageAligned := by decide
  aligned := by decide
  above := by decide

/-- Memory full of ones. -/
def filled : BssState where
  rax := 0
  rcx := 0
  memory := fun _ => 0xFF

/-- The first bytes of the next page are lost. -/
theorem next_page_cleared :
    ¬ Exec.Achieves (clearBss onePage) filled fun _ final =>
      onePage.ClearsExactly filled.memory final.memory := by
  rw [clearBss_achieves_iff onePage filled (onePage.ClearsExactly filled.memory),
    clearsExactly_fill_iff]
  intro zero
  exact absurd (zero 0 (by decide)) (by decide)

/-! ## The page tables -/

/-- The tables are in the section. -/
structure InBss (boot : BootLayout) (layout : BssLayout) : Prop where
  lower : ∀ table, layout.bssStart.toNat ≤ (boot.address table).toNat
  upper : ∀ table,
    (boot.address table).toNat + 4096 * table.pages ≤ layout.bssEnd.toNat

/-- The quadword at an address. -/
def quadword (memory : Memory (BitVec 8)) (address : BitVec 64) : BitVec 64 :=
  .ofNat 64 (memory.load address.toNat 8)

/-- The macros find the tables zero. -/
theorem clearBss_zeroes_tables {boot : BootLayout} {layout : BssLayout}
    (inBss : InBss boot layout) (state : BssState) :
    Exec.Achieves (clearBss layout) state fun _ final =>
      ∃ zeroed : ZeroedMemory boot, zeroed.words = quadword final.memory := by
  refine (clearBss_achieves layout state).mono fun _ final cleared => ?_
  refine ⟨⟨quadword final.memory, fun table index inside => ?_⟩, rfl⟩
  have lower := inBss.lower table
  have upper := inBss.upper table
  rw [boot.toNat_address] at lower upper
  have zero : final.memory.load (boot.slot table index).toNat 8 = 0 := by
    refine Memory.load_of_zero fun i within => ?_
    rw [cleared, boot.toNat_slot inside]
    exact Memory.fill_apply_of_mem (by omega) (by omega)
  rw [quadword, zero]
  rfl

end SandPlatform.Boot
