import SandPlatform.Interrupt.Dispatch
import SandPlatform.Smc.Entry
import Mathlib.Order.Bounds.Basic

/-!
# How the non-secure world learns which interrupts are registered

`smc_intc_get_next_irq` is an iterator without a state of its own: the non-secure
world passes the vector to start from.  A call is compared with the list of the
listed vectors from there on, and a sequence of calls walks down that list.
-/

namespace SandPlatform.Interrupt

open SandPlatform.Foundation
open SandPlatform.Hardware
open SandPlatform.Timer
open SandPlatform.Smc

variable {σ : Type}

/-! ## The iterator -/

/-- `int_handler_table[vector]`, of any index. -/
def lookupAt (vector : Nat) : Exec Stop (Machine σ) (IntHandlerStruct σ) where
  run machine := (.ok (machine.intHandlerTable vector), machine.note (.lookup vector))

/-- The loop of `smc_intc_get_next_irq`. -/
def nextIrqFrom (vector : Nat) : Exec Stop (Machine σ) Int :=
  if vector < intVectors then do
    let entry ← lookupAt vector
    if entry.handler.isSome ∧ intResch.toNat ≠ vector then
      pure vector
    else
      nextIrqFrom (vector + 1)
  else
    pure (-1)
termination_by intVectors - vector

/-- `smc_intc_get_next_irq`, from the first parameter of the call on. -/
def smcIntcGetNextIrq (args : Smc32Args) : Exec Stop (Machine σ) Int :=
  nextIrqFrom args.params[0].toNat

/-- The arguments of a call that starts from the given vector. -/
def startingAt (args : Smc32Args) (start : BitVec 32) : Smc32Args :=
  { args with params := args.params.set 0 start }

@[simp]
theorem startingAt_param (args : Smc32Args) (start : BitVec 32) :
    (startingAt args start).params[0] = start := by
  simp [startingAt]

/-- The non-secure world asks for at most `calls` vectors, each time from the
previous answer plus one, until there is none. -/
def askForIrqs : Nat → Smc32Args → Exec Stop (Machine σ) (List Int)
  | 0, _ => pure []
  | calls + 1, args => do
      let answer ← smcIntcGetNextIrq args
      if answer < 0 then
        pure [answer]
      else do
        let rest ← askForIrqs calls (startingAt args (BitVec.ofInt 32 (answer + 1)))
        pure (answer :: rest)

/-! ## The listed vectors -/

namespace Machine

/-- The vector has a handler and is not the one of the rescheduling interrupt. -/
def Lists (machine : Machine σ) (vector : Nat) : Prop :=
  (machine.intHandlerTable vector).handler.isSome ∧ intResch.toNat ≠ vector

instance (machine : Machine σ) (vector : Nat) : Decidable (machine.Lists vector) :=
  inferInstanceAs (Decidable (_ ∧ _))

/-- The listed vectors of the table from `start` on. -/
def listedFrom (machine : Machine σ) (start : Nat) : List Nat :=
  (List.range' start (intVectors - start)).filter fun vector => machine.Lists vector

variable (machine : Machine σ)

@[simp]
theorem mem_listedFrom {start vector : Nat} :
    vector ∈ machine.listedFrom start ↔
      start ≤ vector ∧ vector < intVectors ∧ machine.Lists vector := by
  have within : start ≤ vector ∧ vector < start + (intVectors - start) ↔
      start ≤ vector ∧ vector < intVectors := by omega
  simp [listedFrom, List.mem_range'_1, within, and_assoc]

theorem listedFrom_sorted (start : Nat) :
    (machine.listedFrom start).Pairwise (· < ·) :=
  List.Pairwise.filter _ List.pairwise_lt_range'

theorem listedFrom_behind {start : Nat} (behind : intVectors ≤ start) :
    machine.listedFrom start = [] := by
  simp [listedFrom, Nat.sub_eq_zero_of_le behind]

theorem listedFrom_eq_cons {start : Nat} (inside : start < intVectors)
    (listed : machine.Lists start) :
    machine.listedFrom start = start :: machine.listedFrom (start + 1) := by
  have left : intVectors - start = intVectors - (start + 1) + 1 := by omega
  simp [listedFrom, left, List.range'_succ, listed]

theorem listedFrom_skip {start : Nat} (inside : start < intVectors)
    (unlisted : ¬machine.Lists start) :
    machine.listedFrom start = machine.listedFrom (start + 1) := by
  have left : intVectors - start = intVectors - (start + 1) + 1 := by omega
  simp [listedFrom, left, List.range'_succ, unlisted]

/-- A record of what has been looked up changes no handler. -/
@[simp]
theorem listedFrom_record (start : Nat) (events : List (Event σ)) :
    (machine.record events).listedFrom start = machine.listedFrom start :=
  rfl

@[simp]
theorem record_record (first second : List (Event σ)) :
    (machine.record first).record second = machine.record (first ++ second) := by
  simp [record]

end Machine

/-- The list continues behind its first vector. -/
theorem listedFrom_tail (machine : Machine σ) {start vector : Nat} {rest : List Nat}
    (listed : machine.listedFrom start = vector :: rest) :
    machine.listedFrom (vector + 1) = rest := by
  induction left : intVectors - start generalizing start with
  | zero =>
      rw [machine.listedFrom_behind (Nat.le_of_sub_eq_zero left)] at listed
      cases listed
  | succ left ih =>
      have inside : start < intVectors := by omega
      by_cases here : machine.Lists start
      · rw [machine.listedFrom_eq_cons inside here] at listed
        cases listed
        rfl
      · rw [machine.listedFrom_skip inside here] at listed
        exact ih listed (by omega)

/-! ## One call -/

/-- What a call answers: the first vector of the list, or that there is none. -/
def answerOf : List Nat → Int
  | [] => -1
  | vector :: _ => vector

/-- Only entries of the table are looked up. -/
def InsideTable (looked : List (Event σ)) : Prop :=
  ∀ event ∈ looked, ∃ index < intVectors, event = .lookup index

/-- One round of the loop. -/
theorem nextIrqFrom_round (machine : Machine σ) {vector : Nat}
    (inside : vector < intVectors) :
    nextIrqFrom vector machine =
      if machine.Lists vector then (.ok (vector : Int), machine.record [.lookup vector])
      else nextIrqFrom (vector + 1) (machine.record [.lookup vector]) := by
  rw [nextIrqFrom, if_pos inside]
  change (if machine.Lists vector then pure (vector : Int)
    else nextIrqFrom (vector + 1) : Exec Stop (Machine σ) Int)
      (machine.record [.lookup vector]) = _
  by_cases listed : machine.Lists vector
  · rw [if_pos listed, if_pos listed]
    rfl
  · rw [if_neg listed, if_neg listed]

theorem nextIrqFrom_returns (machine : Machine σ) (start : Nat) :
    ∃ looked, nextIrqFrom start machine =
        (.ok (answerOf (machine.listedFrom start)), machine.record looked) ∧
      InsideTable looked := by
  -- Induction on what is left of the table.
  induction left : intVectors - start generalizing start machine with
  | zero =>
      have behind : intVectors ≤ start := Nat.le_of_sub_eq_zero left
      refine ⟨[], ?_, by simp [InsideTable]⟩
      rw [nextIrqFrom, if_neg (Nat.not_lt.mpr behind), machine.listedFrom_behind behind]
      simp [answerOf, Machine.record]
  | succ left ih =>
      have inside : start < intVectors := by omega
      rw [nextIrqFrom_round machine inside]
      by_cases listed : machine.Lists start
      · refine ⟨[.lookup start], ?_, by simpa [InsideTable] using inside⟩
        rw [if_pos listed, machine.listedFrom_eq_cons inside listed]
        rfl
      · obtain ⟨looked, returned, bounded⟩ :=
          ih (machine.record [.lookup start]) (start + 1) (by omega)
        refine ⟨.lookup start :: looked, ?_, ?_⟩
        · rw [if_neg listed, returned, machine.listedFrom_skip inside listed]
          simp
        · intro event among
          rcases List.mem_cons.mp among with rfl | later
          · exact ⟨start, inside, rfl⟩
          · exact bounded event later

/-! ## A sequence of calls -/

/-- The vector after a listed one is passed on unchanged. -/
theorem startingAt_next (args : Smc32Args) {vector : Nat} (inside : vector < intVectors) :
    (startingAt args (BitVec.ofInt 32 ((vector : Int) + 1))).params[0].toNat =
      vector + 1 := by
  have small : vector + 1 < 2 ^ 32 := by
    rw [intVectors] at inside
    omega
  have same : BitVec.ofInt 32 ((vector : Int) + 1) = BitVec.ofNat 32 (vector + 1) := by
    rw [← BitVec.ofInt_natCast]
    rfl
  rw [startingAt_param, same, BitVec.toNat_ofNat, Nat.mod_eq_of_lt small]

theorem askForIrqs_returns (calls : Nat) (args : Smc32Args) (machine : Machine σ) :
    ∃ looked, askForIrqs calls args machine =
      (.ok (((machine.listedFrom args.params[0].toNat).map Int.ofNat ++ [-1]).take calls),
        machine.record looked) := by
  induction calls generalizing args machine with
  | zero => exact ⟨[], by simp [askForIrqs, Machine.record]⟩
  | succ calls ih =>
      obtain ⟨looked, answered, -⟩ := nextIrqFrom_returns machine args.params[0].toNat
      rw [← smcIntcGetNextIrq] at answered
      rw [askForIrqs, Exec.bind_of_ok answered]
      cases listed : machine.listedFrom args.params[0].toNat with
      | nil => exact ⟨looked, by simp [answerOf]⟩
      | cons vector rest =>
          have among : vector ∈ machine.listedFrom args.params[0].toNat := by
            simp [listed]
          have inside := (machine.mem_listedFrom.mp among).2.1
          obtain ⟨later, asked⟩ := ih
            (startingAt args (BitVec.ofInt 32 ((vector : Int) + 1))) (machine.record looked)
          rw [startingAt_next args inside, machine.listedFrom_record,
            listedFrom_tail machine listed, machine.record_record] at asked
          refine ⟨looked ++ later, ?_⟩
          have found : ¬(vector : Int) < 0 := Int.not_lt.mpr (Int.natCast_nonneg vector)
          rw [answerOf, if_neg found, Exec.bind_of_ok asked]
          rfl

/-! ## Histories -/

namespace History

/-- The vector has a handler now and is not the one of the rescheduling
interrupt. -/
def Registered (history : History σ) (vector : Nat) : Prop :=
  vector < intVectors ∧ vector ≠ intResch.toNat ∧
    (latestHandler vector history.registered).handler ≠ none

theorem mem_listedFrom_iff {history : History σ} (consistent : history.Consistent)
    {start vector : Nat} :
    vector ∈ history.machine.listedFrom start ↔
      start ≤ vector ∧ history.Registered vector := by
  rw [Machine.mem_listedFrom]
  by_cases inside : vector < intVectors
  · rw [Machine.Lists, consistent.table vector inside, Option.isSome_iff_ne_none]
    simp only [Registered, ne_comm (a := vector)]
    tauto
  · simp [Registered, inside]

end History

/-- The answer of a call: the least registered vector from `start` on, or -1. -/
def History.Answers (history : History σ) (start : Nat) (answer : Int) : Prop :=
  (∃ vector : Nat, answer = vector ∧
    IsLeast {other | start ≤ other ∧ history.Registered other} vector) ∨
  (answer = -1 ∧ ∀ other, start ≤ other → ¬history.Registered other)

theorem answerOf_listed {history : History σ} (consistent : history.Consistent)
    (start : Nat) :
    history.Answers start (answerOf (history.machine.listedFrom start)) := by
  have sorted := history.machine.listedFrom_sorted start
  cases listed : history.machine.listedFrom start with
  | nil =>
      refine Or.inr ⟨rfl, fun other above registered => ?_⟩
      have among := (History.mem_listedFrom_iff consistent).mpr ⟨above, registered⟩
      rw [listed] at among
      cases among
  | cons vector rest =>
      rw [listed] at sorted
      refine Or.inl ⟨vector, rfl, ?_, fun other found => ?_⟩
      · exact (History.mem_listedFrom_iff consistent).mp (by simp [listed])
      · have among := (History.mem_listedFrom_iff consistent).mpr found
        rw [listed] at among
        rcases List.mem_cons.mp among with rfl | later
        · exact Nat.le_refl _
        · exact Nat.le_of_lt ((List.pairwise_cons.mp sorted).1 other later)

theorem reached_consistent (kernel : Kernel σ) (behind : Nat → IntHandlerStruct σ)
    (timer : TimerData) (world : σ) (actions : List (Action σ)) :
    (run (History.step kernel) (.start behind timer world) actions).Consistent :=
  run_of_kept (step_consistent kernel) actions (consistent_start behind timer world)

/-- For every history, asking from 0 on lists the registered vectors in increasing
order, each once, and then answers -1; a single call answers from any start. -/
theorem registered_irqs_enumerated (kernel : Kernel σ)
    (behind : Nat → IntHandlerStruct σ) (timer : TimerData) (world : σ)
    (actions : List (Action σ)) (args : Smc32Args) :
    let history := run (History.step kernel) (.start behind timer world) actions
    (∃ vectors : List Nat, vectors.Pairwise (· < ·) ∧
      (∀ vector, vector ∈ vectors ↔ history.Registered vector) ∧
      ∀ calls, ∃ looked, askForIrqs calls (startingAt args 0) history.machine =
        (.ok ((vectors.map Int.ofNat ++ [-1]).take calls),
          history.machine.record looked)) ∧
    ∀ start : BitVec 32, ∃ answer looked,
      smcIntcGetNextIrq (startingAt args start) history.machine =
        (.ok answer, history.machine.record looked) ∧
      InsideTable looked ∧ history.Answers start.toNat answer := by
  intro history
  have consistent := reached_consistent kernel behind timer world actions
  constructor
  · refine ⟨history.machine.listedFrom 0, history.machine.listedFrom_sorted 0, ?_, ?_⟩
    · intro vector
      rw [History.mem_listedFrom_iff consistent]
      exact and_iff_right (Nat.zero_le vector)
    · intro calls
      simpa using askForIrqs_returns calls (startingAt args 0) history.machine
  · intro start
    obtain ⟨looked, returned, inside⟩ :=
      nextIrqFrom_returns history.machine start.toNat
    rw [← startingAt_param args start, ← smcIntcGetNextIrq, startingAt_param] at returned
    exact ⟨_, looked, returned, inside, answerOf_listed consistent start.toNat⟩

end SandPlatform.Interrupt
