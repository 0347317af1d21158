import Mathlib.Order.Monotone.Basic
import Mathlib.Order.Basic
import Mathlib.Data.Nat.Find

/-!
# Polling against a deadline

A loop polls something until the result is positive, and looks at a clock after each
poll that was not.  The clock counts modulo some number, so the loop sees the time
that has passed modulo that number.
-/

namespace SandPlatform.Foundation

/-- The results of the polls, and the ticks that have passed when each begins. -/
structure Polling where
  result : Nat → Int
  elapsed : Nat → Nat

namespace Polling

variable (polling : Polling)

/-- What is wanted: the first positive result, if it comes before the deadline. -/
inductive Answers (deadline : Nat) : Int → Prop
  | event {poll : Nat} (first : ∀ earlier < poll, polling.result earlier ≤ 0)
      (positive : 0 < polling.result poll) (inTime : polling.elapsed poll < deadline) :
      Answers deadline (polling.result poll)
  | late (nothing : ∀ poll, polling.elapsed poll < deadline → polling.result poll ≤ 0) :
      Answers deadline (-1)

/-- Nothing has happened at a poll, and the clock shows less than the timeout then. -/
def Pending (modulus timeout poll : Nat) : Prop :=
  polling.result poll ≤ 0 ∧ polling.elapsed (poll + 1) % modulus < timeout

/-- How the loop ends. -/
inductive Settles (modulus timeout : Nat) : Int → Prop
  | event {poll : Nat} (before : ∀ earlier < poll, polling.Pending modulus timeout earlier)
      (positive : 0 < polling.result poll) :
      Settles modulus timeout (polling.result poll)
  | late {poll : Nat} (before : ∀ earlier < poll, polling.Pending modulus timeout earlier)
      (nothing : polling.result poll ≤ 0)
      (overdue : timeout ≤ polling.elapsed (poll + 1) % modulus) :
      Settles modulus timeout (-1)

/-- The ticks between two looks at the clock, and those of the timeout, are at most one
round of the clock. -/
def Unlapped (modulus timeout : Nat) : Prop :=
  ∀ poll, polling.elapsed (poll + 1) + timeout ≤ polling.elapsed poll + modulus

/-- Time does not go back, and begins with the first poll. -/
structure Timely : Prop where
  start : polling.elapsed 0 = 0
  forward : Monotone polling.elapsed

variable {polling} {modulus timeout : Nat}

/-- Before the timeout the clock has not lapped. -/
theorem Unlapped.mod_eq (unlapped : polling.Unlapped modulus timeout) {poll : Nat}
    (inTime : polling.elapsed poll < timeout) :
    polling.elapsed (poll + 1) % modulus = polling.elapsed (poll + 1) := by
  have step := unlapped poll
  exact Nat.mod_eq_of_lt (by omega)

/-- As long as polls are pending, the next one is in time. -/
theorem elapsed_lt (timely : polling.Timely) (unlapped : polling.Unlapped modulus timeout)
    (positive : 0 < timeout) {poll : Nat}
    (before : ∀ earlier < poll, polling.Pending modulus timeout earlier) :
    polling.elapsed poll < timeout := by
  induction poll with
  | zero =>
      rw [timely.start]
      exact positive
  | succ poll ih =>
      have inTime := ih fun earlier less => before earlier (Nat.lt_succ_of_lt less)
      have pending := (before poll (Nat.lt_succ_self poll)).2
      rwa [unlapped.mod_eq inTime] at pending

/-- A loop that settles gives the answer that is wanted. -/
theorem Settles.answers (timely : polling.Timely)
    (unlapped : polling.Unlapped modulus timeout) (positive : 0 < timeout) {answer : Int}
    (settles : polling.Settles modulus timeout answer) : polling.Answers timeout answer := by
  cases settles with
  | event before happened =>
      exact .event (fun earlier less => (before earlier less).1) happened
        (elapsed_lt timely unlapped positive before)
  | @late poll before nothing overdue =>
      have inTime := elapsed_lt timely unlapped positive before
      rw [unlapped.mod_eq inTime] at overdue
      refine .late fun other early => ?_
      rcases Nat.lt_trichotomy other poll with less | rfl | more
      · exact (before other less).1
      · exact nothing
      · exact absurd (overdue.trans (timely.forward more)) (Nat.not_le_of_lt early)

/-- A loop ends if not every poll is pending. -/
theorem exists_settles (ends : ∃ poll, ¬polling.Pending modulus timeout poll) :
    ∃ answer, polling.Settles modulus timeout answer := by
  classical
  have before (earlier : Nat) (less : earlier < Nat.find ends) :
      polling.Pending modulus timeout earlier := not_not.mp (Nat.find_min ends less)
  have last := Nat.find_spec ends
  by_cases positive : 0 < polling.result (Nat.find ends)
  · exact ⟨_, .event before positive⟩
  · have nothing : polling.result (Nat.find ends) ≤ 0 := by omega
    have overdue : timeout ≤ polling.elapsed (Nat.find ends + 1) % modulus := by
      by_contra less
      exact last ⟨nothing, Nat.lt_of_not_le less⟩
    exact ⟨_, .late before nothing overdue⟩

/-- A clock that goes on reaches the timeout. -/
theorem exists_not_pending (timely : polling.Timely)
    (unlapped : polling.Unlapped modulus timeout) (positive : 0 < timeout)
    (advances : ∀ poll, ∃ later, polling.elapsed poll < polling.elapsed later) :
    ∃ poll, ¬polling.Pending modulus timeout poll := by
  by_contra always
  have pending (poll : Nat) : polling.Pending modulus timeout poll := by
    by_contra ends
    exact always ⟨poll, ends⟩
  have reached (ticks : Nat) : ∃ poll, ticks ≤ polling.elapsed poll := by
    induction ticks with
    | zero => exact ⟨0, Nat.zero_le _⟩
    | succ ticks ih =>
        obtain ⟨poll, enough⟩ := ih
        obtain ⟨later, more⟩ := advances poll
        exact ⟨later, Nat.lt_of_le_of_lt enough more⟩
  obtain ⟨poll, enough⟩ := reached timeout
  have inTime : polling.elapsed poll < timeout :=
    elapsed_lt timely unlapped positive fun earlier _ => pending earlier
  exact absurd enough (Nat.not_le_of_lt inTime)

end Polling

end SandPlatform.Foundation
