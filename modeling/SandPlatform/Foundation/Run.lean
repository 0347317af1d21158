import Mathlib.Algebra.Group.Nat.Defs
import Mathlib.Tactic.Common

/-!
# Runs of a step function

A machine takes one input after another.  A condition on the state before a step
and on its input is checked along a run, and a property of states is carried
through the run by one lemma about a single step.  What a run did is often a
record that grows at its end.
-/

namespace SandPlatform.Foundation

universe u v w

variable {σ : Type u} {α : Type v}

/-- The state after a list of inputs, first one first. -/
def run (step : σ → α → σ) (state : σ) (inputs : List α) : σ :=
  inputs.foldl step state

/-- The condition holds before every step of the run. -/
def Along (step : σ → α → σ) (condition : σ → α → Prop) : σ → List α → Prop
  | _, [] => True
  | state, input :: rest =>
      condition state input ∧ Along step condition (step state input) rest

@[simp]
theorem run_cons (step : σ → α → σ) (state : σ) (input : α) (rest : List α) :
    run step state (input :: rest) = run step (step state input) rest :=
  rfl

theorem run_snoc (step : σ → α → σ) (state : σ) (inputs : List α) (last : α) :
    run step state (inputs ++ [last]) = step (run step state inputs) last := by
  rw [run, List.foldl_append]
  rfl

theorem along_of_forall {step : σ → α → σ} {condition : σ → α → Prop}
    (holds : ∀ state input, condition state input) (state : σ) (inputs : List α) :
    Along step condition state inputs := by
  induction inputs generalizing state with
  | nil => trivial
  | cons input rest ih => exact ⟨holds state input, ih (step state input)⟩

/-- What a step keeps under the condition, a run that meets it keeps. -/
theorem run_invariant {step : σ → α → σ} {condition : σ → α → Prop}
    {inv : σ → Prop}
    (kept : ∀ state input, inv state → condition state input →
      inv (step state input)) {state : σ} {inputs : List α} (holds : inv state)
    (along : Along step condition state inputs) : inv (run step state inputs) := by
  induction inputs generalizing state with
  | nil => exact holds
  | cons input rest ih => exact ih (kept state input holds along.1) along.2

/-- What every step keeps, every run keeps. -/
theorem run_of_kept {step : σ → α → σ} {inv : σ → Prop}
    (kept : ∀ state input, inv state → inv (step state input)) {state : σ}
    (inputs : List α) (holds : inv state) : inv (run step state inputs) := by
  have always : Along step (fun _ _ => True) state inputs :=
    along_of_forall (fun _ _ => trivial) state inputs
  exact run_invariant (fun state input holds _ => kept state input holds) holds always

/-- Steps that keep two states related keep the states of their runs related. -/
theorem run_refines {τ : Type u} {step : σ → α → σ} {step' : τ → α → τ}
    {condition : σ → α → Prop} {rel : σ → τ → Prop}
    (kept : ∀ state state' input, rel state state' → condition state input →
      rel (step state input) (step' state' input))
    {state : σ} {state' : τ} {inputs : List α} (holds : rel state state')
    (along : Along step condition state inputs) :
    rel (run step state inputs) (run step' state' inputs) := by
  induction inputs generalizing state state' with
  | nil => exact holds
  | cons input rest ih => exact ih (kept state state' input holds along.1) along.2

/-- A run whose first input is taken goes on from there. -/
theorem foldlM_cons_of_some {step : σ → α → Option σ} {state state' : σ} {input : α}
    (next : step state input = some state') (rest : List α) :
    (input :: rest).foldlM step state = rest.foldlM step state' := by
  rw [List.foldlM_cons, next]
  rfl

theorem foldlM_append_of_some {step : σ → α → Option σ} {state state' : σ} {inputs : List α}
    (first : inputs.foldlM step state = some state') (rest : List α) :
    (inputs ++ rest).foldlM step state = rest.foldlM step state' := by
  rw [List.foldlM_append, first]
  rfl

/-- Where every step of one machine is the image of a step of another one, so is a run,
and both fail together. -/
theorem foldlM_image {τ : Type u} {step : σ → α → Option σ} {step' : τ → α → Option τ}
    (image : σ → τ)
    (kept : ∀ state input, step' (image state) input = (step state input).map image)
    (state : σ) (inputs : List α) :
    inputs.foldlM step' (image state) = (inputs.foldlM step state).map image := by
  induction inputs generalizing state with
  | nil => rfl
  | cons input rest ih =>
      rw [List.foldlM_cons, List.foldlM_cons, kept]
      cases next : step state input with
      | none => rfl
      | some state' => exact ih state'

/-- A machine that may refuse an input, beside one that takes all of them.  If it refuses
exactly the unsafe inputs, it ends exactly the runs whose inputs are safe. -/
theorem foldlM_iff_along {τ : Type w} {step : σ → α → Option σ} {step' : τ → α → τ}
    {promised safe : τ → α → Prop} {rel : σ → τ → Prop}
    (taken : ∀ state state' input, rel state state' → promised state' input →
      safe state' input → ∃ next, step state input = some next ∧ rel next (step' state' input))
    (refused : ∀ state state' input, rel state state' → promised state' input →
      ¬ safe state' input → step state input = none)
    {state : σ} {state' : τ} {inputs : List α} (holds : rel state state')
    (along : Along step' promised state' inputs) :
    ((∃ last, inputs.foldlM step state = some last) ↔ Along step' safe state' inputs) ∧
      ∀ last, inputs.foldlM step state = some last → rel last (run step' state' inputs) := by
  induction inputs generalizing state state' with
  | nil =>
      refine ⟨iff_of_true ⟨state, rfl⟩ trivial, ?_⟩
      rintro last same
      cases same
      exact holds
  | cons input rest ih =>
      by_cases isSafe : safe state' input
      · rcases taken state state' input holds along.1 isSafe with ⟨next, stepped, holds'⟩
        rw [foldlM_cons_of_some stepped, Along, and_iff_right isSafe]
        exact ih holds' along.2
      · have stuck : (input :: rest).foldlM step state = none := by
          rw [List.foldlM_cons, refused state state' input holds along.1 isSafe]
          rfl
        rw [stuck]
        refine ⟨iff_of_false ?_ fun both => isSafe both.1, ?_⟩
        · rintro ⟨last, same⟩
          cases same
        · intro last same
          cases same

/-- If one step from a state that meets the invariant keeps a property exactly
under the condition, then so does a run. -/
theorem run_iff_along_of_invariant {step : σ → α → σ} {condition : σ → α → Prop}
    {inv : σ → Prop} (property : σ → Prop)
    (kept : ∀ state input, inv state → inv (step state input))
    (stepIff : ∀ state input, inv state → (property (step state input) ↔
      property state ∧ condition state input)) {state : σ} (inputs : List α)
    (holds : inv state) :
    property (run step state inputs) ↔
      property state ∧ Along step condition state inputs := by
  induction inputs generalizing state with
  | nil => exact (and_iff_left trivial).symm
  | cons input rest ih =>
      rw [run_cons, ih (kept state input holds), stepIff state input holds, Along,
        and_assoc]

/-- If one step keeps a property exactly under the condition, then so does a
run. -/
theorem run_iff_along {step : σ → α → σ} {condition : σ → α → Prop}
    (property : σ → Prop)
    (stepIff : ∀ state input, property (step state input) ↔
      property state ∧ condition state input) (state : σ) (inputs : List α) :
    property (run step state inputs) ↔
      property state ∧ Along step condition state inputs := by
  have kept (state : σ) (input : α) (_ : True) : True := trivial
  exact run_iff_along_of_invariant property kept (fun state input _ =>
    stepIff state input) inputs trivial

/-- A count that never falls is bounded exactly when it stops growing. -/
theorem bounded_iff_stationary {count : Nat → Nat}
    (grows : ∀ n, count n ≤ count (n + 1)) :
    (∃ most, ∀ n, count n ≤ most) ↔
      ∃ first, ∀ n, first ≤ n → count (n + 1) = count n := by
  have mono : ∀ first steps, count first ≤ count (first + steps) := by
    intro first steps
    induction steps with
    | zero => exact Nat.le_refl _
    | succ steps ih => exact Nat.le_trans ih (grows (first + steps))
  constructor
  · rintro ⟨most, bounded⟩
    -- Induction on the distance to the bound: either the count has stopped, or it
    -- grows once more and the distance shrinks.
    have settles : ∀ distance first, most - count first ≤ distance →
        ∃ last, ∀ n, last ≤ n → count (n + 1) = count n := by
      intro distance
      induction distance with
      | zero =>
          intro first close
          refine ⟨first, fun n later => ?_⟩
          have least := mono first (n - first)
          rw [Nat.add_sub_cancel' later] at least
          have up := grows n
          have above := bounded (n + 1)
          omega
      | succ distance ih =>
          intro first close
          by_cases stopped : ∀ n, first ≤ n → count (n + 1) = count n
          · exact ⟨first, stopped⟩
          · simp only [not_forall] at stopped
            obtain ⟨n, later, grown⟩ := stopped
            have least := mono first (n - first)
            rw [Nat.add_sub_cancel' later] at least
            have up := grows n
            exact ih (n + 1) (by omega)
    exact settles most 0 (Nat.sub_le most _)
  · rintro ⟨first, stopped⟩
    refine ⟨count first, fun n => ?_⟩
    by_cases later : first ≤ n
    · obtain ⟨steps, rfl⟩ := Nat.exists_eq_add_of_le later
      clear later
      induction steps with
      | zero => exact Nat.le_refl _
      | succ steps ih =>
          exact Nat.le_trans (Nat.le_of_eq (stopped _ (Nat.le_add_right _ _))) ih
    · have least := mono n (first - n)
      rw [Nat.add_sub_cancel' (Nat.le_of_not_le later)] at least
      exact least

/-- A property of all entries of a record, when one more is written. -/
theorem forall_mem_snoc {property : α → Prop} {entries : List α} {last : α} :
    (∀ entry ∈ entries ++ [last], property entry) ↔
      (∀ entry ∈ entries, property entry) ∧ property last := by
  rw [List.forall_mem_append, List.forall_mem_singleton]

/-- A record stays in order when one more entry is written that all others may come
before. -/
theorem pairwise_snoc {order : α → α → Prop} {entries : List α} {last : α}
    (behind : ∀ entry ∈ entries, order entry last) :
    (entries ++ [last]).Pairwise order ↔ entries.Pairwise order := by
  rw [List.pairwise_append]
  simpa using fun _ => behind

end SandPlatform.Foundation
