import Mathlib.Algebra.Group.Nat.Defs
import Mathlib.Tactic.Common

/-!
# Stateful execution that may stop early

A computation maps a state to an outcome and a final state.  The final state is
kept on every path: a computation that stops before it returns still leaves the
trace of what it did, so a safety statement about that trace also covers runs
that never finish.

Eight kinds of rules are supplied: equations for symbolic execution, an
invariant rule that ignores how the run ended, a rule for the values a
computation can return, a rule for partial correctness that keeps a weaker
statement where the run stops, a rule for computations that agree wherever one
of them returns, a rule for computations that run alike over related states, the
same for two given states, and a rule for total correctness.  The fifth makes the
result of a loop with a bound on its iterations independent of that bound; the
last says that some bound is large enough.
-/

namespace SandPlatform.Foundation

universe u v w x

/-- A computation over states `σ` that returns an `α` or stops with an `ε`. -/
structure Exec (ε : Type u) (σ : Type v) (α : Type w) where
  run : σ → Except ε α × σ

namespace Exec

variable {ε : Type u} {σ : Type v} {τ : Type x} {α β : Type w}

instance : CoeFun (Exec ε σ α) fun _ => σ → Except ε α × σ :=
  ⟨run⟩

/-- Run one computation and, if it returned, continue with its result. -/
def andThen (first : Exec ε σ α) (rest : α → Exec ε σ β) : Exec ε σ β where
  run state :=
    match first state with
    | (.ok value, next) => rest value next
    | (.error reason, next) => (.error reason, next)

instance : Monad (Exec ε σ) where
  pure value := ⟨fun state => (.ok value, state)⟩
  bind := andThen

/-- Stop without returning. -/
def stop (reason : ε) : Exec ε σ α where
  run state := (.error reason, state)

/-- Read a part of the state. -/
def gets (view : σ → α) : Exec ε σ α where
  run state := (.ok (view state), state)

/-- Change the state. -/
def modify (change : σ → σ) : Exec ε σ PUnit.{w + 1} where
  run state := (.ok PUnit.unit, change state)

/-- Run a computation on one component of a larger state. -/
def zoom (view : τ → σ) (put : σ → τ → τ) (inner : Exec ε σ α) :
    Exec ε τ α where
  run state := ((inner (view state)).1, put (inner (view state)).2 state)

/-! ## Symbolic execution -/

@[simp]
theorem pure_apply (value : α) (state : σ) :
    (pure value : Exec ε σ α) state = (.ok value, state) :=
  rfl

theorem bind_apply (first : Exec ε σ α) (rest : α → Exec ε σ β) (state : σ) :
    (first >>= rest) state =
      match first state with
      | (.ok value, next) => rest value next
      | (.error reason, next) => (.error reason, next) :=
  rfl

@[simp]
theorem zoom_apply (view : τ → σ) (put : σ → τ → τ) (inner : Exec ε σ α)
    (state : τ) :
    zoom view put inner state =
      ((inner (view state)).1, put (inner (view state)).2 state) :=
  rfl

theorem bind_of_ok {first : Exec ε σ α} {rest : α → Exec ε σ β}
    {state next : σ} {value : α} (returned : first state = (.ok value, next)) :
    (first >>= rest) state = rest value next := by
  rw [bind_apply, returned]

theorem bind_of_error {first : Exec ε σ α} {rest : α → Exec ε σ β}
    {state next : σ} {reason : ε}
    (stopped : first state = (.error reason, next)) :
    (first >>= rest) state = (.error reason, next) := by
  rw [bind_apply, stopped]

instance : LawfulMonad (Exec ε σ) := by
  refine LawfulMonad.mk' (Exec ε σ) ?_ ?_ ?_
  · intro α computation
    refine congrArg mk (funext fun state => ?_)
    change (computation >>= fun value => pure value) state = computation state
    rw [bind_apply]
    rcases computation state with ⟨reason | value, next⟩ <;> rfl
  · intro α β value rest
    rfl
  · intro α β γ first rest last
    refine congrArg mk (funext fun state => ?_)
    change (first >>= rest >>= last) state =
      (first >>= fun value => rest value >>= last) state
    rw [bind_apply, bind_apply, bind_apply]
    rcases first state with ⟨reason | value, next⟩ <;> rfl

@[simp]
theorem gets_bind_apply (view : σ → α) (rest : α → Exec ε σ β) (state : σ) :
    ((gets view : Exec ε σ α) >>= rest) state = rest (view state) state :=
  rfl

@[simp]
theorem modify_bind_apply (change : σ → σ) (rest : PUnit → Exec ε σ β)
    (state : σ) :
    ((modify change : Exec ε σ PUnit.{w + 1}) >>= rest) state =
      rest PUnit.unit (change state) :=
  rfl

/-- A sequence returns exactly when both halves return. -/
theorem bind_eq_ok_iff {first : Exec ε σ α} {rest : α → Exec ε σ β}
    {state final : σ} {result : β} :
    (first >>= rest) state = (.ok result, final) ↔
      ∃ value next, first state = (.ok value, next) ∧
        rest value next = (.ok result, final) := by
  rw [bind_apply]
  rcases outcome : first state with ⟨reason | value, next⟩ <;> simp

/-! ## Invariants of every run, finished or not -/

/-- `inv` survives the computation whichever way it ends. -/
def Preserves (inv : σ → Prop) (computation : Exec ε σ α) : Prop :=
  ∀ state, inv state → inv (computation state).2

theorem preserves_pure (inv : σ → Prop) (value : α) :
    Preserves inv (pure value : Exec ε σ α) :=
  fun _ holds => holds

theorem preserves_stop (inv : σ → Prop) (reason : ε) :
    Preserves inv (stop reason : Exec ε σ α) :=
  fun _ holds => holds

theorem preserves_gets (inv : σ → Prop) (view : σ → α) :
    Preserves inv (gets view : Exec ε σ α) :=
  fun _ holds => holds

theorem preserves_modify {inv : σ → Prop} {change : σ → σ}
    (kept : ∀ state, inv state → inv (change state)) :
    Preserves inv (modify change : Exec ε σ PUnit.{w + 1}) :=
  kept

/-- What holds when the first half ends survives a second half that keeps it. -/
theorem holds_bind {inv : σ → Prop} {first : Exec ε σ α}
    {rest : α → Exec ε σ β} {state : σ} (middle : inv (first state).2)
    (restKeeps : ∀ value, Preserves inv (rest value)) :
    inv ((first >>= rest) state).2 := by
  rw [bind_apply]
  rcases outcome : first state with ⟨reason | value, next⟩
  · rw [outcome] at middle
    exact middle
  · rw [outcome] at middle
    exact restKeeps value next middle

theorem preserves_bind {inv : σ → Prop} {first : Exec ε σ α}
    {rest : α → Exec ε σ β} (firstKeeps : Preserves inv first)
    (restKeeps : ∀ value, Preserves inv (rest value)) :
    Preserves inv (first >>= rest) :=
  fun state holds => holds_bind (firstKeeps state holds) restKeeps

theorem preserves_ite {inv : σ → Prop} {condition : Prop} [Decidable condition]
    {first second : Exec ε σ α} (firstKeeps : Preserves inv first)
    (secondKeeps : Preserves inv second) :
    Preserves inv (if condition then first else second) := by
  split
  · exact firstKeeps
  · exact secondKeeps

/-! ## Properties of returned values -/

/-- Whatever the computation returns satisfies `post`. -/
def Yields (post : α → Prop) (computation : Exec ε σ α) : Prop :=
  ∀ state value final, computation state = (.ok value, final) → post value

theorem yields_pure {post : α → Prop} {value : α} (holds : post value) :
    Yields post (pure value : Exec ε σ α) := by
  intro state returned final outcome
  rw [pure_apply] at outcome
  cases outcome
  exact holds

theorem yields_stop (post : α → Prop) (reason : ε) :
    Yields post (stop reason : Exec ε σ α) := by
  intro state returned final outcome
  cases outcome

theorem Yields.bind {pre : α → Prop} {post : β → Prop} {first : Exec ε σ α}
    {rest : α → Exec ε σ β} (firstYields : Yields pre first)
    (restYields : ∀ value, pre value → Yields post (rest value)) :
    Yields post (first >>= rest) := by
  intro state result final outcome
  obtain ⟨value, next, firstReturns, restReturns⟩ := bind_eq_ok_iff.mp outcome
  exact restYields value (firstYields state value next firstReturns)
    next result final restReturns

/-- A sequence yields what its second half yields. -/
theorem yields_bind {post : β → Prop} {first : Exec ε σ α}
    {rest : α → Exec ε σ β} (restYields : ∀ value, Yields post (rest value)) :
    Yields post (first >>= rest) := by
  intro state result final outcome
  obtain ⟨value, next, _, restReturns⟩ := bind_eq_ok_iff.mp outcome
  exact restYields value next result final restReturns

theorem yields_ite {post : α → Prop} {condition : Prop} [Decidable condition]
    {first second : Exec ε σ α} (firstYields : Yields post first)
    (secondYields : Yields post second) :
    Yields post (if condition then first else second) := by
  split
  · exact firstYields
  · exact secondYields

/-! ## Partial correctness from a given state -/

/-- From `state` the computation returns into `post` or stops in `halt`. -/
def Ends (computation : Exec ε σ α) (state : σ) (post : α → σ → Prop)
    (halt : σ → Prop) : Prop :=
  match computation state with
  | (.ok value, final) => post value final
  | (.error _, final) => halt final

theorem ends_of_eq {computation : Exec ε σ α} {state final : σ} {value : α}
    {post : α → σ → Prop} {halt : σ → Prop}
    (returned : computation state = (.ok value, final)) (holds : post value final) :
    Ends computation state post halt := by
  rw [Ends, returned]
  exact holds

theorem ends_stop {reason : ε} {state : σ} {post : α → σ → Prop} {halt : σ → Prop}
    (holds : halt state) : Ends (stop reason : Exec ε σ α) state post halt :=
  holds

/-- An invariant holds however the run ends. -/
theorem ends_of_preserves {computation : Exec ε σ α} {inv : σ → Prop} {state : σ}
    (keeps : Preserves inv computation) (holds : inv state) :
    Ends computation state (fun _ => inv) inv := by
  have kept := keeps state holds
  rw [Ends]
  rcases outcome : computation state with ⟨reason | value, final⟩
  · rw [outcome] at kept
    exact kept
  · rw [outcome] at kept
    exact kept

theorem ends_ite {condition : Prop} [Decidable condition] {first second : Exec ε σ α}
    {state : σ} {post : α → σ → Prop} {halt : σ → Prop}
    (thenEnds : condition → Ends first state post halt)
    (elseEnds : ¬ condition → Ends second state post halt) :
    Ends (if condition then first else second) state post halt := by
  split
  · exact thenEnds ‹_›
  · exact elseEnds ‹_›

theorem ends_of_yields {computation : Exec ε σ α} {post : α → Prop}
    (yields : Yields post computation) (state : σ) :
    Ends computation state (fun value _ => post value) fun _ => True := by
  rw [Ends]
  rcases outcome : computation state with ⟨reason | value, final⟩
  · trivial
  · exact yields state value final outcome

/-- What both ends of a run have in common. -/
theorem Ends.always {computation : Exec ε σ α} {state : σ} {post : α → σ → Prop}
    {halt inv : σ → Prop} (ends : Ends computation state post halt)
    (returned : ∀ value final, post value final → inv final)
    (halted : ∀ final, halt final → inv final) : inv (computation state).2 := by
  rw [Ends] at ends
  rcases outcome : computation state with ⟨reason | value, final⟩
  · rw [outcome] at ends
    exact halted final ends
  · rw [outcome] at ends
    exact returned value final ends

/-- What a run that returns has reached. -/
theorem Ends.of_returned {computation : Exec ε σ α} {state : σ} {value : α}
    {post : α → σ → Prop} {halt : σ → Prop} (ends : Ends computation state post halt)
    (returned : (computation state).1 = .ok value) : post value (computation state).2 := by
  rw [Ends] at ends
  rcases outcome : computation state with ⟨reason | value', final⟩
  · rw [outcome] at returned
    cases returned
  · rw [outcome] at ends returned
    cases returned
    exact ends

theorem Ends.bind {first : Exec ε σ α} {rest : α → Exec ε σ β} {state : σ}
    {middle : α → σ → Prop} {post : β → σ → Prop} {halt : σ → Prop}
    (firstEnds : Ends first state middle halt)
    (restEnds : ∀ value next, middle value next →
      Ends (rest value) next post halt) :
    Ends (first >>= rest) state post halt := by
  rw [Ends, bind_apply]
  rw [Ends] at firstEnds
  rcases outcome : first state with ⟨reason | value, next⟩
  · rw [outcome] at firstEnds
    exact firstEnds
  · rw [outcome] at firstEnds
    exact restEnds value next firstEnds

theorem Ends.mono {computation : Exec ε σ α} {state : σ}
    {pre post : α → σ → Prop} {halt halt' : σ → Prop}
    (ends : Ends computation state pre halt)
    (weaker : ∀ value final, pre value final → post value final)
    (halts : ∀ final, halt final → halt' final) :
    Ends computation state post halt' := by
  rw [Ends] at ends ⊢
  rcases outcome : computation state with ⟨reason | value, final⟩
  · rw [outcome] at ends
    exact halts final ends
  · rw [outcome] at ends
    exact weaker value final ends

theorem Ends.zoom {view : τ → σ} {put : σ → τ → τ} {inner : Exec ε σ α} {state : τ}
    {pre : α → σ → Prop} {post : α → τ → Prop} {halt : τ → Prop}
    (ends : Ends inner (view state) pre fun _ => True)
    (holds : ∀ value next, pre value next → post value (put next state))
    (halts : ∀ final, halt final) : Ends (zoom view put inner) state post halt := by
  rw [Ends] at ends ⊢
  rw [zoom_apply]
  rcases outcome : inner (view state) with ⟨reason | value, next⟩
  · exact halts _
  · rw [outcome] at ends
    exact holds value next ends

/-! ## Computations that agree wherever the first one returns -/

/-- Whenever the first computation returns, the second one does the same.  A
stopped run of the first says nothing about the second. -/
def Extends (first second : Exec ε σ α) : Prop :=
  ∀ state value final, first state = (.ok value, final) →
    second state = (.ok value, final)

theorem Extends.refl (computation : Exec ε σ α) :
    Extends computation computation :=
  fun _ _ _ returned => returned

theorem extends_stop (reason : ε) (second : Exec ε σ α) :
    Extends (stop reason) second := by
  intro state value final returned
  cases returned

theorem Extends.bind {first second : Exec ε σ α}
    {firstRest secondRest : α → Exec ε σ β} (extended : Extends first second)
    (restExtended : ∀ value, Extends (firstRest value) (secondRest value)) :
    Extends (first >>= firstRest) (second >>= secondRest) := by
  intro state result final returned
  obtain ⟨value, next, firstReturns, restReturns⟩ := bind_eq_ok_iff.mp returned
  exact bind_eq_ok_iff.mpr ⟨value, next,
    extended state value next firstReturns,
    restExtended value next result final restReturns⟩

/-- Sequences with the same first half. -/
theorem extends_bind {first : Exec ε σ α}
    {firstRest secondRest : α → Exec ε σ β}
    (restExtended : ∀ value, Extends (firstRest value) (secondRest value)) :
    Extends (first >>= firstRest) (first >>= secondRest) :=
  (Extends.refl first).bind restExtended

theorem extends_ite {condition : Prop} [Decidable condition]
    {first second first' second' : Exec ε σ α} (thenExtended : Extends first first')
    (elseExtended : Extends second second') :
    Extends (if condition then first else second)
      (if condition then first' else second') := by
  split
  · exact thenExtended
  · exact elseExtended

theorem Extends.zoom {first second : Exec ε σ α} (extended : Extends first second)
    (view : τ → σ) (put : σ → τ → τ) :
    Extends (zoom view put first) (zoom view put second) := by
  intro state value final returned
  rw [zoom_apply] at returned
  rw [zoom_apply]
  rcases outcome : first (view state) with ⟨result, next⟩
  rw [outcome] at returned
  cases returned
  rw [extended _ _ _ outcome]

/-- Two runs of a family that is extended by larger bounds return the same
result in the same state. -/
theorem unique_of_extends {family : Nat → Exec ε σ α}
    (grows : ∀ small large, small ≤ large → Extends (family small) (family large))
    {first second : Nat} {state final final' : σ} {value value' : α}
    (firstReturns : family first state = (.ok value, final))
    (secondReturns : family second state = (.ok value', final')) :
    value = value' ∧ final = final' := by
  have one := grows first (max first second) (Nat.le_max_left _ _)
    state value final firstReturns
  have other := grows second (max first second) (Nat.le_max_right _ _)
    state value' final' secondReturns
  rw [one] at other
  cases other
  exact ⟨rfl, rfl⟩

/-! ## Computations that run alike over related states -/

/-- From related states both computations end alike, in related states. -/
def Simulates (related : σ → τ → Prop) (first : Exec ε σ α) (second : Exec ε τ α) :
    Prop :=
  ∀ state state', related state state' →
    (first state).1 = (second state').1 ∧ related (first state).2 (second state').2

theorem simulates_pure (related : σ → τ → Prop) (value : α) :
    Simulates related (pure value : Exec ε σ α) (pure value) :=
  fun _ _ same => ⟨rfl, same⟩

theorem simulates_stop (related : σ → τ → Prop) (reason : ε) :
    Simulates related (stop reason : Exec ε σ α) (stop reason) :=
  fun _ _ same => ⟨rfl, same⟩

theorem simulates_gets {related : σ → τ → Prop} {view : σ → α} {view' : τ → α}
    (seen : ∀ state state', related state state' → view state = view' state') :
    Simulates related (gets view : Exec ε σ α) (gets view') :=
  fun state state' same => ⟨congrArg Except.ok (seen state state' same), same⟩

theorem simulates_modify {related : σ → τ → Prop} {change : σ → σ} {change' : τ → τ}
    (kept : ∀ state state', related state state' →
      related (change state) (change' state')) :
    Simulates related (modify change : Exec ε σ PUnit.{w + 1}) (modify change') :=
  fun state state' same => ⟨rfl, kept state state' same⟩

theorem Simulates.bind {related : σ → τ → Prop} {first : Exec ε σ α}
    {first' : Exec ε τ α} {rest : α → Exec ε σ β} {rest' : α → Exec ε τ β}
    (firstAlike : Simulates related first first')
    (restAlike : ∀ value, Simulates related (rest value) (rest' value)) :
    Simulates related (first >>= rest) (first' >>= rest') := by
  intro state state' same
  obtain ⟨outcome, next⟩ := firstAlike state state' same
  rw [bind_apply, bind_apply]
  rcases ended : first state with ⟨reason | value, middle⟩ <;>
    rcases ended' : first' state' with ⟨reason' | value', middle'⟩ <;>
    rw [ended, ended'] at outcome next <;> cases outcome
  · exact ⟨rfl, next⟩
  · exact restAlike value middle middle' next

theorem simulates_ite {related : σ → τ → Prop} {condition : Prop} [Decidable condition]
    {first second : Exec ε σ α} {first' second' : Exec ε τ α}
    (thenAlike : Simulates related first first')
    (elseAlike : Simulates related second second') :
    Simulates related (if condition then first else second)
      (if condition then first' else second') := by
  split
  · exact thenAlike
  · exact elseAlike

/-! ## Computations that run alike from two given states -/

/-- From these states both computations end alike, in related states. -/
def Alike (first : Exec ε σ α) (second : Exec ε τ α) (state : σ) (state' : τ)
    (related : σ → τ → Prop) : Prop :=
  (first state).1 = (second state').1 ∧ related (first state).2 (second state').2

theorem alike_pure {related : σ → τ → Prop} {state : σ} {state' : τ} (value : α)
    (same : related state state') :
    Alike (pure value : Exec ε σ α) (pure value) state state' related :=
  ⟨rfl, same⟩

theorem alike_stop {related : σ → τ → Prop} {state : σ} {state' : τ} (reason : ε)
    (same : related state state') :
    Alike (stop reason : Exec ε σ α) (stop reason) state state' related :=
  ⟨rfl, same⟩

/-- The first halves may end in states that are related more closely. -/
theorem Alike.bind {first : Exec ε σ α} {first' : Exec ε τ α} {rest : α → Exec ε σ β}
    {rest' : α → Exec ε τ β} {state : σ} {state' : τ} {middle related : σ → τ → Prop}
    (firstAlike : Alike first first' state state' middle)
    (restAlike : ∀ value next next', middle next next' →
      Alike (rest value) (rest' value) next next' related)
    (weaker : ∀ next next', middle next next' → related next next') :
    Alike (first >>= rest) (first' >>= rest') state state' related := by
  obtain ⟨outcome, next⟩ := firstAlike
  rw [Alike, bind_apply, bind_apply]
  rcases ended : first state with ⟨reason | value, last⟩ <;>
    rcases ended' : first' state' with ⟨reason' | value', last'⟩ <;>
    rw [ended, ended'] at outcome next <;> cases outcome
  · exact ⟨rfl, weaker last last' next⟩
  · exact restAlike value last last' next

theorem alike_ite {condition : Prop} [Decidable condition] {first second : Exec ε σ α}
    {first' second' : Exec ε τ α} {state : σ} {state' : τ} {related : σ → τ → Prop}
    (thenAlike : condition → Alike first first' state state' related)
    (elseAlike : ¬condition → Alike second second' state state' related) :
    Alike (if condition then first else second) (if condition then first' else second')
      state state' related := by
  split
  · exact thenAlike ‹_›
  · exact elseAlike ‹_›

/-- The same computation on components that are equal. -/
theorem alike_zoom {view : τ → σ} {put : σ → τ → τ} (inner : Exec ε σ α)
    {state state' : τ} {related : τ → τ → Prop} (same : view state = view state')
    (kept : ∀ next, related (put next state) (put next state')) :
    Alike (zoom view put inner) (zoom view put inner) state state' related := by
  rw [Alike, zoom_apply, zoom_apply, same]
  exact ⟨rfl, kept _⟩

theorem Alike.zoom {view : τ → σ} {put : σ → τ → τ} {inner inner' : Exec ε σ α}
    {state state' : τ} {middle : σ → σ → Prop} {related : τ → τ → Prop}
    (alike : Alike inner inner' (view state) (view state') middle)
    (kept : ∀ next next', middle next next' →
      related (put next state) (put next' state')) :
    Alike (zoom view put inner) (zoom view put inner') state state' related :=
  ⟨alike.1, kept _ _ alike.2⟩

theorem Alike.mono {first : Exec ε σ α} {second : Exec ε τ α} {state : σ} {state' : τ}
    {related weaker : σ → τ → Prop} (alike : Alike first second state state' related)
    (weakens : ∀ next next', related next next' → weaker next next') :
    Alike first second state state' weaker :=
  ⟨alike.1, weakens _ _ alike.2⟩

/-! ## Total correctness of bounded loops -/

/-- Some bound lets the run return, every larger one makes no difference, and
the result satisfies `post`. -/
def Achieves (family : Nat → Exec ε σ α) (state : σ) (post : α → σ → Prop) :
    Prop :=
  ∃ value final, post value final ∧
    ∃ bound, ∀ large, bound ≤ large → family large state = (.ok value, final)

theorem achieves_of_eq {computation : Exec ε σ α} {state final : σ} {value : α}
    {post : α → σ → Prop} (returned : computation state = (.ok value, final))
    (holds : post value final) : Achieves (fun _ => computation) state post :=
  ⟨value, final, holds, 0, fun _ _ => returned⟩

theorem achieves_pure {value : α} {state : σ} {post : α → σ → Prop}
    (holds : post value state) :
    Achieves (fun _ => (pure value : Exec ε σ α)) state post :=
  achieves_of_eq rfl holds

theorem achieves_modify {change : σ → σ} {state : σ}
    {post : PUnit.{w + 1} → σ → Prop} (holds : post PUnit.unit (change state)) :
    Achieves (fun _ => (modify change : Exec ε σ PUnit.{w + 1})) state post :=
  achieves_of_eq rfl holds

/-- A run that returns settles what every larger bound does. -/
theorem achieves_of_extends {family : Nat → Exec ε σ α}
    (grows : ∀ small large, small ≤ large → Extends (family small) (family large))
    {bound : Nat} {state final : σ} {value : α}
    (returned : family bound state = (.ok value, final)) :
    Achieves family state fun result after => result = value ∧ after = final :=
  ⟨value, final, ⟨rfl, rfl⟩, bound, fun large le => grows bound large le _ _ _ returned⟩

theorem Achieves.mono {family : Nat → Exec ε σ α} {state : σ}
    {pre post : α → σ → Prop} (achieves : Achieves family state pre)
    (weaker : ∀ value final, pre value final → post value final) :
    Achieves family state post := by
  rcases achieves with ⟨value, final, holds, eventually⟩
  exact ⟨value, final, weaker value final holds, eventually⟩

theorem Achieves.bind {first : Nat → Exec ε σ α}
    {rest : Nat → α → Exec ε σ β} {state : σ} {middle : α → σ → Prop}
    {post : β → σ → Prop} (firstAchieves : Achieves first state middle)
    (restAchieves : ∀ value next, middle value next →
      Achieves (fun bound => rest bound value) next post) :
    Achieves (fun bound => first bound >>= rest bound) state post := by
  rcases firstAchieves with ⟨value, next, reached, firstBound, firstReturns⟩
  rcases restAchieves value next reached with
    ⟨result, final, holds, restBound, restReturns⟩
  refine ⟨result, final, holds, max firstBound restBound, ?_⟩
  intro large enough
  rw [bind_of_ok (firstReturns large (Nat.le_trans (Nat.le_max_left _ _) enough))]
  exact restReturns large (Nat.le_trans (Nat.le_max_right _ _) enough)

theorem achieves_if_pos {condition : Prop} [Decidable condition]
    {first second : Nat → Exec ε σ α} {state : σ} {post : α → σ → Prop}
    (holds : condition) (achieves : Achieves first state post) :
    Achieves (fun bound => if condition then first bound else second bound) state
      post := by
  simp only [if_pos holds]
  exact achieves

theorem achieves_if_neg {condition : Prop} [Decidable condition]
    {first second : Nat → Exec ε σ α} {state : σ} {post : α → σ → Prop}
    (fails : ¬ condition) (achieves : Achieves second state post) :
    Achieves (fun bound => if condition then first bound else second bound) state
      post := by
  simp only [if_neg fails]
  exact achieves

theorem achieves_ite {condition : Prop} [Decidable condition]
    {first second : Nat → Exec ε σ α} {state : σ} {post : α → σ → Prop}
    (thenAchieves : Achieves first state post)
    (elseAchieves : Achieves second state post) :
    Achieves (fun bound => if condition then first bound else second bound) state
      post := by
  by_cases holds : condition
  · exact achieves_if_pos holds thenAchieves
  · exact achieves_if_neg holds elseAchieves

/-- Run the inner family on a component. -/
theorem Achieves.zoom {family : Nat → Exec ε σ α} {view : τ → σ} {state : τ}
    {post : α → σ → Prop} (achieves : Achieves family (view state) post)
    (put : σ → τ → τ) :
    Achieves (fun bound => Exec.zoom view put (family bound)) state
      (fun value final => ∃ inner, post value inner ∧ final = put inner state) := by
  rcases achieves with ⟨value, inner, holds, bound, returns⟩
  refine ⟨value, put inner state, ⟨inner, holds, rfl⟩, bound, ?_⟩
  intro large enough
  rw [zoom_apply, returns large enough]

/-- A larger bound does no harm. -/
theorem Achieves.shift {family : Nat → Exec ε σ α} {state : σ}
    {post : α → σ → Prop} (achieves : Achieves family state post)
    {larger : Nat → Nat} (above : ∀ bound, bound ≤ larger bound) :
    Achieves (fun bound => family (larger bound)) state post := by
  rcases achieves with ⟨value, final, holds, bound, returns⟩
  refine ⟨value, final, holds, bound, ?_⟩
  intro large enough
  exact returns (larger large) (Nat.le_trans enough (above large))

/-- One more round is enough when the remaining rounds are. -/
theorem achieves_of_succ {family : Nat → Exec ε σ α} {state : σ}
    {post : α → σ → Prop}
    (achieves : Achieves (fun bound => family (bound + 1)) state post) :
    Achieves family state post := by
  rcases achieves with ⟨value, final, holds, bound, returns⟩
  refine ⟨value, final, holds, bound + 1, ?_⟩
  intro large enough
  cases large with
  | zero => exact absurd enough (Nat.not_succ_le_zero bound)
  | succ large => exact returns large (Nat.le_of_succ_le_succ enough)

end Exec

end SandPlatform.Foundation
