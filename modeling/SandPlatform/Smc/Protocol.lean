import SandPlatform.Smc.Entry

/-!
# Requests and answers

Every switch to the non-secure world carries the result of the request that came
with the switch before it.
-/

namespace SandPlatform.Smc

open SandPlatform.Foundation
open SandPlatform.Hardware

universe u

/-- A 32-bit standard call. -/
def IsStandard (request : Smc32Args) : Prop :=
  ¬ smcIsSmc64 request.smcNr ∧ ¬ smcIsFastcall request.smcNr

/-- A request, the entity whose handler ran for it, and the answer with the
parameters that go back with it. -/
structure Exchange where
  request : Smc32Args
  entity : Option Nat
  answer : BitVec 64
  params : Vector (BitVec 32) 3
  deriving DecidableEq

/-- The run of the handler, if there is one. -/
def Exchange.runs (exchange : Exchange) : List Event :=
  exchange.entity.toList.map fun entity =>
    .handled entity exchange.request exchange.answer

/-- One run of the handler at most, and the switch that carries the answer. -/
def Exchange.events (exchange : Exchange) : List Event :=
  exchange.runs ++ [.vmcall exchange.answer exchange.params]

variable {σ : Type u} (smErrNotSupported : BitVec 64)
  (smFastcallTable : Nat → Handler σ) (requests : Nat → Smc32Args)

/-- The answer to a request that is not a standard call: the error, or the value
of the handler of the request's own entity. -/
inductive Answered (world : σ) (request : Smc32Args) : Exchange → σ → Prop
  | smc64 : smcIsSmc64 request.smcNr →
      Answered world request ⟨request, none, smErrNotSupported, request.params⟩ world
  | fastcall {reply : Reply σ} : ¬ smcIsSmc64 request.smcNr →
      smcIsFastcall request.smcNr →
      smFastcallTable (smcEntity request.smcNr).toNat request world = reply →
      Answered world request
        ⟨request, some (smcEntity request.smcNr).toNat, reply.value,
          reply.args.params⟩ reply.world

/-- Answers to a list of requests in their order, each once. -/
inductive Transcript : σ → List Smc32Args → List Exchange → σ → Prop
  | nil (world : σ) : Transcript world [] [] world
  | cons {world middle final : σ} {request : Smc32Args} {rest : List Smc32Args}
      {exchange : Exchange} {exchanges : List Exchange} :
      Answered smErrNotSupported smFastcallTable world request exchange middle →
      Transcript middle rest exchanges final →
      Transcript world (request :: rest) (exchange :: exchanges) final

/-- The requests that arrive with `count` switches from the `first` one on. -/
def incoming (first count : Nat) : List Smc32Args :=
  (List.range' first count).map requests

/-- A round whose request is not a standard call answers it with the next
switch. -/
theorem smSchedNonsecure_round {monitor : Monitor σ}
    (open' : ¬ IsStandard (requests monitor.calls)) (bound : Nat)
    (retval : BitVec 64) :
    ∃ exchange next,
      Answered smErrNotSupported smFastcallTable monitor.world
        (requests monitor.calls) exchange next.world ∧
      next.args.params = exchange.params ∧ next.calls = monitor.calls + 1 ∧
      next.events =
        monitor.events ++ .vmcall retval monitor.args.params :: exchange.runs ∧
      smSchedNonsecure smErrNotSupported smFastcallTable requests (bound + 1) retval
          monitor =
        smSchedNonsecure smErrNotSupported smFastcallTable requests bound
          exchange.answer next := by
  let switched : Monitor σ :=
    { monitor with
      args := requests monitor.calls
      calls := monitor.calls + 1
      events := monitor.events ++ [.vmcall retval monitor.args.params] }
  by_cases wide : smcIsSmc64 (requests monitor.calls).smcNr
  · refine ⟨_, switched, .smc64 wide, rfl, rfl, rfl, ?_⟩
    change (if smcIsSmc64 (requests monitor.calls).smcNr then _ else _ :
      Exec Stop (Monitor σ) Unit) switched = _
    rw [if_pos wide]
  · have fast : smcIsFastcall (requests monitor.calls).smcNr :=
      Decidable.not_not.mp fun slow => open' ⟨wide, slow⟩
    let reply := smFastcallTable (smcEntity (requests monitor.calls).smcNr).toNat
      (requests monitor.calls) monitor.world
    refine ⟨_, { switched with
      args := reply.args
      world := reply.world
      events := switched.events ++
        [.handled (smcEntity (requests monitor.calls).smcNr).toNat
          (requests monitor.calls) reply.value] },
      .fastcall wide fast rfl, rfl, rfl, ?_, ?_⟩
    · exact List.append_assoc _ _ _
    · change (if smcIsSmc64 (requests monitor.calls).smcNr then _ else _ :
        Exec Stop (Monitor σ) Unit) switched = _
      rw [if_neg wide, if_neg (not_not.mpr fast)]
      rfl

/-- A standard call ends the loop with its arguments in place. -/
theorem smSchedNonsecure_standard {monitor : Monitor σ}
    (standard : IsStandard (requests monitor.calls)) (bound : Nat)
    (retval : BitVec 64) :
    smSchedNonsecure smErrNotSupported smFastcallTable requests (bound + 1) retval
        monitor =
      (.ok (), { monitor with
        args := requests monitor.calls
        calls := monitor.calls + 1
        events := monitor.events ++ [.vmcall retval monitor.args.params] }) := by
  change (if smcIsSmc64 (requests monitor.calls).smcNr then _ else _ :
    Exec Stop (Monitor σ) Unit) _ = _
  rw [if_neg standard.1, if_pos standard.2]
  rfl

/-- By induction on the number of requests in front of the first standard
call. -/
theorem smSchedNonsecure_returns {count : Nat} {monitor : Monitor σ}
    (earlier : ∀ i, i < count → ¬ IsStandard (requests (monitor.calls + i)))
    (standard : IsStandard (requests (monitor.calls + count))) {bound : Nat}
    (enough : count < bound) (retval : BitVec 64) :
    ∃ exchanges world,
      Transcript smErrNotSupported smFastcallTable monitor.world
        (incoming requests monitor.calls count) exchanges world ∧
      smSchedNonsecure smErrNotSupported smFastcallTable requests bound retval
          monitor =
        (.ok (), ⟨requests (monitor.calls + count), world,
          monitor.calls + count + 1,
          monitor.events ++ .vmcall retval monitor.args.params ::
            exchanges.flatMap Exchange.events⟩) := by
  induction count generalizing monitor bound retval with
  | zero =>
      cases bound with
      | zero => exact absurd enough (Nat.lt_irrefl 0)
      | succ bound =>
          refine ⟨[], monitor.world, .nil _, ?_⟩
          exact smSchedNonsecure_standard _ _ _ standard bound retval
  | succ count ih =>
      cases bound with
      | zero => exact absurd enough (Nat.not_lt_zero _)
      | succ bound =>
          have first := earlier 0 (Nat.succ_pos count)
          obtain ⟨exchange, next, answered, params, calls, events, round⟩ :=
            smSchedNonsecure_round smErrNotSupported smFastcallTable requests first
              bound retval
          have shift (i : Nat) : next.calls + i = monitor.calls + (i + 1) := by omega
          obtain ⟨exchanges, world, transcript, returned⟩ :=
            @ih next (fun i inside => by
                rw [shift]
                exact earlier (i + 1) (Nat.succ_lt_succ inside))
              (by rw [shift]; exact standard) bound (Nat.lt_of_succ_lt_succ enough)
              exchange.answer
          refine ⟨exchange :: exchanges, world, ?_, ?_⟩
          · rw [calls] at transcript
            exact .cons answered transcript
          · rw [round, returned, shift, events, params]
            simp [Exchange.events]

/-- Without a standard call the loop goes on: what the bound cuts off is the
switch with the last answer. -/
theorem smSchedNonsecure_continues {bound : Nat} {monitor : Monitor σ}
    (none : ∀ i, i < bound → ¬ IsStandard (requests (monitor.calls + i)))
    (retval : BitVec 64) :
    ∃ exchanges next,
      Transcript smErrNotSupported smFastcallTable monitor.world
        (incoming requests monitor.calls bound) exchanges next.world ∧
      next.events = monitor.events ++ (.vmcall retval monitor.args.params ::
        exchanges.flatMap Exchange.events).dropLast ∧
      smSchedNonsecure smErrNotSupported smFastcallTable requests bound retval
          monitor = (.error .running, next) := by
  induction bound generalizing monitor retval with
  | zero => exact ⟨[], monitor, .nil _, by simp, rfl⟩
  | succ bound ih =>
      have first := none 0 (Nat.succ_pos bound)
      obtain ⟨exchange, next, answered, params, calls, events, round⟩ :=
        smSchedNonsecure_round smErrNotSupported smFastcallTable requests first bound
          retval
      have shift (i : Nat) : next.calls + i = monitor.calls + (i + 1) := by omega
      obtain ⟨exchanges, final, transcript, record, stopped⟩ :=
        @ih next (fun i inside => by
          rw [shift]
          exact none (i + 1) (Nat.succ_lt_succ inside)) exchange.answer
      refine ⟨exchange :: exchanges, final, ?_, ?_, ?_⟩
      · rw [calls] at transcript
        exact .cons answered transcript
      · rw [record, events, params]
        simp [Exchange.events, List.dropLast_append_of_ne_nil,
          List.dropLast_cons_of_ne_nil]
      · rw [round, stopped]

/-- Whatever requests arrive and whatever the handlers do: the loop returns
exactly with the first standard call, and up to there every request is answered
once and in order, each answer with the next switch. -/
theorem smSchedNonsecure_answers (retval : BitVec 64) (monitor : Monitor σ) :
    (∀ count, (∀ i, i < count → ¬ IsStandard (requests (monitor.calls + i))) →
      IsStandard (requests (monitor.calls + count)) →
      ∀ bound, count < bound → ∃ exchanges world,
        Transcript smErrNotSupported smFastcallTable monitor.world
          (incoming requests monitor.calls count) exchanges world ∧
        smSchedNonsecure smErrNotSupported smFastcallTable requests bound retval
            monitor =
          (.ok (), ⟨requests (monitor.calls + count), world,
            monitor.calls + count + 1,
            monitor.events ++ .vmcall retval monitor.args.params ::
              exchanges.flatMap Exchange.events⟩)) ∧
    (∀ bound, (∀ i, i < bound → ¬ IsStandard (requests (monitor.calls + i))) →
      ∃ exchanges next,
        Transcript smErrNotSupported smFastcallTable monitor.world
          (incoming requests monitor.calls bound) exchanges next.world ∧
        next.events = monitor.events ++ (.vmcall retval monitor.args.params ::
          exchanges.flatMap Exchange.events).dropLast ∧
        smSchedNonsecure smErrNotSupported smFastcallTable requests bound retval
            monitor = (.error .running, next)) := by
  constructor
  · intro count earlier standard bound enough
    exact smSchedNonsecure_returns smErrNotSupported smFastcallTable requests earlier
      standard enough retval
  · intro bound none
    exact smSchedNonsecure_continues smErrNotSupported smFastcallTable requests none
      retval

end SandPlatform.Smc
