import SandPlatform.Hardware.Device

/-!
# Switching to the non-secure world

The loop of `sm_sched_nonsecure` hands a result to the non-secure world and
receives the next request in exchange, until the request is one for the standard
call path.  Fast-call handlers may change the arguments and anything else they
can reach; what they can reach is an arbitrary `world`.
-/

namespace SandPlatform.Smc

open SandPlatform.Foundation
open SandPlatform.Hardware

universe u

/-- `smc32_args_t`. -/
structure Smc32Args where
  smcNr : BitVec 32
  params : Vector (BitVec 32) 3
  deriving DecidableEq

/-! ## The fields of a request number -/

/-- `SMC_IS_SMC64`. -/
def smcIsSmc64 (smcNr : BitVec 32) : Prop :=
  smcNr &&& 0x40000000 ≠ 0

/-- `SMC_IS_FASTCALL`. -/
def smcIsFastcall (smcNr : BitVec 32) : Prop :=
  smcNr &&& 0x80000000 ≠ 0

instance (smcNr : BitVec 32) : Decidable (smcIsSmc64 smcNr) :=
  inferInstanceAs (Decidable (_ ≠ _))

instance (smcNr : BitVec 32) : Decidable (smcIsFastcall smcNr) :=
  inferInstanceAs (Decidable (_ ≠ _))

/-- `SMC_ENTITY`, six bits of the number. -/
def smcEntity (smcNr : BitVec 32) : BitVec 32 :=
  (smcNr &&& 0x3F000000) >>> 24

/-! ## Handlers -/

/-- What a handler leaves behind. -/
structure Reply (σ : Type u) where
  value : BitVec 64
  args : Smc32Args
  world : σ

/-- `smc32_handler_t`. -/
abbrev Handler (σ : Type u) : Type u :=
  Smc32Args → σ → Reply σ

variable {σ : Type u}

/-! ## The loop -/

/-- A result handed to the non-secure world, with the parameter registers, and a
handler run. -/
inductive Event
  | vmcall (ret : BitVec 64) (params : Vector (BitVec 32) 3)
  | handled (entity : Nat) (args : Smc32Args) (value : BitVec 64)
  deriving DecidableEq

/-- The arguments record, the number of switches made so far and what happened,
oldest first. -/
structure Monitor (σ : Type u) where
  args : Smc32Args
  world : σ
  calls : Nat
  events : List Event

/-- Switch to the non-secure world; it comes back with its next request. -/
def makeSmcVmcall (requests : Nat → Smc32Args) (ret : BitVec 64) :
    Exec Stop (Monitor σ) Unit where
  run monitor :=
    (.ok (),
      { monitor with
        args := requests monitor.calls
        calls := monitor.calls + 1
        events := monitor.events ++ [.vmcall ret monitor.args.params] })

/-- Call the fast-call handler of an entity. -/
def callHandler (smFastcallTable : Nat → Handler σ) (entity : Nat) :
    Exec Stop (Monitor σ) (BitVec 64) where
  run monitor :=
    let reply := smFastcallTable entity monitor.args monitor.world
    (.ok reply.value,
      { monitor with
        args := reply.args
        world := reply.world
        events := monitor.events ++ [.handled entity monitor.args reply.value] })

/-- The body between `return_sm_err` and the `goto`s; `bound` limits the number
of switches. -/
def smSchedNonsecure (smErrNotSupported : BitVec 64)
    (smFastcallTable : Nat → Handler σ) (requests : Nat → Smc32Args) :
    Nat → BitVec 64 → Exec Stop (Monitor σ) Unit
  | 0, _ => Exec.stop .running
  | bound + 1, retval => do
      makeSmcVmcall requests retval
      let smcNr ← Exec.gets fun monitor => monitor.args.smcNr
      if smcIsSmc64 smcNr then
        smSchedNonsecure smErrNotSupported smFastcallTable requests bound
          smErrNotSupported
      else if ¬ smcIsFastcall smcNr then
        pure ()
      else do
        let retval ← callHandler smFastcallTable (smcEntity smcNr).toNat
        smSchedNonsecure smErrNotSupported smFastcallTable requests bound retval

end SandPlatform.Smc
