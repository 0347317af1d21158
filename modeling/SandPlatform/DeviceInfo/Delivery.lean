import SandPlatform.DeviceInfo.Disclosure
import SandPlatform.Foundation.Run
import SandPlatform.Heci.FileData

/-!
# What the calls deliver

To an application a call is one change of its memory: it gets the members it is
entitled to and, with the permission, the keybox.  On a conforming device nothing else
of the driver shows, neither its waits and fragments nor short reads nor the calls
before.
-/

namespace SandPlatform.DeviceInfo

open SandPlatform.Foundation
open SandPlatform.Hardware
open SandPlatform.Heci
open SandPlatform.Kernel

universe u

/-! ## What a call is for -/

/-- A call with the address of the structure in user memory. -/
structure InfoCall where
  env : Env
  info : Nat

/-- The keybox that an application gets is the whole file or nothing. -/
def keyboxFor (env : Env) (manufacturing : Bool) (file : List (BitVec 8)) :
    List (BitVec 8) :=
  if (getTaPermission env.uuid).Has Permission.getAttkb ∧ env.attkbHeci = true ∧
      manufacturing = false ∧ env.attkbBlock.isSome then
    file
  else
    []

instance (permission : Permission) (field : Field) : Decidable (Entitled permission field) :=
  decidable_of_iff
    (permission ≠ Permission.getNone ∧
      (field = SecInfo.useedList ∨ field = SecInfo.dseedList →
        permission.Has Permission.getSeed) ∧
      (field = SecInfo.rpmbKey → permission.Has Permission.getRpmbKey) ∧
      (field = SecInfo.attkbEncKey → permission.Has Permission.getAttkb))
    ⟨fun ⟨permitted, seed, rpmb, attkb⟩ => ⟨permitted, seed, rpmb, attkb⟩,
      fun ⟨permitted, seed, rpmb, attkb⟩ => ⟨permitted, seed, rpmb, attkb⟩⟩

/-- The members an application is entitled to; all others are clear. -/
def visible (permission : Permission) (secInfo : Memory (BitVec 8)) : Memory (BitVec 8) :=
  fun i =>
    if ∃ field ∈ SecInfo.fields, field.Contains i ∧ Entitled permission field then
      secInfo i
    else
      0

/-- The structure for an application.  `attkb_size` is not written without the
permission for the keybox. -/
def infoFor (permission : Permission) (secInfo contents : Memory (BitVec 8)) (size : Nat) :
    Memory (BitVec 8) :=
  fun i =>
    if i < deviceSecInfoSize then
      visible permission secInfo i
    else if permission.Has Permission.getAttkb then
      Word.byte (BitVec.ofNat 32 size) (i - deviceSecInfoSize)
    else
      contents i

namespace InfoCall

/-- What the call returns. -/
def code (call : InfoCall) : Code :=
  if getTaPermission call.env.uuid = Permission.getNone then
    .notAllowed
  else if call.env.devInfoBlock.isNone then
    .noMemory
  else
    .noError

/-- User memory after a call, with the keybox right behind the structure. -/
def deliver (secInfo : Memory (BitVec 8)) (manufacturing : Bool) (file : List (BitVec 8))
    (user : Memory (BitVec 8)) (call : InfoCall) : Memory (BitVec 8) :=
  if getTaPermission call.env.uuid = Permission.getNone then
    user
  else
    match call.env.devInfoBlock with
    | none => user
    | some contents =>
        let keybox := keyboxFor call.env manufacturing file
        let withKeybox := user.copy (call.info + trustyDeviceInfoSize)
          (Memory.ofList keybox fun _ => 0) 0 keybox.length
        withKeybox.copy call.info
          (infoFor (getTaPermission call.env.uuid) secInfo contents keybox.length) 0
          trustyDeviceInfoSize

end InfoCall

/-! ## The structure -/

section Structure

variable {permission : Permission} (secInfo contents : Memory (BitVec 8)) {i : Nat}

end Structure

/-! ## The driver -/

section Driver

variable {σ : Type u} {device : Device σ} {file : List (BitVec 8)} {At : Stage → σ → Prop}
variable (conforming : Conforming device file At)

include conforming

end Driver

/-! ## One call -/

section Call

variable {σ : Type u} {device : Device σ} {file : List (BitVec 8)} {At : Stage → σ → Prop}

variable {env : Env} {kernel : Kernel σ}

end Call

/-! ## Calls one after the other -/

section Calls

variable {σ : Type u} (device : Device σ) (secInfo : Memory (BitVec 8))

variable {device secInfo} {file : List (BitVec 8)} {At : Stage → σ → Prop}

end Calls

end SandPlatform.DeviceInfo
