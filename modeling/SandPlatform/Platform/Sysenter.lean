import SandPlatform.Foundation.Exec
import SandPlatform.Foundation.Word

/-!
# The check for SYSENTER

`platform_init` panics on a processor without SYSENTER.  The number of the feature
bit is used as a mask, so that the check looks at three other bits.
-/

namespace SandPlatform.Platform

open SandPlatform.Foundation

/-! ## CPUID -/

/-- The registers as `__cpuid` stores them: `rax`, `rbx`, `rcx` and `rdx`. -/
abbrev CpuInfo := Fin 4 → BitVec 64

/-- `GET_STEPPING_ID`. -/
def getSteppingId (val : BitVec 64) : BitVec 64 :=
  val &&& 0xF

/-- `GET_MODEL`. -/
def getModel (val : BitVec 64) : BitVec 64 :=
  val >>> 4 &&& 0xF

/-- `GET_FAMILY_ID`. -/
def getFamilyId (val : BitVec 64) : BitVec 64 :=
  val >>> 8 &&& 0xF

/-- `SEP_BIT`, the number of a bit. -/
def sepBit : BitVec 64 := 11

/-- `BITMAP_GET`, which takes a mask. -/
def bitmapGet (word mask : BitVec 64) : BitVec 64 :=
  word &&& mask

/-- `is_sep_support`: the number of the bit is taken for its mask. -/
def isSepSupport (val : BitVec 64) : Bool :=
  bitmapGet val sepBit != 0

/-- `is_family_6_support`. -/
def isFamily6Support (val : BitVec 64) : Bool :=
  if getFamilyId val = 0x6 ∧ getModel val < 0x3 ∧ getSteppingId val < 0x3 then
    false
  else
    true

/-- The check, on the registers of leaf 1. -/
def isSysenterSupport (info : CpuInfo) : Bool :=
  if !isSepSupport (info 3) then
    false
  else if !isFamily6Support (info 0) then
    false
  else
    true

/-! ## The start of the platform -/

/-- The hypervisors that are known. -/
inductive VmmId
  | evmm
  | acrn
  deriving DecidableEq

/-- What a hypervisor answers to `cpuid`. -/
def vmmSignature : VmmId → List Char
  | .evmm => ['E', 'V', 'M', 'M', 'E', 'V', 'M', 'M', 'E', 'V', 'M', 'M']
  | .acrn => ['A', 'C', 'R', 'N', 'A', 'C', 'R', 'N', 'A', 'C', 'R', 'N']

/-- The bytes of `signature` after the hypervisor leaf. -/
def signatureBytes (info : CpuInfo) : List (BitVec 8) :=
  [info 1, info 2, info 3].flatMap fun register =>
    (List.range 4).map (Word.byte register)

/-- `detect_vmm`: the first hypervisor with the signature that is read. -/
def detectVmm (info : CpuInfo) : Option VmmId :=
  [VmmId.evmm, .acrn].find? fun vmm =>
    (vmmSignature vmm).map (fun letter => BitVec.ofNat 8 letter.toNat) =
      signatureBytes info

/-- What `platform_init` gets from outside: the status of `vmm_alloc`, and the
answers of CPUID by leaf and subleaf.  The hypervisor leaf is asked for with
whatever `rcx` holds. -/
structure Surroundings where
  vmmAlloc : Int
  cpuid : BitVec 64 → BitVec 64 → CpuInfo
  rcx : BitVec 64

/-- Where `platform_init` stops: `panic` in `prepare_secinfo_region`, `ASSERT` in
`smc_init`, and its own `panic`. -/
inductive InitStop
  | secInfo (err : Int)
  | vmm
  | sysenter
  deriving DecidableEq

/-- The calls that return. -/
inductive InitCall
  | prepareSecinfoRegion
  | smcInit (vmm : VmmId)
  | cseInit
  | platformInitMmuMappings
  | x86MmuInit
  | platformUpdatePagetable
  | spiMmuInit
  deriving DecidableEq

/-- A call puts itself on record. -/
def InitCall.made (call : InitCall) : Exec InitStop (List InitCall) Unit :=
  Exec.modify fun calls => calls ++ [call]

section PlatformInit

variable (around : Surroundings)

/-- The region of the security information is mapped, or the boot ends. -/
def callPrepareSecinfoRegion : Exec InitStop (List InitCall) Unit :=
  if around.vmmAlloc ≠ 0 then
    Exec.stop (.secInfo around.vmmAlloc)
  else
    InitCall.prepareSecinfoRegion.made

/-- `smc_init`, for the hypervisor that was detected. -/
def smcInit : Exec InitStop (List InitCall) Unit :=
  match detectVmm (around.cpuid 0x40000000 around.rcx) with
  | some vmm => (InitCall.smcInit vmm).made
  | none => Exec.stop .vmm

/-- `platform_init`. -/
def platformInit : Exec InitStop (List InitCall) Unit := do
  callPrepareSecinfoRegion around
  smcInit around
  InitCall.cseInit.made
  if !isSysenterSupport (around.cpuid 1 0) then
    Exec.stop .sysenter
  else do
    InitCall.platformInitMmuMappings.made
    InitCall.x86MmuInit.made
    InitCall.platformUpdatePagetable.made
    InitCall.spiMmuInit.made

end PlatformInit

/-! ## What is asked for -/

/-- The feature bit. -/
def HasSep (info : CpuInfo) : Prop :=
  (info 3).getLsbD 11 = true

instance (info : CpuInfo) : Decidable (HasSep info) :=
  inferInstanceAs (Decidable (_ = _))

/-- The parts that set the feature bit without having the feature. -/
structure IsEarlyFamily6 (info : CpuInfo) : Prop where
  family : Word.field (info 0) 8 4 = 6
  model : Word.field (info 0) 4 4 < 3
  stepping : Word.field (info 0) 0 4 < 3

/-- The processor has the instruction. -/
def HasSysenter (info : CpuInfo) : Prop :=
  HasSep info ∧ ¬ IsEarlyFamily6 info

/-- The calls in front of the check return. -/
structure Surroundings.ReachesCheck (around : Surroundings) : Prop where
  allocated : around.vmmAlloc = 0
  detected : (detectVmm (around.cpuid 0x40000000 around.rcx)).isSome = true

/-- The check answers whether the processor has the feature, and `platform_init`
panics at it exactly if it does not. -/
structure SysenterChecked (around : Surroundings) : Prop where
  support : isSysenterSupport (around.cpuid 1 0) = true ↔
    HasSysenter (around.cpuid 1 0)
  panics : around.ReachesCheck →
    ((∃ stop, (platformInit around []).1 = .error stop) ↔
      ¬ HasSysenter (around.cpuid 1 0))

/-- One of the bits that are set in the number of the feature bit. -/
def HasTestedBit (info : CpuInfo) : Prop :=
  (info 3).getLsbD 0 = true ∨ (info 3).getLsbD 1 = true ∨ (info 3).getLsbD 3 = true

/-! ## The check -/

theorem isSepSupport_iff (info : CpuInfo) :
    isSepSupport (info 3) = true ↔ HasTestedBit info := by
  have bits : ∀ i < 64, (11 : BitVec 64).getLsbD i = true ↔ i = 0 ∨ i = 1 ∨ i = 3 := by
    decide
  rw [isSepSupport, bne_iff_ne, bitmapGet, sepBit, Word.and_ne_zero_iff]
  constructor
  · rintro ⟨i, inside, bit, selected⟩
    rcases (bits i inside).mp selected with rfl | rfl | rfl
    · exact Or.inl bit
    · exact Or.inr (Or.inl bit)
    · exact Or.inr (Or.inr bit)
  · rintro (bit | bit | bit)
    · exact ⟨0, by decide, bit, by decide⟩
    · exact ⟨1, by decide, bit, by decide⟩
    · exact ⟨3, by decide, bit, by decide⟩

/-- Four bits that are shifted down. -/
theorem toNat_ushiftRight_and_0xF (val : BitVec 64) (low : Nat) :
    (val >>> low &&& 0xF).toNat = (Word.field val low 4).toNat := by
  have masked : ((val >>> low) &&& 0xF).toNat = (val >>> low).toNat % 2 ^ 4 := by
    rw [BitVec.toNat_and]
    exact Nat.and_two_pow_sub_one_eq_mod _ 4
  rw [masked, Word.toNat_field, BitVec.toNat_ushiftRight, Nat.shiftRight_eq_div_pow]

theorem isFamily6Support_iff (info : CpuInfo) :
    isFamily6Support (info 0) = true ↔ ¬ IsEarlyFamily6 info := by
  have family : getFamilyId (info 0) = 0x6 ↔ Word.field (info 0) 8 4 = 6 := by
    rw [← BitVec.toNat_inj, ← BitVec.toNat_inj, getFamilyId, toNat_ushiftRight_and_0xF]
    rfl
  have model : getModel (info 0) < 0x3 ↔ Word.field (info 0) 4 4 < 3 := by
    rw [BitVec.lt_def, BitVec.lt_def, getModel, toNat_ushiftRight_and_0xF]
    rfl
  have stepping : getSteppingId (info 0) < 0x3 ↔ Word.field (info 0) 0 4 < 3 := by
    rw [BitVec.lt_def, BitVec.lt_def, getSteppingId,
      ← BitVec.ushiftRight_zero (info 0), toNat_ushiftRight_and_0xF,
      BitVec.ushiftRight_zero]
    rfl
  have early : (getFamilyId (info 0) = 0x6 ∧ getModel (info 0) < 0x3 ∧
      getSteppingId (info 0) < 0x3) ↔ IsEarlyFamily6 info := by
    rw [family, model, stepping]
    constructor
    · rintro ⟨atSix, belowModel, belowStepping⟩
      exact ⟨atSix, belowModel, belowStepping⟩
    · intro part
      exact ⟨part.family, part.model, part.stepping⟩
  rw [isFamily6Support]
  by_cases part : IsEarlyFamily6 info
  · rw [if_pos (early.mpr part)]
    simp [part]
  · rw [if_neg (mt early.mp part)]
    simp [part]

theorem isSysenterSupport_iff (info : CpuInfo) :
    isSysenterSupport info = true ↔ HasTestedBit info ∧ ¬ IsEarlyFamily6 info := by
  rw [← isSepSupport_iff, ← isFamily6Support_iff, isSysenterSupport]
  cases isSepSupport (info 3) <;> cases isFamily6Support (info 0) <;> simp

/-! ## The panic -/

section Panic

variable {around : Surroundings}

/-- Up to the check nothing but the check decides. -/
theorem platformInit_at_check (reaches : around.ReachesCheck) :
    (platformInit around []).1 =
      if isSysenterSupport (around.cpuid 1 0) = true then .ok () else .error .sysenter := by
  obtain ⟨vmm, detected⟩ := Option.isSome_iff_exists.mp reaches.detected
  have prepared : callPrepareSecinfoRegion around = InitCall.prepareSecinfoRegion.made := by
    rw [callPrepareSecinfoRegion, if_neg (not_not.mpr reaches.allocated)]
  have found : smcInit around = (InitCall.smcInit vmm).made := by
    rw [smcInit, detected]
  rw [platformInit, prepared, found]
  cases isSysenterSupport (around.cpuid 1 0) <;> rfl

theorem panics_iff (reaches : around.ReachesCheck) :
    (∃ stop, (platformInit around []).1 = .error stop) ↔
      ¬ isSysenterSupport (around.cpuid 1 0) = true := by
  rw [platformInit_at_check reaches]
  cases isSysenterSupport (around.cpuid 1 0) with
  | false => exact iff_of_true ⟨_, rfl⟩ Bool.false_ne_true
  | true =>
      refine iff_of_false ?_ (not_not.mpr rfl)
      rintro ⟨stop, stopped⟩
      cases stopped

end Panic

/-- The check is right exactly if the bits it looks at are worth as much as the
feature bit, or the processor is refused for its family. -/
theorem sysenterChecked_iff (around : Surroundings) :
    SysenterChecked around ↔
      IsEarlyFamily6 (around.cpuid 1 0) ∨
        (HasTestedBit (around.cpuid 1 0) ↔ HasSep (around.cpuid 1 0)) := by
  have decided : SysenterChecked around ↔ (isSysenterSupport (around.cpuid 1 0) = true ↔
      HasSysenter (around.cpuid 1 0)) := by
    constructor
    · exact SysenterChecked.support
    · intro support
      refine ⟨support, fun reaches => ?_⟩
      rw [panics_iff reaches, support]
  rw [decided, isSysenterSupport_iff, HasSysenter]
  by_cases early : IsEarlyFamily6 (around.cpuid 1 0)
  · simp only [early, not_true, and_false, true_or]
  · simp only [early, not_false_iff, and_true, false_or]

/-- A common processor whose SEP bit is hidden by a hypervisor. -/
def hiddenSep : Surroundings where
  vmmAlloc := 0
  cpuid leaf _ :=
    if leaf = 1 then [0x906EA, 0, 0, 0xBFEBF3FF].get
    else [0, 0x4D4D5645, 0x4D4D5645, 0x4D4D5645].get
  rcx := 0

/-- It passes the check. -/
theorem hiddenSep_passes : ¬ SysenterChecked hiddenSep := by
  intro checked
  have support : isSysenterSupport (hiddenSep.cpuid 1 0) = true := by decide
  exact absurd (checked.support.mp support).1 (by decide)

end SandPlatform.Platform
