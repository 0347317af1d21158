import SandPlatform.Hardware.ConfigSpace

/-!
# The first base address register

`pci_read_bar0` looks at the two type bits only.  In a register for I/O space they
are bits of the port, so a port may pass for the lower half of a 64-bit address.
-/

namespace SandPlatform.Hardware

open SandPlatform.Foundation

/-! ## What is asked for -/

/-- The base address register of the function with a packed address. -/
def bar0Of (pciAddr : BitVec 16) : Register where
  bus := Word.field pciAddr 8 8
  device := Word.field pciAddr 3 5
  function := Word.field pciAddr 0 3
  reg := pciConfigBarOffset

/-- The base address register of a range of ports. -/
def IsIoBar (bar : BitVec 32) : Prop :=
  Word.field bar 0 1 = 1

/-- The bits of a register for memory that say how wide the address is. -/
def barType (bar : BitVec 32) : BitVec 2 :=
  Word.field bar 1 2

/-- The base address register of a memory range that goes on in the next one. -/
def Is64BitMemoryBar (bar : BitVec 32) : Prop :=
  ¬ IsIoBar bar ∧ barType bar = 0b10

instance (bar : BitVec 32) : Decidable (IsIoBar bar) :=
  inferInstanceAs (Decidable (_ = _))

instance (bar : BitVec 32) : Decidable (Is64BitMemoryBar bar) :=
  inferInstanceAs (Decidable (_ ∧ _))

/-- The register in the lower half, and the next one in the upper half exactly if
the two are one address. -/
structure IsBar0 (space : ConfigSpace) (pciAddr : BitVec 16) (bar : BitVec 64) :
    Prop where
  low : Word.field bar 0 32 = space.load32 (bar0Of pciAddr)
  high_of_wide : Is64BitMemoryBar (space.load32 (bar0Of pciAddr)) →
    Word.field bar 32 32 = space.load32 ((bar0Of pciAddr).plus 4)
  high_of_narrow : ¬ Is64BitMemoryBar (space.load32 (bar0Of pciAddr)) →
    Word.field bar 32 32 = 0

/-! ## The parts of an address -/

section Parts

variable (pciAddr : BitVec 16)

theorem getPciBus_eq : getPciBus pciAddr = (bar0Of pciAddr).bus := by
  have mask : Word.field pciBusMask 8 8 = BitVec.allOnes 8 := by decide
  rw [getPciBus, ← Word.field_eq_ushiftRight, Word.field_and, mask, BitVec.and_allOnes]
  rfl

theorem getPciDevice_eq : (getPciDevice pciAddr).setWidth 5 = (bar0Of pciAddr).device := by
  have mask : Word.field pciDeviceMask 3 5 = BitVec.allOnes 5 := by decide
  rw [getPciDevice, BitVec.setWidth_setWidth_of_le _ (by decide),
    ← Word.field_eq_ushiftRight, Word.field_and, mask, BitVec.and_allOnes]
  rfl

theorem getPciFunction_eq :
    (getPciFunction pciAddr).setWidth 3 = (bar0Of pciAddr).function := by
  have mask : Word.field pciFunctionMask 0 3 = BitVec.allOnes 3 := by decide
  rw [getPciFunction, BitVec.setWidth_setWidth_of_le _ (by decide),
    ← BitVec.ushiftRight_zero (pciAddr &&& pciFunctionMask),
    ← Word.field_eq_ushiftRight, Word.field_and, mask, BitVec.and_allOnes]
  rfl

end Parts

/-- The test of the code looks at the type bits. -/
theorem and_six_eq_four_iff (bar : BitVec 32) : bar &&& 0x6 = 0x4 ↔ barType bar = 0b10 := by
  have mask : (0x6 : BitVec 32) = (BitVec.allOnes 2).setWidth 32 <<< 1 := by decide
  have wide : (0x4 : BitVec 32) = (0b10 : BitVec 2).setWidth 32 <<< 1 := by decide
  rw [mask, wide, Word.and_fieldMask, ← barType]
  constructor
  · intro same
    have fields := congrArg (fun word => Word.field word 1 2) same
    simpa only [Word.field_shiftLeft_same _ (by decide : 1 + 2 ≤ 32)] using fields
  · intro same
    rw [same]

/-! ## The halves of the answer -/

section Halves

variable (high low : BitVec 32)

theorem low_make64 : Word.field (make64 high low) 0 32 = low := by
  have shift : low.setWidth 64 = low.setWidth 64 <<< 0 := by simp
  have mask : Word.field (mask64Low 32) 0 32 = BitVec.allOnes 32 := by decide
  rw [make64, Word.field_or, Word.field_shiftLeft_of_disjoint high (by decide),
    Word.field_and, mask, shift, Word.field_shiftLeft_same low (by decide),
    BitVec.and_allOnes]
  exact BitVec.zero_or

theorem high_make64 : Word.field (make64 high low) 32 32 = high := by
  have mask : Word.field (mask64Low 32) 32 32 = 0 := by decide
  rw [make64, Word.field_or, Word.field_shiftLeft_same high (by decide),
    Word.field_and, mask]
  simp

end Halves

/-! ## The reads -/

section Reads

variable (hw : Hw Mechanism)

/-- A read answers the doubleword and leaves configuration space as it is. -/
theorem pciRead32_mechanism1 (register : Register) (inside : register.lane = 0) :
    ∃ later, pciRead32 mechanism1 register.bus register.device register.function
        register.reg hw = (.ok (hw.device.space.load32 register), later) ∧
      later.device.space = hw.device.space := by
  have outcome := PciCall.outcome_read32 hw register inside
  rcases returned : pciRead32 mechanism1 register.bus register.device
      register.function register.reg hw with ⟨reason | value, later⟩
  · rw [PciCall.outcome, PciCall.perform, Exec.bind_of_error returned] at outcome
    cases congrArg Prod.fst outcome
  · rw [PciCall.outcome, PciCall.perform, Exec.bind_of_ok returned] at outcome
    have answer := Answer.value32.inj (Except.ok.inj (congrArg Prod.fst outcome))
    have kept : later.device.space = hw.device.space := congrArg Prod.snd outcome
    exact ⟨later, by rw [answer], kept⟩

/-- The answer, by the bits the code looks at. -/
theorem pciReadBar0_mechanism1 (pciAddr : BitVec 16) :
    (pciReadBar0 mechanism1 pciAddr hw).1 =
      .ok (make64
        (if barType (hw.device.space.load32 (bar0Of pciAddr)) = 0b10 then
          hw.device.space.load32 ((bar0Of pciAddr).plus 4)
        else 0)
        (hw.device.space.load32 (bar0Of pciAddr))) := by
  have aligned : (bar0Of pciAddr).lane = 0 := by
    simp [Register.lane, bar0Of, pciConfigBarOffset]
  have aligned' : ((bar0Of pciAddr).plus 4).lane = 0 := by
    simp [Register.lane, Register.plus, bar0Of, pciConfigBarOffset]
  obtain ⟨between, first, kept⟩ := pciRead32_mechanism1 hw _ aligned
  obtain ⟨later, second, _⟩ := pciRead32_mechanism1 between _ aligned'
  rw [kept] at second
  rw [pciReadBar0, getPciBus_eq, getPciDevice_eq, getPciFunction_eq]
  dsimp only
  change ((pciRead32 mechanism1 (bar0Of pciAddr).bus (bar0Of pciAddr).device
    (bar0Of pciAddr).function (bar0Of pciAddr).reg >>= _) hw).1 = _
  rw [Exec.bind_of_ok first]
  by_cases wide : barType (hw.device.space.load32 (bar0Of pciAddr)) = 0b10
  · rw [if_pos wide, if_pos ((and_six_eq_four_iff _).mpr wide)]
    exact congrArg Prod.fst (Exec.bind_of_ok second)
  · rw [if_neg wide, if_neg (mt (and_six_eq_four_iff _).mp wide)]
    rfl

/-- The bits of a port pass for the type of a register for memory, and there is
something behind them. -/
def PassesForWide (space : ConfigSpace) (pciAddr : BitVec 16) : Prop :=
  IsIoBar (space.load32 (bar0Of pciAddr)) ∧
    barType (space.load32 (bar0Of pciAddr)) = 0b10 ∧
    space.load32 ((bar0Of pciAddr).plus 4) ≠ 0

theorem isBar0_iff (space : ConfigSpace) (pciAddr : BitVec 16) :
    IsBar0 space pciAddr
        (make64
          (if barType (space.load32 (bar0Of pciAddr)) = 0b10 then
            space.load32 ((bar0Of pciAddr).plus 4)
          else 0)
          (space.load32 (bar0Of pciAddr))) ↔
      ¬ PassesForWide space pciAddr := by
  constructor
  · rintro isBar ⟨port, wide, behind⟩
    have high := isBar.high_of_narrow fun memory => memory.1 port
    rw [high_make64, if_pos wide] at high
    exact behind high
  · intro memory
    constructor
    · rw [low_make64]
    · intro isWide
      rw [high_make64, if_pos isWide.2]
    · intro narrow
      rw [high_make64]
      by_cases wide : barType (space.load32 (bar0Of pciAddr)) = 0b10
      · have port : IsIoBar (space.load32 (bar0Of pciAddr)) := by
          by_contra notPort
          exact narrow ⟨notPort, wide⟩
        rw [if_pos wide]
        by_contra behind
        exact memory ⟨port, wide, behind⟩
      · rw [if_neg wide]

/-- The register of the function that is addressed is read, and the next one exactly
if it belongs to the same address, unless a port passes for half of an address. -/
theorem pciReadBar0_isBar0_iff (pciAddr : BitVec 16) :
    (∃ bar, (pciReadBar0 mechanism1 pciAddr hw).1 = .ok bar ∧
        IsBar0 hw.device.space pciAddr bar) ↔
      ¬ PassesForWide hw.device.space pciAddr := by
  rw [pciReadBar0_mechanism1, ← isBar0_iff]
  constructor
  · rintro ⟨bar, returned, isBar⟩
    rw [Except.ok.inj returned]
    exact isBar
  · intro isBar
    exact ⟨_, rfl, isBar⟩

end Reads

/-- Every function has its first two registers at the ports `0xC004` and `0xD000`. -/
def twoPorts : ConfigSpace := fun register =>
  if register.reg = 0x10 then 0x05
  else if register.reg = 0x11 then 0xC0
  else if register.reg = 0x14 then 0x01
  else if register.reg = 0x15 then 0xD0
  else 0

/-- The second port is returned as the upper half of an address. -/
theorem port_passes_for_address :
    ¬ ∃ bar, (pciReadBar0 mechanism1 (pciGetAddress 0 31 1) ⟨⟨0, twoPorts⟩, []⟩).1 =
        .ok bar ∧ IsBar0 twoPorts (pciGetAddress 0 31 1) bar := by
  rintro ⟨bar, returned, isBar⟩
  have high := isBar.high_of_narrow (by decide)
  rw [pciReadBar0_mechanism1] at returned
  rw [← Except.ok.inj returned, high_make64] at high
  exact absurd high (by decide)

end SandPlatform.Hardware
