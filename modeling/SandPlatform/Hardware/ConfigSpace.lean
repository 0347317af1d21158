import SandPlatform.Foundation.Run
import SandPlatform.Hardware.Pci

/-!
# Configuration space as a store of bytes

The six configuration calls are compared with a store of bytes.  Behind the ports
is configuration mechanism #1: the address port selects a doubleword of a device,
and an access of `w` bytes at `k` behind the data port touches the bytes from `k`
to `k + w - 1` of it.
-/

namespace SandPlatform.Hardware

open SandPlatform.Foundation

/-! ## The store -/

/-- A byte of configuration space. -/
structure Register where
  bus : BitVec 8
  device : BitVec 5
  function : BitVec 3
  reg : BitVec 8
  deriving DecidableEq

namespace Register

/-- The register some bytes further. -/
def plus (register : Register) (bytes : Nat) : Register :=
  { register with reg := register.reg + .ofNat 8 bytes }

theorem plus_plus (register : Register) (first second : Nat) :
    (register.plus first).plus second = register.plus (first + second) := by
  simp [plus, BitVec.add_assoc, BitVec.ofNat_add]

@[simp]
theorem plus_zero (register : Register) : register.plus 0 = register := by
  simp [plus]

/-- The registers of a function are a cycle. -/
theorem plus_cycle (register : Register) : register.plus 256 = register := by
  simp [plus]

/-- Two registers of one function. -/
theorem exists_plus {register other : Register} (bus : other.bus = register.bus)
    (device : other.device = register.device)
    (function : other.function = register.function) :
    ∃ bytes < 256, other = register.plus bytes := by
  have reg : register.reg + .ofNat 8 (other.reg - register.reg).toNat = other.reg := by
    rw [BitVec.ofNat_toNat, BitVec.setWidth_eq, BitVec.add_comm, BitVec.sub_add_cancel]
  refine ⟨(other.reg - register.reg).toNat, BitVec.isLt _, ?_⟩
  rw [plus, reg, ← bus, ← device, ← function]

/-- The offset in the doubleword. -/
def lane (register : Register) : Nat :=
  register.reg.toNat % 4

end Register

/-- The bytes of all functions of all devices. -/
abbrev ConfigSpace := Register → BitVec 8

namespace ConfigSpace

variable (space : ConfigSpace) (register : Register)

/-- The byte of a register. -/
def load8 : BitVec 8 :=
  space register

/-- Two bytes, the lower one first. -/
def load16 : BitVec 16 :=
  space (register.plus 1) ++ space register

/-- Four bytes, the lowest first. -/
def load32 : BitVec 32 :=
  space (register.plus 3) ++ space (register.plus 2) ++ space (register.plus 1) ++
    space register

/-- What a read of some width answers. -/
def load : Width → BitVec 32
  | .byte => (space.load8 register).setWidth 32
  | .half => (space.load16 register).setWidth 32
  | .word => space.load32 register

/-- Store bytes one after another. -/
def store (bytes : List (BitVec 8)) : ConfigSpace :=
  fun other =>
    if other.bus = register.bus ∧ other.device = register.device ∧
        other.function = register.function then
      (bytes[(other.reg - register.reg).toNat]?).getD (space other)
    else
      space other

end ConfigSpace

/-- The lowest bytes of a value, lowest first. -/
def bytesOf {n : Nat} (count : Nat) (value : BitVec n) : List (BitVec 8) :=
  (List.range count).map (Word.byte value)

theorem bytesOf_setWidth {n m count : Nat} (value : BitVec n) (fits : 8 * count ≤ n)
    (wider : n ≤ m) : bytesOf count (value.setWidth m) = bytesOf count value := by
  apply List.map_congr_left
  intro i mem
  have inside := List.mem_range.mp mem
  exact Word.byte_setWidth value (by omega) wider

/-! ## Configuration mechanism #1 -/

/-- The address register and the configuration space behind the ports. -/
structure Mechanism where
  address : BitVec 32
  space : ConfigSpace

namespace Mechanism

/-- The byte at an offset of the doubleword that is selected. -/
def selected (address : BitVec 32) (offset : Nat) : Register where
  bus := Word.field address 16 8
  device := Word.field address 11 5
  function := Word.field address 8 3
  reg := .ofNat 8 (4 * (Word.field address 2 6).toNat + offset)

/-- The enable bit of the address port, without which an access is no configuration cycle. -/
def enabled (address : BitVec 32) : Prop :=
  Word.field address 31 1 = 1

instance (address : BitVec 32) : Decidable (enabled address) :=
  inferInstanceAs (Decidable (_ = _))

end Mechanism

/-- How many bytes an access touches. -/
def Width.bytes : Width → Nat
  | .byte => 1
  | .half => 2
  | .word => 4

/-- Where an access to the data port starts, if it stays in the doubleword. -/
def dataOffset (width : Width) (port : Nat) : Option Nat :=
  if pciConfigDataRegister ≤ port ∧
      port + width.bytes ≤ pciConfigDataRegister + 4 then
    some (port - pciConfigDataRegister)
  else
    none

/-- What a read of the selected doubleword answers. -/
def Mechanism.loaded (state : Mechanism) (width : Width) (offset : Nat) : BitVec 32 :=
  if Mechanism.enabled state.address then
    state.space.load (Mechanism.selected state.address offset) width
  else
    .allOnes 32

/-- What a write to the selected doubleword leaves. -/
def Mechanism.stored (state : Mechanism) (width : Width) (offset : Nat)
    (value : BitVec 32) : Mechanism :=
  if Mechanism.enabled state.address then
    { state with
      space := state.space.store (Mechanism.selected state.address offset)
        (bytesOf width.bytes value) }
  else
    state

/-- The ports.  Nothing answers an access that selects no register. -/
def mechanism1 : Device Mechanism where
  read window width port state :=
    if window = .port ∧ width = .word ∧ port = pciConfigAddressRegister then
      (state.address, state)
    else
      match window, dataOffset width port with
      | .port, some offset => (state.loaded width offset, state)
      | _, _ => (.allOnes 32, state)
  write window width port value state :=
    if window = .port ∧ width = .word ∧ port = pciConfigAddressRegister then
      { state with address := value }
    else
      match window, dataOffset width port with
      | .port, some offset => state.stored width offset value
      | _, _ => state
  mapPhysical _ state := (none, state)

/-! ## Calls -/

/-- A configuration call whose access does not cross a doubleword. -/
inductive PciCall
  | read8 (register : Register)
  | write8 (register : Register) (value : BitVec 8)
  | read16 (register : Register) (inside : register.lane ≤ 2)
  | write16 (register : Register) (inside : register.lane ≤ 2) (value : BitVec 16)
  | read32 (register : Register) (inside : register.lane = 0)
  | write32 (register : Register) (inside : register.lane = 0) (value : BitVec 32)

/-- What a call returns; a write returns nothing. -/
inductive Answer
  | done
  | value8 (value : BitVec 8)
  | value16 (value : BitVec 16)
  | value32 (value : BitVec 32)
  deriving DecidableEq

namespace PciCall

/-- The call as the code makes it. -/
def perform : PciCall → Exec Stop (Hw Mechanism) Answer
  | .read8 r => do
      let value ← pciRead8 mechanism1 r.bus r.device r.function r.reg
      pure (.value8 value)
  | .write8 r value => do
      pciWrite8 mechanism1 r.bus r.device r.function r.reg value
      pure .done
  | .read16 r _ => do
      let value ← pciRead16 mechanism1 r.bus r.device r.function r.reg
      pure (.value16 value)
  | .write16 r _ value => do
      pciWrite16 mechanism1 r.bus r.device r.function r.reg value
      pure .done
  | .read32 r _ => do
      let value ← pciRead32 mechanism1 r.bus r.device r.function r.reg
      pure (.value32 value)
  | .write32 r _ value => do
      pciWrite32 mechanism1 r.bus r.device r.function r.reg value
      pure .done

/-- The call on a store of bytes. -/
def intended (space : ConfigSpace) : PciCall → Except Stop Answer × ConfigSpace
  | .read8 register => (.ok (.value8 (space.load8 register)), space)
  | .write8 register value => (.ok .done, space.store register (bytesOf 1 value))
  | .read16 register _ => (.ok (.value16 (space.load16 register)), space)
  | .write16 register _ value => (.ok .done, space.store register (bytesOf 2 value))
  | .read32 register _ => (.ok (.value32 (space.load32 register)), space)
  | .write32 register _ value => (.ok .done, space.store register (bytesOf 4 value))

end PciCall

/-! ## The address -/

section Address

variable (register : Register)

/-- The address a call writes to the address port. -/
def addressOf : BitVec 32 :=
  pciConfigAddress register.bus register.device register.function register.reg

theorem toNat_addressOf_mod : (addressOf register).toNat % 4 = register.lane := by
  have low : Word.field (addressOf register) 0 2 = Word.field register.reg 0 2 := by
    rw [addressOf, pciConfigAddress,
      Word.field_setField_of_disjoint _ _ (by decide) (by decide),
      Word.field_setField_of_inside _ _ (by decide) (by decide) (by decide)]
  have values := congrArg BitVec.toNat low
  simpa [Word.toNat_field, Register.lane] using values

/-- Masking the lowest bits selects the doubleword and nothing else. -/
theorem field_masked {low width : Nat} (above : Word.field (~~~3 : BitVec 32) low width =
    BitVec.allOnes width) (address : BitVec 32) :
    Word.field (address &&& ~~~3) low width = Word.field address low width := by
  rw [Word.field_and, above, BitVec.and_allOnes]

theorem enabled_addressOf : Mechanism.enabled (addressOf register &&& ~~~3) := by
  rw [Mechanism.enabled, field_masked (by decide), addressOf, pciConfigAddress,
    Word.field_setField_same _ _ (by decide)]

theorem selected_addressOf (offset : Nat) :
    Mechanism.selected (addressOf register &&& ~~~3) offset =
      { register with reg := .ofNat 8 (4 * (register.reg.toNat / 4) + offset) } := by
  have bus : Word.field (addressOf register) 16 8 = register.bus := by
    rw [addressOf, pciConfigAddress,
      Word.field_setField_of_disjoint _ _ (by decide) (by decide),
      Word.field_setField_of_disjoint _ _ (by decide) (by decide),
      Word.field_setField_of_disjoint _ _ (by decide) (by decide),
      Word.field_setField_of_disjoint _ _ (by decide) (by decide),
      Word.field_setField_same _ _ (by decide)]
  have device : Word.field (addressOf register) 11 5 = register.device := by
    rw [addressOf, pciConfigAddress,
      Word.field_setField_of_disjoint _ _ (by decide) (by decide),
      Word.field_setField_of_disjoint _ _ (by decide) (by decide),
      Word.field_setField_of_disjoint _ _ (by decide) (by decide),
      Word.field_setField_same _ _ (by decide)]
  have function : Word.field (addressOf register) 8 3 = register.function := by
    rw [addressOf, pciConfigAddress,
      Word.field_setField_of_disjoint _ _ (by decide) (by decide),
      Word.field_setField_of_disjoint _ _ (by decide) (by decide),
      Word.field_setField_same _ _ (by decide)]
  have doubleword : (Word.field (addressOf register) 2 6).toNat =
      register.reg.toNat / 4 := by
    have bound := register.reg.isLt
    rw [addressOf, pciConfigAddress,
      Word.field_setField_of_disjoint _ _ (by decide) (by decide),
      Word.field_setField_of_inside _ _ (by decide) (by decide) (by decide),
      Word.toNat_field]
    omega
  rw [Mechanism.selected, field_masked (by decide), field_masked (by decide),
    field_masked (by decide), field_masked (by decide), bus, device, function,
    doubleword]

/-- The byte a call starts at. -/
theorem selected_lane :
    Mechanism.selected (addressOf register &&& ~~~3) register.lane = register := by
  rw [selected_addressOf, Register.lane, Nat.div_add_mod, BitVec.ofNat_toNat,
    BitVec.setWidth_eq]

/-- The part of the port that the two lowest bits of the address make. -/
theorem toNat_addressOf_and_three : (addressOf register &&& 3).toNat = register.lane := by
  rw [BitVec.toNat_and, ← toNat_addressOf_mod]
  exact Nat.and_two_pow_sub_one_eq_mod _ 2

/-- The lowest bit is missing. -/
theorem toNat_addressOf_and_two :
    (addressOf register &&& 2).toNat = register.lane / 2 * 2 := by
  have masked : (addressOf register &&& 2).toNat =
      (addressOf register &&& 3).toNat &&& 2 := by
    rw [BitVec.toNat_and, BitVec.toNat_and, Nat.and_assoc]
    rfl
  have lanes : ∀ lane < 4, lane &&& 2 = lane / 2 * 2 := by decide
  rw [masked, toNat_addressOf_and_three]
  exact lanes _ (Nat.mod_lt _ (by decide))

end Address

/-! ## The ports -/

section Ports

variable {width : Width} {lane : Nat} (inside : lane + width.bytes ≤ 4)

include inside

theorem dataRegister_or : pciConfigDataRegister ||| lane = pciConfigDataRegister + lane := by
  have lanes : ∀ lane < 4, pciConfigDataRegister ||| lane =
    pciConfigDataRegister + lane := by decide
  cases width <;> exact lanes lane (by simp [Width.bytes] at inside; omega)

theorem dataOffset_lane : dataOffset width (pciConfigDataRegister ||| lane) = some lane := by
  rw [dataRegister_or inside, dataOffset, if_pos (by omega), Nat.add_sub_cancel_left]

theorem not_addressRegister :
    ¬(width = .word ∧ pciConfigDataRegister ||| lane = pciConfigAddressRegister) := by
  rw [dataRegister_or inside, pciConfigDataRegister, pciConfigAddressRegister]
  omega

theorem read_mechanism1 (state : Mechanism) :
    mechanism1.read .port width (pciConfigDataRegister ||| lane) state =
      (state.loaded width lane, state) := by
  have other := not_addressRegister inside
  simp [mechanism1, other, dataOffset_lane inside]

theorem write_mechanism1 (value : BitVec 32) (state : Mechanism) :
    mechanism1.write .port width (pciConfigDataRegister ||| lane) value state =
      state.stored width lane value := by
  have other := not_addressRegister inside
  simp [mechanism1, other, dataOffset_lane inside]

end Ports

/-! ## One call -/

namespace PciCall

/-- What the caller and the devices see of a call. -/
def outcome (hw : Hw Mechanism) (call : PciCall) : Except Stop Answer × ConfigSpace :=
  ((call.perform hw).1, (call.perform hw).2.device.space)

/-- The ports once a call has selected its doubleword. -/
def selecting (register : Register) (space : ConfigSpace) : Mechanism :=
  ⟨addressOf register &&& ~~~3, space⟩

section Selecting

variable (register : Register) (space : ConfigSpace) {width : Width}

/-- A read through the port that the two lowest bits of the register make. -/
theorem read_lane (inside : register.lane + width.bytes ≤ 4) :
    mechanism1.read .port width
        (pciConfigDataRegister ||| (addressOf register &&& 3).toNat)
        (selecting register space) =
      (space.load register width, selecting register space) := by
  rw [toNat_addressOf_and_three, read_mechanism1 inside, Mechanism.loaded, selecting,
    if_pos (enabled_addressOf register), selected_lane]

theorem write_lane (inside : register.lane + width.bytes ≤ 4) (value : BitVec 32) :
    mechanism1.write .port width
        (pciConfigDataRegister ||| (addressOf register &&& 3).toNat) value
        (selecting register space) =
      selecting register (space.store register (bytesOf width.bytes value)) := by
  rw [toNat_addressOf_and_three, write_mechanism1 inside, Mechanism.stored, selecting,
    if_pos (enabled_addressOf register), selected_lane]
  rfl

end Selecting

variable (hw : Hw Mechanism) (register : Register)

theorem outcome_read8 :
    outcome hw (.read8 register) = intended hw.device.space (.read8 register) := by
  have inside : register.lane + Width.byte.bytes ≤ 4 := Nat.mod_lt _ (by decide)
  have read := read_lane register hw.device.space inside
  let answer := mechanism1.read .port .byte
    (pciConfigDataRegister ||| (addressOf register &&& 3).toNat)
    (selecting register hw.device.space)
  change (Except.ok (Answer.value8 (answer.1.setWidth 8)), answer.2.space) = _
  simp [answer, read, selecting, intended, ConfigSpace.load]

theorem outcome_read16 (inside : register.lane ≤ 2) :
    outcome hw (.read16 register inside) =
      intended hw.device.space (.read16 register inside) := by
  have fits : register.lane + Width.half.bytes ≤ 4 := Nat.add_le_add_right inside 2
  have read := read_lane register hw.device.space fits
  let answer := mechanism1.read .port .half
    (pciConfigDataRegister ||| (addressOf register &&& 3).toNat)
    (selecting register hw.device.space)
  change (Except.ok (Answer.value16 (answer.1.setWidth 16)), answer.2.space) = _
  simp [answer, read, selecting, intended, ConfigSpace.load]

theorem outcome_read32 (inside : register.lane = 0) :
    outcome hw (.read32 register inside) =
      intended hw.device.space (.read32 register inside) := by
  have fits : register.lane + Width.word.bytes ≤ 4 := by rw [inside]; decide
  have read := read_lane register hw.device.space fits
  rw [toNat_addressOf_and_three, inside] at read
  let answer := mechanism1.read .port .word (pciConfigDataRegister ||| 0)
    (selecting register hw.device.space)
  change (Except.ok (Answer.value32 answer.1), answer.2.space) = _
  simp only [answer, read]
  rfl

theorem outcome_write8 (value : BitVec 8) :
    outcome hw (.write8 register value) =
      intended hw.device.space (.write8 register value) := by
  have inside : register.lane + Width.byte.bytes ≤ 4 := Nat.mod_lt _ (by decide)
  have written := write_lane register hw.device.space inside (value.setWidth 32)
  rw [bytesOf_setWidth value (by decide) (by decide)] at written
  exact congrArg (fun state => (Except.ok Answer.done, Mechanism.space state)) written

theorem outcome_write32 (inside : register.lane = 0) (value : BitVec 32) :
    outcome hw (.write32 register inside value) =
      intended hw.device.space (.write32 register inside value) := by
  have fits : register.lane + Width.word.bytes ≤ 4 := by rw [inside]; decide
  have written := write_lane register hw.device.space fits value
  rw [toNat_addressOf_and_three, inside] at written
  exact congrArg (fun state => (Except.ok Answer.done, Mechanism.space state)) written

/-- Where `pci_write16` starts to write. -/
def evenRegister (register : Register) : Register :=
  if register.lane = 1 then { register with reg := register.reg - 1 } else register

theorem selected_even (inside : register.lane ≤ 2) :
    Mechanism.selected (addressOf register &&& ~~~3) (register.lane / 2 * 2) =
      evenRegister register := by
  have bound := register.reg.isLt
  rw [selected_addressOf, evenRegister]
  by_cases odd : register.lane = 1
  · have reg : BitVec.ofNat 8 (4 * (register.reg.toNat / 4) + register.lane / 2 * 2) =
        register.reg - 1 := by
      apply BitVec.eq_of_toNat_eq
      have one : (1 : BitVec 8).toNat = 1 := rfl
      rw [Register.lane] at odd ⊢
      simp only [BitVec.toNat_ofNat, BitVec.toNat_sub, one]
      omega
    rw [if_pos odd, reg]
  · have even : register.lane / 2 * 2 = register.lane := by omega
    rw [if_neg odd, even, ← selected_addressOf, selected_lane]

theorem outcome_write16 (inside : register.lane ≤ 2) (value : BitVec 16) :
    outcome hw (.write16 register inside value) =
      (.ok .done, hw.device.space.store (evenRegister register) (bytesOf 2 value)) := by
  have fits : register.lane / 2 * 2 + Width.half.bytes ≤ 4 := by
    have small : register.lane / 2 * 2 ≤ 2 :=
      Nat.le_trans (Nat.div_mul_le_self _ _) inside
    exact Nat.add_le_add_right small 2
  have written := write_mechanism1 fits (value.setWidth 32)
    (selecting register hw.device.space)
  rw [← toNat_addressOf_and_two, Mechanism.stored, selecting,
    if_pos (enabled_addressOf register), toNat_addressOf_and_two,
    selected_even register inside, Width.bytes,
    bytesOf_setWidth value (by decide) (by decide),
    ← toNat_addressOf_and_two] at written
  exact congrArg (fun state => (Except.ok Answer.done, Mechanism.space state)) written

end PciCall

/-! ## A write to an odd register -/

section Odd

variable (space : ConfigSpace) (register : Register) (bytes : List (BitVec 8))

theorem store_plus {i : Nat} (inside : i < 256) :
    space.store register bytes (register.plus i) =
      (bytes[i]?).getD (space (register.plus i)) := by
  have offset : (register.reg + BitVec.ofNat 8 i - register.reg).toNat = i := by
    simp only [BitVec.toNat_sub, BitVec.toNat_add, BitVec.toNat_ofNat]
    omega
  change (if register.bus = register.bus ∧ register.device = register.device ∧
      register.function = register.function then _ else _) = _
  rw [if_pos ⟨rfl, rfl, rfl⟩]
  change (bytes[(register.reg + BitVec.ofNat 8 i - register.reg).toNat]?).getD _ = _
  rw [offset]

theorem store_of_other {other : Register} (elsewhere : ¬(other.bus = register.bus ∧
      other.device = register.device ∧ other.function = register.function)) :
    space.store register bytes other = space other := by
  rw [ConfigSpace.store, if_neg elsewhere]

/-- Storing two bytes one register too low makes no difference exactly if the
first byte was there already and both bytes and the one behind them are equal. -/
theorem store_shifted_eq_iff (first second : BitVec 8) :
    space.store register [first, second] =
        space.store (register.plus 1) [first, second] ↔
      space register = first ∧ second = first ∧
        space (register.plus 2) = second := by
  have below : space.store (register.plus 1) [first, second] register =
      space register := by
    have back : (register.plus 1).plus 255 = register := by
      rw [Register.plus_plus, Register.plus_cycle]
    have kept := store_plus space (register.plus 1) [first, second]
      (show 255 < 256 by decide)
    rwa [back] at kept
  have above (i : Nat) (inside : i < 255) :
      space.store (register.plus 1) [first, second] (register.plus (i + 1)) =
        ([first, second][i]?).getD (space (register.plus (i + 1))) := by
    have stored := store_plus space (register.plus 1) [first, second]
      (Nat.lt_succ_of_lt inside)
    rwa [Register.plus_plus, Nat.add_comm 1 i] at stored
  have lower (i : Nat) (inside : i < 256) :=
    store_plus space register [first, second] inside
  constructor
  · intro same
    have atFirst := congrFun same register
    have atSecond := congrFun same (register.plus 1)
    have atThird := congrFun same (register.plus 2)
    have stored := lower 0 (by decide)
    rw [Register.plus_zero] at stored
    rw [below, stored] at atFirst
    rw [above 0 (by decide), lower 1 (by decide)] at atSecond
    rw [above 1 (by decide), lower 2 (by decide)] at atThird
    exact ⟨atFirst.symm, atSecond, atThird⟩
  · rintro ⟨atFirst, equal, atThird⟩
    funext other
    by_cases within : other.bus = register.bus ∧ other.device = register.device ∧
        other.function = register.function
    · obtain ⟨i, inside, rfl⟩ := Register.exists_plus within.1 within.2.1 within.2.2
      cases i with
      | zero =>
          rw [lower 0 (by decide), Register.plus_zero, below]
          exact atFirst.symm
      | succ i =>
          rw [lower (i + 1) inside, above i (Nat.lt_of_succ_lt_succ inside)]
          match i with
          | 0 => exact equal
          | 1 => exact atThird
          | i + 2 => rfl
    · rw [store_of_other space register _ within,
        store_of_other space (register.plus 1) _ within]

end Odd

/-! ## Sequences of calls -/

/-- A write of two bytes starts at an even register, or finds what it should
write. -/
def Harmless (hw : Hw Mechanism) : PciCall → Prop
  | .write16 register _ value =>
      let before : Register := { register with reg := register.reg - 1 }
      register.lane ≠ 1 ∨
        hw.device.space before = Word.byte value 0 ∧
          Word.byte value 1 = Word.byte value 0 ∧
          hw.device.space (register.plus 1) = Word.byte value 1
  | _ => True

theorem outcome_eq_intended_iff (hw : Hw Mechanism) (call : PciCall) :
    call.outcome hw = call.intended hw.device.space ↔ Harmless hw call := by
  cases call with
  | read8 register => simp [Harmless, PciCall.outcome_read8]
  | write8 register value => simp [Harmless, PciCall.outcome_write8]
  | read16 register inside => simp [Harmless, PciCall.outcome_read16]
  | read32 register inside => simp [Harmless, PciCall.outcome_read32]
  | write32 register inside value => simp [Harmless, PciCall.outcome_write32]
  | write16 register inside value =>
      rw [PciCall.outcome_write16, PciCall.intended, Harmless, PciCall.evenRegister]
      by_cases odd : register.lane = 1
      · let before : Register := { register with reg := register.reg - 1 }
        have next : before.plus 1 = register := by
          simp only [before, Register.plus, BitVec.ofNat_eq_ofNat, BitVec.sub_add_cancel]
        have shifted := store_shifted_eq_iff hw.device.space before
          (Word.byte value 0) (Word.byte value 1)
        have behind : before.plus 2 = register.plus 1 := by
          rw [← next, Register.plus_plus]
        rw [next, behind] at shifted
        rw [if_pos odd, Prod.mk.injEq, and_iff_right rfl, or_iff_right (by simp [odd])]
        exact shifted
      · simp [odd]

/-- What a call leaves behind. -/
def stepCall (hw : Hw Mechanism) (call : PciCall) : Hw Mechanism :=
  (call.perform hw).2

/-- What the callers and the devices see of the calls. -/
def observe (hw : Hw Mechanism) :
    List PciCall → List (Except Stop Answer × ConfigSpace)
  | [] => []
  | call :: rest => call.outcome hw :: observe (stepCall hw call) rest

/-- What they should see. -/
def intendedTrace (space : ConfigSpace) :
    List PciCall → List (Except Stop Answer × ConfigSpace)
  | [] => []
  | call :: rest =>
      call.intended space :: intendedTrace (call.intended space).2 rest

/-- The calls are calls on a store of bytes exactly as long as no write of two
bytes to an odd register makes a difference. -/
theorem observe_eq_iff (hw : Hw Mechanism) (calls : List PciCall) :
    observe hw calls = intendedTrace hw.device.space calls ↔
      Along stepCall Harmless hw calls := by
  induction calls generalizing hw with
  | nil => exact iff_of_true rfl trivial
  | cons call rest ih =>
      rw [observe, intendedTrace, List.cons.injEq, Along, outcome_eq_intended_iff]
      apply and_congr_right
      intro harmless
      rw [← ih]
      have same := (outcome_eq_intended_iff hw call).mpr harmless
      have space : (stepCall hw call).device.space =
          (call.intended hw.device.space).2 := congrArg Prod.snd same
      rw [space]

/-- The lowest register of the first device. -/
def firstRegister : Register :=
  ⟨0, 0, 0, 0⟩

/-- A write of two bytes to the second register changes the first one. -/
theorem write_to_odd_register :
    observe ⟨⟨0, fun _ => 0⟩, []⟩ [.write16 (firstRegister.plus 1) (by decide) 0xFFFF] ≠
      intendedTrace (fun _ => 0)
        [.write16 (firstRegister.plus 1) (by decide) 0xFFFF] := by
  intro same
  have trace := (List.cons.inj same).1
  have changed := congrFun (congrArg Prod.snd trace) firstRegister
  exact absurd changed (by decide)

end SandPlatform.Hardware
