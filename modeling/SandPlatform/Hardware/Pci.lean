import SandPlatform.Foundation.Word
import SandPlatform.Hardware.Device

/-!
# PCI configuration space

Configuration reads and writes through the address and data ports.
-/

namespace SandPlatform.Hardware

open SandPlatform.Foundation

universe u

/-- `PCI_CONFIG_ADDRESS_REGISTER`, the address port. -/
def pciConfigAddressRegister : Nat := 0xCF8

/-- `PCI_CONFIG_DATA_REGISTER`, the data port. -/
def pciConfigDataRegister : Nat := 0xCFC

/-- `pci_config_address_t` with its enable bit set. -/
def pciConfigAddress (bus : BitVec 8) (device : BitVec 5) (function : BitVec 3)
    (reg : BitVec 8) : BitVec 32 :=
  Word.setField (Word.setField (Word.setField (Word.setField
    (Word.setField 0 16 bus) 11 device) 8 function) 0 reg) 31 (1 : BitVec 1)

/-! ## Packed addresses -/

/-- `PCI_BUS_MASK`. -/
def pciBusMask : BitVec 16 := 0xff00

/-- `PCI_DEVICE_MASK`. -/
def pciDeviceMask : BitVec 16 := 0x00f8

/-- `PCI_FUNCTION_MASK`. -/
def pciFunctionMask : BitVec 16 := 0x0007

/-- `PCI_GET_ADDRESS`. -/
def pciGetAddress (bus : BitVec 8) (device : BitVec 5) (function : BitVec 3) :
    BitVec 16 :=
  bus.setWidth 16 <<< 8 ||| device.setWidth 16 <<< 3 ||| function.setWidth 16

/-- `GET_PCI_BUS`. -/
def getPciBus (addr : BitVec 16) : BitVec 8 :=
  ((addr &&& pciBusMask) >>> 8).setWidth 8

/-- `GET_PCI_DEVICE`. -/
def getPciDevice (addr : BitVec 16) : BitVec 8 :=
  ((addr &&& pciDeviceMask) >>> 3).setWidth 8

/-- `GET_PCI_FUNCTION`. -/
def getPciFunction (addr : BitVec 16) : BitVec 8 :=
  (addr &&& pciFunctionMask).setWidth 8

/-- The mask of the lower bits of a quadword. -/
def mask64Low (n : Nat) : BitVec 64 :=
  (1 <<< n) - 1

/-- `MAKE64`. -/
def make64 (high low : BitVec 32) : BitVec 64 :=
  high.setWidth 64 <<< 32 ||| (low.setWidth 64 &&& mask64Low 32)

/-! ## Accesses -/

variable {σ : Type u} (device : Device σ)

/-- `hw_read_port_8`. -/
def hwReadPort8 (port : Nat) : Exec Stop (Hw σ) (BitVec 8) := do
  let value ← readReg device .port .byte port
  pure (value.setWidth 8)

/-- `hw_read_port_16`. -/
def hwReadPort16 (port : Nat) : Exec Stop (Hw σ) (BitVec 16) := do
  let value ← readReg device .port .half port
  pure (value.setWidth 16)

/-- `hw_read_port_32`. -/
def hwReadPort32 (port : Nat) : Exec Stop (Hw σ) (BitVec 32) :=
  readReg device .port .word port

/-- `hw_write_port_8`. -/
def hwWritePort8 (port : Nat) (value : BitVec 8) : Exec Stop (Hw σ) Unit :=
  writeReg device .port .byte port (value.setWidth 32)

/-- `hw_write_port_16`. -/
def hwWritePort16 (port : Nat) (value : BitVec 16) : Exec Stop (Hw σ) Unit :=
  writeReg device .port .half port (value.setWidth 32)

/-- `hw_write_port_32`. -/
def hwWritePort32 (port : Nat) (value : BitVec 32) : Exec Stop (Hw σ) Unit :=
  writeReg device .port .word port value

/-- `pci_read32`: the doubleword that holds the register. -/
def pciRead32 (bus : BitVec 8) (dev : BitVec 5) (function : BitVec 3)
    (reg : BitVec 8) : Exec Stop (Hw σ) (BitVec 32) := do
  hwWritePort32 device pciConfigAddressRegister
    (pciConfigAddress bus dev function reg &&& ~~~3)
  hwReadPort32 device pciConfigDataRegister

section Calls

variable (bus : BitVec 8) (dev : BitVec 5) (function : BitVec 3) (reg : BitVec 8)

/-- `pci_read8`: a byte of the doubleword, by the port that is as far behind the data port. -/
def pciRead8 : Exec Stop (Hw σ) (BitVec 8) := do
  let addr := pciConfigAddress bus dev function reg
  hwWritePort32 device pciConfigAddressRegister (addr &&& ~~~3)
  hwReadPort8 device (pciConfigDataRegister ||| (addr &&& 3).toNat)

/-- `pci_write8`, to the port of the byte. -/
def pciWrite8 (value : BitVec 8) : Exec Stop (Hw σ) Unit := do
  let addr := pciConfigAddress bus dev function reg
  hwWritePort32 device pciConfigAddressRegister (addr &&& ~~~3)
  hwWritePort8 device (pciConfigDataRegister ||| (addr &&& 3).toNat) value

/-- `pci_read16`, from the port of the lower byte. -/
def pciRead16 : Exec Stop (Hw σ) (BitVec 16) := do
  let addr := pciConfigAddress bus dev function reg
  hwWritePort32 device pciConfigAddressRegister (addr &&& ~~~3)
  hwReadPort16 device (pciConfigDataRegister ||| (addr &&& 3).toNat)

/-- The lowest bit of the register is not in the port. -/
def pciWrite16 (value : BitVec 16) : Exec Stop (Hw σ) Unit := do
  let addr := pciConfigAddress bus dev function reg
  hwWritePort32 device pciConfigAddressRegister (addr &&& ~~~3)
  hwWritePort16 device (pciConfigDataRegister ||| (addr &&& 2).toNat) value

/-- `pci_write32`: the doubleword that holds the register. -/
def pciWrite32 (value : BitVec 32) : Exec Stop (Hw σ) Unit := do
  let addr := pciConfigAddress bus dev function reg
  hwWritePort32 device pciConfigAddressRegister (addr &&& ~~~3)
  hwWritePort32 device pciConfigDataRegister value

end Calls

/-- `PCI_CONFIG_BAR_OFFSET`, the first base address register. -/
def pciConfigBarOffset : BitVec 8 := 0x10

/-- Device and function are cut to their fields of `pci_config_address_t`. -/
def pciReadBar0 (pciAddr : BitVec 16) : Exec Stop (Hw σ) (BitVec 64) := do
  let bus := getPciBus pciAddr
  let dev := (getPciDevice pciAddr).setWidth 5
  let function := (getPciFunction pciAddr).setWidth 3
  let low ← pciRead32 device bus dev function pciConfigBarOffset
  let high ←
    if low &&& 0x6 = 0x4 then
      pciRead32 device bus dev function (pciConfigBarOffset + 0x4)
    else
      pure 0
  pure (make64 high low)

end SandPlatform.Hardware
