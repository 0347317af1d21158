import SandPlatform.Foundation.Word

/-!
# HECI registers and message headers

Offsets of the registers in the HECI base window and in the PCI configuration
window of the CSE, and the bit fields of the control registers and of the
message header.
-/

namespace SandPlatform.Heci

open SandPlatform.Foundation

/-! ## Register offsets -/

/-- Host circular buffer write window. -/
def hCbWw : Nat := 0x00

/-- Host control status. -/
def hCsr : Nat := 0x04

/-- Circular buffer read window of the security engine. -/
def secCbRw : Nat := 0x08

/-- Control status of the security engine as the host sees it. -/
def secCsrHa : Nat := 0x0C

/-- `PCI_COMMAND_OFFSET`. -/
def pciCommandOffset : Nat := 0x04

/-- `HECI_MBAR0`, the lower half of the base address. -/
def heciMbar0 : Nat := 0x10

/-- `EFI_PCI_COMMAND_MEMORY_SPACE`. -/
def efiPciCommandMemorySpace : BitVec 32 := 1 <<< 1

/-- `EFI_PCI_COMMAND_BUS_MASTER`. -/
def efiPciCommandBusMaster : BitVec 32 := 1 <<< 2

/-- `EFI_PCI_COMMAND_SERR`. -/
def efiPciCommandSerr : BitVec 32 := 1 <<< 8

/-- Milliseconds. -/
def heciEventTimeout : BitVec 32 := 3000

/-- `BIOS_FIXED_HOST_ADDR`, the sender of all requests. -/
def biosFixedHostAddr : BitVec 8 := 0

/-- `BIOS_SEC_ADDR`, their receiver. -/
def biosSecAddr : BitVec 8 := 0x7

/-! ## Control registers -/

namespace DevCtrlReg

/-- The device is ready. -/
def secRdyHra (reg : BitVec 32) : BitVec 1 := Word.field reg 3 1

/-- The read pointer of the ring of the device. -/
def secCbrpHra (reg : BitVec 32) : BitVec 8 := Word.field reg 8 8

/-- The write pointer of that ring. -/
def secCbwpHra (reg : BitVec 32) : BitVec 8 := Word.field reg 16 8

end DevCtrlReg

namespace HostCtrlReg

/-- The interrupt status of the host. -/
def hIs (reg : BitVec 32) : BitVec 1 := Word.field reg 1 1

/-- The bit that interrupts the device. -/
def hIg (reg : BitVec 32) : BitVec 1 := Word.field reg 2 1

/-- The host is ready. -/
def hRdy (reg : BitVec 32) : BitVec 1 := Word.field reg 3 1

/-- The depth of the ring of the host. -/
def hCbd (reg : BitVec 32) : BitVec 8 := Word.field reg 24 8

/-- `H_IE` is assigned. -/
def setHIe (reg : BitVec 32) (bit : BitVec 1) : BitVec 32 :=
  Word.setField reg 0 bit

/-- `H_IS` is assigned; a one clears it in the device. -/
def setHIs (reg : BitVec 32) (bit : BitVec 1) : BitVec 32 :=
  Word.setField reg 1 bit

/-- `H_IG` is assigned. -/
def setHIg (reg : BitVec 32) (bit : BitVec 1) : BitVec 32 :=
  Word.setField reg 2 bit

/-- `H_RDY` is assigned. -/
def setHRdy (reg : BitVec 32) (bit : BitVec 1) : BitVec 32 :=
  Word.setField reg 3 bit

@[simp]
theorem hIg_setHIg (reg : BitVec 32) (bit : BitVec 1) :
    hIg (setHIg reg bit) = bit :=
  Word.field_setField_same reg bit (by omega)

@[simp]
theorem hRdy_setHRdy (reg : BitVec 32) (bit : BitVec 1) :
    hRdy (setHRdy reg bit) = bit :=
  Word.field_setField_same reg bit (by omega)

@[simp]
theorem hRdy_setHIe (reg : BitVec 32) (bit : BitVec 1) :
    hRdy (setHIe reg bit) = hRdy reg :=
  Word.field_setField_of_disjoint reg bit (by omega) (by omega)

@[simp]
theorem hRdy_setHIg (reg : BitVec 32) (bit : BitVec 1) :
    hRdy (setHIg reg bit) = hRdy reg :=
  Word.field_setField_of_disjoint reg bit (by omega) (by omega)

end HostCtrlReg

/-! ## Message header -/

namespace HeciMsgHdr

/-- The bytes of a message, in nine bits. -/
def length (head : BitVec 32) : Nat := (Word.field head 16 9).toNat

/-- The bit of the last fragment. -/
def messageComplete (head : BitVec 32) : BitVec 1 := Word.field head 31 1

/-- The header `heci_send_impl` builds from a cleared word: the length is cut
to its nine bits. -/
def build (devAddr hostAddress : BitVec 8) (complete : BitVec 1)
    (size : Nat) : BitVec 32 :=
  Word.setField
    (Word.setField (Word.setField (Word.setField 0 0 devAddr) 8 hostAddress)
      31 complete) 16 (BitVec.ofNat 9 size)

@[simp]
theorem length_build (devAddr hostAddress : BitVec 8) (complete : BitVec 1)
    (size : Nat) :
    length (build devAddr hostAddress complete size) = size % 2 ^ 9 := by
  rw [length, build, Word.field_setField_same _ _ (by omega), BitVec.toNat_ofNat]

@[simp]
theorem messageComplete_build (devAddr hostAddress : BitVec 8)
    (complete : BitVec 1) (size : Nat) :
    messageComplete (build devAddr hostAddress complete size) = complete := by
  rw [messageComplete, build,
    Word.field_setField_of_disjoint _ _ (by omega) (by omega),
    Word.field_setField_same _ _ (by omega)]

/-- The number of data words a header announces. -/
def dataWords (head : BitVec 32) : Nat := (length head + 3) / 4

theorem length_lt (head : BitVec 32) : length head < 2 ^ 9 :=
  (Word.field head 16 9).isLt

end HeciMsgHdr

end SandPlatform.Heci
