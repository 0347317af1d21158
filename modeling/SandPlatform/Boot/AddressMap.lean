import SandPlatform.Boot.BssClearing
import SandPlatform.Boot.Translation

/-!
# The address map of the boot

From whatever memory `_start` finds, the cleared section and the three macros leave one
address map.  It is known for every virtual address: what is not in the lower 512 GiB or
in the kernel's address space is not mapped, and the upper one has a hole behind the
image.
-/

namespace SandPlatform.Boot

open SandPlatform.Foundation

/-- Where an address of the kernel's address space is mapped to. -/
def aspaceMap (layout : BootLayout) (offset : Nat) : Option (BitVec 52) :=
  if offset / 2 ^ 30 = 510 then
    if offset % 2 ^ 30 < 16 * 2 ^ 20 then
      some (.ofNat 52 (layout.rbp.toNat + offset % 2 ^ 30))
    else
      none
  else
    some (.ofNat 52 offset)

/-- Where an address is mapped to. -/
def bootMap (layout : BootLayout) (va : BitVec 64) : Option (BitVec 52) :=
  if va.toNat < 2 ^ 39 then
    some (va.setWidth 52)
  else if 2 ^ 64 - 2 ^ 39 ≤ va.toNat then
    aspaceMap layout (va.toNat - (2 ^ 64 - 2 ^ 39))
  else
    none

section Addresses

variable (flags : PageFlags) {layout : BootLayout} (zeroed : ZeroedMemory layout)

/-- Outside the slot of the image, the kernel's address space is physical memory. -/
theorem translate_linear {offset : Nat} (below : offset < 2 ^ 39)
    (notKernel : offset / 2 ^ 30 ≠ 510) :
    translateBoot flags zeroed (highAddress offset) = some (.ofNat 52 offset) := by
  have pointer := entry_built_first flags zeroed .pdpHigh
    (Word.field (highAddress offset) 30 9)
  have directory : offset / 2 ^ 30 < Table.linearMapPdp512.pages := by
    change offset / 2 ^ 30 < 512
    omega
  have page := entry_built flags zeroed .linearMapPdp512 directory
    (Word.field (highAddress offset) 21 9)
  rw [index_high below, finished, if_neg notKernel] at pointer
  rw [index_directory below, finished] at page
  have aligned : Word.field (BitVec.ofNat 52
      ((512 * (offset / 2 ^ 30) + offset / 2 ^ 21 % 512) * 2 ^ 9)) 1 8 = 0 := by
    apply BitVec.eq_of_toNat_eq
    rw [Word.toNat_field, BitVec.toNat_ofNat, toNat_zero]
    omega
  rw [translate_high flags zeroed below, Paging.directoryPointers_of_table pointer flags.pd,
    Paging.pageDirectory_of_page page flags.lp aligned]
  apply congrArg some
  apply BitVec.eq_of_toNat_eq
  rw [Paging.toNat_append, Word.toNat_field, Word.toNat_field, BitVec.toNat_ofNat,
    BitVec.toNat_ofNat, toNat_highAddress below]
  omega

theorem translate_aspaceMap {offset : Nat} (below : offset < 2 ^ 39) :
    translateBoot flags zeroed (highAddress offset) = aspaceMap layout offset := by
  unfold aspaceMap
  split_ifs with kernel mapped
  · have image : highAddress offset = kernelAddress (offset % 2 ^ 30) := by
      rw [kernelAddress_eq, ← kernel, Nat.mul_comm, Nat.div_add_mod]
    rw [image, translate_image flags zeroed mapped]
  · have image : highAddress offset = kernelAddress (offset % 2 ^ 30) := by
      rw [kernelAddress_eq, ← kernel, Nat.mul_comm, Nat.div_add_mod]
    rw [image, translate_behind_image flags zeroed (Nat.le_of_not_lt mapped)
      (Nat.mod_lt _ (Nat.two_pow_pos 30))]
  · exact translate_linear flags zeroed below kernel

/-- Between the two halves, an address is not canonical or the top table is empty. -/
theorem translate_between {va : BitVec 64} (above : 2 ^ 39 ≤ va.toNat)
    (below : va.toNat < 2 ^ 64 - 2 ^ 39) : translateBoot flags zeroed va = none := by
  have top := entry_built_first flags zeroed .pml4 (Word.field va 39 9)
  rw [toNat_index] at top
  rw [translateBoot, Paging.translate]
  split_ifs with canonical
  · have index : va.toNat / 2 ^ 39 % 512 ≠ 0 ∧ va.toNat / 2 ^ 39 % 512 ≠ 511 := by
      rcases canonical with low | high
      · have value := congrArg BitVec.toNat low
        rw [Word.toNat_field, toNat_zero] at value
        omega
      · have value := congrArg BitVec.toNat high
        rw [Word.toNat_field, BitVec.toNat_allOnes] at value
        omega
    rw [finished, if_neg index.1, if_neg index.2] at top
    have absent : Word.field (0 : BitVec 64) 0 1 ≠ 1 := by decide
    rw [layout.address_eq_make, Paging.frame_make, top]
    simp only [Paging.next, absent, false_and, if_false, Option.bind_none]
  · rfl

theorem translate_bootMap (va : BitVec 64) :
    translateBoot flags zeroed va = bootMap layout va := by
  unfold bootMap
  split_ifs with low high
  · exact translate_low flags zeroed low
  · have bound := va.isLt
    have below : va.toNat - (2 ^ 64 - 2 ^ 39) < 2 ^ 39 := by omega
    have address : va = highAddress (va.toNat - (2 ^ 64 - 2 ^ 39)) := by
      apply BitVec.eq_of_toNat_eq
      rw [toNat_highAddress below]
      omega
    rw [← translate_aspaceMap flags zeroed below, ← address]
  · exact translate_between flags zeroed (Nat.le_of_not_lt low) (Nat.lt_of_not_le high)

end Addresses

/-- The memory after the macros, from the bytes they find. -/
def startTables (flags : PageFlags) (boot : BootLayout) (memory : Memory (BitVec 8)) :
    BitVec 64 → BitVec 64 :=
  (buildTables flags boot ⟨quadword memory, []⟩).words

/-- Whatever memory holds, the section is cleared and the tables are built, and every
address is translated as the map says. -/
theorem start_translates {boot : BootLayout} {layout : BssLayout}
    (inBss : InBss boot layout) (flags : PageFlags) (state : BssState) :
    Exec.Achieves (clearBss layout) state fun _ final => ∀ va,
      Paging.translate (startTables flags boot final.memory) (boot.address .pml4) va =
        bootMap boot va := by
  refine (clearBss_zeroes_tables inBss state).mono fun _ final found va => ?_
  rcases found with ⟨zeroed, same⟩
  rw [startTables, ← same]
  exact translate_bootMap flags zeroed va

/-- The section from the first table to behind the last one. -/
def aroundTables : BssLayout where
  bssStart := 0x210000
  bssEnd := 0x41D000
  pageAligned := by decide
  aligned := by decide
  above := by decide

theorem start_translates_filled :
    Exec.Achieves (clearBss aroundTables) filled fun _ final => ∀ va,
      Paging.translate (startTables globalFlags consecutive final.memory)
        (consecutive.address .pml4) va = bootMap consecutive va :=
  start_translates ⟨fun table => by cases table <;> decide, fun table => by cases table <;> decide⟩
    globalFlags filled

end SandPlatform.Boot
