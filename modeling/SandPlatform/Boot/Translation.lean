import SandPlatform.Boot.Entries

/-!
# What the boot page tables translate

The walk is followed through the finished tables: below 512 GiB to pages of 1 GiB,
in the kernel's address space to pages of 2 MiB, and in the region of the image to
pages of 4 KiB.
-/

namespace SandPlatform.Boot

open SandPlatform.Foundation

variable (flags : PageFlags) {layout : BootLayout} (zeroed : ZeroedMemory layout)

/-- The memory after the macros. -/
def built : BitVec 64 → BitVec 64 :=
  (buildTables flags layout zeroed.start).words

/-- The translation `start.S` switches to. -/
def translateBoot (va : BitVec 64) : Option (BitVec 52) :=
  Paging.translate (built flags zeroed) (layout.address .pml4) va

/-! ## Entries of the tables -/

/-- An entry of a page of a table. -/
theorem entry_built (table : Table) {k : Nat} (inside : k < table.pages)
    (index : BitVec 9) :
    Paging.entry (built flags zeroed)
        (Word.field (layout.page table + .ofNat 52 k) 0 40) index =
      finished flags layout (512 * k + index.toNat) table := by
  have below := layout.below
  have physBelow := layout.physBelow table
  have aligned := layout.aligned
  have physAligned := layout.physAligned table
  have bound := index.isLt
  have within : 512 * k + index.toNat < 512 * table.pages := by omega
  have address : (Word.field (layout.page table + .ofNat 52 k) 0 40 ++ index ++
      (0 : BitVec 3)).setWidth 64 = layout.slot table (512 * k + index.toNat) := by
    apply BitVec.eq_of_toNat_eq
    rw [Paging.toNat_entry_address, layout.toNat_slot within, Word.toNat_field,
      BitVec.toNat_add, BootLayout.page, BitVec.toNat_ofNat, BitVec.toNat_ofNat]
    omega
  rw [Paging.entry, address, built, buildTables_words flags zeroed table within]

theorem entry_built_first (table : Table) (index : BitVec 9) :
    Paging.entry (built flags zeroed) (Word.field (layout.page table) 0 40) index =
      finished flags layout index.toNat table := by
  have some : 0 < table.pages := by cases table <;> decide
  have entry := entry_built flags zeroed table some index
  simpa using entry

theorem toNat_index (va : BitVec 64) (low : Nat) :
    (Word.field va low 9).toNat = va.toNat / 2 ^ low % 512 :=
  Word.toNat_field va low 9

theorem toNat_zero (n : Nat) : (0 : BitVec n).toNat = 0 :=
  Nat.zero_mod _

/-! ## The lower half -/

theorem canonical_low {va : BitVec 64} (below : va.toNat < 2 ^ 39) :
    Paging.Canonical va := by
  apply Or.inl
  apply BitVec.eq_of_toNat_eq
  rw [Word.toNat_field, toNat_zero]
  omega

/-- Every address below 512 GiB is mapped to itself. -/
theorem translate_low {va : BitVec 64} (below : va.toNat < 2 ^ 39) :
    translateBoot flags zeroed va = some (va.setWidth 52) := by
  have top : Paging.entry (built flags zeroed) (Paging.frame (layout.address .pml4))
      (Word.field va 39 9) =
        Paging.make (layout.page .pdp) flags.x86KernelPdFlags := by
    have index : (Word.field va 39 9).toNat = 0 := by
      rw [toNat_index]
      omega
    rw [layout.address_eq_make, Paging.frame_make, entry_built_first, index]
    rfl
  have page := entry_built_first flags zeroed .pdp (Word.field va 30 9)
  rw [toNat_index] at page
  have aligned : Word.field (BitVec.ofNat 52 (va.toNat / 2 ^ 30 % 512 * 2 ^ 18)) 1 17 =
      0 := by
    apply BitVec.eq_of_toNat_eq
    rw [Word.toNat_field, BitVec.toNat_ofNat, toNat_zero]
    omega
  rw [translateBoot, Paging.translate_of_table (canonical_low below) top flags.pd,
    Paging.directoryPointers_of_page page flags.lp aligned]
  apply congrArg some
  apply BitVec.eq_of_toNat_eq
  rw [Paging.toNat_append, Word.toNat_field, Word.toNat_field, BitVec.toNat_ofNat,
    BitVec.toNat_setWidth]
  omega

/-! ## The kernel's address space -/

/-- An address of the last 512 GiB. -/
def highAddress (offset : Nat) : BitVec 64 :=
  0xFFFFFF8000000000 + .ofNat 64 offset

section High

variable {offset : Nat} (below : offset < 2 ^ 39)

include below

theorem toNat_highAddress : (highAddress offset).toNat = 2 ^ 64 - 2 ^ 39 + offset := by
  have base : (0xFFFFFF8000000000 : BitVec 64).toNat = 2 ^ 64 - 2 ^ 39 := rfl
  rw [highAddress, BitVec.toNat_add, base, BitVec.toNat_ofNat]
  omega

theorem canonical_high : Paging.Canonical (highAddress offset) := by
  apply Or.inr
  apply BitVec.eq_of_toNat_eq
  rw [Word.toNat_field, toNat_highAddress below, BitVec.toNat_allOnes]
  omega

/-- The walk goes on in the upper page directory pointers. -/
theorem translate_high :
    translateBoot flags zeroed (highAddress offset) =
      Paging.directoryPointers (built flags zeroed)
        (Word.field (layout.page .pdpHigh) 0 40) (highAddress offset) := by
  have top : Paging.entry (built flags zeroed) (Paging.frame (layout.address .pml4))
      (Word.field (highAddress offset) 39 9) =
        Paging.make (layout.page .pdpHigh) flags.x86KernelPdFlags := by
    have index : (Word.field (highAddress offset) 39 9).toNat = 511 := by
      rw [toNat_index, toNat_highAddress below]
      omega
    rw [layout.address_eq_make, Paging.frame_make, entry_built_first, index]
    rfl
  exact Paging.translate_of_table (canonical_high below) top flags.pd

theorem index_high : (Word.field (highAddress offset) 30 9).toNat = offset / 2 ^ 30 := by
  rw [toNat_index, toNat_highAddress below]
  omega

theorem index_directory :
    (Word.field (highAddress offset) 21 9).toNat = offset / 2 ^ 21 % 512 := by
  rw [toNat_index, toNat_highAddress below]
  omega

theorem index_page :
    (Word.field (highAddress offset) 12 9).toNat = offset / 2 ^ 12 % 512 := by
  rw [toNat_index, toNat_highAddress below]
  omega

end High

/-- The first 510 GiB of the kernel's address space are the first 510 GiB of
physical memory. -/
theorem translate_aspace {p : Nat} (below : p < 510 * 2 ^ 30) :
    translateBoot flags zeroed (highAddress p) = some (.ofNat 52 p) := by
  have inside : p < 2 ^ 39 := by omega
  have pointer := entry_built_first flags zeroed .pdpHigh
    (Word.field (highAddress p) 30 9)
  have notKernel : ¬p / 2 ^ 30 = 510 := by omega
  have directory : p / 2 ^ 30 < Table.linearMapPdp512.pages := by
    change p / 2 ^ 30 < 512
    omega
  have page := entry_built flags zeroed .linearMapPdp512 directory
    (Word.field (highAddress p) 21 9)
  rw [index_high inside, finished, if_neg notKernel] at pointer
  rw [index_directory inside, finished] at page
  have aligned : Word.field (BitVec.ofNat 52
      ((512 * (p / 2 ^ 30) + p / 2 ^ 21 % 512) * 2 ^ 9)) 1 8 = 0 := by
    apply BitVec.eq_of_toNat_eq
    rw [Word.toNat_field, BitVec.toNat_ofNat, toNat_zero]
    omega
  rw [translate_high flags zeroed inside,
    Paging.directoryPointers_of_table pointer flags.pd,
    Paging.pageDirectory_of_page page flags.lp aligned]
  apply congrArg some
  apply BitVec.eq_of_toNat_eq
  rw [Paging.toNat_append, Word.toNat_field, Word.toNat_field, BitVec.toNat_ofNat,
    BitVec.toNat_ofNat, toNat_highAddress inside]
  omega

/-! ## The region of the image -/

/-- An address of the last 2 GiB. -/
def kernelAddress (offset : Nat) : BitVec 64 :=
  0xFFFFFFFF80000000 + .ofNat 64 offset

theorem kernelAddress_eq (offset : Nat) :
    kernelAddress offset = highAddress (510 * 2 ^ 30 + offset) := by
  rw [highAddress, BitVec.ofNat_add, ← BitVec.add_assoc]
  rfl

/-- The walk goes on in the directory of the image. -/
theorem translate_kernelAddress {offset : Nat} (below : offset < 2 ^ 30) :
    translateBoot flags zeroed (kernelAddress offset) =
      Paging.pageDirectory (built flags zeroed)
        (Word.field (layout.page .pdeKernel) 0 40) (kernelAddress offset) := by
  have inside : 510 * 2 ^ 30 + offset < 2 ^ 39 := by omega
  have slot : (510 * 2 ^ 30 + offset) / 2 ^ 30 = 510 := by omega
  rw [kernelAddress_eq]
  have pointer := entry_built_first flags zeroed .pdpHigh
    (Word.field (highAddress (510 * 2 ^ 30 + offset)) 30 9)
  rw [index_high inside, slot, finished, if_pos rfl] at pointer
  rw [translate_high flags zeroed inside,
    Paging.directoryPointers_of_table pointer flags.pd]

theorem index_kernelDirectory {offset : Nat} (below : offset < 2 ^ 30) :
    (Word.field (kernelAddress offset) 21 9).toNat = offset / 2 ^ 21 := by
  have inside : 510 * 2 ^ 30 + offset < 2 ^ 39 := by omega
  rw [kernelAddress_eq, index_directory inside]
  omega

/-- The image is mapped to where it is loaded. -/
theorem translate_image {offset : Nat} (below : offset < 16 * 2 ^ 20) :
    translateBoot flags zeroed (kernelAddress offset) =
      some (.ofNat 52 (layout.rbp.toNat + offset)) := by
  have inGigabyte : offset < 2 ^ 30 := by omega
  have inside : 510 * 2 ^ 30 + offset < 2 ^ 39 := by omega
  have rbpBelow := layout.below
  have rbpAligned := layout.aligned
  have directory := entry_built_first flags zeroed .pdeKernel
    (Word.field (kernelAddress offset) 21 9)
  have mapped : offset / 2 ^ 21 < 8 := by omega
  have table : offset / 2 ^ 21 < Table.pteKernel.pages := by
    change offset / 2 ^ 21 < 9
    omega
  have page := entry_built flags zeroed .pteKernel table
    (Word.field (kernelAddress offset) 12 9)
  have index : (Word.field (kernelAddress offset) 12 9).toNat =
      offset / 2 ^ 12 % 512 := by
    rw [kernelAddress_eq, index_page inside]
    omega
  have filled : 512 * (offset / 2 ^ 21) + offset / 2 ^ 12 % 512 < 4096 := by omega
  have present : Paging.Present pteFlags := ⟨by decide⟩
  rw [index_kernelDirectory inGigabyte, finished, if_pos mapped] at directory
  rw [index, finished, if_pos filled] at page
  rw [translate_kernelAddress flags zeroed inGigabyte,
    Paging.pageDirectory_of_table directory flags.pd,
    Paging.pageTable_of_page page present]
  apply congrArg some
  apply BitVec.eq_of_toNat_eq
  rw [Paging.toNat_append, Word.toNat_field, Word.toNat_field, BitVec.toNat_add,
    BootLayout.rbpPage, BitVec.toNat_ofNat, BitVec.toNat_ofNat, BitVec.toNat_ofNat,
    kernelAddress_eq, toNat_highAddress inside]
  omega

/-- The rest of the slot is not mapped. -/
theorem translate_behind_image {offset : Nat} (above : 16 * 2 ^ 20 ≤ offset)
    (below : offset < 2 ^ 30) :
    translateBoot flags zeroed (kernelAddress offset) = none := by
  have directory := entry_built_first flags zeroed .pdeKernel
    (Word.field (kernelAddress offset) 21 9)
  have unmapped : ¬offset / 2 ^ 21 < 8 := by omega
  rw [index_kernelDirectory below, finished, if_neg unmapped] at directory
  rw [translate_kernelAddress flags zeroed below,
    Paging.pageDirectory_of_zero directory]

/-! ## The result -/

/-- What the boot page tables translate, and where the code that builds them
writes. -/
theorem boot_tables :
    (∀ va : BitVec 64, va.toNat < 512 * 2 ^ 30 →
      translateBoot flags zeroed va = some (va.setWidth 52)) ∧
    (∀ p < 510 * 2 ^ 30,
      translateBoot flags zeroed (highAddress p) = some (.ofNat 52 p)) ∧
    (∀ offset < 16 * 2 ^ 20, translateBoot flags zeroed (kernelAddress offset) =
      some (.ofNat 52 (layout.rbp.toNat + offset))) ∧
    (∀ offset, 16 * 2 ^ 20 ≤ offset → offset < 2 ^ 30 →
      translateBoot flags zeroed (kernelAddress offset) = none) ∧
    ∀ address ∈ (buildTables flags layout zeroed.start).written,
      layout.InTables address :=
  ⟨fun _ below => translate_low flags zeroed below,
    fun _ below => translate_aspace flags zeroed below,
    fun _ below => translate_image flags zeroed below,
    fun _ above below => translate_behind_image flags zeroed above below,
    fun _ written => buildTables_written flags zeroed written⟩

/-- Present, writable and global; and the same for large pages. -/
def globalFlags : PageFlags where
  x86KernelPdFlags := 0x103
  x86KernelPdLpFlags := 0x183
  pd := ⟨⟨by decide⟩, by decide⟩
  lp := ⟨⟨by decide⟩, by decide⟩

/-- The tables one after another, in an image at 2 MiB. -/
def consecutive : BootLayout where
  rbp := 0x200000
  phys
    | .pml4 => 0x10000
    | .pdp => 0x11000
    | .pdpHigh => 0x12000
    | .pdeKernel => 0x13000
    | .pteKernel => 0x14000
    | .linearMapPdp512 => 0x1D000
  aligned := by decide
  below := by decide
  physAligned table := by cases table <;> decide
  physBelow table := by cases table <;> decide
  disjoint first second distinct := by
    cases first <;> cases second <;> simp [Table.pages] at distinct ⊢

/-- The first page of that image. -/
theorem translate_consecutive :
    translateBoot globalFlags (⟨fun _ => 0, fun _ _ _ => rfl⟩ : ZeroedMemory consecutive)
      (kernelAddress 0x1000) = some 0x201000 :=
  (boot_tables globalFlags _).2.2.1 0x1000 (by decide)

end SandPlatform.Boot
