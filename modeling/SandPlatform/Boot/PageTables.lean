import SandPlatform.Foundation.Paging

/-!
# The page tables of the boot

The three macros of `start.S` fill six tables before paging is switched over to
them.  A loop keeps the address of the next entry and the next entry or its index
in registers.  Every address written to is put on record.
-/

namespace SandPlatform.Boot

open SandPlatform.Foundation

/-- The page tables that are set aside in the bss section. -/
inductive Table
  | pml4
  | pdp
  | pdpHigh
  | linearMapPdp512
  | pdeKernel
  | pteKernel
  deriving DecidableEq

/-- The size of a table. -/
def Table.pages : Table → Nat
  | .linearMapPdp512 => 512
  | .pteKernel => 9
  | _ => 1

/-- The flags of the architecture layer, below the page number of an entry. -/
structure PageFlags where
  x86KernelPdFlags : BitVec 12
  x86KernelPdLpFlags : BitVec 12
  pd : Paging.IsTable x86KernelPdFlags
  lp : Paging.IsPage x86KernelPdLpFlags

/-- Where the image is loaded, and where the tables are in it: `phys` is `PHYS` of
the symbol of a table. -/
structure BootLayout where
  rbp : BitVec 64
  phys : Table → Nat
  aligned : rbp.toNat % 4096 = 0
  below : rbp.toNat < 2 ^ 39
  physAligned : ∀ table, phys table % 4096 = 0
  physBelow : ∀ table, phys table + 4096 * table.pages ≤ 2 ^ 31
  disjoint : ∀ first second, first ≠ second →
    phys first + 4096 * first.pages ≤ phys second ∨
      phys second + 4096 * second.pages ≤ phys first

namespace BootLayout

variable (layout : BootLayout)

/-- The address of a table while the code runs where it is loaded. -/
def address (table : Table) : BitVec 64 :=
  layout.rbp + .ofNat 64 (layout.phys table)

/-- The address of an entry. -/
def slot (table : Table) (index : Nat) : BitVec 64 :=
  layout.address table + .ofNat 64 (8 * index)

/-- The entries of the tables. -/
def InTables (address : BitVec 64) : Prop :=
  ∃ table index, index < 512 * table.pages ∧ address = layout.slot table index

end BootLayout

/-- Quadwords by their address, and the addresses written to. -/
structure TableMemory where
  words : BitVec 64 → BitVec 64
  written : List (BitVec 64)

/-- A store of a quadword, which is noted. -/
def TableMemory.movq (memory : TableMemory) (address value : BitVec 64) :
    TableMemory where
  words := Function.update memory.words address value
  written := memory.written ++ [address]

/-! ## The loops -/

/-- Entries made from their index. -/
def fillLinear (shift : Nat) (flags : BitVec 12) :
    Nat → BitVec 64 → BitVec 64 → TableMemory → TableMemory
  | 0, _, _, memory => memory
  | count + 1, rdi, rax, memory =>
      let rbx := rax <<< shift ||| flags.setWidth 64
      fillLinear shift flags count (rdi + 8) (rax + 1) (memory.movq rdi rbx)

/-- Entries for one page after another, with flags set in each of them. -/
def fillPages (flags : BitVec 12) :
    Nat → BitVec 64 → BitVec 64 → TableMemory → TableMemory
  | 0, _, _, memory => memory
  | count + 1, rdi, rsi, memory =>
      let rsi := rsi ||| flags.setWidth 64
      fillPages flags count (rdi + 8) (rsi + 4096) (memory.movq rdi rsi)

/-! ## The macros -/

section Macros

variable (flags : PageFlags) (layout : BootLayout)

/-- `X86_KERNEL_PD_FLAGS` set in an address. -/
def withPdFlags (address : BitVec 64) : BitVec 64 :=
  address ||| flags.x86KernelPdFlags.setWidth 64

/-- The macro `map_low_512G`: one table of pages of 1 GiB. -/
def mapLow512G (memory : TableMemory) : TableMemory :=
  let memory := memory.movq (layout.address .pml4)
    (withPdFlags flags (layout.address .pdp))
  fillLinear 30 flags.x86KernelPdLpFlags 512 (layout.address .pdp) 0 memory

/-- The macro `map_kernel_aspace`: the tables of the upper 512 GiB, with pages of 2 MiB. -/
def mapKernelAspace (memory : TableMemory) : TableMemory :=
  let memory := memory.movq (layout.slot .pml4 511)
    (withPdFlags flags (layout.address .pdpHigh))
  let memory := fillLinear 21 flags.x86KernelPdLpFlags 0x40000
    (layout.address .linearMapPdp512) 0 memory
  -- the flags are set before the loop
  fillPages 0 512 (layout.address .pdpHigh)
    (withPdFlags flags (layout.address .linearMapPdp512)) memory

/-- The flags of the pages of the kernel, which are written as a number. -/
def pteFlags : BitVec 12 := 103

/-- The macro `map_kernel_base_region`: 16 MiB of small pages from the load address on. -/
def mapKernelBaseRegion (memory : TableMemory) : TableMemory :=
  let memory := memory.movq (layout.slot .pdpHigh 510)
    (withPdFlags flags (layout.address .pdeKernel))
  let memory := fillPages flags.x86KernelPdFlags 8 (layout.address .pdeKernel)
    (layout.address .pteKernel) memory
  fillPages pteFlags 4096 (layout.address .pteKernel) layout.rbp memory

/-- The macros in the order of `_start`. -/
def buildTables (memory : TableMemory) : TableMemory :=
  mapKernelBaseRegion flags layout
    (mapKernelAspace flags layout (mapLow512G flags layout memory))

end Macros

/-- Memory in which the tables are zero. -/
structure ZeroedMemory (layout : BootLayout) where
  words : BitVec 64 → BitVec 64
  zeroed : ∀ table, ∀ index < 512 * table.pages, words (layout.slot table index) = 0

/-- The memory behind the loop that clears it, before any table is filled. -/
def ZeroedMemory.start {layout : BootLayout} (zeroed : ZeroedMemory layout) :
    TableMemory :=
  ⟨zeroed.words, []⟩

end SandPlatform.Boot
