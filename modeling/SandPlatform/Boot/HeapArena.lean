import SandPlatform.Boot.KernelImage

/-!
# The memory of the page allocator

The page allocator is given what the kernel image leaves of its 16 MiB.  The
start and the size of that arena are rounded up to pages, each for itself.
-/

namespace SandPlatform.Boot

open SandPlatform.Foundation

/-! ## The initial mappings -/

/-- `struct mmu_initial_mapping`. -/
structure MmuInitialMapping where
  phys : BitVec 64
  virt : BitVec 64
  size : BitVec 64

/-- `pmm_arena_t`. -/
structure PmmArena where
  base : BitVec 64
  size : BitVec 64

/-- The constants of the build. -/
structure MemoryMap where
  membase : BitVec 64
  kernelLoadOffset : BitVec 64
  kernelAspaceBase : BitVec 64

/-- The static data of `platform.c`: the entries of `mmu_initial_mappings` and the
arena. -/
structure PlatformMemory where
  kernel : MmuInitialMapping
  krnlMem : MmuInitialMapping
  heapArena : PmmArena

variable (config : MemoryMap)

/-- The initial values. -/
def PlatformMemory.initial : PlatformMemory where
  kernel :=
    { phys := config.membase + config.kernelLoadOffset
      virt := symbol kernelBase + config.kernelLoadOffset
      size := .ofNat 64 mappedSize }
  krnlMem :=
    { phys := 0
      virt := config.kernelAspaceBase
      size := .ofNat 64 mappedSize }
  heapArena := { base := config.membase, size := 0 }

/-- `platform_heap_init`: where the kernel was loaded and where it is mapped. -/
def platformHeapInit (sections : Sections) (entryPhys : BitVec 64)
    (memory : PlatformMemory) : PlatformMemory :=
  { memory with
    kernel :=
      { memory.kernel with
        phys := entryPhys
        virt := symbol sections.base - config.kernelLoadOffset }
    krnlMem :=
      { memory.krnlMem with
        phys := memory.krnlMem.phys + entryPhys
        virt := memory.krnlMem.virt + entryPhys } }

/-- `heap_arena_init`: the arena begins behind the bss section; its start and its size are
rounded apart. -/
def heapArenaInit (sections : Sections) (memory : PlatformMemory) : PlatformMemory :=
  let rsvd := symbol sections.bssEnd - memory.kernel.virt
  let rsvd := rsvd + config.kernelLoadOffset
  { memory with
    heapArena :=
      { base := pageAlignWord (memory.kernel.phys + rsvd)
        size := pageAlignWord (memory.kernel.size - rsvd) } }

/-! ## What is wanted -/

/-- Where the image has been loaded: on a page, at a physical address of at most
52 bits.  It fits in the mapping of the kernel. -/
structure Placement (config : MemoryMap) where
  sections : Sections
  entryPhys : BitVec 64
  aligned : entryPhys.toNat % 4096 = 0
  physical : entryPhys.toNat < 2 ^ 52
  fits : sections.bssEnd - sections.base + config.kernelLoadOffset.toNat ≤ mappedSize

variable {config} (placement : Placement config)

/-- After `platform_heap_init` and `heap_arena_init`. -/
def Placement.memory : PlatformMemory :=
  heapArenaInit config placement.sections
    (platformHeapInit config placement.sections placement.entryPhys (.initial config))

/-- The physical end of `.bss`; `entry_phys` is where `_start` has been loaded. -/
def Placement.physBssEnd : Nat :=
  placement.entryPhys.toNat + (placement.sections.bssEnd - placement.sections.base)

/-- The arena is a part of the mapping of the kernel, in whole pages, and holds nothing of
the image. -/
structure PlatformMemory.ArenaInside (memory : PlatformMemory) (physBssEnd : Nat) :
    Prop where
  aligned : memory.heapArena.base.toNat % 4096 = 0
  behindBss : physBssEnd ≤ memory.heapArena.base.toNat
  inMapping : memory.heapArena.base.toNat + memory.heapArena.size.toNat ≤
    memory.kernel.phys.toNat + memory.kernel.size.toNat

/-! ## The arena -/

namespace Placement

/-- What is kept from the allocator: the image, and the load offset twice. -/
def reserved : Nat :=
  placement.sections.bssEnd - placement.sections.base +
    2 * config.kernelLoadOffset.toNat

/-- The reservation is counted from below the image. -/
theorem rsvd_eq :
    symbol placement.sections.bssEnd -
          (symbol placement.sections.base - config.kernelLoadOffset) +
        config.kernelLoadOffset =
      .ofNat 64 placement.reserved := by
  obtain ⟨code, rodata, data, bss, stop, -⟩ := placement.sections.ordered
  have ordered : placement.sections.base ≤ placement.sections.bssEnd := by omega
  have length : symbol placement.sections.bssEnd =
      symbol placement.sections.base +
        .ofNat 64 (placement.sections.bssEnd - placement.sections.base) := by
    rw [symbol, symbol, ← BitVec.ofNat_add, Nat.add_sub_cancel' ordered]
  have twice : (BitVec.ofNat 64 (2 * config.kernelLoadOffset.toNat)) =
      config.kernelLoadOffset + config.kernelLoadOffset := by
    rw [Nat.two_mul, BitVec.ofNat_add, BitVec.ofNat_toNat, BitVec.setWidth_eq]
  rw [reserved, BitVec.ofNat_add, twice, length]
  grind

theorem memory_base :
    placement.memory.heapArena.base =
      pageAlignWord (placement.entryPhys + .ofNat 64 placement.reserved) := by
  rw [← placement.rsvd_eq]
  rfl

theorem memory_size :
    placement.memory.heapArena.size =
      pageAlignWord (.ofNat 64 mappedSize - .ofNat 64 placement.reserved) := by
  rw [← placement.rsvd_eq]
  rfl

theorem reserved_le : placement.reserved ≤ 2 * mappedSize := by
  have fits := placement.fits
  simp only [reserved]
  omega

theorem base_toNat :
    placement.memory.heapArena.base.toNat =
      placement.entryPhys.toNat + pageAlign placement.reserved := by
  have physical := placement.physical
  have bound := placement.reserved_le
  have rounded : pageAlign placement.reserved ≤ 2 * mappedSize :=
    (pageAlign_le_iff (by decide)).mpr bound
  simp only [mappedSize] at bound rounded
  have start : placement.entryPhys = .ofNat 64 placement.entryPhys.toNat := by simp
  rw [placement.memory_base, start, ← BitVec.ofNat_add,
    pageAlignWord_ofNat (by omega), pageAlign_add placement.aligned,
    BitVec.toNat_ofNat, BitVec.toNat_ofNat, Nat.mod_eq_of_lt (by omega),
    Nat.mod_eq_of_lt (by omega)]

/-- If the reservation fits in the mapping, so does the rest of it. -/
theorem size_toNat (room : placement.reserved ≤ mappedSize) :
    placement.memory.heapArena.size.toNat =
      pageAlign (mappedSize - placement.reserved) := by
  have rounded : pageAlign (mappedSize - placement.reserved) ≤ mappedSize :=
    (pageAlign_le_iff (by decide)).mpr (Nat.sub_le _ _)
  have left : BitVec.ofNat 64 mappedSize - BitVec.ofNat 64 placement.reserved =
      BitVec.ofNat 64 (mappedSize - placement.reserved) := by
    exact BitVec.ofNat_sub_ofNat_of_le _ _ (Nat.lt_of_le_of_lt room (by decide)) room
  have small : mappedSize + 4095 < 2 ^ 64 := by decide
  rw [placement.memory_size, left, pageAlignWord_ofNat (by omega), BitVec.toNat_ofNat,
    Nat.mod_eq_of_lt (by omega)]

/-- The arena ends with the mapping, or one page behind it. -/
theorem arena_end (room : placement.reserved ≤ mappedSize) :
    placement.memory.heapArena.base.toNat + placement.memory.heapArena.size.toNat =
      placement.entryPhys.toNat +
        if placement.reserved % 4096 = 0 then mappedSize else mappedSize + 4096 := by
  rw [placement.base_toNat, placement.size_toNat room, Nat.add_assoc,
    pageAlign_add_pageAlign_sub (by decide) room]

end Placement

/-- The arena is inside the reserved memory exactly if what is kept from it is whole
pages and not more than the mapping. -/
theorem heapArena_inside_iff :
    placement.memory.ArenaInside placement.physBssEnd ↔
      (placement.sections.bssEnd - placement.sections.base +
          2 * config.kernelLoadOffset.toNat) % 4096 = 0 ∧
        placement.sections.bssEnd - placement.sections.base +
          2 * config.kernelLoadOffset.toNat ≤ mappedSize := by
  have rounded := le_pageAlign placement.reserved
  have total : placement.memory.kernel.phys.toNat + placement.memory.kernel.size.toNat =
      placement.entryPhys.toNat + mappedSize := rfl
  have start := placement.base_toNat
  change _ ↔ placement.reserved % 4096 = 0 ∧ placement.reserved ≤ mappedSize
  constructor
  · intro inside
    have ends := inside.inMapping
    rw [total] at ends
    have room : placement.reserved ≤ mappedSize := by omega
    rw [placement.arena_end room] at ends
    refine ⟨?_, room⟩
    by_contra unaligned
    rw [if_neg unaligned] at ends
    omega
  · rintro ⟨whole, room⟩
    constructor
    · rw [start, Nat.add_mod, placement.aligned, pageAlign_mod]
    · rw [start, Placement.physBssEnd]
      simp only [Placement.reserved] at rounded ⊢
      omega
    · have ends := placement.arena_end room
      rw [if_pos whole] at ends
      exact Nat.le_of_eq (ends.trans total.symm)

/-- The build `start.S` is written for. -/
def MemoryMap.start : MemoryMap where
  membase := 0
  kernelLoadOffset := 0
  kernelAspaceBase := 0xFFFFFF8000000000

/-- One page of each section and eight bytes more of `.bss`, loaded at 2 MiB. -/
def unevenPlacement : Placement MemoryMap.start where
  sections :=
    { base := 0xFFFFFFFF80001000
      text := 0x1000
      relaDyn := 0
      relaPlt := 0
      rodata := 0x1000
      data := 0x1000
      bss := 0x1008 }
  entryPhys := 0x200000
  aligned := twoMiB_aligned
  physical := by decide
  fits := by decide

/-- The last page of the arena is behind the mapping. -/
theorem uneven_arena_outside :
    unevenPlacement.sections.bssEnd % 8 = 0 ∧
      ¬unevenPlacement.memory.ArenaInside unevenPlacement.physBssEnd := by
  refine ⟨by decide, fun inside => ?_⟩
  exact absurd inside.inMapping (by decide)

end SandPlatform.Boot
