import SandPlatform.Boot.PageTables

/-!
# What the boot page tables hold

The entries of the six tables are at addresses of their own, so that what a loop
writes to one table leaves the others alone.  From what one loop fills comes what
all tables hold in the end.
-/

namespace SandPlatform.Boot

open SandPlatform.Foundation

variable (layout : BootLayout)

/-! ## Addresses -/

namespace BootLayout

theorem toNat_address (table : Table) :
    (layout.address table).toNat = layout.rbp.toNat + layout.phys table := by
  have below := layout.below
  have physBelow := layout.physBelow table
  simp only [address, BitVec.toNat_add, BitVec.toNat_ofNat]
  omega

theorem toNat_slot {table : Table} {index : Nat} (inside : index < 512 * table.pages) :
    (layout.slot table index).toNat =
      layout.rbp.toNat + layout.phys table + 8 * index := by
  have below := layout.below
  have physBelow := layout.physBelow table
  simp only [slot, BitVec.toNat_add, BitVec.toNat_ofNat, toNat_address]
  omega

/-- Entries are at different addresses. -/
theorem slot_inj {first second : Table} {i j : Nat} (firstInside : i < 512 * first.pages)
    (secondInside : j < 512 * second.pages)
    (same : layout.slot first i = layout.slot second j) : first = second ∧ i = j := by
  have values := congrArg BitVec.toNat same
  rw [layout.toNat_slot firstInside, layout.toNat_slot secondInside] at values
  by_cases equal : first = second
  · subst equal
    exact ⟨rfl, by omega⟩
  · rcases layout.disjoint first second equal with below | above <;> omega

@[simp]
theorem slot_zero (table : Table) : layout.slot table 0 = layout.address table := by
  simp [slot]

theorem slot_succ (table : Table) (index : Nat) :
    layout.slot table index + 8 = layout.slot table (index + 1) := by
  rw [slot, slot, BitVec.add_assoc, Nat.mul_succ, BitVec.ofNat_add]
  rfl

/-- The page a table starts at. -/
def page (table : Table) : BitVec 52 :=
  .ofNat 52 ((layout.rbp.toNat + layout.phys table) / 4096)

/-- The page the image is loaded at. -/
def rbpPage : BitVec 52 :=
  .ofNat 52 (layout.rbp.toNat / 4096)

theorem address_eq_make (table : Table) :
    layout.address table = Paging.make (layout.page table) 0 := by
  have below := layout.below
  have physBelow := layout.physBelow table
  have aligned := layout.aligned
  have physAligned := layout.physAligned table
  apply BitVec.eq_of_toNat_eq
  rw [layout.toNat_address, Paging.toNat_make_zero, page, BitVec.toNat_ofNat]
  omega

theorem rbp_eq_make : layout.rbp = Paging.make layout.rbpPage 0 := by
  have below := layout.below
  have aligned := layout.aligned
  apply BitVec.eq_of_toNat_eq
  rw [Paging.toNat_make_zero, rbpPage, BitVec.toNat_ofNat]
  omega

end BootLayout

/-! ## Loops -/

/-- Some entries of a table, from `first` on, are written, and nothing else. -/
structure Fills (table : Table) (first count : Nat) (value : Nat → BitVec 64)
    (before after : TableMemory) : Prop where
  words : ∀ other, ∀ index < 512 * other.pages,
    after.words (layout.slot other index) =
      if other = table ∧ first ≤ index ∧ index < first + count then value index
      else before.words (layout.slot other index)
  written : ∀ address ∈ after.written,
    address ∈ before.written ∨ layout.InTables address

section Loops

variable {layout} {table : Table} {value : Nat → BitVec 64}

theorem fills_none (first : Nat) (memory : TableMemory) :
    Fills layout table first 0 value memory memory := by
  constructor
  · intro other index inside
    have nothing : ¬(other = table ∧ first ≤ index ∧ index < first + 0) := by omega
    rw [if_neg nothing]
  · intro address mem
    exact .inl mem

variable (layout table)

theorem fills_movq (value : Nat → BitVec 64) (index : Nat)
    (inside : index < 512 * table.pages) (memory : TableMemory) :
    Fills layout table index 1 value memory
      (memory.movq (layout.slot table index) (value index)) := by
  constructor
  · intro other i iInside
    by_cases same : other = table ∧ i = index
    · obtain ⟨rfl, rfl⟩ := same
      simp [TableMemory.movq]
    · have distinct : layout.slot other i ≠ layout.slot table index := by
        intro equal
        exact same (layout.slot_inj iInside inside equal)
      have outside : ¬(other = table ∧ index ≤ i ∧ i < index + 1) := by
        rintro ⟨equal, above, below⟩
        exact same ⟨equal, by omega⟩
      rw [if_neg outside]
      exact Function.update_of_ne distinct _ _
  · intro address mem
    rcases List.mem_append.mp mem with old | new
    · exact .inl old
    · exact .inr ⟨table, index, inside, List.mem_singleton.mp new⟩

variable {layout table} in
/-- One entry and the entries behind it. -/
theorem Fills.cons {first count : Nat} {before middle after : TableMemory}
    (head : Fills layout table first 1 value before middle)
    (tail : Fills layout table (first + 1) count value middle after) :
    Fills layout table first (count + 1) value before after := by
  constructor
  · intro other index inside
    rw [tail.words other index inside, head.words other index inside]
    by_cases same : other = table
    · subst same
      by_cases atHead : index = first
      · simp [atHead]
      · by_cases behind : first + 1 ≤ index ∧ index < first + 1 + count
        · have mem : first ≤ index ∧ index < first + (count + 1) := by omega
          rw [if_pos ⟨rfl, behind⟩, if_pos ⟨rfl, mem⟩]
        · have notMem : ¬(first ≤ index ∧ index < first + (count + 1)) := by omega
          have notHead : ¬(first ≤ index ∧ index < first + 1) := by omega
          rw [if_neg (notMem ∘ And.right), if_neg (behind ∘ And.right),
            if_neg (notHead ∘ And.right)]
    · simp [same]
  · intro address mem
    rcases tail.written address mem with earlier | inside
    · exact head.written address earlier
    · exact .inr inside

variable {layout table} in
/-- If all that was written is in the tables, it still is. -/
theorem Fills.inside {first count : Nat} {before after : TableMemory}
    (fills : Fills layout table first count value before after)
    (earlier : ∀ address ∈ before.written, layout.InTables address) :
    ∀ address ∈ after.written, layout.InTables address := by
  intro address mem
  rcases fills.written address mem with old | new
  · exact earlier address old
  · exact new

theorem fillLinear_fills (shift : Nat) (flags : BitVec 12) (count first : Nat)
    (memory : TableMemory) (inside : first + count ≤ 512 * table.pages) :
    Fills layout table first count
      (fun index => BitVec.ofNat 64 index <<< shift ||| flags.setWidth 64) memory
      (fillLinear shift flags count (layout.slot table first) (.ofNat 64 first)
        memory) := by
  induction count generalizing first memory with
  | zero => exact fills_none first memory
  | succ count ih =>
      have next : BitVec.ofNat 64 first + 1 = BitVec.ofNat 64 (first + 1) :=
        (BitVec.ofNat_add first 1).symm
      rw [fillLinear, layout.slot_succ, next]
      exact (fills_movq layout table _ first (by omega) memory).cons (ih (first + 1) _ (by omega))

/-- The flags that are set again in every round are set once. -/
theorem fillPages_fills (flags : BitVec 12) (start : BitVec 52) (old : BitVec 12)
    (count first : Nat) (memory : TableMemory)
    (inside : first + count ≤ 512 * table.pages) :
    Fills layout table first count
      (fun index => Paging.make (start + .ofNat 52 index) (old ||| flags)) memory
      (fillPages flags count (layout.slot table first)
        (Paging.make (start + .ofNat 52 first) old) memory) := by
  induction count generalizing first old memory with
  | zero => exact fills_none first memory
  | succ count ih =>
      have next : start + BitVec.ofNat 52 first + 1 =
          start + BitVec.ofNat 52 (first + 1) := by
        rw [BitVec.add_assoc, BitVec.ofNat_add]
        rfl
      rw [fillPages, Paging.make_or, Paging.make_add, layout.slot_succ, next]
      have rest := ih (old ||| flags) (first + 1) (memory.movq
        (layout.slot table first)
        (Paging.make (start + .ofNat 52 first) (old ||| flags))) (by omega)
      rw [BitVec.or_assoc, BitVec.or_self] at rest
      exact (fills_movq layout table _ first (by omega) memory).cons rest

end Loops

/-! ## The tables -/

/-- An entry made from its index is a page. -/
theorem linear_eq_make (extra index : Nat) (flags : BitVec 12) :
    BitVec.ofNat 64 index <<< (12 + extra) ||| flags.setWidth 64 =
      Paging.make (.ofNat 52 (index * 2 ^ extra)) flags := by
  have shifted : BitVec.ofNat 64 index <<< (12 + extra) =
      Paging.make (.ofNat 52 (index * 2 ^ extra)) 0 := by
    apply BitVec.eq_of_toNat_eq
    have factor : index * (2 ^ 12 * 2 ^ extra) = index * 2 ^ extra * 4096 := by
      have page : 2 ^ 12 = 4096 := rfl
      rw [page, Nat.mul_comm 4096, Nat.mul_assoc]
    rw [Paging.toNat_make_zero, BitVec.toNat_shiftLeft, BitVec.toNat_ofNat,
      BitVec.toNat_ofNat, Nat.shiftLeft_eq, Nat.mod_mul_mod, Nat.pow_add, factor]
    omega
  rw [shifted, Paging.make_zero_or]

/-- An entry of the finished tables. -/
def finished (flags : PageFlags) (layout : BootLayout) (index : Nat) :
    Table → BitVec 64
  | .pml4 =>
      if index = 0 then Paging.make (layout.page .pdp) flags.x86KernelPdFlags
      else if index = 511 then
        Paging.make (layout.page .pdpHigh) flags.x86KernelPdFlags
      else 0
  | .pdp => Paging.make (.ofNat 52 (index * 2 ^ 18)) flags.x86KernelPdLpFlags
  | .pdpHigh =>
      if index = 510 then
        Paging.make (layout.page .pdeKernel) flags.x86KernelPdFlags
      else
        Paging.make (layout.page .linearMapPdp512 + .ofNat 52 index)
          flags.x86KernelPdFlags
  | .linearMapPdp512 =>
      Paging.make (.ofNat 52 (index * 2 ^ 9)) flags.x86KernelPdLpFlags
  | .pdeKernel =>
      if index < 8 then
        Paging.make (layout.page .pteKernel + .ofNat 52 index) flags.x86KernelPdFlags
      else 0
  | .pteKernel =>
      if index < 4096 then Paging.make (layout.rbpPage + .ofNat 52 index) pteFlags
      else 0

section Build

variable {layout} (flags : PageFlags)

theorem withPdFlags_address (table : Table) :
    withPdFlags flags (layout.address table) =
      Paging.make (layout.page table) flags.x86KernelPdFlags := by
  rw [withPdFlags, layout.address_eq_make, Paging.make_zero_or]

variable (layout) (table : Table)

/-- The entries a loop fills from the start of a table. -/
theorem fillLinear_fills_table (extra count : Nat) (lp : BitVec 12)
    (memory : TableMemory) (inside : 0 + count ≤ 512 * table.pages) :
    Fills layout table 0 count
      (fun index => Paging.make (.ofNat 52 (index * 2 ^ extra)) lp) memory
      (fillLinear (12 + extra) lp count (layout.address table) 0 memory) := by
  have fills := fillLinear_fills layout table (12 + extra) lp count 0 memory inside
  simp only [linear_eq_make, layout.slot_zero] at fills
  exact fills

theorem fillPages_fills_table (pageFlags : BitVec 12) (start : BitVec 52)
    (old : BitVec 12) (count : Nat) (memory : TableMemory)
    (inside : 0 + count ≤ 512 * table.pages) :
    Fills layout table 0 count
      (fun index => Paging.make (start + .ofNat 52 index) (old ||| pageFlags)) memory
      (fillPages pageFlags count (layout.address table) (Paging.make start old)
        memory) := by
  have fills :=
    fillPages_fills layout table pageFlags start old count 0 memory inside
  simpa only [layout.slot_zero, BitVec.ofNat_eq_ofNat, BitVec.add_zero] using fills

variable (memory : TableMemory)

theorem mapLow512G_fills :
    ∃ middle, Fills layout .pml4 0 1 (finished flags layout · .pml4) memory middle ∧
      Fills layout .pdp 0 512 (finished flags layout · .pdp) middle
        (mapLow512G flags layout memory) := by
  have top := fills_movq layout .pml4 (finished flags layout · .pml4) 0 (by decide)
    memory
  have pages := fillLinear_fills_table layout .pdp 18 512 flags.x86KernelPdLpFlags
    (memory.movq (layout.slot .pml4 0) (finished flags layout 0 .pml4)) (by decide)
  refine ⟨_, top, ?_⟩
  rw [mapLow512G, withPdFlags_address, ← layout.slot_zero .pml4]
  exact pages

theorem mapKernelAspace_fills :
    ∃ first second,
      Fills layout .pml4 511 1 (finished flags layout · .pml4) memory first ∧
      Fills layout .linearMapPdp512 0 0x40000
        (finished flags layout · .linearMapPdp512) first second ∧
      Fills layout .pdpHigh 0 512
        (fun index => Paging.make (layout.page .linearMapPdp512 + .ofNat 52 index)
          flags.x86KernelPdFlags) second (mapKernelAspace flags layout memory) := by
  have top := fills_movq layout .pml4 (finished flags layout · .pml4) 511 (by decide)
    memory
  have pages := fillLinear_fills_table layout .linearMapPdp512 9 0x40000
    flags.x86KernelPdLpFlags
    (memory.movq (layout.slot .pml4 511) (finished flags layout 511 .pml4)) (by decide)
  have same : flags.x86KernelPdFlags ||| 0 = flags.x86KernelPdFlags := BitVec.or_zero
  have pointers := fillPages_fills_table layout .pdpHigh 0
    (layout.page .linearMapPdp512) flags.x86KernelPdFlags 512
    (fillLinear (12 + 9) flags.x86KernelPdLpFlags 0x40000
      (layout.address .linearMapPdp512) 0
      (memory.movq (layout.slot .pml4 511) (finished flags layout 511 .pml4)))
    (by decide)
  rw [same] at pointers
  refine ⟨_, _, top, pages, ?_⟩
  rw [mapKernelAspace, withPdFlags_address, withPdFlags_address]
  exact pointers

theorem mapKernelBaseRegion_fills :
    ∃ first second,
      Fills layout .pdpHigh 510 1 (finished flags layout · .pdpHigh) memory first ∧
      Fills layout .pdeKernel 0 8
        (fun index => Paging.make (layout.page .pteKernel + .ofNat 52 index)
          flags.x86KernelPdFlags) first second ∧
      Fills layout .pteKernel 0 4096
        (fun index => Paging.make (layout.rbpPage + .ofNat 52 index) pteFlags) second
        (mapKernelBaseRegion flags layout memory) := by
  have slot := fills_movq layout .pdpHigh (finished flags layout · .pdpHigh) 510
    (by decide) memory
  have noPd : 0 ||| flags.x86KernelPdFlags = flags.x86KernelPdFlags := BitVec.zero_or
  have directories := fillPages_fills_table layout .pdeKernel flags.x86KernelPdFlags
    (layout.page .pteKernel) 0 8
    (memory.movq (layout.slot .pdpHigh 510) (finished flags layout 510 .pdpHigh))
    (by decide)
  rw [noPd, ← layout.address_eq_make] at directories
  have noPte : 0 ||| pteFlags = pteFlags := BitVec.zero_or
  have pages := fillPages_fills_table layout .pteKernel pteFlags layout.rbpPage 0 4096
    (fillPages flags.x86KernelPdFlags 8 (layout.address .pdeKernel)
      (Paging.make (layout.page .pteKernel) 0)
      (memory.movq (layout.slot .pdpHigh 510) (finished flags layout 510 .pdpHigh)))
    (by decide)
  rw [noPte, ← layout.address_eq_make, ← layout.rbp_eq_make] at pages
  refine ⟨_, _, slot, directories, ?_⟩
  rw [mapKernelBaseRegion, withPdFlags_address]
  exact pages

end Build

section Result

variable {layout} (flags : PageFlags) (zeroed : ZeroedMemory layout)

/-- The macros leave the finished tables. -/
theorem buildTables_words (table : Table) {index : Nat}
    (inside : index < 512 * table.pages) :
    (buildTables flags layout zeroed.start).words (layout.slot table index) =
      finished flags layout index table := by
  obtain ⟨lowTop, top, pages⟩ := mapLow512G_fills layout flags zeroed.start
  obtain ⟨highTop, linear, last, directory, pointers⟩ :=
    mapKernelAspace_fills layout flags (mapLow512G flags layout zeroed.start)
  obtain ⟨high, kernel, slot, directories, entries⟩ :=
    mapKernelBaseRegion_fills layout flags
      (mapKernelAspace flags layout (mapLow512G flags layout zeroed.start))
  have zero : zeroed.start.words (layout.slot table index) = 0 :=
    zeroed.zeroed table index inside
  rw [buildTables, entries.words table index inside, directories.words table index inside,
    slot.words table index inside, pointers.words table index inside,
    directory.words table index inside, last.words table index inside,
    pages.words table index inside, top.words table index inside, zero]
  cases table with
  | pml4 =>
      have limit : index < 512 := inside
      by_cases top : index = 511
      · simp [finished, top]
      · have outside : ¬(511 ≤ index ∧ index < 511 + 1) := by omega
        by_cases bottom : index = 0 <;> simp [finished, top, outside, bottom]
  | pdp =>
      have limit : index < 512 := inside
      simp [limit]
  | pdpHigh =>
      have limit : index < 512 := inside
      by_cases kernelSlot : index = 510
      · simp [finished, kernelSlot]
      · have outside : ¬(510 ≤ index ∧ index < 510 + 1) := by omega
        simp [finished, kernelSlot, outside, limit]
  | linearMapPdp512 =>
      have limit : index < 0x40000 := inside
      simp [limit]
  | pdeKernel => simp [finished]
  | pteKernel => simp [finished]

/-- Nothing else is written. -/
theorem buildTables_written {address : BitVec 64}
    (written : address ∈ (buildTables flags layout zeroed.start).written) :
    layout.InTables address := by
  obtain ⟨lowTop, top, pages⟩ := mapLow512G_fills layout flags zeroed.start
  obtain ⟨highTop, linear, last, directory, pointers⟩ :=
    mapKernelAspace_fills layout flags (mapLow512G flags layout zeroed.start)
  obtain ⟨high, kernel, slot, directories, entries⟩ :=
    mapKernelBaseRegion_fills layout flags
      (mapKernelAspace flags layout (mapLow512G flags layout zeroed.start))
  have nothing : ∀ address ∈ zeroed.start.written, layout.InTables address := by
    simp [ZeroedMemory.start]
  exact entries.inside (directories.inside (slot.inside (pointers.inside
    (directory.inside (last.inside (pages.inside (top.inside nothing))))))) address written

end Result

end SandPlatform.Boot
