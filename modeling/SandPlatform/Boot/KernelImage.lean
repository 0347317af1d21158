import SandPlatform.Foundation.Pages

/-!
# The permissions of the kernel image

The linker script places the sections one after another, and `platform.c` maps
ranges between the symbols it defines.  The sections `.rela.dyn` and `.rela.plt`
are in no range.
-/

namespace SandPlatform.Boot

open SandPlatform.Foundation

/-! ## The linker script -/

/-- What the linker places, in bytes: `data` is everything from `.data` to
`.bss`. -/
structure Sections where
  base : Nat
  text : Nat
  relaDyn : Nat
  relaPlt : Nat
  rodata : Nat
  data : Nat
  bss : Nat

namespace Sections

variable (sections : Sections)

/-- `__code_end`, behind the text section. -/
def codeEnd : Nat :=
  sections.base + sections.text

/-- The end of the relocations, which follow the code without a page boundary. -/
def relaEnd : Nat :=
  sections.codeEnd + sections.relaDyn + sections.relaPlt

/-- `__rodata_start`, on a page of its own. -/
def rodataStart : Nat :=
  pageAlign sections.relaEnd

/-- Where `.data` starts, `__rodata_end` as well. -/
def dataStart : Nat :=
  pageAlign (sections.rodataStart + sections.rodata)

/-- Where `.bss` starts, `__data_end` as well. -/
def bssStart : Nat :=
  pageAlign (sections.dataStart + sections.data)

/-- `__bss_end`, the end of the image. -/
def bssEnd : Nat :=
  sections.bssStart + sections.bss

/-- `_end`. -/
def stop : Nat :=
  pageAlign sections.bssEnd

end Sections

/-- `KERNEL_BASE`, where the kernel is mapped. -/
def kernelBase : Nat := 0xFFFFFFFF80000000

/-- 16 MiB. -/
def mappedSize : Nat := 0x1000000

/-- An image in the region that `map_kernel_base_region` maps.  The heap follows
it there. -/
structure KernelImage extends Sections where
  aligned : base % 4096 = 0
  above : kernelBase ≤ base
  room : toSections.stop < kernelBase + mappedSize

/-- The address of a linker symbol. -/
def symbol (address : Nat) : BitVec 64 :=
  .ofNat 64 address

/-! ## The mappings -/

/-- The flags of a mapping that protect it. -/
structure ArchFlags where
  ro : Bool
  noExecute : Bool
  ns : Bool
  deriving DecidableEq

/-- `map_range`: the pages from a virtual address on, and where they lead. -/
structure MapRange where
  startVaddr : BitVec 64
  startPaddr : BitVec 64
  size : BitVec 64

/-- The permissions of every page. -/
abbrev PageTable := BitVec 52 → ArchFlags

/-- Every page the range touches gets the permissions asked for. -/
def x86MmuMapRange (range : MapRange) (access : ArchFlags) (table : PageTable) :
    PageTable :=
  fun page =>
    if Touches range.startVaddr range.size page then access else table page

/-- As `start.S` leaves the pages: writable and executable. -/
def bootTable : PageTable :=
  fun _ => ⟨false, false, false⟩

/-- Where the image is loaded, and the translations between its addresses. -/
structure Loaded (image : KernelImage) where
  entryPhys : BitVec 64
  aligned : entryPhys.toNat % 4096 = 0
  vaddrToPaddr : BitVec 64 → BitVec 64
  paddrToKvaddr : BitVec 64 → BitVec 64
  translated : ∀ address, image.base ≤ address → address < kernelBase + mappedSize →
    vaddrToPaddr (symbol address) =
      entryPhys + (symbol address - symbol image.base)

/-- `platform_update_pagetable`; `mmu_initial_mappings[0]` starts at
`entry_phys`. -/
def platformUpdatePagetable (image : KernelImage) (loaded : Loaded image)
    (table : PageTable) : PageTable :=
  let startCode := symbol image.base
  let range (start stop : Nat) : MapRange :=
    { startVaddr := symbol start
      startPaddr := loaded.vaddrToPaddr (symbol start)
      size := symbol stop - symbol start }
  let upper := pageAlignWord (symbol image.stop)
  let table := x86MmuMapRange (range image.base image.codeEnd)
    ⟨true, false, false⟩ table
  let table := x86MmuMapRange (range image.dataStart image.bssStart)
    ⟨false, true, false⟩ table
  let table := x86MmuMapRange (range image.rodataStart image.dataStart)
    ⟨true, true, false⟩ table
  let table := x86MmuMapRange (range image.bssStart image.bssEnd)
    ⟨false, true, false⟩ table
  let table := x86MmuMapRange
    { startVaddr := loaded.paddrToKvaddr loaded.entryPhys
      startPaddr := loaded.entryPhys
      size := loaded.vaddrToPaddr startCode - loaded.entryPhys }
    ⟨false, true, true⟩ table
  x86MmuMapRange
    { startVaddr := upper
      startPaddr := loaded.vaddrToPaddr upper
      size := loaded.entryPhys + .ofNat 64 mappedSize - loaded.vaddrToPaddr upper }
    ⟨false, true, true⟩ table

/-! ## What is wanted -/

/-- The page holds a byte of code or of read-only data. -/
def HoldsReadOnly (image : KernelImage) (page : BitVec 52) : Prop :=
  ∃ address, address / 4096 = page.toNat ∧
    (image.base ≤ address ∧ address < image.codeEnd ∨
      image.rodataStart ≤ address ∧ address < image.rodataStart + image.rodata)

/-- No page of the image can be both written and executed, and what is only read cannot be
written. -/
structure Protected (image : KernelImage) (table : PageTable) : Prop where
  notBoth : ∀ page : BitVec 52, image.base ≤ 4096 * page.toNat →
    4096 * page.toNat < image.stop →
    ¬((table page).ro = false ∧ (table page).noExecute = false)
  readOnly : ∀ page, HoldsReadOnly image page → (table page).ro = true

/-! ## The order of the sections -/

namespace Sections

variable (sections : Sections)

theorem base_le_codeEnd : sections.base ≤ sections.codeEnd :=
  Nat.le_add_right _ _

theorem codeEnd_le_relaEnd : sections.codeEnd ≤ sections.relaEnd := by
  rw [relaEnd, Nat.add_assoc]
  exact Nat.le_add_right _ _

theorem relaEnd_le_rodataStart : sections.relaEnd ≤ sections.rodataStart :=
  le_pageAlign _

theorem rodata_le_dataStart :
    sections.rodataStart + sections.rodata ≤ sections.dataStart :=
  le_pageAlign _

theorem data_le_bssStart : sections.dataStart + sections.data ≤ sections.bssStart :=
  le_pageAlign _

theorem bssStart_le_bssEnd : sections.bssStart ≤ sections.bssEnd :=
  Nat.le_add_right _ _

theorem bssEnd_le_stop : sections.bssEnd ≤ sections.stop :=
  le_pageAlign _

theorem rodataStart_aligned : sections.rodataStart % 4096 = 0 :=
  pageAlign_mod _

theorem dataStart_aligned : sections.dataStart % 4096 = 0 :=
  pageAlign_mod _

theorem bssStart_aligned : sections.bssStart % 4096 = 0 :=
  pageAlign_mod _

theorem stop_aligned : sections.stop % 4096 = 0 :=
  pageAlign_mod _

/-- The symbols come in the order of the sections. -/
theorem ordered :
    sections.base ≤ sections.codeEnd ∧ sections.codeEnd ≤ sections.rodataStart ∧
      sections.rodataStart ≤ sections.dataStart ∧
      sections.dataStart ≤ sections.bssStart ∧
      sections.bssStart ≤ sections.bssEnd ∧ sections.bssEnd ≤ sections.stop :=
  ⟨sections.base_le_codeEnd,
    Nat.le_trans sections.codeEnd_le_relaEnd sections.relaEnd_le_rodataStart,
    Nat.le_trans (Nat.le_add_right _ _) sections.rodata_le_dataStart,
    Nat.le_trans (Nat.le_add_right _ _) sections.data_le_bssStart,
    sections.bssStart_le_bssEnd, sections.bssEnd_le_stop⟩

end Sections

/-! ## The ranges -/

section Ranges

variable (image : KernelImage) (loaded : Loaded image)

theorem stop_lt : image.stop < 2 ^ 64 - mappedSize := by
  have room := image.room
  simp only [kernelBase, mappedSize] at room ⊢
  omega

theorem touches_symbols_iff {start stop : Nat} (aligned : start % 4096 = 0)
    (ordered : start ≤ stop) (inside : stop ≤ image.stop) (page : BitVec 52) :
    Touches (symbol start) (symbol stop - symbol start) page ↔
      start ≤ 4096 * page.toNat ∧ 4096 * page.toNat < stop := by
  have limit := stop_lt image
  exact touches_iff aligned ordered (by omega) page

/-- There is nothing below the image to map. -/
theorem lower_size : loaded.vaddrToPaddr (symbol image.base) - loaded.entryPhys = 0 := by
  have order := image.ordered
  have room := image.room
  rw [loaded.translated image.base (Nat.le_refl _) (by omega)]
  simp

/-- The upper range ends 16 MiB behind the start of the image. -/
theorem upper_size :
    loaded.entryPhys + .ofNat 64 mappedSize -
        loaded.vaddrToPaddr (symbol image.stop) =
      symbol (image.base + mappedSize) - symbol image.stop := by
  have order := image.ordered
  rw [loaded.translated image.stop (by omega) image.room, symbol, symbol, symbol,
    BitVec.ofNat_add]
  grind

theorem pageAlignWord_stop : pageAlignWord (symbol image.stop) = symbol image.stop := by
  have limit := stop_lt image
  have room : image.stop + 4095 < 2 ^ 64 := by
    simp only [mappedSize] at limit
    omega
  rw [symbol, pageAlignWord_ofNat room, pageAlign_of_aligned image.stop_aligned]

theorem not_touches_upper {page : BitVec 52} (below : 4096 * page.toNat < image.stop) :
    ¬Touches (symbol image.stop)
      (symbol (image.base + mappedSize) - symbol image.stop) page := by
  have limit := stop_lt image
  have order := image.ordered
  have above := image.above
  have room := image.room
  intro touched
  have bounds :=
    (touches_iff image.stop_aligned (by omega) (by omega) page).mp touched
  exact Nat.not_lt.mpr bounds.1 below

/-- The last range that touches a page of the image decides. -/
theorem platformUpdatePagetable_apply {page : BitVec 52}
    (above : image.base ≤ 4096 * page.toNat)
    (below : 4096 * page.toNat < image.stop) :
    platformUpdatePagetable image loaded bootTable page =
      if image.bssStart ≤ 4096 * page.toNat then ⟨false, true, false⟩
      else if image.dataStart ≤ 4096 * page.toNat then ⟨false, true, false⟩
      else if image.rodataStart ≤ 4096 * page.toNat then ⟨true, true, false⟩
      else if 4096 * page.toNat < image.codeEnd then ⟨true, false, false⟩
      else ⟨false, false, false⟩ := by
  obtain ⟨code, gap, rodata, data, bss, last⟩ := image.ordered
  have covered : 4096 * page.toNat < image.bssEnd :=
    (lt_pageAlign_iff (Nat.mul_mod_right _ _)).mp below
  have inCode := touches_symbols_iff image image.aligned code (by omega) page
  have inData :=
    touches_symbols_iff image image.dataStart_aligned data (by omega) page
  have inRodata :=
    touches_symbols_iff image image.rodataStart_aligned rodata (by omega) page
  have inBss := touches_symbols_iff image image.bssStart_aligned bss last page
  simp only [platformUpdatePagetable, x86MmuMapRange, pageAlignWord_stop, lower_size,
    upper_size, not_touches_upper image below, not_touches_zero, if_false, inCode,
    inData, inRodata, inBss, covered, above, bootTable, and_true, true_and]
  by_cases inBss : image.bssStart ≤ 4096 * page.toNat
  · simp [inBss]
  · by_cases inData : image.dataStart ≤ 4096 * page.toNat
    · have notRodata : ¬4096 * page.toNat < image.dataStart := Nat.not_lt.mpr inData
      simp [inBss, inData, notRodata, Nat.not_le.mp inBss]
    · by_cases inRodata : image.rodataStart ≤ 4096 * page.toNat
      · simp [inBss, inData, inRodata, Nat.not_le.mp inData]
      · simp [inBss, inData, inRodata]

end Ranges

/-! ## The result -/

section Result

variable (image : KernelImage) (loaded : Loaded image)

/-- Code and read-only data are never writable. -/
theorem readOnly_of_holds {page : BitVec 52} (holds : HoldsReadOnly image page) :
    (platformUpdatePagetable image loaded bootTable page).ro = true := by
  obtain ⟨code, gap, rodata, data, bss, last⟩ := image.ordered
  have rodataEnd := image.rodata_le_dataStart
  obtain ⟨address, held, inCode | inRodata⟩ := holds
  · have baseAligned := image.aligned
    have below : 4096 * page.toNat < image.codeEnd := by omega
    rw [platformUpdatePagetable_apply image loaded (by omega) (by omega),
      if_neg (by omega), if_neg (by omega), if_neg (by omega), if_pos below]
  · have rodataAligned := image.rodataStart_aligned
    have above : image.rodataStart ≤ 4096 * page.toNat := by omega
    rw [platformUpdatePagetable_apply image loaded (by omega) (by omega),
      if_neg (by omega), if_neg (by omega), if_pos above]

/-- If there is nothing between the pages of code and of read-only data, no page is
writable and executable. -/
theorem not_both_of_gapless (gapless : image.rodataStart ≤ pageAlign image.codeEnd)
    {page : BitVec 52} (above : image.base ≤ 4096 * page.toNat)
    (below : 4096 * page.toNat < image.stop) :
    ¬((platformUpdatePagetable image loaded bootTable page).ro = false ∧
      (platformUpdatePagetable image loaded bootTable page).noExecute = false) := by
  rw [platformUpdatePagetable_apply image loaded above below]
  by_cases inRodata : image.rodataStart ≤ 4096 * page.toNat
  · split_ifs <;> simp
  · have inCode : 4096 * page.toNat < image.codeEnd :=
      (lt_pageAlign_iff (Nat.mul_mod_right _ _)).mp
        (Nat.lt_of_lt_of_le (Nat.lt_of_not_le inRodata) gapless)
    split_ifs <;> simp

/-- The page right behind the code stays as `start.S` has mapped it. -/
theorem behind_code {page : BitVec 52}
    (start : 4096 * page.toNat = pageAlign image.codeEnd)
    (gap : pageAlign image.codeEnd < image.relaEnd) :
    platformUpdatePagetable image loaded bootTable page = ⟨false, false, false⟩ := by
  obtain ⟨code, -, rodata, data, bss, last⟩ := image.ordered
  have codeLe := le_pageAlign image.codeEnd
  have inside := image.relaEnd_le_rodataStart
  rw [platformUpdatePagetable_apply image loaded (by omega) (by omega), start,
    if_neg (by omega), if_neg (by omega), if_neg (by omega), if_neg (by omega)]

/-- No page is writable and executable, and no read-only page writable, exactly if
the sections between code and read-only data stay in the last page of the code. -/
theorem protected_iff :
    Protected image (platformUpdatePagetable image loaded bootTable) ↔
      image.relaEnd ≤ pageAlign image.codeEnd := by
  constructor
  · intro holds
    by_contra beyond
    have gap := Nat.lt_of_not_le beyond
    obtain ⟨code, -, rodata, data, bss, last⟩ := image.ordered
    have limit := stop_lt image
    have inside := image.relaEnd_le_rodataStart
    have codeLe := le_pageAlign image.codeEnd
    have codeAligned := pageAlign_mod image.codeEnd
    let page : BitVec 52 := .ofNat 52 (pageAlign image.codeEnd / 4096)
    have start : 4096 * page.toNat = pageAlign image.codeEnd := by
      simp only [page, BitVec.toNat_ofNat]
      omega
    apply holds.notBoth page (by omega) (by omega)
    rw [behind_code image loaded start gap]
    exact ⟨rfl, rfl⟩
  · intro covered
    have gapless : image.rodataStart ≤ pageAlign image.codeEnd :=
      (pageAlign_le_iff (pageAlign_mod _)).mpr covered
    constructor
    · intro page above below
      exact not_both_of_gapless image loaded gapless above below
    · intro page holds
      exact readOnly_of_holds image loaded holds

end Result

/-- One page of each section, and a page of relocations. -/
def relocated : KernelImage where
  base := 0xFFFFFFFF80001000
  text := 0x1000
  relaDyn := 0x18
  relaPlt := 0
  rodata := 0x1000
  data := 0x1000
  bss := 0x1000
  aligned := by decide
  above := by decide
  room := by decide

theorem twoMiB_aligned : (0x200000 : BitVec 64).toNat % 4096 = 0 := by decide

/-- The image at 2 MiB. -/
def relocated.loaded : Loaded relocated where
  entryPhys := 0x200000
  aligned := twoMiB_aligned
  vaddrToPaddr address := 0x200000 + (address - symbol relocated.base)
  paddrToKvaddr address := symbol relocated.base + (address - 0x200000)
  translated := fun _ _ _ => rfl

/-- The page of relocations is writable and executable. -/
theorem relocations_unprotected :
    ¬Protected relocated
      (platformUpdatePagetable relocated relocated.loaded bootTable) := by
  intro holds
  let page : BitVec 52 := 0xFFFFFFFF80002
  have start : 4096 * page.toNat = pageAlign relocated.codeEnd := by decide
  apply holds.notBoth page (by decide) (by decide)
  rw [behind_code relocated relocated.loaded start (by decide)]
  exact ⟨rfl, rfl⟩

end SandPlatform.Boot
