import SandPlatform.Foundation.Word

/-!
# Translation by four levels of tables

An entry is a page number above twelve bits of flags.  It points at a table of the
next level, or it maps a page: of 1 GiB on the second level, of 2 MiB on the third
and of 4 KiB on the last.  For each kind of entry on each level there is one rule.
-/

namespace SandPlatform.Foundation

namespace Paging

/-- The flags of an entry: bit 0 says that it is there, and bit 7 that it maps a
page instead of pointing at a table. -/
structure Present (flags : BitVec 12) : Prop where
  bit : Word.field flags 0 1 = 1

/-- The flags of an entry that leads to a table. -/
structure IsTable (flags : BitVec 12) : Prop extends Present flags where
  small : Word.field flags 7 1 = 0

/-- The flags of an entry that maps a large page. -/
structure IsPage (flags : BitVec 12) : Prop extends Present flags where
  large : Word.field flags 7 1 = 1

/-- A page number above flags. -/
def make (page : BitVec 52) (flags : BitVec 12) : BitVec 64 :=
  page ++ flags

section Translation

variable (memory : BitVec 64 → BitVec 64)

/-- An entry of the table in a page frame. -/
def entry (table : BitVec 40) (index : BitVec 9) : BitVec 64 :=
  memory ((table ++ index ++ (0 : BitVec 3)).setWidth 64)

/-- The page frame an entry holds. -/
def frame (pointer : BitVec 64) : BitVec 40 :=
  Word.field pointer 12 40

/-- The table an entry points at. -/
def next (pointer : BitVec 64) : Option (BitVec 40) :=
  if Word.field pointer 0 1 = 1 ∧ Word.field pointer 7 1 = 0 then
    some (frame pointer)
  else
    none

/-- The last level of the walk, to a page of 4 KiB. -/
def pageTable (table : BitVec 40) (va : BitVec 64) : Option (BitVec 52) :=
  let pte := entry memory table (Word.field va 12 9)
  if Word.field pte 0 1 = 1 then
    some (frame pte ++ (Word.field va 0 12 : BitVec 12))
  else
    none

/-- The third level, which may map a page of 2 MiB. -/
def pageDirectory (table : BitVec 40) (va : BitVec 64) : Option (BitVec 52) :=
  let pde := entry memory table (Word.field va 21 9)
  if Word.field pde 0 1 = 1 ∧ Word.field pde 7 1 = 1 then
    -- bits between the page attributes and the page number are reserved
    if Word.field pde 13 8 = 0 then
      some ((Word.field pde 21 31 : BitVec 31) ++ (Word.field va 0 21 : BitVec 21))
    else
      none
  else
    (next pde).bind fun table => pageTable memory table va

/-- The second level, which may map a page of 1 GiB. -/
def directoryPointers (table : BitVec 40) (va : BitVec 64) : Option (BitVec 52) :=
  let pdpte := entry memory table (Word.field va 30 9)
  if Word.field pdpte 0 1 = 1 ∧ Word.field pdpte 7 1 = 1 then
    if Word.field pdpte 13 17 = 0 then
      some ((Word.field pdpte 30 22 : BitVec 22) ++ (Word.field va 0 30 : BitVec 30))
    else
      none
  else
    (next pdpte).bind fun table => pageDirectory memory table va

/-- The upper bits of an address repeat bit 47. -/
def Canonical (va : BitVec 64) : Prop :=
  Word.field va 47 17 = 0 ∨ Word.field va 47 17 = BitVec.allOnes 17

instance (va : BitVec 64) : Decidable (Canonical va) :=
  inferInstanceAs (Decidable (_ ∨ _))

/-- The physical address of a virtual address. -/
def translate (cr3 va : BitVec 64) : Option (BitVec 52) :=
  if Canonical va then
    (next (entry memory (frame cr3) (Word.field va 39 9))).bind fun table =>
      directoryPointers memory table va
  else
    none

end Translation

/-! ## Entries -/

theorem toNat_append {m n : Nat} (high : BitVec m) (low : BitVec n) :
    (high ++ low).toNat = high.toNat * 2 ^ n + low.toNat := by
  rw [BitVec.toNat_append, ← Nat.shiftLeft_add_eq_or_of_lt low.isLt, Nat.shiftLeft_eq]

/-- Where an entry is. -/
theorem toNat_entry_address (table : BitVec 40) (index : BitVec 9) :
    ((table ++ index ++ (0 : BitVec 3)).setWidth 64).toNat =
      4096 * table.toNat + 8 * index.toNat := by
  have tableBound := table.isLt
  have indexBound := index.isLt
  have zero : (0 : BitVec 3).toNat = 0 := rfl
  rw [BitVec.toNat_setWidth, toNat_append, toNat_append, zero]
  omega

theorem toNat_make (page : BitVec 52) (flags : BitVec 12) :
    (make page flags).toNat = page.toNat * 4096 + flags.toNat :=
  toNat_append page flags

theorem toNat_make_zero (page : BitVec 52) : (make page 0).toNat = page.toNat * 4096 := by
  have zero : (0 : BitVec 12).toNat = 0 := rfl
  rw [toNat_make, zero, Nat.add_zero]

theorem getLsbD_make (page : BitVec 52) (flags : BitVec 12) (i : Nat) :
    (make page flags).getLsbD i =
      if i < 12 then flags.getLsbD i else page.getLsbD (i - 12) := by
  rw [make, BitVec.getLsbD_append]

/-- Setting flags. -/
theorem make_or (page : BitVec 52) (first second : BitVec 12) :
    make page first ||| second.setWidth 64 = make page (first ||| second) := by
  apply BitVec.eq_of_getLsbD_eq
  intro i inside
  rw [BitVec.getLsbD_or, getLsbD_make, getLsbD_make, BitVec.getLsbD_setWidth]
  by_cases low : i < 12
  · simp [low, inside]
  · have beyond : second.getLsbD i = false := BitVec.getLsbD_of_ge _ _ (by omega)
    simp [low, beyond]

theorem make_zero_or (page : BitVec 52) (flags : BitVec 12) :
    make page 0 ||| flags.setWidth 64 = make page flags := by
  rw [make_or]
  simp

/-- The next page. -/
theorem make_add (page : BitVec 52) (flags : BitVec 12) :
    make page flags + 4096 = make (page + 1) flags := by
  have one : (1 : BitVec 52).toNat = 1 := rfl
  have size : (4096 : BitVec 64).toNat = 4096 := rfl
  have bound := flags.isLt
  apply BitVec.eq_of_toNat_eq
  rw [BitVec.toNat_add, toNat_make, toNat_make, BitVec.toNat_add, one, size]
  omega

section Fields

variable (page : BitVec 52) (flags : BitVec 12)

theorem field_make_flags {low : Nat} (inside : low < 12) :
    Word.field (make page flags) low 1 = Word.field flags low 1 := by
  apply BitVec.eq_of_getLsbD_eq
  intro i below
  have first : i = 0 := Nat.lt_one_iff.mp below
  rw [Word.getLsbD_field, Word.getLsbD_field, getLsbD_make]
  simp [first, inside]

theorem field_make_page {low width : Nat} (above : 12 ≤ low) :
    Word.field (make page flags) low width = Word.field page (low - 12) width := by
  apply BitVec.eq_of_getLsbD_eq
  intro i below
  have high : ¬low + i < 12 := by omega
  have offset : low + i - 12 = low - 12 + i := by omega
  rw [Word.getLsbD_field, Word.getLsbD_field, getLsbD_make]
  simp [high, offset]

theorem frame_make : frame (make page flags) = Word.field page 0 40 :=
  field_make_page page flags (Nat.le_refl 12)

theorem next_make (table : IsTable flags) :
    next (make page flags) = some (Word.field page 0 40) := by
  rw [next, field_make_flags page flags (by decide),
    field_make_flags page flags (by decide), if_pos ⟨table.bit, table.small⟩, frame_make]

end Fields

/-! ## One level -/

section Rules

variable {memory : BitVec 64 → BitVec 64} {table : BitVec 40} {va : BitVec 64}
  {page : BitVec 52} {flags : BitVec 12}

theorem translate_of_table {cr3 : BitVec 64} (canonical : Canonical va)
    (found : entry memory (frame cr3) (Word.field va 39 9) = make page flags)
    (isTable : IsTable flags) :
    translate memory cr3 va = directoryPointers memory (Word.field page 0 40) va := by
  rw [translate, if_pos canonical, found, next_make page flags isTable, Option.bind_some]

theorem directoryPointers_of_table
    (found : entry memory table (Word.field va 30 9) = make page flags)
    (isTable : IsTable flags) :
    directoryPointers memory table va =
      pageDirectory memory (Word.field page 0 40) va := by
  simp [directoryPointers, found, field_make_flags, isTable.small,
    next_make page flags isTable]

theorem directoryPointers_of_page
    (found : entry memory table (Word.field va 30 9) = make page flags)
    (isPage : IsPage flags) (aligned : Word.field page 1 17 = 0) :
    directoryPointers memory table va =
      some ((Word.field page 18 22 : BitVec 22) ++ (Word.field va 0 30 : BitVec 30)) := by
  simp [directoryPointers, found, field_make_flags, field_make_page, isPage.bit,
    isPage.large, aligned]

theorem pageDirectory_of_table
    (found : entry memory table (Word.field va 21 9) = make page flags)
    (isTable : IsTable flags) :
    pageDirectory memory table va = pageTable memory (Word.field page 0 40) va := by
  simp [pageDirectory, found, field_make_flags, isTable.small,
    next_make page flags isTable]

theorem pageDirectory_of_page
    (found : entry memory table (Word.field va 21 9) = make page flags)
    (isPage : IsPage flags) (aligned : Word.field page 1 8 = 0) :
    pageDirectory memory table va =
      some ((Word.field page 9 31 : BitVec 31) ++ (Word.field va 0 21 : BitVec 21)) := by
  simp [pageDirectory, found, field_make_flags, field_make_page, isPage.bit,
    isPage.large, aligned]

theorem pageDirectory_of_zero
    (found : entry memory table (Word.field va 21 9) = 0) :
    pageDirectory memory table va = none := by
  have absent : Word.field (0 : BitVec 64) 0 1 ≠ 1 := by decide
  simp only [pageDirectory, found, next, absent, false_and, if_false, Option.bind_none]

theorem pageTable_of_page
    (found : entry memory table (Word.field va 12 9) = make page flags)
    (present : Present flags) :
    pageTable memory table va =
      some ((Word.field page 0 40 : BitVec 40) ++ (Word.field va 0 12 : BitVec 12)) := by
  simp [pageTable, found, field_make_flags, present.bit, frame_make]

end Rules

end Paging

end SandPlatform.Foundation
