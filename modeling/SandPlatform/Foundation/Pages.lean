import Mathlib.Algebra.Group.Nat.Defs
import Mathlib.Tactic.Common

/-!
# Pages of 4 KiB

Addresses are rounded up to pages, and a range of bytes touches the pages that
hold one of its bytes.  A range that starts on a page and does not wrap around
touches the pages that start inside it.
-/

namespace SandPlatform.Foundation

/-- Round up to a page. -/
def pageAlign (address : Nat) : Nat :=
  (address + 4095) / 4096 * 4096

theorem le_pageAlign (address : Nat) : address ≤ pageAlign address := by
  grind [pageAlign]

@[simp]
theorem pageAlign_mod (address : Nat) : pageAlign address % 4096 = 0 :=
  Nat.mul_mod_left _ _

theorem pageAlign_of_aligned {address : Nat} (aligned : address % 4096 = 0) :
    pageAlign address = address := by
  grind [pageAlign]

/-- Rounding up is the least page boundary that is not below. -/
theorem pageAlign_le_iff {address boundary : Nat} (aligned : boundary % 4096 = 0) :
    pageAlign address ≤ boundary ↔ address ≤ boundary := by
  grind [pageAlign]

/-- Whole pages in front of an address are not rounded. -/
theorem pageAlign_add {pages : Nat} (aligned : pages % 4096 = 0) (address : Nat) :
    pageAlign (pages + address) = pages + pageAlign address := by
  grind [pageAlign]

/-- Rounding up two parts of whole pages counts the page they share twice. -/
theorem pageAlign_add_pageAlign_sub {total part : Nat} (aligned : total % 4096 = 0)
    (inside : part ≤ total) :
    pageAlign part + pageAlign (total - part) =
      if part % 4096 = 0 then total else total + 4096 := by
  split
  · have rest : (total - part) % 4096 = 0 := by omega
    rw [pageAlign_of_aligned ‹_›, pageAlign_of_aligned rest]
    exact Nat.add_sub_cancel' inside
  · simp only [pageAlign]
    omega

/-- A page that starts before the rounded address starts before the address. -/
theorem lt_pageAlign_iff {address boundary : Nat} (aligned : boundary % 4096 = 0) :
    boundary < pageAlign address ↔ boundary < address := by
  rw [← Nat.not_le, pageAlign_le_iff aligned, Nat.not_le]

/-- Round up to a page, as a word. -/
def pageAlignWord (address : BitVec 64) : BitVec 64 :=
  (address + 4095) &&& ~~~4095

theorem pageAlignWord_ofNat {address : Nat} (room : address + 4095 < 2 ^ 64) :
    pageAlignWord (.ofNat 64 address) = .ofNat 64 (pageAlign address) := by
  have mask : ~~~(4095 : BitVec 64) = BitVec.allOnes 64 <<< 12 := by decide
  have low : (4095 : BitVec 64).toNat = 4095 := rfl
  apply BitVec.eq_of_toNat_eq
  rw [pageAlignWord, mask, ← BitVec.shiftLeft_ushiftRight, pageAlign]
  simp only [BitVec.toNat_shiftLeft, BitVec.toNat_ushiftRight, BitVec.toNat_add,
    BitVec.toNat_ofNat, Nat.shiftRight_eq_div_pow, Nat.shiftLeft_eq, low]
  omega

/-- The page that holds a byte. -/
def pageOf (address : BitVec 64) : BitVec 52 :=
  address.extractLsb' 12 52

/-- Some byte of the range is in the page. -/
def Touches (start size : BitVec 64) (page : BitVec 52) : Prop :=
  ∃ i, i < size.toNat ∧ pageOf (start + BitVec.ofNat 64 i) = page

instance (start size : BitVec 64) (page : BitVec 52) :
    Decidable (Touches start size page) :=
  inferInstanceAs (Decidable (∃ i, i < size.toNat ∧ _))

theorem pageOf_eq_iff (address : BitVec 64) (page : BitVec 52) :
    pageOf address = page ↔ address.toNat / 4096 = page.toNat := by
  have bound := address.isLt
  have small : address.toNat / 4096 < 4503599627370496 := by omega
  rw [← BitVec.toNat_inj, pageOf, BitVec.extractLsb'_toNat, Nat.shiftRight_eq_div_pow]
  change address.toNat / 4096 % 4503599627370496 = page.toNat ↔ _
  rw [Nat.mod_eq_of_lt small]

/-- The pages a range of pages touches. -/
theorem touches_iff {start stop : Nat} (aligned : start % 4096 = 0)
    (ordered : start ≤ stop) (bound : stop < 2 ^ 64) (page : BitVec 52) :
    Touches (.ofNat 64 start) (.ofNat 64 stop - .ofNat 64 start) page ↔
      start ≤ 4096 * page.toNat ∧ 4096 * page.toNat < stop := by
  have size : (BitVec.ofNat 64 stop - BitVec.ofNat 64 start).toNat = stop - start := by
    simp only [BitVec.toNat_sub, BitVec.toNat_ofNat]
    omega
  have byte (i : Nat) (inside : i < stop - start) :
      (BitVec.ofNat 64 start + BitVec.ofNat 64 i).toNat = start + i := by
    simp only [BitVec.toNat_add, BitVec.toNat_ofNat]
    omega
  rw [Touches, size]
  constructor
  · rintro ⟨i, inside, held⟩
    rw [pageOf_eq_iff, byte i inside] at held
    omega
  · rintro ⟨above, below⟩
    have inside : 4096 * page.toNat - start < stop - start := by omega
    refine ⟨4096 * page.toNat - start, inside, ?_⟩
    rw [pageOf_eq_iff, byte _ inside]
    omega

theorem not_touches_zero (start : BitVec 64) (page : BitVec 52) :
    ¬Touches start 0 page := by
  rintro ⟨i, inside, -⟩
  exact Nat.not_lt_zero i inside

end SandPlatform.Foundation
