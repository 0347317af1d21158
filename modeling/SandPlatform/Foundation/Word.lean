import Mathlib.Algebra.Group.Nat.Defs
import Mathlib.Tactic.Common

/-!
# Machine words, their bit fields and their bytes

A bit field of a word is read and replaced by its lowest bit and its width, the
way a C union of a word and a structure of bit fields does on a little-endian
target.  Replacing a field satisfies the usual laws: the field reads back, and
every disjoint field is untouched.
-/

namespace SandPlatform.Foundation

namespace Word

variable {n : Nat}

/-- The `width` bits of `word` from bit `low` upwards. -/
def field (word : BitVec n) (low width : Nat) : BitVec width :=
  word.extractLsb' low width

/-- Replace the bits of `word` from bit `low` upwards by `value`. -/
def setField {width : Nat} (word : BitVec n) (low : Nat) (value : BitVec width) :
    BitVec n :=
  (word &&& ~~~((BitVec.allOnes width).setWidth n <<< low)) |||
    (value.setWidth n <<< low)

theorem getLsbD_field (word : BitVec n) (low width i : Nat) :
    (field word low width).getLsbD i =
      (decide (i < width) && word.getLsbD (low + i)) := by
  simp [field]

theorem getLsbD_setField {width : Nat} (word : BitVec n) (low : Nat)
    (value : BitVec width) {i : Nat} (inside : i < n) :
    (setField word low value).getLsbD i =
      if low ≤ i ∧ i < low + width then value.getLsbD (i - low)
      else word.getLsbD i := by
  by_cases below : i < low
  · have notMem : ¬ (low ≤ i ∧ i < low + width) := by omega
    simp [setField, notMem, below, inside]
  · by_cases above : i < low + width
    · have mem : low ≤ i ∧ i < low + width := by omega
      have offset : i - low < width := by omega
      simp [setField, mem, below, inside, offset]
    · have notMem : ¬ (low ≤ i ∧ i < low + width) := by omega
      have offset : ¬ (i - low < width) := by omega
      have beyond : value.getLsbD (i - low) = false :=
        BitVec.getLsbD_of_ge _ _ (by omega)
      simp [setField, notMem, below, inside, offset, beyond]

/-- A part of a field that has just been replaced. -/
theorem field_setField_of_inside {width : Nat} (word : BitVec n)
    {low low' width' : Nat} (value : BitVec width) (fits : low + width ≤ n)
    (lower : low ≤ low') (upper : low' + width' ≤ low + width) :
    field (setField word low value) low' width' = field value (low' - low) width' := by
  apply BitVec.eq_of_getLsbD_eq
  intro i inside
  have mem : low ≤ low' + i ∧ low' + i < low + width := by omega
  have offset : low' + i - low = low' - low + i := by omega
  rw [getLsbD_field, getLsbD_field, getLsbD_setField word low value (by omega),
    if_pos mem, offset]

@[simp]
theorem field_setField_same {width : Nat} (word : BitVec n) {low : Nat}
    (value : BitVec width) (fits : low + width ≤ n) :
    field (setField word low value) low width = value := by
  apply BitVec.eq_of_getLsbD_eq
  intro i inside
  rw [getLsbD_field, getLsbD_setField word low value (by omega)]
  simp [inside]

theorem field_setField_of_disjoint {width : Nat} (word : BitVec n)
    {low low' width' : Nat} (value : BitVec width) (fits : low' + width' ≤ n)
    (disjoint : low' + width' ≤ low ∨ low + width ≤ low') :
    field (setField word low value) low' width' = field word low' width' := by
  apply BitVec.eq_of_getLsbD_eq
  intro i inside
  have notMem : ¬ (low ≤ low' + i ∧ low' + i < low + width) := by omega
  rw [getLsbD_field, getLsbD_field, getLsbD_setField word low value (by omega),
    if_neg notMem]

@[simp]
theorem field_zero (low width : Nat) : field (0 : BitVec n) low width = 0 := by
  apply BitVec.eq_of_getLsbD_eq
  intro i inside
  simp [field]

theorem field_and (word mask : BitVec n) (low width : Nat) :
    field (word &&& mask) low width = field word low width &&& field mask low width := by
  apply BitVec.eq_of_getLsbD_eq
  intro i inside
  simp [field, inside]

theorem field_or (first second : BitVec n) (low width : Nat) :
    field (first ||| second) low width = field first low width ||| field second low width := by
  apply BitVec.eq_of_getLsbD_eq
  intro i inside
  simp [field, inside]

/-- A field is shifted down and cut off. -/
theorem field_eq_ushiftRight (word : BitVec n) (low width : Nat) :
    field word low width = (word >>> low).setWidth width := by
  apply BitVec.eq_of_getLsbD_eq
  intro i inside
  simp [field, inside]

/-- What a mask leaves of a word, for a mask made of adjacent bits. -/
theorem and_fieldMask (word : BitVec n) (low width : Nat) :
    word &&& (BitVec.allOnes width).setWidth n <<< low =
      (field word low width).setWidth n <<< low := by
  apply BitVec.eq_of_getLsbD_eq
  intro i inside
  by_cases below : i < low
  · simp [below]
  · by_cases above : i - low < width
    · have position : low + (i - low) = i := by omega
      simp [field, below, inside, above, position]
    · simp [field, below, inside, above]

/-- A mask leaves something of a word exactly if they have a bit in common. -/
theorem and_ne_zero_iff (word mask : BitVec n) :
    word &&& mask ≠ 0 ↔
      ∃ i < n, word.getLsbD i = true ∧ mask.getLsbD i = true := by
  constructor
  · intro something
    by_contra nothing
    apply something
    apply BitVec.eq_of_getLsbD_eq
    intro i inside
    by_contra differs
    have both : word.getLsbD i = true ∧ mask.getLsbD i = true := by
      simpa using differs
    exact nothing ⟨i, inside, both⟩
  · rintro ⟨i, _, bit, selected⟩ nothing
    have cleared := congrArg (fun bits => bits.getLsbD i) nothing
    simp [bit, selected] at cleared

/-- A value that is shifted to its place is the field there. -/
theorem field_shiftLeft_same {width low : Nat} (value : BitVec width)
    (fits : low + width ≤ n) : field (value.setWidth n <<< low) low width = value := by
  apply BitVec.eq_of_getLsbD_eq
  intro i inside
  have within : low + i < n := by omega
  rw [getLsbD_field]
  simp [inside, within]

theorem field_shiftLeft_of_disjoint {width low low' width' : Nat}
    (value : BitVec width) (disjoint : low' + width' ≤ low ∨ low + width ≤ low') :
    field (value.setWidth n <<< low) low' width' = 0 := by
  apply BitVec.eq_of_getLsbD_eq
  intro i inside
  rw [getLsbD_field]
  rcases disjoint with above | below
  · have before : low' + i < low := by omega
    simp [before]
  · have beyond : value.getLsbD (low' + i - low) = false :=
      BitVec.getLsbD_of_ge _ _ (by omega)
    simp [beyond]

/-- The value of a field. -/
theorem toNat_field (word : BitVec n) (low width : Nat) :
    (field word low width).toNat = word.toNat / 2 ^ low % 2 ^ width := by
  rw [field, BitVec.extractLsb'_toNat, Nat.shiftRight_eq_div_pow]

/-! ## Bytes of a 32-bit word -/

/-- The `i`-th byte of a word, lowest first. -/
def byte (word : BitVec n) (i : Nat) : BitVec 8 :=
  field word (8 * i) 8

theorem byte_setWidth {m : Nat} (word : BitVec n) {i : Nat} (fits : 8 * i + 8 ≤ n)
    (wider : n ≤ m) : byte (word.setWidth m) i = byte word i := by
  apply BitVec.eq_of_getLsbD_eq
  intro j inside
  have low : 8 * i + j < m := by omega
  simp [byte, field, inside, low]

/-- The word with the given bytes, lowest first. -/
def ofBytes (first second third fourth : BitVec 8) : BitVec 32 :=
  setField (setField (setField (setField 0 0 first) 8 second) 16 third) 24 fourth

end Word

end SandPlatform.Foundation
