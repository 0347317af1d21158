import SandPlatform.Foundation.Memory
import SandPlatform.Foundation.Word

/-!
# Words in byte memory

A store writes the bytes of a word, lowest first, and a load puts them together
again.  A load is affected only by the stores it overlaps.
-/

namespace SandPlatform.Foundation

namespace Memory

variable {n : Nat} (memory : Memory (BitVec 8))

/-- The bytes of a word, lowest first. -/
def ofWord (value : BitVec n) : Memory (BitVec 8) :=
  fun i => Word.byte value i

/-- Write the lowest bytes of a word. -/
def store (offset bytes : Nat) (value : BitVec n) : Memory (BitVec 8) :=
  memory.copy offset (ofWord value) 0 bytes

/-- The number that the bytes stand for, lowest first. -/
def load (offset : Nat) : Nat → Nat
  | 0 => 0
  | bytes + 1 => (memory offset).toNat + 256 * load (offset + 1) bytes

variable {memory}

theorem store_apply_of_mem {offset bytes i : Nat} (value : BitVec n)
    (inside : i < bytes) :
    memory.store offset bytes value (offset + i) = Word.byte value i := by
  rw [store, copy_apply_of_mem (Nat.le_add_right _ _) (by omega), Nat.zero_add,
    Nat.add_sub_cancel_left, ofWord]

theorem store_apply_of_not_mem {offset bytes i : Nat} (value : BitVec n)
    (outside : i < offset ∨ offset + bytes ≤ i) :
    memory.store offset bytes value i = memory i := by
  rcases outside with before | after
  · exact copy_apply_of_lt before
  · exact copy_apply_of_ge after

/-- Storing zero clears bytes. -/
theorem store_zero (offset bytes : Nat) :
    memory.store offset bytes (0 : BitVec n) = memory.fill offset bytes 0 := by
  funext i
  by_cases inside : offset ≤ i ∧ i < offset + bytes
  · rw [store, copy_apply_of_mem inside.1 inside.2, fill_apply_of_mem inside.1 inside.2,
      ofWord, Word.byte, Word.field_zero]
  · rw [store, copy, if_neg inside, fill_apply_of_not_mem inside]

theorem load_of_zero {offset bytes : Nat}
    (zero : ∀ i, i < bytes → memory (offset + i) = 0) : memory.load offset bytes = 0 := by
  induction bytes generalizing offset with
  | zero => rfl
  | succ bytes ih =>
      have first := zero 0 (Nat.succ_pos bytes)
      have rest : memory.load (offset + 1) bytes = 0 := by
        refine ih fun i inside => ?_
        simpa [Nat.add_assoc, Nat.add_comm 1 i] using zero (i + 1) (by omega)
      rw [Nat.add_zero] at first
      simp [load, first, rest]

theorem load_congr {other : Memory (BitVec 8)} {offset bytes : Nat}
    (agree : ∀ i, i < bytes → memory (offset + i) = other (offset + i)) :
    memory.load offset bytes = other.load offset bytes := by
  induction bytes generalizing offset with
  | zero => rfl
  | succ bytes ih =>
      have first := agree 0 (Nat.succ_pos bytes)
      have rest : memory.load (offset + 1) bytes = other.load (offset + 1) bytes := by
        refine ih fun i inside => ?_
        simpa [Nat.add_assoc, Nat.add_comm 1 i] using agree (i + 1) (by omega)
      rw [load, load, rest]
      rw [Nat.add_zero] at first
      rw [first]

/-- The bytes of a word from the `low`-th on. -/
theorem load_of_bytes {offset bytes low : Nat} {value : BitVec n}
    (there : ∀ i, i < bytes → memory (offset + i) = Word.byte value (low + i)) :
    memory.load offset bytes = value.toNat / 2 ^ (8 * low) % 2 ^ (8 * bytes) := by
  induction bytes generalizing offset low with
  | zero => simp [load, Nat.mod_one]
  | succ bytes ih =>
      have first := there 0 (Nat.succ_pos bytes)
      have rest : memory.load (offset + 1) bytes =
          value.toNat / 2 ^ (8 * (low + 1)) % 2 ^ (8 * bytes) := by
        refine ih fun i inside => ?_
        simpa [Nat.add_assoc, Nat.add_comm 1 i] using there (i + 1) (by omega)
      rw [Nat.add_zero, Nat.add_zero] at first
      have lowest : (Word.byte value low).toNat = value.toNat / 2 ^ (8 * low) % 256 :=
        Word.toNat_field value (8 * low) 8
      have more : 2 ^ (8 * (bytes + 1)) = 256 * 2 ^ (8 * bytes) := by
        rw [Nat.mul_add, Nat.pow_add, Nat.mul_comm]
      have shifted : value.toNat / 2 ^ (8 * (low + 1)) =
          value.toNat / 2 ^ (8 * low) / 256 := by
        rw [Nat.mul_add, Nat.pow_add, Nat.div_div_eq_div_mul]
      rw [load, first, lowest, rest, more, shifted, Nat.mod_mul]

/-- A word that fits is read back. -/
theorem load_store_same {offset bytes : Nat} {value : BitVec n}
    (fits : value.toNat < 2 ^ (8 * bytes)) :
    (memory.store offset bytes value).load offset bytes = value.toNat := by
  have there (i : Nat) (inside : i < bytes) :
      memory.store offset bytes value (offset + i) = Word.byte value (0 + i) := by
    rw [Nat.zero_add]
    exact store_apply_of_mem value inside
  rw [load_of_bytes there, Nat.mul_zero, Nat.pow_zero, Nat.div_one,
    Nat.mod_eq_of_lt fits]

/-- A store elsewhere does not matter. -/
theorem load_store_of_disjoint {offset bytes offset' bytes' : Nat} (value : BitVec n)
    (disjoint : offset' + bytes' ≤ offset ∨ offset + bytes ≤ offset') :
    (memory.store offset bytes value).load offset' bytes' =
      memory.load offset' bytes' := by
  refine load_congr fun i inside => store_apply_of_not_mem value ?_
  omega

end Memory

end SandPlatform.Foundation
