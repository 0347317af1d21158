import Mathlib.Algebra.Group.Nat.Defs
import Mathlib.Tactic.Common

/-!
# Memory behind a pointer

The memory a pointer gives access to is a total function from offsets to cells.
Nothing is cut off at the end of an object: an access past it is an access to a
larger offset, so whether a program stays inside an object is a statement about
offsets and never hidden in the memory model.

The cell type is a parameter.  Plain bytes and bytes carrying a record of where
they came from use the same operations.
-/

namespace SandPlatform.Foundation

universe u v

/-- Cells at every offset from a base address. -/
def Memory (κ : Type u) : Type u :=
  Nat → κ

namespace Memory

variable {κ : Type u}

/-- Overwrite `size` cells at `start` with the cells of `source` from `origin`
onwards. -/
def copy (memory : Memory κ) (start : Nat) (source : Memory κ)
    (origin size : Nat) : Memory κ :=
  fun i => if start ≤ i ∧ i < start + size then source (origin + (i - start))
    else memory i

/-- Overwrite `size` cells at `start` with one cell. -/
def fill (memory : Memory κ) (start size : Nat) (cell : κ) : Memory κ :=
  fun i => if start ≤ i ∧ i < start + size then cell else memory i

/-- `memcpy_s(dest + start, destSize, source + origin, count)`: a request larger
than the destination is refused and clears it. -/
def memcpyS (zero : κ) (dest : Memory κ) (start destSize : Nat)
    (source : Memory κ) (origin count : Nat) : Int × Memory κ :=
  if destSize < count then
    (1, dest.fill start destSize zero)
  else
    (0, dest.copy start source origin count)

/-- The `size` cells from `start` onwards. -/
def read (memory : Memory κ) (start size : Nat) : List κ :=
  (List.range size).map fun i => memory (start + i)

/-- The first cells are those of `cells`, the others those of `memory`. -/
def ofList (cells : List κ) (memory : Memory κ) : Memory κ :=
  fun i => cells.getD i (memory i)

/-- Two memories hold the same cells at the offsets in `[start, stop)`. -/
def AgreeOn (first second : Memory κ) (start stop : Nat) : Prop :=
  ∀ i, start ≤ i → i < stop → first i = second i

theorem copy_apply_of_mem {memory source : Memory κ} {start origin size i : Nat}
    (lower : start ≤ i) (upper : i < start + size) :
    memory.copy start source origin size i = source (origin + (i - start)) :=
  if_pos ⟨lower, upper⟩

theorem copy_apply_of_lt {memory source : Memory κ} {start origin size i : Nat}
    (before : i < start) : memory.copy start source origin size i = memory i :=
  if_neg (by omega)

theorem copy_apply_of_ge {memory source : Memory κ} {start origin size i : Nat}
    (after : start + size ≤ i) :
    memory.copy start source origin size i = memory i :=
  if_neg (by omega)

theorem fill_apply_of_mem {memory : Memory κ} {start size i : Nat} {cell : κ}
    (lower : start ≤ i) (upper : i < start + size) :
    memory.fill start size cell i = cell :=
  if_pos ⟨lower, upper⟩

theorem fill_apply_of_not_mem {memory : Memory κ} {start size i : Nat}
    {cell : κ} (outside : ¬ (start ≤ i ∧ i < start + size)) :
    memory.fill start size cell i = memory i :=
  if_neg outside

/-- A second filling that starts inside the first one or right behind it, and does not
end before it, makes it longer. -/
theorem fill_fill {memory : Memory κ} {start size next size' : Nat} {cell : κ}
    (lower : start ≤ next) (reaches : next ≤ start + size)
    (further : start + size ≤ next + size') :
    (memory.fill start size cell).fill next size' cell =
      memory.fill start (next - start + size') cell := by
  funext i
  by_cases second : next ≤ i ∧ i < next + size'
  · rw [fill_apply_of_mem second.1 second.2, fill_apply_of_mem (by omega) (by omega)]
  · rw [fill_apply_of_not_mem second]
    by_cases first : start ≤ i ∧ i < start + size
    · rw [fill_apply_of_mem first.1 first.2, fill_apply_of_mem (by omega) (by omega)]
    · rw [fill_apply_of_not_mem first, fill_apply_of_not_mem (by omega)]

@[simp]
theorem memcpyS_self (zero : κ) (dest : Memory κ) (start : Nat)
    (source : Memory κ) (origin count : Nat) :
    memcpyS zero dest start count source origin count =
      (0, dest.copy start source origin count) :=
  if_neg (Nat.lt_irrefl count)

@[simp]
theorem length_read (memory : Memory κ) (start size : Nat) :
    (memory.read start size).length = size := by
  simp [read]

@[simp]
theorem getElem_read {memory : Memory κ} {start size i : Nat}
    (inside : i < (memory.read start size).length) :
    (memory.read start size)[i] = memory (start + i) := by
  simp [read]

theorem mem_read {memory : Memory κ} {start size : Nat} {cell : κ} :
    cell ∈ memory.read start size ↔
      ∃ i, i < size ∧ memory (start + i) = cell := by
  simp [read]

theorem read_congr {first second : Memory κ} {start size : Nat}
    (agree : AgreeOn first second start (start + size)) :
    first.read start size = second.read start size := by
  refine List.map_congr_left fun i inside => agree _ (by omega) ?_
  have := List.mem_range.mp inside
  omega

/-- A range is read in two parts. -/
theorem read_add (memory : Memory κ) (start first second : Nat) :
    memory.read start (first + second) =
      memory.read start first ++ memory.read (start + first) second := by
  simp [read, List.range_add, Nat.add_assoc]

/-- Memories that agree on some cells agree on the first of them. -/
theorem read_eq_of_le {first second : Memory κ} {start size size' : Nat} (shorter : size' ≤ size)
    (same : first.read start size = second.read start size) :
    first.read start size' = second.read start size' := by
  rw [← Nat.add_sub_cancel' shorter, read_add, read_add] at same
  exact (List.append_inj same (by rw [length_read, length_read])).1

/-- What was copied is read back. -/
theorem read_copy (memory source : Memory κ) (start origin size : Nat) :
    (memory.copy start source origin size).read start size =
      source.read origin size := by
  refine List.map_congr_left fun i inside => ?_
  have := List.mem_range.mp inside
  rw [copy_apply_of_mem (by omega) (by omega), Nat.add_sub_cancel_left]

/-- A copy does not change what is in front of it. -/
theorem read_copy_of_le (memory source : Memory κ) {start origin size start' size' : Nat}
    (before : start' + size' ≤ start) :
    (memory.copy start source origin size).read start' size' =
      memory.read start' size' := by
  refine read_congr fun i _ inside => ?_
  exact copy_apply_of_lt (by omega)

/-- A copy changes nothing exactly when the cells are there already. -/
theorem copy_eq_self_iff {memory source : Memory κ} {start origin size : Nat} :
    memory.copy start source origin size = memory ↔
      memory.read start size = source.read origin size := by
  constructor
  · intro same
    rw [← read_copy memory source start origin size, same]
  · intro there
    funext i
    by_cases inside : start ≤ i ∧ i < start + size
    · have within : i - start < size := by omega
      have cell : (memory.read start size)[i - start]? =
          (source.read origin size)[i - start]? := by rw [there]
      simp only [read, List.getElem?_map, List.getElem?_range within, Option.map_some,
        Option.some.injEq] at cell
      rw [copy_apply_of_mem inside.1 inside.2, ← cell, Nat.add_sub_cancel' inside.1]
    · exact if_neg inside

theorem ofList_apply_of_lt {cells : List κ} {memory : Memory κ} {i : Nat}
    (inside : i < cells.length) : ofList cells memory i = cells[i] := by
  simp [ofList, inside]

theorem ofList_apply_of_ge {cells : List κ} {memory : Memory κ} {i : Nat}
    (outside : cells.length ≤ i) : ofList cells memory i = memory i := by
  simp [ofList, outside]

theorem read_ofList {cells : List κ} {memory : Memory κ} :
    (ofList cells memory).read 0 cells.length = cells := by
  refine List.ext_getElem (by simp) fun i _ inside => ?_
  rw [getElem_read, Nat.zero_add, ofList_apply_of_lt inside]

/-- Writing right behind the listed cells extends the list. -/
theorem copy_ofList (cells : List κ) (memory source : Memory κ)
    (origin size : Nat) :
    (ofList cells memory).copy cells.length source origin size =
      ofList (cells ++ source.read origin size) memory := by
  funext i
  by_cases before : i < cells.length
  · rw [copy_apply_of_lt before, ofList_apply_of_lt before,
      ofList_apply_of_lt (by rw [List.length_append]; omega),
      List.getElem_append_left before]
  · by_cases within : i < cells.length + size
    · have inside : i < (cells ++ source.read origin size).length := by
        rw [List.length_append, length_read]
        exact within
      rw [copy_apply_of_mem (by omega) within, ofList_apply_of_lt inside,
        List.getElem_append_right (by omega), getElem_read]
    · rw [copy_apply_of_ge (by omega), ofList_apply_of_ge (by omega),
        ofList_apply_of_ge (by rw [List.length_append, length_read]; omega)]

/-- Filling the same range in both memories keeps their agreement and adds the
filled range to it. -/
theorem fill_congr {first second : Memory κ} {start size : Nat} {cell : κ} {i : Nat}
    (agree : ¬ (start ≤ i ∧ i < start + size) → first i = second i) :
    first.fill start size cell i = second.fill start size cell i := by
  by_cases inside : start ≤ i ∧ i < start + size
  · rw [fill_apply_of_mem inside.1 inside.2, fill_apply_of_mem inside.1 inside.2]
  · rw [fill_apply_of_not_mem inside, fill_apply_of_not_mem inside, agree inside]

end Memory

end SandPlatform.Foundation
