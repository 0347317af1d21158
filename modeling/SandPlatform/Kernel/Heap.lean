import SandPlatform.Foundation.Memory
import SandPlatform.Foundation.Word

/-!
# Heap blocks and user copies

A byte of a heap block is kept together with a record of where it came from.
The record never influences a computation; it makes "this byte has been
written", "this byte is a platform secret" and "this byte came from the CSE"
statements about a block.
-/

namespace SandPlatform.Kernel

open SandPlatform.Foundation

/-- Where a byte came from: it was in the block when the allocator handed it
out, the kernel produced it, it was copied from the secure-info block, or the
CSE delivered it. -/
inductive Origin
  | stale
  | kernel
  | secInfo
  | cse
  deriving DecidableEq

/-- A byte and its provenance. -/
structure Cell where
  value : BitVec 8
  origin : Origin
  deriving DecidableEq

namespace Cell

/-- The byte `memset` writes when it wipes memory. -/
def zero : Cell :=
  ⟨0, .kernel⟩

/-- The byte is neither a byte of the secure-info block nor one the CSE
delivered. -/
def Harmless (cell : Cell) : Prop :=
  cell.origin ≠ .secInfo ∧ cell.origin ≠ .cse

instance (cell : Cell) : Decidable cell.Harmless :=
  inferInstanceAs (Decidable (_ ∧ _))

theorem zero_harmless : zero.Harmless := by
  decide

end Cell

/-- A block as the allocator hands it out. -/
def staleBlock (contents : Memory (BitVec 8)) : Memory Cell :=
  fun i => ⟨contents i, .stale⟩

theorem staleBlock_harmless (contents : Memory (BitVec 8)) (i : Nat) :
    (staleBlock contents i).Harmless := by
  constructor <;> simp [staleBlock]

/-- The bytes of a value the kernel computed. -/
def valueCells {n : Nat} (value : BitVec n) : Memory Cell :=
  fun i => ⟨Word.byte value i, .kernel⟩

/-- A block at the moment it is given back with `free`. -/
structure Freed where
  size : Nat
  cells : Memory Cell

/-- Nothing in a freed block came from the secure-info block or the CSE. -/
def Freed.Wiped (block : Freed) : Prop :=
  ∀ i, i < block.size → (block.cells i).Harmless

/-- `memset(block + start, 0, size)`. -/
def secureMemzero (block : Memory Cell) (start size : Nat) : Memory Cell :=
  block.fill start size Cell.zero

/-- `memcpy_s` between blocks with provenance. -/
def memcpyS (dest : Memory Cell) (start destSize : Nat) (source : Memory Cell)
    (origin count : Nat) : Int × Memory Cell :=
  dest.memcpyS Cell.zero start destSize source origin count

/-- What a user copy does: how many bytes it copies and what it returns. -/
structure CopyResult where
  copied : Nat
  status : Int

@[simp]
theorem memcpyS_self (dest : Memory Cell) (start : Nat) (source : Memory Cell)
    (origin count : Nat) :
    memcpyS dest start count source origin count =
      (0, dest.copy start source origin count) :=
  Memory.memcpyS_self Cell.zero dest start source origin count

end SandPlatform.Kernel
