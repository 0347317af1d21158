import SandPlatform.Foundation.Memory

/-!
# Ring buffers

A ring of a fixed number of slots keeps the newest stretch of a sequence: entry
`k` is stored in slot `k` modulo the size.  Positions in the sequence grow
without bound, so empty, full and wrapped around are told apart by the positions
of the two ends and not by their slots.
-/

namespace SandPlatform.Foundation

namespace Ring

universe u

variable {κ : Type u}

/-- The ring holds the entries from position `first` up to position `next`. -/
structure Window (size : Nat) (cells : Memory κ) (sequence : Nat → κ)
    (first next : Nat) : Prop where
  fits : next ≤ first + size
  holds : ∀ k, first ≤ k → k < next → cells (k % size) = sequence k

/-- Positions less than one revolution apart have different slots. -/
theorem slot_ne {size first next : Nat} (before : first < next)
    (near : next < first + size) : first % size ≠ next % size := by
  intro same
  have multiple : (next - first) % size = 0 :=
    Nat.sub_mod_eq_zero_of_mod_eq same.symm
  have whole : size ≤ next - first :=
    Nat.le_of_dvd (by omega) (Nat.dvd_of_mod_eq_zero multiple)
  omega

/-- Positions one revolution apart share a slot. -/
theorem slot_add_size (size first : Nat) : (first + size) % size = first % size :=
  Nat.add_mod_right first size

namespace Window

variable {size : Nat} {cells : Memory κ} {sequence : Nat → κ} {first next : Nat}

/-- Storing the next entry, after dropping the oldest ones if the ring is full. -/
theorem push (window : Window size cells sequence first next) {first' : Nat}
    (later : first ≤ first') (room : next < first' + size) :
    Window size (cells.fill (next % size) 1 (sequence next)) sequence first'
      (next + 1) where
  fits := room
  holds k lower upper := by
    by_cases newest : k = next
    · rw [newest]
      exact Memory.fill_apply_of_mem (Nat.le_refl _) (Nat.lt_succ_self _)
    · have before : k < next := by omega
      have other := slot_ne before (by omega : next < k + size)
      rw [Memory.fill_apply_of_not_mem (by omega)]
      exact window.holds k (by omega) before

/-- The oldest entry is taken out. -/
theorem pop (window : Window size cells sequence first next) :
    Window size cells sequence (first + 1) next where
  fits := by
    have fits := window.fits
    omega
  holds k lower upper := window.holds k (by omega) upper

/-- What is stored only depends on the entries in the window. -/
theorem congr (window : Window size cells sequence first next)
    {sequence' : Nat → κ}
    (same : ∀ k, first ≤ k → k < next → sequence k = sequence' k) :
    Window size cells sequence' first next where
  fits := window.fits
  holds k lower upper := (window.holds k lower upper).trans (same k lower upper)

end Window

end Ring

end SandPlatform.Foundation
