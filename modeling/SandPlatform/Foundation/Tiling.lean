import Mathlib.Algebra.Group.Nat.Defs
import Mathlib.Tactic.Common

/-!
# Adjacent ranges

A list of ranges, each a start and a size, tiles an interval when the first one
starts at the left end, each one starts where the previous one stops, and the
last one stops at the right end.  Tiling ranges are disjoint, stay inside the
interval and cover it.
-/

namespace SandPlatform.Foundation

/-- `ranges` cover `[start, stop)` from left to right without gap or overlap. -/
def Tiles : Nat → List (Nat × Nat) → Nat → Prop
  | start, [], stop => start = stop
  | start, range :: rest, stop =>
      range.1 = start ∧ Tiles (start + range.2) rest stop

namespace Tiles

theorem nil (start : Nat) : Tiles start [] start :=
  rfl

/-- One more range at the right end. -/
theorem snoc {start stop : Nat} {ranges : List (Nat × Nat)}
    (tiles : Tiles start ranges stop) (size : Nat) :
    Tiles start (ranges ++ [(stop, size)]) (stop + size) := by
  induction ranges generalizing start with
  | nil =>
      have same : start = stop := tiles
      subst same
      exact ⟨rfl, rfl⟩
  | cons range rest ih => exact ⟨tiles.1, ih tiles.2⟩

theorem le {start stop : Nat} {ranges : List (Nat × Nat)}
    (tiles : Tiles start ranges stop) : start ≤ stop := by
  induction ranges generalizing start with
  | nil => exact Nat.le_of_eq tiles
  | cons range rest ih => exact Nat.le_trans (Nat.le_add_right _ _) (ih tiles.2)

/-- Every tile lies inside the interval. -/
theorem mem_bounds {start stop : Nat} {ranges : List (Nat × Nat)}
    (tiles : Tiles start ranges stop) {range : Nat × Nat}
    (member : range ∈ ranges) :
    start ≤ range.1 ∧ range.1 + range.2 ≤ stop := by
  induction ranges generalizing start with
  | nil => cases member
  | cons first rest ih =>
      rcases List.mem_cons.mp member with same | later
      · subst same
        have reached := tiles.2.le
        rw [← tiles.1] at reached
        exact ⟨Nat.le_of_eq tiles.1.symm, reached⟩
      · have bounds := ih tiles.2 later
        exact ⟨Nat.le_trans (Nat.le_add_right _ _) bounds.1, bounds.2⟩

/-- Every point of the interval lies in some tile. -/
theorem exists_mem {start stop : Nat} {ranges : List (Nat × Nat)}
    (tiles : Tiles start ranges stop) {i : Nat} (lower : start ≤ i)
    (upper : i < stop) :
    ∃ range ∈ ranges, range.1 ≤ i ∧ i < range.1 + range.2 := by
  induction ranges generalizing start with
  | nil =>
      have same : start = stop := tiles
      omega
  | cons first rest ih =>
      by_cases inside : i < start + first.2
      · rw [← tiles.1] at lower inside
        exact ⟨first, List.mem_cons_self, lower, inside⟩
      · obtain ⟨range, member, bounds⟩ := ih tiles.2 (by omega)
        exact ⟨range, List.mem_cons_of_mem first member, bounds⟩

/-- The points of the tiles are those of the interval. -/
theorem exists_mem_iff {start stop : Nat} {ranges : List (Nat × Nat)}
    (tiles : Tiles start ranges stop) (i : Nat) :
    (∃ range ∈ ranges, range.1 ≤ i ∧ i < range.1 + range.2) ↔ start ≤ i ∧ i < stop := by
  constructor
  · rintro ⟨range, member, lower, upper⟩
    have bounds := tiles.mem_bounds member
    exact ⟨Nat.le_trans bounds.1 lower, Nat.lt_of_lt_of_le upper bounds.2⟩
  · rintro ⟨lower, upper⟩
    exact tiles.exists_mem lower upper

/-- Every tile ends before the later ones start. -/
theorem pairwise {start stop : Nat} {ranges : List (Nat × Nat)}
    (tiles : Tiles start ranges stop) :
    ranges.Pairwise fun first second => first.1 + first.2 ≤ second.1 := by
  induction ranges generalizing start with
  | nil => exact List.Pairwise.nil
  | cons first rest ih =>
      refine List.pairwise_cons.mpr ⟨?_, ih tiles.2⟩
      intro second member
      rw [tiles.1]
      exact (tiles.2.mem_bounds member).1

/-- Ranges stay below a limit exactly when the interval they tile does. -/
theorem forall_le_iff {stop limit : Nat} {ranges : List (Nat × Nat)}
    (tiles : Tiles 0 ranges stop) :
    (∀ range ∈ ranges, ∀ i, range.1 ≤ i → i < range.1 + range.2 → i < limit) ↔
      stop ≤ limit := by
  constructor
  · intro below
    by_contra above
    obtain ⟨range, member, lower, upper⟩ :=
      tiles.exists_mem (Nat.zero_le limit) (Nat.lt_of_not_le above)
    exact Nat.lt_irrefl limit (below range member limit lower upper)
  · intro within range member i _ upper
    exact Nat.lt_of_lt_of_le upper
      (Nat.le_trans (tiles.mem_bounds member).2 within)

end Tiles

end SandPlatform.Foundation
