import Mathlib.Data.List.Infix
import Mathlib.Data.List.TakeWhile

/-!
# Scanning for a pattern

A text is cut at the first occurrence of a pattern.  If the last letter of the pattern
does not occur in it before, an occurrence cannot reach from the front part into the
pattern behind it, so the cut is found wherever the pattern is put behind a front part
without it.
-/

namespace SandPlatform.Foundation

universe u

variable {α : Type u}

section Fresh

variable {pattern : List α}

/-- The last letter of the pattern is not one of the others. -/
def EndsFresh (pattern : List α) : Prop :=
  ∃ others last, pattern = others ++ [last] ∧ last ∉ others

theorem EndsFresh.ne_nil (fresh : EndsFresh pattern) : pattern ≠ [] := by
  rcases fresh with ⟨others, last, rfl, _⟩
  simp

theorem endsFresh_singleton (letter : α) : EndsFresh [letter] :=
  ⟨[], letter, rfl, List.not_mem_nil⟩

/-- An occurrence does not reach into the pattern behind it. -/
theorem EndsFresh.not_here (fresh : EndsFresh pattern) {letter : α} {rest : List α}
    (clean : ¬ pattern <:+: letter :: rest) (behind : List α) :
    ¬ pattern <+: letter :: rest ++ pattern ++ behind := by
  rcases fresh with ⟨others, last, same, absent⟩
  intro here
  by_cases short : pattern.length ≤ (letter :: rest).length
  · rw [List.append_assoc] at here
    have inside : pattern <+: letter :: rest :=
      List.prefix_of_prefix_length_le here (List.prefix_append _ _) short
    exact clean inside.isInfix
  · have lengths : pattern.length = others.length + 1 := by
      rw [same, List.length_append, List.length_singleton]
    have size : (letter :: rest).length = rest.length + 1 := List.length_cons
    -- the last letter of the occurrence is one of the other letters of the pattern
    have atEnd : others.length - (rest.length + 1) < others.length := by omega
    have lastHere : pattern[others.length]? = some last := by
      rw [same, List.getElem?_append_right (Nat.le_refl _), Nat.sub_self]
      rfl
    have read : (letter :: rest ++ pattern ++ behind)[others.length]? = some last := by
      rw [← lastHere]
      exact (List.prefix_iff_getElem?.mp here others.length (by omega)).trans
        (List.getElem?_eq_getElem (by omega)).symm
    rw [List.append_assoc, List.getElem?_append_right (by omega), size,
      List.getElem?_append_left (by omega), same,
      List.getElem?_append_left atEnd] at read
    exact absent (List.mem_of_getElem? read)

/-- A pattern does not reach over a letter that it does not have. -/
theorem prefix_of_prefix_append {letter : α} {front rest : List α}
    (absent : letter ∉ pattern) (begins : pattern <+: front ++ letter :: rest) :
    pattern <+: front := by
  by_cases short : pattern.length ≤ front.length
  · exact List.prefix_of_prefix_length_le begins (List.prefix_append _ _) short
  · have inside : front.length < pattern.length := Nat.lt_of_not_le short
    have read := List.prefix_iff_getElem?.mp begins front.length inside
    rw [List.getElem?_append_right (Nat.le_refl _), Nat.sub_self] at read
    cases read
    exact absurd (List.getElem_mem inside) absent

end Fresh

section Cut

variable [DecidableEq α]

/-- What is in front of the first occurrence of a pattern and what is behind it. -/
def cutAt (pattern : List α) : List α → Option (List α × List α)
  | [] => none
  | letter :: rest =>
      if pattern.isPrefixOf (letter :: rest) then
        some ([], (letter :: rest).drop pattern.length)
      else
        (cutAt pattern rest).map fun parts => (letter :: parts.1, parts.2)

variable {pattern text front behind : List α}

theorem cutAt_of_begins (nonempty : pattern ≠ []) (behind : List α) :
    cutAt pattern (pattern ++ behind) = some ([], behind) := by
  cases pattern with
  | nil => exact absurd rfl nonempty
  | cons letter rest =>
      have here : (letter :: rest).isPrefixOf (letter :: (rest ++ behind)) = true :=
        List.isPrefixOf_iff_prefix.mpr (List.prefix_append (letter :: rest) behind)
      rw [List.cons_append, cutAt, if_pos here, ← List.cons_append, List.drop_left]

theorem cutAt_cons_of_absent {letter : α} {rest : List α}
    (notHere : ¬ pattern <+: letter :: rest) :
    cutAt pattern (letter :: rest) =
      (cutAt pattern rest).map fun parts => (letter :: parts.1, parts.2) := by
  rw [cutAt, if_neg (by rwa [ List.isPrefixOf_iff_prefix])]

/-- The parts and the pattern between them are the text. -/
theorem append_of_cutAt (found : cutAt pattern text = some (front, behind)) :
    text = front ++ pattern ++ behind := by
  induction text generalizing front with
  | nil => cases found
  | cons letter rest ih =>
      by_cases here : pattern <+: letter :: rest
      · rw [cutAt, if_pos ( List.isPrefixOf_iff_prefix.mpr here)] at found
        cases found
        exact (List.prefix_iff_eq_append.mp here).symm
      · rw [cutAt_cons_of_absent here] at found
        rcases Option.map_eq_some_iff.mp found with ⟨⟨front', behind'⟩, inner, same⟩
        cases same
        rw [ih inner]
        rfl

/-- The front part does not have the pattern in it. -/
theorem not_infix_of_cutAt (nonempty : pattern ≠ [])
    (found : cutAt pattern text = some (front, behind)) : ¬ pattern <:+: front := by
  induction text generalizing front with
  | nil => cases found
  | cons letter rest ih =>
      by_cases here : pattern <+: letter :: rest
      · rw [cutAt, if_pos ( List.isPrefixOf_iff_prefix.mpr here)] at found
        cases found
        rw [List.infix_nil]
        exact nonempty
      · rw [cutAt_cons_of_absent here] at found
        rcases Option.map_eq_some_iff.mp found with ⟨⟨front', behind'⟩, inner, same⟩
        cases same
        rw [List.infix_cons_iff, not_or]
        refine ⟨fun atStart => here ?_, ih inner⟩
        have whole : letter :: rest = (letter :: front') ++ (pattern ++ behind') := by
          rw [append_of_cutAt inner]
          simp
        rw [whole]
        exact atStart.trans (List.prefix_append _ _)

/-- A front part without the pattern is cut off whatever follows. -/
theorem cutAt_append (fresh : EndsFresh pattern) (clean : ¬ pattern <:+: front)
    (behind : List α) : cutAt pattern (front ++ pattern ++ behind) = some (front, behind) := by
  induction front with
  | nil => exact cutAt_of_begins fresh.ne_nil behind
  | cons letter rest ih =>
      have further : ¬ pattern <:+: rest :=
        fun inside => clean (inside.trans (List.suffix_cons letter rest).isInfix)
      have notHere := fresh.not_here clean behind
      rw [List.cons_append, List.cons_append] at notHere ⊢
      rw [cutAt_cons_of_absent notHere, ih further]
      rfl

end Cut

/-! ## Runs of letters of a kind -/

section Runs

variable {kind : α → Bool} {run rest : List α}

/-- A run ends where the first letter of another kind follows. -/
def EndsRun (kind : α → Bool) (rest : List α) : Prop :=
  ∀ letter ∈ rest.head?, kind letter = false

theorem endsRun_dropWhile (kind : α → Bool) (text : List α) :
    EndsRun kind (text.dropWhile kind) := by
  intro letter first
  have nonempty : text.dropWhile kind ≠ [] := by
    intro empty
    rw [empty] at first
    cases first
  have head := List.head_dropWhile_not kind nonempty
  rw [List.head?_eq_some_head nonempty] at first
  cases first
  exact head

theorem takeWhile_append_of_run (all : ∀ letter ∈ run, kind letter = true)
    (ends : EndsRun kind rest) : (run ++ rest).takeWhile kind = run := by
  rw [List.takeWhile_append_of_pos all]
  cases rest with
  | nil => simp
  | cons letter rest => simp [ends letter rfl]

theorem dropWhile_append_of_run (all : ∀ letter ∈ run, kind letter = true)
    (ends : EndsRun kind rest) : (run ++ rest).dropWhile kind = rest := by
  rw [List.dropWhile_append_of_pos all]
  cases rest with
  | nil => rfl
  | cons letter rest => simp [ends letter rfl]

end Runs

end SandPlatform.Foundation
