import Mathlib.Data.List.Induction
import Mathlib.Logic.Relation
import Mathlib.Order.WellFounded

/-!
# Linked lists

Two partial functions link nodes to the ones in front of and behind them.  A chain is a
list of nodes that are linked in its order, with what is in front of the first and
behind the last one.  Only the links of its own nodes matter to a chain, so links may be
changed elsewhere, and a chain may be cut and joined where it is a concatenation.  A path
is a list that is linked in one direction, up to its end.  Children and parents make a
forest when no way up has an end below.
-/

namespace SandPlatform.Foundation

universe u

variable {ι : Type u}

/-- The nodes of the list are linked in their order. -/
def Chain (prev next : ι → Option ι) : Option ι → List ι → Option ι → Prop
  | _, [], _ => True
  | before, node :: others, after =>
      prev node = before ∧ next node = others.head?.or after ∧
        Chain prev next (some node) others after

section Chain

variable {prev next prev' next' : ι → Option ι} {before after : Option ι}
  {front back nodes : List ι} {node : ι}

@[simp]
theorem chain_nil : Chain prev next before [] after :=
  trivial

theorem chain_singleton :
    Chain prev next before [node] after ↔ prev node = before ∧ next node = after := by
  simp [Chain]

theorem chain_append :
    Chain prev next before (front ++ back) after ↔
      Chain prev next before front (back.head?.or after) ∧
        Chain prev next (front.getLast?.or before) back after := by
  induction front generalizing before with
  | nil => simp [Chain]
  | cons node others ih =>
      rw [List.cons_append, Chain, Chain, ih]
      cases others with
      | nil => simp [and_assoc]
      | cons second others =>
          rcases List.getLast?_isSome.mpr (List.cons_ne_nil second others) |>
            Option.isSome_iff_exists.mp with ⟨last, isLast⟩
          simp [isLast, and_assoc]

theorem Chain.congr (chain : Chain prev next before nodes after)
    (same : ∀ node ∈ nodes, prev' node = prev node ∧ next' node = next node) :
    Chain prev' next' before nodes after := by
  induction nodes generalizing before with
  | nil => trivial
  | cons node others ih =>
      rw [List.forall_mem_cons] at same
      exact ⟨same.1.1.trans chain.1, same.1.2.trans chain.2.1, ih chain.2.2 same.2⟩

/-- The nodes that are reached from one on. -/
def follow (step : ι → Option ι) : Nat → Option ι → List ι
  | 0, _ => []
  | _ + 1, none => []
  | count + 1, some node => node :: follow step count (step node)

/-- From the first node on, the links reach all nodes in order. -/
theorem Chain.follow_next (chain : Chain prev next before nodes none) {count : Nat}
    (enough : nodes.length ≤ count) : follow next count nodes.head? = nodes := by
  induction nodes generalizing before count with
  | nil => cases count <;> rfl
  | cons node others ih =>
      cases count with
      | zero => simp at enough
      | succ count =>
          rw [List.length_cons, Nat.add_le_add_iff_right] at enough
          rw [List.head?_cons, follow, chain.2.1, Option.or_none, ih chain.2.2 enough]

/-- From the last node on, the links back reach all nodes in reverse. -/
theorem Chain.follow_prev (chain : Chain prev next none nodes after) {count : Nat}
    (enough : nodes.length ≤ count) :
    follow prev count nodes.getLast? = nodes.reverse := by
  induction nodes using List.reverseRecOn generalizing after count with
  | nil => cases count <;> rfl
  | append_singleton others node ih =>
      rw [chain_append, chain_singleton] at chain
      cases count with
      | zero => simp at enough
      | succ count =>
          rw [List.length_append, List.length_singleton, Nat.add_le_add_iff_right] at enough
          rw [show (others ++ [node]).getLast? = some node by simp, follow, chain.2.1,
            Option.or_none, ih chain.1 enough, List.reverse_append]
          rfl

end Chain

/-- Steps that each find the next node of a kind visit all nodes of the kind. -/
theorem follow_find {step : ι → Option ι} {test : ι → Bool} {nodes : List ι}
    (finds : ∀ front node back, nodes = front ++ node :: back → step node = back.find? test)
    {count : Nat} (enough : nodes.length ≤ count) :
    follow step count (nodes.find? test) = nodes.filter test := by
  induction nodes generalizing count with
  | nil => cases count <;> rfl
  | cons node others ih =>
      rw [List.length_cons] at enough
      have findsOthers : ∀ front node back, others = front ++ node :: back →
          step node = back.find? test := by
        intro front node' back whole
        exact finds (node :: front) node' back (by rw [whole]; rfl)
      rw [List.find?_cons, List.filter_cons]
      cases ofKind : test node with
      | false => exact ih findsOthers (Nat.le_of_succ_le enough)
      | true =>
          cases count with
          | zero => simp at enough
          | succ count =>
              simp only [follow, if_true]
              rw [finds [] node others rfl, ih findsOthers (Nat.le_of_succ_le_succ enough)]

/-- The nodes are linked from the start on, and the last one to nothing. -/
def Path (next : ι → Option ι) : Option ι → List ι → Prop
  | start, [] => start = none
  | start, node :: others => start = some node ∧ Path next (next node) others

theorem Path.congr {next next' : ι → Option ι} {start : Option ι} {nodes : List ι}
    (path : Path next start nodes) (same : ∀ node ∈ nodes, next' node = next node) :
    Path next' start nodes := by
  induction nodes generalizing start with
  | nil => exact path
  | cons node others ih =>
      rw [List.forall_mem_cons] at same
      refine ⟨path.1, ?_⟩
      rw [same.1]
      exact ih path.2 same.2

/-- A forest stays one when a tree is put below a node that is not in it. -/
theorem wellFounded_insert {isChild : ι → ι → Prop} {this added : ι}
    (forest : WellFounded isChild) (outside : ¬ Relation.ReflTransGen isChild this added) :
    WellFounded fun child parent => isChild child parent ∨ child = added ∧ parent = this := by
  -- Only the nodes above the new edge have more below them than before.
  have settled : ∀ node, ¬ Relation.ReflTransGen isChild this node →
      Acc (fun child parent => isChild child parent ∨ child = added ∧ parent = this) node := by
    intro node
    induction node using forest.induction with
    | _ node ih =>
        intro notAbove
        refine ⟨node, fun child edge => ?_⟩
        rcases edge with edge | ⟨_, isThis⟩
        · exact ih child edge fun above => notAbove (above.tail edge)
        · exact absurd Relation.ReflTransGen.refl (isThis ▸ notAbove)
  refine ⟨fun node => ?_⟩
  induction node using forest.induction with
  | _ node ih =>
      refine ⟨node, fun child edge => ?_⟩
      rcases edge with edge | ⟨rfl, _⟩
      · exact ih child edge
      · exact settled child outside

end SandPlatform.Foundation
