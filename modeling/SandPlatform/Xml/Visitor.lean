import SandPlatform.Xml.Nodes

/-!
# Visiting nodes

`Accept` calls a visitor for every node.  A visitor that returns false when it enters an
element does not see the children; one that returns false otherwise does not see the
next siblings.
-/

namespace SandPlatform.Xml

universe u

/-- A visitor with a state of its own. -/
structure Visitor (σ : Type u) where
  visitEnter (name : Text) (attributes : List (Attribute Text)) : σ → Bool × σ
  visitExit (name : Text) : σ → Bool × σ
  visit (node : Leaf Text) : σ → Bool × σ

variable {σ : Type u}

/-- The loop over the children of a node, by which each of them is accepted. -/
def accept (visitor : Visitor σ) : Nodes Text → σ → σ
  | .nil, state => state
  | .leaf node next, state =>
      let (further, state) := visitor.visit node state
      if further then accept visitor next state else state
  | .element name attributes firstChild next, state =>
      let (enter, state) := visitor.visitEnter name attributes state
      let state := if enter then accept visitor firstChild state else state
      let (further, state) := visitor.visitExit name state
      if further then accept visitor next state else state

theorem accept_leaf {visitor : Visitor σ} {node : Leaf Text} {state state' : σ} {further : Bool}
    (visited : visitor.visit node state = (further, state')) (next : Nodes Text) :
    accept visitor (.leaf node next) state =
      if further then accept visitor next state' else state' := by
  simp only [accept, visited]

theorem accept_element {visitor : Visitor σ} {name : Text} {attributes : List (Attribute Text)}
    {firstChild : Nodes Text} {state state' state'' : σ} {enter further : Bool}
    (entered : visitor.visitEnter name attributes state = (enter, state'))
    (left : visitor.visitExit name (if enter then accept visitor firstChild state' else state') =
      (further, state'')) (next : Nodes Text) :
    accept visitor (.element name attributes firstChild next) state =
      if further then accept visitor next state'' else state'' := by
  simp only [accept, entered, left]

/-- What a visitor is called with. -/
inductive Call
  | visitEnter (name : Text) (attributes : List (Attribute Text))
  | visitExit (name : Text)
  | visit (node : Leaf Text)
  deriving DecidableEq

/-- All calls for the nodes, in their order. -/
def calls : Nodes Text → List Call
  | .nil => []
  | .leaf node next => .visit node :: calls next
  | .element name attributes firstChild next =>
      .visitEnter name attributes :: (calls firstChild ++ .visitExit name :: calls next)

namespace Visitor

/-- What the visitor does at a call. -/
def call (visitor : Visitor σ) : Call → σ → Bool × σ
  | .visitEnter name attributes => visitor.visitEnter name attributes
  | .visitExit name => visitor.visitExit name
  | .visit node => visitor.visit node

/-- A visitor that always goes on. -/
def Eager (visitor : Visitor σ) : Prop :=
  ∀ call state, (visitor.call call state).1 = true

/-- The state after some calls. -/
def run (visitor : Visitor σ) : List Call → σ → σ
  | [], state => state
  | call :: others, state => visitor.run others (visitor.call call state).2

theorem run_append (visitor : Visitor σ) (first second : List Call) (state : σ) :
    visitor.run (first ++ second) state = visitor.run second (visitor.run first state) := by
  induction first generalizing state with
  | nil => rfl
  | cons call others ih => exact ih _

/-- A visitor that always goes on gets all calls. -/
theorem accept_eq_run {visitor : Visitor σ} (eager : visitor.Eager) (nodes : Nodes Text)
    (state : σ) : accept visitor nodes state = visitor.run (calls nodes) state := by
  induction nodes generalizing state with
  | nil => rfl
  | leaf node next ih =>
      have further := eager (.visit node) state
      change (visitor.visit node state).1 = true at further
      simp only [accept, further, if_true, ih]
      rfl
  | element name attributes firstChild next ihFirst ihNext =>
      have enter := eager (.visitEnter name attributes) state
      have further (state : σ) : (visitor.visitExit name state).1 = true :=
        eager (.visitExit name) state
      change (visitor.visitEnter name attributes state).1 = true at enter
      simp only [accept, enter, if_true, ihFirst, ihNext, further, calls, run, run_append]
      rfl

theorem calls_append (first second : Nodes Text) :
    calls (first.append second) = calls first ++ calls second := by
  induction first with
  | nil => rfl
  | leaf node next ih => simp [Nodes.append, calls, ih]
  | element name attributes firstChild next _ ih => simp [Nodes.append, calls, ih]

theorem accept_append {visitor : Visitor σ} (eager : visitor.Eager) (first second : Nodes Text)
    (state : σ) :
    accept visitor (first.append second) state =
      accept visitor second (accept visitor first state) := by
  rw [accept_eq_run eager, accept_eq_run eager, accept_eq_run eager, calls_append, run_append]

/-- A visitor whose calls are put on record, with what it answered. -/
def logged (visitor : Visitor σ) : Visitor (σ × List (Call × Bool)) where
  visitEnter name attributes s :=
    let (answer, state) := visitor.visitEnter name attributes s.1
    (answer, state, s.2 ++ [(.visitEnter name attributes, answer)])
  visitExit name s :=
    let (answer, state) := visitor.visitExit name s.1
    (answer, state, s.2 ++ [(.visitExit name, answer)])
  visit node s :=
    let (answer, state) := visitor.visit node s.1
    (answer, state, s.2 ++ [(.visit node, answer)])

section Logged

variable {visitor : Visitor σ} {state state' : σ} {answer : Bool}

theorem logged_visitEnter {name : Text} {attributes : List (Attribute Text)}
    (entered : visitor.visitEnter name attributes state = (answer, state'))
    (log : List (Call × Bool)) :
    visitor.logged.visitEnter name attributes (state, log) =
      (answer, state', log ++ [(.visitEnter name attributes, answer)]) := by
  simp only [logged, entered]

theorem logged_visitExit {name : Text}
    (left : visitor.visitExit name state = (answer, state')) (log : List (Call × Bool)) :
    visitor.logged.visitExit name (state, log) =
      (answer, state', log ++ [(.visitExit name, answer)]) := by
  simp only [logged, left]

theorem logged_visit {node : Leaf Text} (visited : visitor.visit node state = (answer, state'))
    (log : List (Call × Bool)) :
    visitor.logged.visit node (state, log) = (answer, state', log ++ [(.visit node, answer)]) := by
  simp only [logged, visited]

end Logged

/-- The answers on record are those of the visitor, from one state to another. -/
def Answers (visitor : Visitor σ) : List (Call × Bool) → σ → σ → Prop
  | [], state, final => state = final
  | (call, answer) :: others, state, final =>
      (visitor.call call state).1 = answer ∧
        visitor.Answers others (visitor.call call state).2 final

theorem Answers.cons {visitor : Visitor σ} {call : Call} {answer : Bool}
    {others : List (Call × Bool)} {state state' final : σ}
    (answered : visitor.call call state = (answer, state'))
    (after : visitor.Answers others state' final) :
    visitor.Answers ((call, answer) :: others) state final := by
  rw [Answers, answered]
  exact ⟨rfl, after⟩

theorem answers_append (visitor : Visitor σ) (first second : List (Call × Bool))
    (state final : σ) :
    visitor.Answers (first ++ second) state final ↔
      ∃ between, visitor.Answers first state between ∧ visitor.Answers second between final := by
  induction first generalizing state with
  | nil => simp [Answers]
  | cons made others ih => simp [Answers, ih, and_assoc]

end Visitor

/-! ## What refusals leave out -/

/-- The calls for some nodes, with their answers: behind a node whose `visit` or
`visitExit` was refused there are no more calls, and between a `visitEnter` that was
refused and its `visitExit` there are none. -/
def Visits : Nodes Text → List (Call × Bool) → Prop
  | .nil, made => made = []
  | .leaf node next, made =>
      ∃ further others, made = (.visit node, further) :: others ∧
        if further then Visits next others else others = []
  | .element name attributes firstChild next, made =>
      ∃ enter inner further others,
        made = (.visitEnter name attributes, enter) ::
            (inner ++ (.visitExit name, further) :: others) ∧
          (if enter then Visits firstChild inner else inner = []) ∧
            if further then Visits next others else others = []

section Visits

variable {visitor : Visitor σ}

/-- Answers and refusals decide which calls there are. -/
theorem Visits.unique {nodes : Nodes Text} {made made' : List (Call × Bool)}
    {state final final' : σ} (visits : Visits nodes made) (visits' : Visits nodes made')
    (answers : visitor.Answers made state final)
    (answers' : visitor.Answers made' state final') : made = made' ∧ final = final' := by
  induction nodes generalizing made made' state final final' with
  | nil =>
      cases visits
      cases visits'
      exact ⟨rfl, answers.symm.trans answers'⟩
  | leaf node next ih =>
      rcases visits with ⟨further, others, rfl, rest⟩
      rcases visits' with ⟨_, others', rfl, rest'⟩
      rcases answers with ⟨rfl, answers⟩
      rcases answers' with ⟨rfl, answers'⟩
      split_ifs at rest rest'
      · rcases ih rest rest' answers answers' with ⟨rfl, same⟩
        exact ⟨rfl, same⟩
      · subst rest rest'
        exact ⟨rfl, answers.symm.trans answers'⟩
  | element name attributes firstChild next ihFirst ihNext =>
      rcases visits with ⟨enter, inner, further, others, rfl, below, rest⟩
      rcases visits' with ⟨_, inner', _, others', rfl, below', rest'⟩
      rcases answers with ⟨rfl, answers⟩
      rcases answers' with ⟨rfl, answers'⟩
      rcases (visitor.answers_append _ _ _ _).mp answers with ⟨mid, inside, rfl, after⟩
      rcases (visitor.answers_append _ _ _ _).mp answers' with ⟨mid', inside', rfl, after'⟩
      have same : inner = inner' ∧ mid = mid' := by
        split_ifs at below below'
        · exact ihFirst below below' inside inside'
        · subst below below'
          exact ⟨rfl, inside.symm.trans inside'⟩
      rcases same with ⟨rfl, rfl⟩
      split_ifs at rest rest'
      · rcases ihNext rest rest' after after' with ⟨rfl, same⟩
        exact ⟨rfl, same⟩
      · subst rest rest'
        exact ⟨rfl, after.symm.trans after'⟩

/-- What is put on record for some nodes. -/
def Logs (visitor : Visitor σ) (nodes : Nodes Text) : Prop :=
  ∀ state log, ∃ made,
    accept visitor.logged nodes (state, log) = (accept visitor nodes state, log ++ made) ∧
      Visits nodes made ∧ visitor.Answers made state (accept visitor nodes state)

/-- Nothing is put on record for nodes that a refusal leaves out. -/
theorem Logs.ite {nodes : Nodes Text} (logs : Logs visitor nodes) (further : Bool) (state : σ)
    (log : List (Call × Bool)) :
    ∃ made,
      (if further then accept visitor.logged nodes (state, log) else (state, log)) =
        (if further then accept visitor nodes state else state, log ++ made) ∧
      (if further then Visits nodes made else made = []) ∧
        visitor.Answers made state (if further then accept visitor nodes state else state) := by
  cases further with
  | false => exact ⟨[], by simp, rfl, rfl⟩
  | true => exact logs state log

theorem logs (visitor : Visitor σ) (nodes : Nodes Text) : Logs visitor nodes := by
  induction nodes with
  | nil => exact fun state log => ⟨[], by simp [accept], rfl, rfl⟩
  | leaf node next ih =>
      intro state log
      rcases visited : visitor.visit node state with ⟨further, state'⟩
      rcases ih.ite further state' (log ++ [(.visit node, further)]) with
        ⟨made, same, visits, answers⟩
      refine ⟨(.visit node, further) :: made, ?_, ⟨further, made, rfl, visits⟩, ?_⟩
      · rw [accept_leaf visited, accept_leaf (Visitor.logged_visit visited log), same,
          List.append_assoc, List.singleton_append]
      · rw [accept_leaf visited]
        exact .cons visited answers
  | element name attributes firstChild next ihFirst ihNext =>
      intro state log
      rcases entered : visitor.visitEnter name attributes state with ⟨enter, state'⟩
      rcases ihFirst.ite enter state' (log ++ [(.visitEnter name attributes, enter)]) with
        ⟨inner, below, visits, inside⟩
      rcases left : visitor.visitExit name
        (if enter then accept visitor firstChild state' else state') with ⟨further, state''⟩
      have left' := Visitor.logged_visitExit left
        (log ++ [(.visitEnter name attributes, enter)] ++ inner)
      rw [← below] at left'
      rcases ihNext.ite further state'' (log ++ [(.visitEnter name attributes, enter)] ++ inner ++
        [(.visitExit name, further)]) with ⟨others, same, visits', after⟩
      refine ⟨(.visitEnter name attributes, enter) :: (inner ++ (.visitExit name, further) ::
        others), ?_, ⟨enter, inner, further, others, rfl, visits, visits'⟩, ?_⟩
      · rw [accept_element entered left,
          accept_element (Visitor.logged_visitEnter entered log) left', same]
        simp only [List.append_assoc, List.cons_append, List.nil_append]
      · rw [accept_element entered left]
        exact .cons entered
          ((visitor.answers_append _ _ _ _).mpr ⟨_, inside, .cons left after⟩)

/-! ## Matched calls -/

/-- The elements that are open after some calls, if every exit is of the last one that was
entered. -/
def opened : List Text → List Call → Option (List Text)
  | stack, [] => some stack
  | stack, .visitEnter name _ :: others => opened (name :: stack) others
  | stack, .visit _ :: others => opened stack others
  | [], .visitExit _ :: _ => none
  | name :: stack, .visitExit name' :: others => if name' = name then opened stack others else none

theorem Visits.opened {nodes : Nodes Text} {made : List (Call × Bool)}
    (visits : Visits nodes made) (stack : List Text) (others : List Call) :
    opened stack (made.map Prod.fst ++ others) = opened stack others := by
  induction nodes generalizing made stack others with
  | nil =>
      cases visits
      rfl
  | leaf node next ih =>
      rcases visits with ⟨further, after, rfl, rest⟩
      rw [List.map_cons, List.cons_append, Xml.opened]
      split_ifs at rest
      · exact ih rest stack others
      · rw [rest, List.map_nil, List.nil_append]
  | element name attributes firstChild next ihFirst ihNext =>
      rcases visits with ⟨enter, inner, further, after, rfl, below, rest⟩
      have inside (calls : List Call) : Xml.opened (name :: stack) (inner.map Prod.fst ++ calls) =
          Xml.opened (name :: stack) calls := by
        split_ifs at below
        · exact ihFirst below _ _
        · rw [below, List.map_nil, List.nil_append]
      rw [List.map_cons, List.cons_append, List.map_append, List.append_assoc, Xml.opened, inside,
        List.map_cons, List.cons_append, Xml.opened, if_pos rfl]
      split_ifs at rest
      · exact ihNext rest stack others
      · rw [rest, List.map_nil, List.nil_append]

/-- A visitor gets the calls that its own answers leave of all calls, no others, and
computes what it computes unobserved.  Every element that is entered is left again, the
last one first. -/
theorem accept_calls (visitor : Visitor σ) (nodes : Nodes Text) (state : σ) :
    ∃ made, accept visitor.logged nodes (state, []) = (accept visitor nodes state, made) ∧
      Visits nodes made ∧ visitor.Answers made state (accept visitor nodes state) ∧
      (∀ other final, Visits nodes other → visitor.Answers other state final → other = made) ∧
      opened [] (made.map Prod.fst) = some [] := by
  rcases logs visitor nodes state [] with ⟨made, same, visits, answers⟩
  refine ⟨made, same, visits, answers, fun other final visits' answers' => ?_, ?_⟩
  · exact (visits'.unique visits answers' answers).1
  · have whole := visits.opened [] []
    rwa [List.append_nil] at whole

end Visits

end SandPlatform.Xml
