import Mathlib.Logic.Function.Basic
import SandPlatform.Foundation.Linked
import SandPlatform.Xml.Reading

/-!
# The nodes in memory

A node points to its parent, to its first and its last child and to its siblings.  While
only detached nodes are inserted, these pointers represent a list of children for every
node, and each operation does to the lists what its name says.
-/

namespace SandPlatform.Xml

open SandPlatform.Foundation
open Function (update)

universe u

/-- The pointers of all nodes, and the names of those that are elements. -/
structure Dom (ι : Type u) where
  parent : ι → Option ι
  firstChild : ι → Option ι
  lastChild : ι → Option ι
  prev : ι → Option ι
  next : ι → Option ι
  elementName : ι → Option Text

namespace Dom

variable {ι : Type u} [DecidableEq ι]

/-! ## XMLNode -/

/-- `InsertEndChild`: the new child is behind the last one, or is the only one. -/
def insertEndChild (this addThis : ι) (dom : Dom ι) : Dom ι :=
  match dom.lastChild this with
  | some last =>
      { dom with
        next := update (update dom.next last (some addThis)) addThis none
        prev := update dom.prev addThis (some last)
        lastChild := update dom.lastChild this (some addThis)
        parent := update dom.parent addThis (some this) }
  | none =>
      { dom with
        firstChild := update dom.firstChild this (some addThis)
        lastChild := update dom.lastChild this (some addThis)
        prev := update dom.prev addThis none
        next := update dom.next addThis none
        parent := update dom.parent addThis (some this) }

/-- `InsertFirstChild`: the new child is in front of the first one, or is the only one. -/
def insertFirstChild (this addThis : ι) (dom : Dom ι) : Dom ι :=
  match dom.firstChild this with
  | some first =>
      { dom with
        prev := update (update dom.prev first (some addThis)) addThis none
        next := update dom.next addThis (some first)
        firstChild := update dom.firstChild this (some addThis)
        parent := update dom.parent addThis (some this) }
  | none =>
      { dom with
        firstChild := update dom.firstChild this (some addThis)
        lastChild := update dom.lastChild this (some addThis)
        prev := update dom.prev addThis none
        next := update dom.next addThis none
        parent := update dom.parent addThis (some this) }

/-- Nothing is done behind a node that is not a child. -/
def insertAfterChild (this afterThis addThis : ι) (dom : Dom ι) : Dom ι :=
  if dom.parent afterThis ≠ some this then
    dom
  else
    match dom.next afterThis with
    | none => dom.insertEndChild this addThis
    | some following =>
        { dom with
          prev := update (update dom.prev addThis (some afterThis)) following (some addThis)
          next := update (update dom.next addThis (some following)) afterThis (some addThis)
          parent := update dom.parent addThis (some this) }

/-- `Unlink`: the neighbours of the child are joined, and its parent points past it. -/
def unlink (this child : ι) (dom : Dom ι) : Dom ι :=
  { dom with
    firstChild :=
      if dom.firstChild this = some child then
        update dom.firstChild this (dom.next child)
      else
        dom.firstChild
    lastChild :=
      if dom.lastChild this = some child then
        update dom.lastChild this (dom.prev child)
      else
        dom.lastChild
    next :=
      match dom.prev child with
      | some before => update dom.next before (dom.next child)
      | none => dom.next
    prev :=
      match dom.next child with
      | some after => update dom.prev after (dom.prev child)
      | none => dom.prev
    parent := update dom.parent child none }

/-- The loop of `DeleteChildren`, with the destructors of the children: the nodes that
are given back to their pools, in their order. -/
def deleteChildren : Nat → ι → Dom ι → Dom ι × List ι
  | 0, _, dom => (dom, [])
  | count + 1, this, dom =>
      match dom.firstChild this with
      | none =>
          ({ dom with
              firstChild := update dom.firstChild this none
              lastChild := update dom.lastChild this none }, [])
      | some node =>
          let (dom, below) := deleteChildren count node (dom.unlink this node)
          let (dom, further) := deleteChildren count this dom
          (dom, below ++ node :: further)

/-! ## The lists of children -/

/-- The pointers represent the children of a node. -/
structure HasChildren (dom : Dom ι) (this : ι) (children : List ι) : Prop where
  first : dom.firstChild this = children.head?
  last : dom.lastChild this = children.getLast?
  chain : Chain dom.prev dom.next none children none
  nodup : children.Nodup

/-- The pointers represent a list of children for every node. -/
structure Represents (dom : Dom ι) (children : ι → List ι) : Prop where
  lists : ∀ this, dom.HasChildren this (children this)
  parents : ∀ this child, dom.parent child = some this ↔ child ∈ children this

section Operations

variable {dom : Dom ι} {children : ι → List ι} {this addThis child other : ι}

omit [DecidableEq ι] in
theorem Represents.unique (represents : dom.Represents children)
    (inThis : child ∈ children this) (inOther : child ∈ children other) : other = this := by
  have first := (represents.parents this child).mpr inThis
  have second := (represents.parents other child).mpr inOther
  rw [first] at second
  exact (Option.some.inj second).symm

omit [DecidableEq ι] in
theorem Represents.detached (represents : dom.Represents children)
    (detached : dom.parent addThis = none) (other : ι) : addThis ∉ children other := by
  intro member
  rw [← represents.parents other addThis, detached] at member
  cases member

omit [DecidableEq ι] in
/-- The lists of other nodes do not depend on what is changed in one list. -/
theorem HasChildren.frame {dom' : Dom ι} {nodes : List ι} (has : dom.HasChildren other nodes)
    (first : dom'.firstChild other = dom.firstChild other)
    (last : dom'.lastChild other = dom.lastChild other)
    (links : ∀ node ∈ nodes, dom'.prev node = dom.prev node ∧ dom'.next node = dom.next node) :
    dom'.HasChildren other nodes :=
  ⟨first.trans has.first, last.trans has.last, has.chain.congr links, has.nodup⟩

/-- A node is inserted into one list. -/
theorem Represents.insert {dom' : Dom ι} {nodes : List ι}
    (represents : dom.Represents children) (detached : dom.parent addThis = none)
    (added : nodes.Perm (addThis :: children this))
    (first : dom'.firstChild this = nodes.head?) (last : dom'.lastChild this = nodes.getLast?)
    (chain : Chain dom'.prev dom'.next none nodes none)
    (parent : dom'.parent = update dom.parent addThis (some this))
    (frame : ∀ other, other ≠ this → dom'.HasChildren other (children other)) :
    dom'.Represents (update children this nodes) := by
  have distinct : nodes.Nodup := added.nodup_iff.mpr <|
    List.nodup_cons.mpr ⟨represents.detached detached this, (represents.lists this).nodup⟩
  have members (node : ι) : node ∈ nodes ↔ node = addThis ∨ node ∈ children this :=
    added.mem_iff.trans List.mem_cons
  constructor
  · intro other
    by_cases same : other = this
    · subst same
      rw [Function.update_self]
      exact ⟨first, last, chain, distinct⟩
    · rw [Function.update_of_ne same]
      exact frame other same
  · intro other child
    rw [parent]
    by_cases isNew : child = addThis
    · subst isNew
      rw [Function.update_self, Option.some.injEq]
      by_cases same : other = this
      · subst same
        simp [members]
      · rw [Function.update_of_ne same]
        exact ⟨fun this' => absurd this'.symm same,
          fun member => absurd member (represents.detached detached other)⟩
    · rw [Function.update_of_ne isNew, represents.parents]
      by_cases same : other = this
      · subst same
        simp [members, isNew]
      · rw [Function.update_of_ne same]

theorem insertEndChild_represents (represents : dom.Represents children)
    (detached : dom.parent addThis = none) :
    (dom.insertEndChild this addThis).Represents
      (update children this (children this ++ [addThis])) := by
  have absent := represents.detached detached
  have has := represents.lists this
  rcases List.eq_nil_or_concat (children this) with empty | ⟨front, last, whole⟩
  · have noLast : dom.lastChild this = none := by rw [has.last, empty]; rfl
    refine represents.insert detached (List.perm_append_singleton _ _) ?_ ?_ ?_
      (by simp [insertEndChild, noLast]) ?_
    · simp [insertEndChild, noLast, empty]
    · simp [insertEndChild, noLast]
    · simp [insertEndChild, noLast, empty, chain_singleton]
    · intro other different
      refine (represents.lists other).frame ?_ ?_ ?_
      · simp [insertEndChild, noLast, different]
      · simp [insertEndChild, noLast, different]
      · intro node member
        have notAdded : node ≠ addThis := fun same => absent other (same ▸ member)
        simp [insertEndChild, noLast, notAdded]
  · rw [List.concat_eq_append] at whole
    have isLast : dom.lastChild this = some last := by rw [has.last, whole]; simp
    have inThis : last ∈ children this := by simp [whole]
    have notLast : last ≠ addThis := fun same => absent this (same ▸ inThis)
    refine represents.insert detached (List.perm_append_singleton _ _) ?_
      (by simp [insertEndChild, isLast]) ?_ (by simp [insertEndChild, isLast]) ?_
    · simp [insertEndChild, isLast, has.first, whole]
    · have chain := has.chain
      rw [whole, chain_append, chain_singleton] at chain
      rw [whole, chain_append, chain_append, chain_singleton, chain_singleton]
      have inFront : ∀ node ∈ front, node ≠ last ∧ node ≠ addThis := by
        intro node member
        have nodup := has.nodup
        rw [whole, List.nodup_append] at nodup
        exact ⟨nodup.2.2 node member last (List.mem_singleton.mpr rfl), fun same =>
          absent this (same ▸ by simp [whole, member])⟩
      refine ⟨⟨chain.1.congr fun node member => ?_, ?_⟩, ?_⟩
      · simp [insertEndChild, isLast, inFront node member]
      · simp [insertEndChild, isLast, notLast, chain.2.1]
      · simp [insertEndChild, isLast]
    · intro other different
      refine (represents.lists other).frame ?_ ?_ ?_
      · simp [insertEndChild, isLast]
      · simp [insertEndChild, isLast, different]
      · intro node member
        have notAdded : node ≠ addThis := fun same => absent other (same ▸ member)
        have notLast' : node ≠ last := by
          rintro rfl
          exact different (represents.unique inThis member)
        simp [insertEndChild, isLast, notAdded, notLast']

theorem insertFirstChild_represents (represents : dom.Represents children)
    (detached : dom.parent addThis = none) :
    (dom.insertFirstChild this addThis).Represents
      (update children this (addThis :: children this)) := by
  have absent := represents.detached detached
  have has := represents.lists this
  cases whole : children this with
  | nil =>
      have noFirst : dom.firstChild this = none := by rw [has.first, whole]; rfl
      refine represents.insert detached (by rw [whole]) ?_ ?_ ?_
        (by simp [insertFirstChild, noFirst]) ?_
      · simp [insertFirstChild, noFirst]
      · simp [insertFirstChild, noFirst]
      · simp [insertFirstChild, noFirst, chain_singleton]
      · intro other different
        refine (represents.lists other).frame ?_ ?_ ?_
        · simp [insertFirstChild, noFirst, different]
        · simp [insertFirstChild, noFirst, different]
        · intro node member
          have notAdded : node ≠ addThis := fun same => absent other (same ▸ member)
          simp [insertFirstChild, noFirst, notAdded]
  | cons first others =>
      have isFirst : dom.firstChild this = some first := by rw [has.first, whole]; rfl
      have inThis : first ∈ children this := by simp [whole]
      have notFirst : first ≠ addThis := fun same => absent this (same ▸ inThis)
      have nodup := has.nodup
      rw [whole] at nodup
      refine represents.insert detached (by rw [whole]) (by simp [insertFirstChild, isFirst]) ?_
        ?_ (by simp [insertFirstChild, isFirst]) ?_
      · simp [insertFirstChild, isFirst, has.last, whole]
      · have chain := has.chain
        rw [whole] at chain
        refine ⟨by simp [insertFirstChild, isFirst], by simp [insertFirstChild, isFirst],
          by simp [insertFirstChild, isFirst, notFirst], ?_, chain.2.2.congr ?_⟩
        · simp [insertFirstChild, isFirst, notFirst, chain.2.1]
        · intro node member
          have notFirst' : node ≠ first := by
            rintro rfl
            exact (List.nodup_cons.mp nodup).1 member
          have notAdded : node ≠ addThis :=
            fun same => absent this (same ▸ by simp [whole, member])
          simp [insertFirstChild, isFirst, notFirst', notAdded]
      · intro other different
        refine (represents.lists other).frame ?_ ?_ ?_
        · simp [insertFirstChild, isFirst, different]
        · simp [insertFirstChild, isFirst]
        · intro node member
          have notAdded : node ≠ addThis := fun same => absent other (same ▸ member)
          have notFirst' : node ≠ first := by
            rintro rfl
            exact different (represents.unique inThis member)
          simp [insertFirstChild, isFirst, notAdded, notFirst']

theorem insertAfterChild_represents {afterThis : ι} {front back : List ι}
    (represents : dom.Represents children) (detached : dom.parent addThis = none)
    (whole : children this = front ++ afterThis :: back) :
    (dom.insertAfterChild this afterThis addThis).Represents
      (update children this (front ++ afterThis :: addThis :: back)) := by
  have absent := represents.detached detached
  have has := represents.lists this
  have inThis : afterThis ∈ children this := by simp [whole]
  have isChild : dom.parent afterThis = some this := (represents.parents this afterThis).mpr inThis
  have chain := has.chain
  rw [whole, chain_append, Chain] at chain
  cases back with
  | nil =>
      have noNext : dom.next afterThis = none := by simpa using chain.2.2.1
      have same : dom.insertAfterChild this afterThis addThis =
          dom.insertEndChild this addThis := by
        simp [insertAfterChild, isChild, noNext]
      have appended : (dom.insertEndChild this addThis).Represents
          (update children this (children this ++ [addThis])) :=
        insertEndChild_represents represents detached
      rw [whole] at appended
      rw [same]
      simpa using appended
  | cons following back =>
      have isNext : dom.next afterThis = some following := by simpa using chain.2.2.1
      have nodup := has.nodup
      rw [whole] at nodup
      have inThis' : following ∈ children this := by simp [whole]
      have notAfter : afterThis ≠ addThis := fun same => absent this (same ▸ inThis)
      have notFollowing : following ≠ addThis := fun same => absent this (same ▸ inThis')
      rw [List.nodup_append, List.nodup_cons, List.nodup_cons] at nodup
      rcases nodup with ⟨nodupFront, ⟨notIn, notIn', nodupBack⟩, apart⟩
      rw [List.mem_cons, not_or] at notIn
      have links : ∀ node, node ≠ addThis → node ≠ afterThis → node ≠ following →
          (dom.insertAfterChild this afterThis addThis).prev node = dom.prev node ∧
            (dom.insertAfterChild this afterThis addThis).next node = dom.next node := by
        intro node notAdded notAfter' notFollowing'
        simp [insertAfterChild, isChild, isNext, notAdded, notAfter', notFollowing']
      have added : (front ++ afterThis :: addThis :: following :: back).Perm
          (addThis :: children this) := by
        rw [whole]
        simpa using @List.perm_middle _ addThis (front ++ [afterThis]) (following :: back)
      refine represents.insert detached added ?_ ?_ ?_
        (by simp [insertAfterChild, isChild, isNext]) ?_
      · simp [insertAfterChild, isChild, isNext, has.first, whole]
      · simp [insertAfterChild, isChild, isNext, has.last, whole]
      · rw [chain_append]
        refine ⟨chain.1.congr fun node member => links node ?_ ?_ ?_, ?_, ?_, ?_, ?_, ?_, ?_,
          chain.2.2.2.2.2.congr fun node member => links node ?_ ?_ ?_⟩
        · exact fun same => absent this (same ▸ by simp [whole, member])
        · exact apart node member afterThis List.mem_cons_self
        · exact apart node member following (by simp)
        · simp [insertAfterChild, isChild, isNext, notAfter, notIn.1, chain.2.1]
        · simp [insertAfterChild, isChild, isNext]
        · simp [insertAfterChild, isChild, isNext, notFollowing.symm]
        · simp [insertAfterChild, isChild, isNext, notAfter.symm]
        · simp [insertAfterChild, isChild, isNext]
        · have nextOf := chain.2.2.2.2.1
          simp [insertAfterChild, isChild, isNext, notFollowing, Ne.symm notIn.1, nextOf]
        · exact fun same => absent this (same ▸ by simp [whole, member])
        · rintro rfl
          exact notIn.2 member
        · rintro rfl
          exact notIn' member
      · intro other different
        refine (represents.lists other).frame ?_ ?_ fun node member => links node ?_ ?_ ?_
        · simp [insertAfterChild, isChild, isNext]
        · simp [insertAfterChild, isChild, isNext]
        · exact fun same => absent other (same ▸ member)
        · rintro rfl
          exact different (represents.unique inThis member)
        · rintro rfl
          exact different (represents.unique inThis' member)

theorem unlink_prev (this child node : ι) (dom : Dom ι) :
    (dom.unlink this child).prev node =
      if dom.next child = some node then dom.prev child else dom.prev node := by
  unfold unlink
  cases dom.next child with
  | none => simp
  | some after =>
      by_cases same : node = after
      · simp [same]
      · simp [same, Ne.symm same]

theorem unlink_next (this child node : ι) (dom : Dom ι) :
    (dom.unlink this child).next node =
      if dom.prev child = some node then dom.next child else dom.next node := by
  unfold unlink
  cases dom.prev child with
  | none => simp
  | some before =>
      by_cases same : node = before
      · simp [same]
      · simp [same, Ne.symm same]

omit [DecidableEq ι] in
/-- What a child is linked to. -/
theorem Represents.links {front back : List ι} (represents : dom.Represents children)
    (whole : children this = front ++ child :: back) :
    dom.prev child = front.getLast? ∧ dom.next child = back.head? ∧
      Chain dom.prev dom.next none front (some child) ∧
        Chain dom.prev dom.next (some child) back none := by
  have chain := (represents.lists this).chain
  rw [whole, chain_append, Chain] at chain
  exact ⟨by simpa using chain.2.1, by simpa using chain.2.2.1, chain.1, chain.2.2.2⟩

theorem unlink_chain {front back : List ι} (represents : dom.Represents children)
    (whole : children this = front ++ child :: back) :
    Chain (dom.unlink this child).prev (dom.unlink this child).next none (front ++ back)
      none := by
  rcases represents.links whole with ⟨isPrev, isNext, chainFront, chainBack⟩
  have nodup := (represents.lists this).nodup
  rw [whole, List.nodup_append, List.nodup_cons] at nodup
  rcases nodup with ⟨nodupFront, ⟨notInBack, nodupBack⟩, apart⟩
  rw [chain_append]
  constructor
  · rcases List.eq_nil_or_concat front with rfl | ⟨others, last, rfl⟩
    · trivial
    · rw [List.concat_eq_append] at chainFront isPrev nodupFront apart ⊢
      rw [chain_append, chain_singleton] at chainFront ⊢
      have notHead (node : ι) (member : node ∈ others ++ [last]) :
          dom.next child ≠ some node := by
        intro same
        rw [isNext] at same
        exact apart node member node
          (List.mem_cons_of_mem _ (List.mem_of_head? same)) rfl
      refine ⟨chainFront.1.congr fun node member => ?_, ?_, ?_⟩
      · have notLast : dom.prev child ≠ some node := by
          intro same
          rw [isPrev, List.getLast?_concat] at same
          rw [List.nodup_append] at nodupFront
          exact nodupFront.2.2 node member last (by simp) (Option.some.inj same).symm
        rw [unlink_prev, unlink_next, if_neg (notHead node (by simp [member])),
          if_neg notLast]
        exact ⟨rfl, rfl⟩
      · rw [unlink_prev, if_neg (notHead last (by simp)), chainFront.2.1]
      · rw [unlink_next, if_pos (by rw [isPrev, List.getLast?_concat]), isNext]
        simp
  · cases back with
    | nil => trivial
    | cons first others =>
        rw [Chain] at chainBack
        rw [List.nodup_cons] at nodupBack
        have notLast (node : ι) (member : node ∈ first :: others) :
            dom.prev child ≠ some node := by
          intro same
          rw [isPrev] at same
          exact apart node (List.mem_of_getLast? same) node
            (List.mem_cons_of_mem _ member) rfl
        refine ⟨?_, ?_, chainBack.2.2.congr fun node member => ?_⟩
        · rw [unlink_prev, if_pos (by rw [isNext]; rfl), isPrev]
          simp
        · rw [unlink_next, if_neg (notLast first List.mem_cons_self), chainBack.2.1]
        · have notHead : dom.next child ≠ some node := by
            intro same
            rw [isNext] at same
            cases same
            exact nodupBack.1 member
          rw [unlink_prev, unlink_next, if_neg notHead,
            if_neg (notLast node (List.mem_cons_of_mem _ member))]
          exact ⟨rfl, rfl⟩

theorem unlink_represents {front back : List ι} (represents : dom.Represents children)
    (whole : children this = front ++ child :: back) :
    (dom.unlink this child).Represents (update children this (front ++ back)) := by
  rcases represents.links whole with ⟨isPrev, isNext, _, _⟩
  have has := represents.lists this
  have nodup := has.nodup
  rw [whole, List.nodup_append, List.nodup_cons] at nodup
  rcases nodup with ⟨nodupFront, ⟨notInBack, nodupBack⟩, apart⟩
  have inThis : child ∈ children this := by simp [whole]
  constructor
  · intro other
    by_cases same : other = this
    · subst same
      rw [Function.update_self]
      refine ⟨?_, ?_, unlink_chain represents whole, ?_⟩
      · cases front with
        | nil =>
            have isFirst : dom.firstChild other = some child := by rw [has.first, whole]; rfl
            simp [unlink, isFirst, isNext]
        | cons first others =>
            have isFirst : dom.firstChild other = some first := by rw [has.first, whole]; rfl
            have different : first ≠ child := apart first (by simp) child (by simp)
            simp [unlink, isFirst, different]
      · rcases List.eq_nil_or_concat back with rfl | ⟨others, last, rfl⟩
        · have isLast : dom.lastChild other = some child := by rw [has.last, whole]; simp
          simp [unlink, isLast, isPrev]
        · rw [List.concat_eq_append] at whole notInBack ⊢
          have isLast : dom.lastChild other = some last := by
            rw [has.last, whole, ← List.cons_append, ← List.append_assoc, List.getLast?_concat]
          have different : last ≠ child := by
            rintro rfl
            exact notInBack (by simp)
          simp [unlink, isLast, different]
      · rw [List.nodup_append]
        exact ⟨nodupFront, nodupBack, fun node member node' member' =>
          apart node member node' (List.mem_cons_of_mem _ member')⟩
    · rw [Function.update_of_ne same]
      refine (represents.lists other).frame ?_ ?_ fun node member => ?_
      · unfold unlink
        split_ifs <;> simp [same]
      · unfold unlink
        split_ifs <;> simp [same]
      · have outside : node ∉ front ∧ node ∉ back := by
          constructor
          · exact fun inFront => same (represents.unique (by simp [whole, inFront]) member)
          · exact fun inBack => same (represents.unique (by simp [whole, inBack]) member)
        have notLast : dom.prev child ≠ some node := by
          rw [isPrev]
          exact fun last => outside.1 (List.mem_of_getLast? last)
        have notHead : dom.next child ≠ some node := by
          rw [isNext]
          exact fun head => outside.2 (List.mem_of_head? head)
        rw [unlink_prev, unlink_next, if_neg notHead, if_neg notLast]
        exact ⟨rfl, rfl⟩
  · intro other node
    have parent : (dom.unlink this child).parent = update dom.parent child none := rfl
    rw [parent]
    by_cases removed : node = child
    · subst removed
      rw [Function.update_self]
      refine ⟨fun none => absurd none (by simp), fun member => ?_⟩
      by_cases same : other = this
      · subst same
        rw [Function.update_self, List.mem_append] at member
        rcases member with inFront | inBack
        · exact absurd rfl (apart node inFront node List.mem_cons_self)
        · exact absurd inBack notInBack
      · rw [Function.update_of_ne same] at member
        exact absurd (represents.unique inThis member) same
    · rw [Function.update_of_ne removed, represents.parents]
      by_cases same : other = this
      · subst same
        simp [whole, removed]
      · rw [Function.update_of_ne same]

end Operations

end Dom

end SandPlatform.Xml
