import SandPlatform.Foundation.Run
import SandPlatform.Xml.Dom

/-!
# Editing and searching nodes

Over any run of insertions of detached nodes and of removals, the pointers of the nodes
represent the lists that the same run makes of lists.  The searches find the first or
the last element of these lists, and `DeleteChildren` gives back every node of a tree
once, the children before their parent.
-/

namespace SandPlatform.Xml

open SandPlatform.Foundation
open Function (update)

universe u

namespace Dom

variable {ι : Type u} [DecidableEq ι]

/-- Nodes of which none has a parent or children. -/
def detached (elementName : ι → Option Text) : Dom ι :=
  ⟨fun _ => none, fun _ => none, fun _ => none, fun _ => none, fun _ => none, elementName⟩

omit [DecidableEq ι] in
theorem detached_represents (elementName : ι → Option Text) :
    (detached elementName).Represents fun _ => [] := by
  constructor
  · intro this
    exact ⟨rfl, rfl, chain_nil, List.nodup_nil⟩
  · intro this child
    simp [detached]

/-! ## Runs of edits -/

/-- An edit of a document whose nodes are all there. -/
inductive Edit (ι : Type u)
  | insertEndChild (this addThis : ι)
  | insertFirstChild (this addThis : ι)
  | insertAfterChild (this afterThis addThis : ι)
  | unlink (this child : ι)

/-- What an edit does to the pointers. -/
def edit (dom : Dom ι) : Edit ι → Dom ι
  | .insertEndChild this addThis => dom.insertEndChild this addThis
  | .insertFirstChild this addThis => dom.insertFirstChild this addThis
  | .insertAfterChild this afterThis addThis => dom.insertAfterChild this afterThis addThis
  | .unlink this child => dom.unlink this child

/-- A node that is inserted has no parent, and one that is unlinked is a child. -/
def Allowed (dom : Dom ι) : Edit ι → Prop
  | .insertEndChild _ addThis => dom.parent addThis = none
  | .insertFirstChild _ addThis => dom.parent addThis = none
  | .insertAfterChild _ _ addThis => dom.parent addThis = none
  | .unlink this child => dom.parent child = some this

/-- A list with a node behind a given one. -/
def insertBehind (afterThis addThis : ι) : List ι → List ι
  | [] => []
  | node :: others =>
      if node = afterThis then node :: addThis :: others
      else node :: insertBehind afterThis addThis others

/-- The edit of lists that an edit of nodes stands for. -/
def editLists (children : ι → List ι) : Edit ι → ι → List ι
  | .insertEndChild this addThis => update children this (children this ++ [addThis])
  | .insertFirstChild this addThis => update children this (addThis :: children this)
  | .insertAfterChild this afterThis addThis =>
      update children this (insertBehind afterThis addThis (children this))
  | .unlink this child => update children this ((children this).erase child)

section Runs

variable {dom : Dom ι} {children : ι → List ι}

theorem insertBehind_append {front back : List ι} {afterThis : ι} (addThis : ι)
    (first : afterThis ∉ front) :
    insertBehind afterThis addThis (front ++ afterThis :: back) =
      front ++ afterThis :: addThis :: back := by
  induction front with
  | nil => simp [insertBehind]
  | cons node others ih =>
      rw [List.mem_cons, not_or] at first
      rw [List.cons_append, insertBehind, if_neg (Ne.symm first.1), ih first.2]
      rfl

theorem insertBehind_of_not_mem {nodes : List ι} {afterThis : ι} (addThis : ι)
    (absent : afterThis ∉ nodes) : insertBehind afterThis addThis nodes = nodes := by
  induction nodes with
  | nil => rfl
  | cons node others ih =>
      rw [List.mem_cons, not_or] at absent
      rw [insertBehind, if_neg (Ne.symm absent.1), ih absent.2]

theorem edit_represents {step : Edit ι} (represents : dom.Represents children)
    (allowed : dom.Allowed step) :
    (dom.edit step).Represents (editLists children step) := by
  cases step with
  | insertEndChild this addThis => exact insertEndChild_represents represents allowed
  | insertFirstChild this addThis => exact insertFirstChild_represents represents allowed
  | insertAfterChild this afterThis addThis =>
      by_cases isChild : afterThis ∈ children this
      · rcases List.append_of_mem isChild with ⟨front, back, whole⟩
        have nodup := (represents.lists this).nodup
        rw [whole, List.nodup_append] at nodup
        have first : afterThis ∉ front := fun member =>
          nodup.2.2 afterThis member afterThis List.mem_cons_self rfl
        have inserted := insertAfterChild_represents represents allowed whole
        rw [editLists, whole, insertBehind_append addThis first]
        exact inserted
      · have noParent : dom.parent afterThis ≠ some this := by
          rwa [ne_eq, represents.parents]
        have nothing : dom.insertAfterChild this afterThis addThis = dom := by
          rw [insertAfterChild, if_pos noParent]
        rw [editLists, insertBehind_of_not_mem addThis isChild, Function.update_eq_self]
        change (dom.insertAfterChild this afterThis addThis).Represents children
        rw [nothing]
        exact represents
  | unlink this child =>
      have isChild := (represents.parents this child).mp allowed
      rcases List.append_of_mem isChild with ⟨front, back, whole⟩
      have nodup := (represents.lists this).nodup
      rw [whole, List.nodup_append] at nodup
      have first : child ∉ front := fun member =>
        nodup.2.2 child member child List.mem_cons_self rfl
      have removed := unlink_represents represents whole
      rw [editLists, whole, List.erase_append_right _ first, List.erase_cons_head]
      exact removed

/-- Whatever is done to detached nodes and to children, the pointers represent the lists
to which the same was done. -/
theorem run_edit_represents {edits : List (Edit ι)} (represents : dom.Represents children)
    (allowed : Along edit Allowed dom edits) :
    (run edit dom edits).Represents (run editLists children edits) :=
  run_refines (fun _ _ _ => edit_represents) represents allowed

theorem run_edit_represents_moved :
    (run edit (detached fun _ : Nat => none) [.insertEndChild 0 1, .insertFirstChild 0 2,
      .insertAfterChild 0 2 3, .unlink 0 1, .insertEndChild 3 1]).Represents
    (run editLists (fun _ => []) [.insertEndChild 0 1, .insertFirstChild 0 2,
      .insertAfterChild 0 2 3, .unlink 0 1, .insertEndChild 3 1]) :=
  run_edit_represents (detached_represents _) ⟨rfl, rfl, rfl, rfl, rfl, trivial⟩

end Runs

/-! ## Searches -/

/-- A loop along pointers, up to the first node that is looked for. -/
def search (step : ι → Option ι) (test : ι → Bool) : Nat → Option ι → Option ι
  | 0, _ => none
  | _ + 1, none => none
  | count + 1, some node => if test node then some node else search step test count (step node)

/-- An element, of the name if there is one. -/
def isElement (dom : Dom ι) (value : Option Text) (node : ι) : Bool :=
  match dom.elementName node with
  | none => false
  | some name => value.all fun value => sameString name value

/-- The siblings compare the other way. -/
def isSibling (dom : Dom ι) (value : Option Text) (node : ι) : Bool :=
  match dom.elementName node with
  | none => false
  | some name => value.all fun value => sameString value name

/-- `FirstChildElement`; without a name any element will do. -/
def firstChildElement (count : Nat) (dom : Dom ι) (this : ι) (value : Option Text) : Option ι :=
  search dom.next (dom.isElement value) count (dom.firstChild this)

/-- `LastChildElement`. -/
def lastChildElement (count : Nat) (dom : Dom ι) (this : ι) (value : Option Text) : Option ι :=
  search dom.prev (dom.isElement value) count (dom.lastChild this)

/-- `NextSiblingElement`. -/
def nextSiblingElement (count : Nat) (dom : Dom ι) (this : ι) (value : Option Text) : Option ι :=
  search dom.next (dom.isSibling value) count (dom.next this)

/-- `PreviousSiblingElement`. -/
def previousSiblingElement (count : Nat) (dom : Dom ι) (this : ι) (value : Option Text) :
    Option ι :=
  search dom.prev (dom.isSibling value) count (dom.prev this)

section Searches

variable {dom : Dom ι} {children : ι → List ι} {this child : ι} {count : Nat}

omit [DecidableEq ι] in
theorem search_eq (step : ι → Option ι) (test : ι → Bool) (count : Nat) (start : Option ι) :
    search step test count start = (follow step count start).find? test := by
  induction count generalizing start with
  | zero => rfl
  | succ count ih =>
      cases start with
      | none => rfl
      | some node =>
          rw [search, follow, List.find?_cons, ih]
          cases test node <;> rfl

omit [DecidableEq ι] in
theorem firstChildElement_eq (represents : dom.Represents children)
    (enough : (children this).length ≤ count) (value : Option Text) :
    dom.firstChildElement count this value =
      (children this).find? (dom.isElement value) := by
  have has := represents.lists this
  rw [firstChildElement, search_eq, has.first, has.chain.follow_next enough]

omit [DecidableEq ι] in
theorem lastChildElement_eq (represents : dom.Represents children)
    (enough : (children this).length ≤ count) (value : Option Text) :
    dom.lastChildElement count this value =
      (children this).reverse.find? (dom.isElement value) := by
  have has := represents.lists this
  rw [lastChildElement, search_eq, has.last, has.chain.follow_prev enough]

variable {front back : List ι}

omit [DecidableEq ι] in
theorem nextSiblingElement_eq (represents : dom.Represents children)
    (whole : children this = front ++ child :: back) (enough : back.length ≤ count)
    (value : Option Text) :
    dom.nextSiblingElement count child value = back.find? (dom.isSibling value) := by
  rcases represents.links whole with ⟨_, isNext, _, chain⟩
  rw [nextSiblingElement, search_eq, isNext, chain.follow_next enough]

omit [DecidableEq ι] in
theorem previousSiblingElement_eq (represents : dom.Represents children)
    (whole : children this = front ++ child :: back) (enough : front.length ≤ count)
    (value : Option Text) :
    dom.previousSiblingElement count child value =
      front.reverse.find? (dom.isSibling value) := by
  rcases represents.links whole with ⟨isPrev, _, chain, _⟩
  rw [previousSiblingElement, search_eq, isPrev, chain.follow_prev enough]

omit [DecidableEq ι] in
/-- It makes no difference which way the names are compared. -/
theorem isSibling_eq (dom : Dom ι) (value : Option Text) :
    dom.isSibling value = dom.isElement value := by
  have symmetric (p q : Text) : sameString p q = sameString q p := by
    rw [Bool.eq_iff_iff, sameString, sameString, stringEqual_iff, stringEqual_iff, eq_comm]
  funext node
  simp only [isSibling, isElement, symmetric]

omit [DecidableEq ι] in
/-- The loop over `FirstChildElement` and `NextSiblingElement` visits the elements of the
name in their order, and the loop back visits them in reverse. -/
theorem elements_visited (represents : dom.Represents children)
    (enough : (children this).length ≤ count) (value : Option Text) :
    follow (fun node => dom.nextSiblingElement count node value) count
        (dom.firstChildElement count this value) =
      (children this).filter (dom.isElement value) ∧
    follow (fun node => dom.previousSiblingElement count node value) count
        (dom.lastChildElement count this value) =
      ((children this).filter (dom.isElement value)).reverse := by
  constructor
  · rw [firstChildElement_eq represents enough]
    apply follow_find _ enough
    intro front node back whole
    have shorter : back.length ≤ count := by
      rw [whole, List.length_append, List.length_cons] at enough
      omega
    rw [nextSiblingElement_eq represents whole shorter, isSibling_eq]
  · rw [lastChildElement_eq represents enough, ← List.filter_reverse]
    apply follow_find _ (by rwa [List.length_reverse])
    intro front node back reversed
    have whole : children this = back.reverse ++ node :: front.reverse := by
      rw [← List.reverse_reverse (children this), reversed]
      simp
    have shorter : back.reverse.length ≤ count := by
      rw [whole, List.length_append, List.length_cons] at enough
      omega
    rw [previousSiblingElement_eq represents whole shorter, isSibling_eq,
      List.reverse_reverse]

end Searches

/-- Two elements of one name below a node. -/
def twins : Dom Nat :=
  ((detached fun _ => some [0x61]).insertEndChild 0 1).insertEndChild 0 2

theorem twins_represents :
    twins.Represents (update (update (fun _ => []) 0 [1]) 0 [1, 2]) :=
  insertEndChild_represents (insertEndChild_represents (detached_represents _) rfl) rfl

theorem elements_visited_twins :
    follow (fun node => twins.nextSiblingElement 2 node (some [0x61])) 2
        (twins.firstChildElement 2 0 (some [0x61])) =
      [1, 2].filter (twins.isElement (some [0x61])) ∧
    follow (fun node => twins.previousSiblingElement 2 node (some [0x61])) 2
        (twins.lastChildElement 2 0 (some [0x61])) =
      ([1, 2].filter (twins.isElement (some [0x61]))).reverse :=
  @elements_visited _ twins _ 0 2 twins_represents (Nat.le_refl 2) (some [0x61])

/-! ## Deletion -/

/-- The nodes of the trees below some nodes, each one behind its children. -/
inductive Below (children : ι → List ι) : List ι → List ι → Prop
  | nil : Below children [] []
  | cons {node : ι} {nodes below further : List ι} (tree : Below children (children node) below)
      (others : Below children nodes further) :
      Below children (node :: nodes) (below ++ node :: further)

/-- Lists of which some nodes have none any more. -/
def without (children : ι → List ι) (gone : List ι) (node : ι) : List ι :=
  if node ∈ gone then [] else children node

theorem without_childless {children : ι → List ι} {gone : List ι}
    (childless : ∀ node ∈ gone, children node = []) : without children gone = children := by
  funext node
  rw [without]
  split_ifs with isGone
  · exact (childless node isGone).symm
  · rfl

/-- The first child goes with its tree, and then all others go with theirs. -/
theorem without_both (children : ι → List ι) (this node : ι) (nodes below further : List ι) :
    without (without (update children this nodes) (node :: below)) (this :: further) =
      without children (this :: (below ++ node :: further)) := by
  funext other
  by_cases isThis : other = this
  · simp [without, isThis]
  · simp only [without, List.mem_cons, List.mem_append, isThis, false_or,
      Function.update_of_ne isThis]
    split_ifs <;> simp_all

/-- A node without a first child has no last one either. -/
theorem cleared_eq {dom : Dom ι} {children : ι → List ι} {this : ι}
    (represents : dom.Represents children) (noFirst : dom.firstChild this = none) :
    ({ dom with
        firstChild := update dom.firstChild this none
        lastChild := update dom.lastChild this none } : Dom ι) = dom := by
  have isEmpty : children this = [] := by
    rw [(represents.lists this).first] at noFirst
    exact List.head?_eq_none_iff.mp noFirst
  have noLast : dom.lastChild this = none := by
    rw [(represents.lists this).last, isEmpty]
    rfl
  have sameFirst : update dom.firstChild this none = dom.firstChild := by
    rw [← noFirst, Function.update_eq_self]
  have sameLast : update dom.lastChild this none = dom.lastChild := by
    rw [← noLast, Function.update_eq_self]
  rw [sameFirst, sameLast]

/-- `DeleteChildren` deletes what is below a node, one node after another, and leaves
the pointers of all others as they were. -/
theorem deleteChildren_below {tree : ι → List ι} {nodes freed : List ι}
    (below : Below tree nodes freed) {this : ι} {dom : Dom ι} {children : ι → List ι}
    (represents : dom.Represents children) (own : children this = nodes)
    (same : ∀ node ∈ freed, children node = tree node) (nodup : (this :: freed).Nodup)
    {count : Nat} (enough : freed.length < count) :
    ∃ dom', deleteChildren count this dom = (dom', freed) ∧
      dom'.Represents (without children (this :: freed)) := by
  induction below generalizing this dom children count with
  | nil =>
      cases count with
      | zero => simp at enough
      | succ count =>
          have noFirst : dom.firstChild this = none := by
            rw [(represents.lists this).first, own]
            rfl
          refine ⟨dom, ?_, ?_⟩
          · rw [deleteChildren, noFirst]
            simp only
            rw [cleared_eq represents noFirst]
          · rw [without_childless (by simp [own])]
            exact represents
  | @cons node nodes below further belowNode others ihNode ihOthers =>
      cases count with
      | zero => simp at enough
      | succ count =>
          have has := represents.lists this
          have isFirst : dom.firstChild this = some node := by rw [has.first, own]; rfl
          rw [List.length_append, List.length_cons] at enough
          have unlinked : (dom.unlink this node).Represents (update children this ([] ++ nodes)) :=
            unlink_represents represents own
          rw [List.nil_append] at unlinked
          rw [List.nodup_cons, List.nodup_append, List.nodup_cons] at nodup
          rcases nodup with ⟨notThis, nodupBelow, ⟨notFurther, nodupFurther⟩, apart⟩
          simp only [List.mem_append, List.mem_cons, not_or] at notThis
          rcases notThis with ⟨thisNotBelow, thisNotNode, thisNotFurther⟩
          have nodeNotBelow : node ∉ below := fun member =>
            apart node member node List.mem_cons_self rfl
          have elsewhere : ∀ {other}, other ≠ this →
              update children this nodes other = children other :=
            fun different => Function.update_of_ne different nodes children
          have untouched : ∀ {other}, other ≠ this → other ≠ node → other ∉ below →
              without (update children this nodes) (node :: below) other = children other := by
            intro other notThis notNode notBelow
            rw [without, if_neg (by simp [notNode, notBelow]), elsewhere notThis]
          have shorter : below.length < count ∧ further.length < count := by omega
          -- The tree of the first child goes, while it is a tree of its own.
          have ownTree : update children this nodes node = tree node :=
            (elsewhere (Ne.symm thisNotNode)).trans (same node (by simp))
          have sameBelow : ∀ other ∈ below, update children this nodes other = tree other := by
            intro other member
            rw [elsewhere fun isThis => thisNotBelow (isThis ▸ member)]
            exact same other (by simp [member])
          rcases ihNode unlinked ownTree sameBelow (List.nodup_cons.mpr ⟨nodeNotBelow, nodupBelow⟩)
            shorter.1 with ⟨dom₁, deleted, represents₁⟩
          -- The other children are left, with their trees.
          have ownRest : without (update children this nodes) (node :: below) this = nodes := by
            rw [without, if_neg (by simp [thisNotNode, thisNotBelow]), Function.update_self]
          have sameFurther : ∀ other ∈ further,
              without (update children this nodes) (node :: below) other = tree other := by
            intro other member
            have notThis : other ≠ this := fun isThis => thisNotFurther (isThis ▸ member)
            have notNode : other ≠ node := fun isNode => notFurther (isNode ▸ member)
            have notBelow : other ∉ below := fun inBelow =>
              apart other inBelow other (List.mem_cons_of_mem _ member) rfl
            rw [untouched notThis notNode notBelow]
            exact same other (by simp [member])
          rcases ihOthers represents₁ ownRest sameFurther
            (List.nodup_cons.mpr ⟨thisNotFurther, nodupFurther⟩) shorter.2 with
            ⟨dom₂, deleted', represents₂⟩
          refine ⟨dom₂, ?_, without_both children this node nodes below further ▸ represents₂⟩
          rw [deleteChildren, isFirst]
          simp only [deleted, deleted']

section Deletion

variable {dom : Dom ι} {children : ι → List ι} {nodes freed : List ι}

omit [DecidableEq ι] in
theorem Below.unique {other : List ι} (below : Below children nodes freed)
    (below' : Below children nodes other) : other = freed := by
  induction below generalizing other with
  | nil =>
      cases below'
      rfl
  | cons tree others ihTree ihOthers =>
      cases below' with
      | cons tree' others' => rw [ihTree tree', ihOthers others']

omit [DecidableEq ι] in
/-- The trees of the nodes below are smaller. -/
theorem Below.smaller (below : Below children nodes freed) {node : ι} (member : node ∈ freed) :
    ∃ inner, Below children (children node) inner ∧ inner.length < freed.length := by
  induction below with
  | nil => cases member
  | @cons first nodes below further tree others ihTree ihOthers =>
      rw [List.length_append, List.length_cons]
      rw [List.mem_append, List.mem_cons] at member
      rcases member with inTree | rfl | inOthers
      · rcases ihTree inTree with ⟨inner, isBelow, shorter⟩
        exact ⟨inner, isBelow, by omega⟩
      · exact ⟨below, tree, by omega⟩
      · rcases ihOthers inOthers with ⟨inner, isBelow, shorter⟩
        exact ⟨inner, isBelow, by omega⟩

omit [DecidableEq ι] in
/-- No node is below itself. -/
theorem Below.not_self {node : ι} (below : Below children (children node) freed) :
    node ∉ freed := by
  intro member
  rcases below.smaller member with ⟨inner, isBelow, shorter⟩
  rw [below.unique isBelow] at shorter
  exact Nat.lt_irrefl _ shorter

omit [DecidableEq ι] in
theorem Below.subset (below : Below children nodes freed) {node : ι} (member : node ∈ nodes) :
    node ∈ freed := by
  induction below with
  | nil => cases member
  | cons tree others ihTree ihOthers =>
      rw [List.mem_append, List.mem_cons]
      rcases List.mem_cons.mp member with rfl | inOthers
      · exact Or.inr (Or.inl rfl)
      · exact Or.inr (Or.inr (ihOthers inOthers))

omit [DecidableEq ι] in
/-- What holds for the nodes and for the children of all for which it holds, holds for
everything below. -/
theorem Below.induct {holds : ι → Prop} (below : Below children nodes freed)
    (base : ∀ node ∈ nodes, holds node)
    (step : ∀ node ∈ freed, holds node → ∀ child ∈ children node, holds child) :
    ∀ node ∈ freed, holds node := by
  induction below with
  | nil => simp
  | @cons first nodes below further tree others ihTree ihOthers =>
      rw [List.forall_mem_cons] at base
      rw [List.forall_mem_append, List.forall_mem_cons] at step
      rw [List.forall_mem_append, List.forall_mem_cons]
      exact ⟨ihTree (step.2.1 base.1) step.1, base.1, ihOthers base.2 step.2.2⟩

omit [DecidableEq ι] in
/-- A node below is one of the nodes, or its parent is below. -/
theorem Below.parent (below : Below children nodes freed) {node : ι} (member : node ∈ freed) :
    node ∈ nodes ∨ ∃ parent ∈ freed, node ∈ children parent := by
  have all : ∀ node ∈ freed, node ∈ nodes ∨ ∃ parent ∈ freed, node ∈ children parent := by
    refine below.induct ?_ ?_
    · exact fun _ isTop => Or.inl isTop
    · exact fun parent isBelow _ _ isChild => Or.inr ⟨parent, isBelow, isChild⟩
  exact all node member

omit [DecidableEq ι] in
/-- Every node has one parent, so it is below only once. -/
theorem Below.nodup (below : Below children nodes freed) (represents : dom.Represents children)
    {this : ι} (siblings : ∀ node ∈ nodes, node ∈ children this) (distinct : nodes.Nodup)
    (apart : this ∉ freed) : freed.Nodup := by
  induction below generalizing this with
  | nil => exact List.nodup_nil
  | @cons first nodes below further tree others ihTree ihOthers =>
      rw [List.forall_mem_cons] at siblings
      rw [List.nodup_cons] at distinct
      simp only [List.mem_append, List.mem_cons, not_or] at apart
      have firstNotBelow : first ∉ below := tree.not_self
      have ofFurther : ∀ {node parent}, node ∈ further → node ∈ children parent →
          parent = this ∧ node ∈ nodes ∨ parent ∈ further := by
        intro node parent member isChild
        rcases others.parent member with isTop | ⟨parent', inFurther, isChild'⟩
        · exact Or.inl ⟨represents.unique (siblings.2 node isTop) isChild, isTop⟩
        · exact Or.inr (represents.unique isChild isChild' ▸ inFurther)
      have firstNotFurther : first ∉ further := by
        intro member
        rcases ofFurther member siblings.1 with ⟨_, isTop⟩ | inFurther
        · exact distinct.1 isTop
        · exact apart.2.2 inFurther
      -- A node in both trees would have its parent in both, up to the first one.
      have separate : ∀ node ∈ below, node ∉ further := by
        refine tree.induct ?_ ?_
        · intro node isChild member
          rcases ofFurther member isChild with ⟨isThis, _⟩ | inFurther
          · exact apart.2.1 isThis.symm
          · exact firstNotFurther inFurther
        · intro parent isBelow notFurther node isChild member
          rcases ofFurther member isChild with ⟨isThis, _⟩ | inFurther
          · exact apart.1 (isThis ▸ isBelow)
          · exact notFurther inFurther
      rw [List.nodup_append, List.nodup_cons]
      refine ⟨ihTree (fun _ isChild => isChild) (represents.lists first).nodup
        firstNotBelow, ⟨firstNotFurther, ihOthers siblings.2 distinct.2 apart.2.2⟩, ?_⟩
      intro node isBelow node' member same
      rw [List.mem_cons] at member
      rcases member with isFirst | inFurther
      · exact firstNotBelow (isFirst ▸ same ▸ isBelow)
      · exact separate node isBelow (same ▸ inFurther)

omit [DecidableEq ι] in
theorem Below.distinct {this : ι} (below : Below children (children this) freed)
    (represents : dom.Represents children) : (this :: freed).Nodup :=
  List.nodup_cons.mpr ⟨below.not_self, below.nodup represents (fun _ isChild => isChild)
    (represents.lists this).nodup below.not_self⟩

/-- `DeleteChildren` gives back every node below once, after all that is below it, and
the lists of all other nodes stay. -/
theorem deleteChildren_frees {this : ι} (represents : dom.Represents children)
    (below : Below children (children this) freed) {count : Nat} (enough : freed.length < count) :
    ∃ dom', deleteChildren count this dom = (dom', freed) ∧ freed.Nodup ∧
      dom'.Represents (without children (this :: freed)) := by
  have distinct := below.distinct represents
  rcases deleteChildren_below below represents rfl (fun _ _ => rfl) distinct enough with
    ⟨dom', deleted, represents'⟩
  exact ⟨dom', deleted, distinct.of_cons, represents'⟩

end Deletion

/-- The first of the twins has a child, which is given back in front of it. -/
theorem deleteChildren_frees_nested :
    ∃ dom', deleteChildren 4 0 (twins.insertEndChild 1 3) = (dom', [3, 1, 2]) ∧
      [3, 1, 2].Nodup ∧
      dom'.Represents
        (without (update (update (update (fun _ => []) 0 [1]) 0 [1, 2]) 1 [3]) [0, 3, 1, 2]) :=
  @deleteChildren_frees _ _ (twins.insertEndChild 1 3) _ [3, 1, 2] 0
    (insertEndChild_represents twins_represents rfl)
    (@Below.cons _ _ 1 [2] [3] [2] (@Below.cons _ _ 3 [] [] [] Below.nil Below.nil)
      (@Below.cons _ _ 2 [] [] [] Below.nil Below.nil))
    4 (Nat.lt_succ_self 3)

end Dom

end SandPlatform.Xml
