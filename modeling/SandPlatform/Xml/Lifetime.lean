import Mathlib.Data.List.Nodup
import Mathlib.Data.List.Perm.Subperm
import Mathlib.Data.Set.Insert
import SandPlatform.Xml.Editing

/-!
# The life of the nodes

Nodes are given out by a pool, inserted below each other, and given back together with
all that is below them.  As long as the caller inserts detached nodes, and none below
itself, every node is given back only while it is in use, and the pointers of the nodes
in use are those of a forest and lead to nodes in use.
-/

namespace SandPlatform.Xml

open SandPlatform.Foundation
open Relation (ReflTransGen)
open Function (update)

universe u

namespace Dom

variable {ι : Type u} [DecidableEq ι]

/-! ## Construction and destruction -/

/-- The constructor of `XMLNode`, and the name of an element. -/
def construct (node : ι) (name : Option Text) (dom : Dom ι) : Dom ι where
  parent := update dom.parent node none
  firstChild := update dom.firstChild node none
  lastChild := update dom.lastChild node none
  prev := update dom.prev node none
  next := update dom.next node none
  elementName := update dom.elementName node name

/-- `DELETE_NODE`: the destructor deletes what is below the node and unlinks it. -/
def deleteNode (count : Nat) (node : ι) (dom : Dom ι) : Dom ι × List ι :=
  let (dom, below) := deleteChildren count node dom
  match dom.parent node with
  | some this => (dom.unlink this node, below ++ [node])
  | none => (dom, below ++ [node])

/-- The pointers that a node has. -/
def pointers (dom : Dom ι) (node : ι) : List (Option ι) :=
  [dom.parent node, dom.firstChild node, dom.lastChild node, dom.prev node, dom.next node]

/-- The pointers of all nodes, and the nodes that are in use. -/
structure Life (ι : Type u) where
  dom : Dom ι
  inUse : List ι

/-- What happens to the nodes of a document, one call each. -/
inductive Event (ι : Type u)
  | create (node : ι) (name : Option Text)
  | insertEndChild (this addThis : ι)
  | insertFirstChild (this addThis : ι)
  | insertAfterChild (this afterThis addThis : ι)
  | deleteChildren (this : ι)
  | deleteChild (this node : ι)

/-- Nodes are given back one after another.  A node that is not in use cannot be. -/
def giveBack : List ι → List ι → Option (List ι)
  | inUse, [] => some inUse
  | inUse, node :: further =>
      if node ∈ inUse then giveBack (inUse.erase node) further else none

namespace Life

/-- No node has been created. -/
def start : Life ι :=
  ⟨detached fun _ => none, []⟩

/-- The nodes that a deletion gave back are no longer in use; `none` if one was not. -/
def afterDeletion (life : Life ι) (deleted : Dom ι × List ι) : Option (Life ι) :=
  (giveBack life.inUse deleted.2).map fun inUse => ⟨deleted.1, inUse⟩

/-- What a call does to the pointers and to the nodes in use. -/
def step (life : Life ι) : Event ι → Option (Life ι)
  | .create node name => some ⟨life.dom.construct node name, node :: life.inUse⟩
  | .insertEndChild this addThis =>
      some { life with dom := life.dom.insertEndChild this addThis }
  | .insertFirstChild this addThis =>
      some { life with dom := life.dom.insertFirstChild this addThis }
  | .insertAfterChild this afterThis addThis =>
      some { life with dom := life.dom.insertAfterChild this afterThis addThis }
  | .deleteChildren this =>
      life.afterDeletion (deleteChildren (life.inUse.length + 1) this life.dom)
  | .deleteChild _ node =>
      life.afterDeletion (deleteNode (life.inUse.length + 1) node life.dom)

/-- The nodes that a step gives back. -/
def deleted (life : Life ι) : Event ι → List ι
  | .deleteChildren this => (deleteChildren (life.inUse.length + 1) this life.dom).2
  | .deleteChild _ node => (deleteNode (life.inUse.length + 1) node life.dom).2
  | _ => []

/-- Nothing goes on after a node that was not in use was given back. -/
def stepIfAny (life : Option (Life ι)) (event : Event ι) : Option (Life ι) :=
  life.bind (step · event)

/-- A detached node may be inserted, but not below itself. -/
def Insertable (life : Life ι) (this addThis : ι) : Prop :=
  this ∈ life.inUse ∧ addThis ∈ life.inUse ∧ life.dom.parent addThis = none ∧
    ¬ ReflTransGen (fun child parent => life.dom.parent child = some parent) this addThis

/-- What the pools and the callers see to. -/
def Allowed (life : Life ι) : Event ι → Prop
  | .create node _ => node ∉ life.inUse
  | .insertEndChild this addThis => life.Insertable this addThis
  | .insertFirstChild this addThis => life.Insertable this addThis
  | .insertAfterChild this afterThis addThis =>
      afterThis ∈ life.inUse ∧ life.Insertable this addThis
  | .deleteChildren this => this ∈ life.inUse
  | .deleteChild this node => life.dom.parent node = some this

/-- A call is allowed as long as none has failed. -/
def AllowedIfAny (life : Option (Life ι)) (event : Event ι) : Prop :=
  ∀ some ∈ life, some.Allowed event

/-- No pointer of a node in use leads to one that is not. -/
def NoDangling (life : Life ι) : Prop :=
  ∀ node ∈ life.inUse, ∀ pointer ∈ life.dom.pointers node, ∀ target ∈ pointer,
    target ∈ life.inUse

end Life

/-! ## Forests -/

/-- Lists of children, and the nodes that there are. -/
structure Forest (ι : Type u) where
  children : ι → List ι
  inUse : Set ι

namespace Forest

/-- A node is the other one or below it. -/
def Beneath (forest : Forest ι) : ι → ι → Prop :=
  ReflTransGen fun child parent => child ∈ forest.children parent

/-- The forest without nodes. -/
def empty : Forest ι :=
  ⟨fun _ => [], ∅⟩

open Classical in
/-- The forest without some of its nodes. -/
noncomputable def prune (forest : Forest ι) (gone : Set ι) : Forest ι where
  children node :=
    if node ∈ gone then [] else (forest.children node).filter fun child => child ∉ gone
  inUse := forest.inUse \ gone

/-- What a call is for, in terms of the forest. -/
noncomputable def step (forest : Forest ι) : Event ι → Forest ι
  | .create node _ => { forest with inUse := insert node forest.inUse }
  | .insertEndChild this addThis =>
      { forest with children := editLists forest.children (.insertEndChild this addThis) }
  | .insertFirstChild this addThis =>
      { forest with children := editLists forest.children (.insertFirstChild this addThis) }
  | .insertAfterChild this afterThis addThis =>
      { forest with
        children := editLists forest.children (.insertAfterChild this afterThis addThis) }
  | .deleteChildren this => forest.prune {node | node ≠ this ∧ forest.Beneath node this}
  | .deleteChild _ node => forest.prune {other | forest.Beneath other node}

end Forest

/-! ## What is below a node -/

section Beneath

variable {children : ι → List ι} {nodes freed : List ι} {this node : ι}

omit [DecidableEq ι] in
theorem Below.closed (below : Below children nodes freed) {parent child : ι}
    (member : parent ∈ freed) (isChild : child ∈ children parent) : child ∈ freed := by
  induction below with
  | nil => cases member
  | cons tree others ihTree ihOthers =>
      rw [List.mem_append, List.mem_cons] at member ⊢
      rcases member with inTree | rfl | inOthers
      · exact Or.inl (ihTree inTree)
      · exact Or.inl (tree.subset isChild)
      · exact Or.inr (Or.inr (ihOthers inOthers))

omit [DecidableEq ι] in
theorem Below.mem_iff (below : Below children (children this) freed) :
    node ∈ this :: freed ↔
      ReflTransGen (fun child parent => child ∈ children parent) node this := by
  constructor
  · intro member
    rcases List.mem_cons.mp member with rfl | inFreed
    · exact ReflTransGen.refl
    · have all : ∀ node ∈ freed,
          ReflTransGen (fun child parent => child ∈ children parent) node this := by
        refine below.induct ?_ ?_
        · exact fun _ isChild => ReflTransGen.single isChild
        · exact fun _ _ beneath _ isChild => ReflTransGen.head isChild beneath
      exact all node inFreed
  · intro beneath
    induction beneath using ReflTransGen.head_induction_on with
    | refl => exact List.mem_cons_self
    | head isChild _ ih =>
        rcases List.mem_cons.mp ih with rfl | inFreed
        · exact List.mem_cons_of_mem _ (below.subset isChild)
        · exact List.mem_cons_of_mem _ (below.closed inFreed isChild)

omit [DecidableEq ι] in
/-- In a forest every tree has an end. -/
theorem exists_below (forest : WellFounded fun child parent => child ∈ children parent) (this : ι) :
    ∃ freed, Below children (children this) freed := by
  induction this using forest.induction with
  | _ this ih =>
      have trees : ∀ nodes : List ι,
          (∀ node ∈ nodes, ∃ freed, Below children (children node) freed) →
            ∃ freed, Below children nodes freed := by
        intro nodes
        induction nodes with
        | nil => exact fun _ => ⟨[], Below.nil⟩
        | cons node others ih =>
            intro each
            rw [List.forall_mem_cons] at each
            rcases each.1 with ⟨below, tree⟩
            rcases ih each.2 with ⟨further, rest⟩
            exact ⟨below ++ node :: further, Below.cons tree rest⟩
      exact trees (children this) ih

end Beneath

/-! ## Insertion -/

section Insertion

variable {dom : Dom ι} {children : ι → List ι} {step : Edit ι} {this addThis : ι}

/-- The edits that insert a node below another one. -/
inductive Inserts (this addThis : ι) : Edit ι → Prop
  | atEnd : Inserts this addThis (.insertEndChild this addThis)
  | inFront : Inserts this addThis (.insertFirstChild this addThis)
  | behind (afterThis : ι) : Inserts this addThis (.insertAfterChild this afterThis addThis)

theorem mem_insertBehind {afterThis node : ι} {nodes : List ι}
    (member : node ∈ insertBehind afterThis addThis nodes) : node ∈ nodes ∨ node = addThis := by
  induction nodes with
  | nil => cases member
  | cons first others ih =>
      rw [insertBehind] at member
      split_ifs at member with found
      · simp only [List.mem_cons] at member ⊢
        tauto
      · rw [List.mem_cons] at member ⊢
        rcases member with isFirst | inOthers
        · exact Or.inl (Or.inl isFirst)
        · exact (ih inOthers).imp_left Or.inr

theorem Inserts.mem (inserts : Inserts this addThis step) {parent child : ι}
    (member : child ∈ editLists children step parent) :
    child ∈ children parent ∨ child = addThis ∧ parent = this := by
  by_cases isThis : parent = this
  · subst isThis
    cases inserts with
    | atEnd =>
        rw [editLists, Function.update_self, List.mem_append, List.mem_singleton] at member
        exact member.imp_right fun isNew => ⟨isNew, rfl⟩
    | inFront =>
        rw [editLists, Function.update_self, List.mem_cons] at member
        exact member.symm.imp_right fun isNew => ⟨isNew, rfl⟩
    | behind afterThis =>
        rw [editLists, Function.update_self] at member
        exact (mem_insertBehind member).imp_right fun isNew => ⟨isNew, rfl⟩
  · left
    cases inserts <;> rwa [editLists, Function.update_of_ne isThis] at member

omit [DecidableEq ι] in
theorem Represents.apart (represents : dom.Represents children) {node child : ι}
    (parentless : dom.parent node = none) (isChild : child ∈ children this) : node ≠ child := by
  rintro rfl
  rw [(represents.parents this node).mpr isChild] at parentless
  cases parentless

theorem parentless_of_update {parent : ι → Option ι} {node : ι}
    (parentless : update parent addThis (some this) node = none) :
    node ≠ addThis ∧ parent node = none := by
  have different : node ≠ addThis := by
    rintro rfl
    rw [Function.update_self] at parentless
    cases parentless
  rw [Function.update_of_ne different] at parentless
  exact ⟨different, parentless⟩

theorem insertEndChild_detached (represents : dom.Represents children) {node : ι}
    (parentless : (dom.insertEndChild this addThis).parent node = none) :
    dom.parent node = none ∧ (dom.insertEndChild this addThis).prev node = dom.prev node ∧
      (dom.insertEndChild this addThis).next node = dom.next node := by
  have parent : (dom.insertEndChild this addThis).parent =
      update dom.parent addThis (some this) := by
    rw [insertEndChild]
    cases dom.lastChild this <;> rfl
  rw [parent] at parentless
  rcases parentless_of_update parentless with ⟨different, parentless⟩
  refine ⟨parentless, ?_⟩
  rw [insertEndChild]
  cases isLast : dom.lastChild this with
  | none => simp [different]
  | some last =>
      rw [(represents.lists this).last] at isLast
      have notLast := represents.apart parentless (List.mem_of_getLast? isLast)
      simp [different, notLast]

/-- Nodes that stay detached keep their pointers to siblings. -/
theorem Inserts.detached (inserts : Inserts this addThis step)
    (represents : dom.Represents children) {node : ι}
    (parentless : (dom.edit step).parent node = none) :
    dom.parent node = none ∧ (dom.edit step).prev node = dom.prev node ∧
      (dom.edit step).next node = dom.next node := by
  cases inserts with
  | atEnd => exact insertEndChild_detached represents parentless
  | inFront =>
      have parent : (dom.insertFirstChild this addThis).parent =
          update dom.parent addThis (some this) := by
        rw [insertFirstChild]
        cases dom.firstChild this <;> rfl
      rw [edit, parent] at parentless
      rcases parentless_of_update parentless with ⟨different, parentless⟩
      refine ⟨parentless, ?_⟩
      rw [edit]
      rw [insertFirstChild]
      cases isFirst : dom.firstChild this with
      | none => simp [different]
      | some first =>
          rw [(represents.lists this).first] at isFirst
          have notFirst := represents.apart parentless (List.mem_of_head? isFirst)
          simp [different, notFirst]
  | behind afterThis =>
      rw [edit, insertAfterChild] at parentless ⊢
      split_ifs at parentless ⊢ with noChild
      · exact ⟨parentless, rfl, rfl⟩
      · rw [not_not] at noChild
        have isChild := (represents.parents this afterThis).mp noChild
        cases isNext : dom.next afterThis with
        | none =>
            rw [isNext] at parentless
            exact insertEndChild_detached represents parentless
        | some following =>
            rw [isNext] at parentless
            rcases parentless_of_update parentless with ⟨different, parentless⟩
            have notAfter := represents.apart parentless isChild
            have notFollowing : node ≠ following := by
              rcases List.append_of_mem isChild with ⟨front, back, whole⟩
              rw [(represents.links whole).2.1] at isNext
              have inThis : following ∈ children this := by
                simp [whole, List.mem_of_head? isNext]
              exact represents.apart parentless inThis
            simp [parentless, different, notAfter, notFollowing]

end Insertion

/-! ## Deletion -/

section Pruning

variable {dom : Dom ι} {forest : Forest ι} {freed : List ι} {this node : ι}

/-- What unlinking a first child keeps, `DeleteChildren` keeps. -/
theorem deleteChildren_keeps {holds : Dom ι → Prop}
    (unlinked : ∀ dom this node, holds dom → dom.firstChild this = some node →
      holds (dom.unlink this node))
    (cleared : ∀ dom this, holds dom → dom.firstChild this = none →
      holds { dom with
        firstChild := update dom.firstChild this none
        lastChild := update dom.lastChild this none })
    (count : Nat) (now : holds dom) : holds (deleteChildren count this dom).1 := by
  induction count generalizing this dom with
  | zero => exact now
  | succ count ih =>
      rw [deleteChildren]
      cases isFirst : dom.firstChild this with
      | none => exact cleared dom this now isFirst
      | some node => exact ih (ih (unlinked dom this node now isFirst))

/-- The pointers still represent lists, and detached nodes are as they were. -/
def Stays (dom dom' : Dom ι) : Prop :=
  (∃ children, dom'.Represents children) ∧
    ∀ node, dom.parent node = none →
      dom'.parent node = none ∧ dom'.prev node = dom.prev node ∧ dom'.next node = dom.next node

theorem Stays.unlink {dom' : Dom ι} (stays : Stays dom dom')
    (isChild : dom'.parent node = some this) : Stays dom (dom'.unlink this node) := by
  rcases stays with ⟨⟨children, represents⟩, same⟩
  rcases List.append_of_mem ((represents.parents this node).mp isChild) with ⟨front, back, whole⟩
  refine ⟨⟨_, unlink_represents represents whole⟩, fun other parentless => ?_⟩
  rcases same other parentless with ⟨parentless', isPrev, isNext⟩
  rcases represents.links whole with ⟨before, after, _, _⟩
  have notBefore : dom'.prev node ≠ some other := by
    intro isBefore
    rw [before] at isBefore
    have inThis : other ∈ children this := by simp [whole, List.mem_of_getLast? isBefore]
    exact represents.apart parentless' inThis rfl
  have notAfter : dom'.next node ≠ some other := by
    intro isAfter
    rw [after] at isAfter
    have inThis : other ∈ children this := by simp [whole, List.mem_of_head? isAfter]
    exact represents.apart parentless' inThis rfl
  rw [unlink_prev, unlink_next, if_neg notBefore, if_neg notAfter]
  refine ⟨?_, isPrev, isNext⟩
  change update dom'.parent node none other = none
  by_cases isNode : other = node
  · rw [isNode, Function.update_self]
  · rw [Function.update_of_ne isNode, parentless']

theorem deleteChildren_stays (represents : dom.Represents forest.children) (count : Nat)
    (this : ι) : Stays dom (deleteChildren count this dom).1 := by
  refine deleteChildren_keeps ?_ ?_ count
    (⟨⟨_, represents⟩, fun _ parentless => ⟨parentless, rfl, rfl⟩⟩ : Stays dom dom)
  · intro dom' this node stays isFirst
    refine stays.unlink ?_
    rcases stays with ⟨⟨children, represents⟩, _⟩
    rw [represents.parents]
    rw [(represents.lists this).first] at isFirst
    exact List.mem_of_head? isFirst
  · intro dom' this stays isFirst
    rcases stays with ⟨⟨children, represents⟩, same⟩
    rw [cleared_eq represents isFirst]
    exact ⟨⟨children, represents⟩, same⟩

omit [DecidableEq ι] in
/-- The nodes below a node are children only of that node and of each other. -/
theorem Below.outside (below : Below forest.children (forest.children this) freed)
    (represents : dom.Represents forest.children) {parent child : ι} (notThis : parent ≠ this)
    (notFreed : parent ∉ freed) (isChild : child ∈ forest.children parent) : child ∉ freed := by
  intro member
  rcases below.parent member with isTop | ⟨parent', inFreed, isChild'⟩
  · exact notThis (represents.unique isTop isChild)
  · exact notFreed (represents.unique isChild isChild' ▸ inFreed)

omit [DecidableEq ι] in
theorem Forest.prune_gone {gone : Set ι} (isGone : node ∈ gone) :
    (forest.prune gone).children node = [] :=
  if_pos isGone

omit [DecidableEq ι] in
theorem Forest.mem_prune {gone : Set ι} {child : ι} :
    child ∈ (forest.prune gone).children node ↔
      node ∉ gone ∧ child ∉ gone ∧ child ∈ forest.children node := by
  simp only [Forest.prune]
  split_ifs with isGone
  · simp [isGone]
  · simp [isGone, and_comm]

omit [DecidableEq ι] in
open Classical in
theorem Forest.prune_of_notMem {gone : Set ι} (notGone : node ∉ gone) :
    (forest.prune gone).children node =
      (forest.children node).filter fun child => child ∉ gone :=
  if_neg notGone

omit [DecidableEq ι] in
theorem Forest.prune_kept {gone : Set ι} (notGone : node ∉ gone)
    (kept : ∀ child ∈ forest.children node, child ∉ gone) :
    (forest.prune gone).children node = forest.children node := by
  rw [Forest.prune_of_notMem notGone, List.filter_eq_self]
  exact fun child isChild => by simpa using kept child isChild

omit [DecidableEq ι] in
theorem Below.mem_strictly (below : Below forest.children (forest.children this) freed) :
    node ∈ freed ↔ node ∈ {node | node ≠ this ∧ forest.Beneath node this} := by
  rw [Set.mem_ofPred_eq, Forest.Beneath, ← below.mem_iff, List.mem_cons]
  constructor
  · intro member
    exact ⟨fun isThis => below.not_self (isThis ▸ member), Or.inr member⟩
  · exact fun ⟨notThis, beneath⟩ => beneath.resolve_left notThis

/-- `DeleteChildren` cuts the forest below a node. -/
theorem deleteChildren_prunes (represents : dom.Represents forest.children)
    (below : Below forest.children (forest.children this) freed) {count : Nat}
    (enough : freed.length < count) :
    ∃ dom', deleteChildren count this dom = (dom', freed) ∧
      dom'.Represents (forest.prune {node | node ≠ this ∧ forest.Beneath node this}).children := by
  rcases deleteChildren_below below represents rfl (fun _ _ => rfl) (below.distinct represents)
    enough with ⟨dom', deleted, represents'⟩
  refine ⟨dom', deleted, ?_⟩
  have gone : ∀ node, node ∈ {node | node ≠ this ∧ forest.Beneath node this} ↔ node ∈ freed :=
    fun _ => below.mem_strictly.symm
  have pruned : (forest.prune {node | node ≠ this ∧ forest.Beneath node this}).children =
      without forest.children (this :: freed) := by
    funext node
    rw [without]
    split_ifs with removed
    · rw [List.eq_nil_iff_forall_not_mem]
      intro child isChild
      rw [Forest.mem_prune, gone, gone] at isChild
      rcases List.mem_cons.mp removed with rfl | inFreed
      · exact isChild.2.1 (below.subset isChild.2.2)
      · exact isChild.1 inFreed
    · rw [List.mem_cons, not_or] at removed
      refine Forest.prune_kept (mt (gone node).mp removed.2) fun child isChild => ?_
      rw [gone]
      exact below.outside represents removed.1 removed.2 isChild
  rw [pruned]
  exact represents'

/-- `DELETE_NODE` cuts the forest above a node. -/
theorem deleteNode_prunes (represents : dom.Represents forest.children)
    (isChild : dom.parent node = some this)
    (below : Below forest.children (forest.children node) freed) {count : Nat}
    (enough : freed.length < count) :
    ∃ dom', deleteNode count node dom = (dom', freed ++ [node]) ∧ Stays dom dom' ∧
      dom'.Represents (forest.prune {other | forest.Beneath other node}).children := by
  rcases deleteChildren_below below represents rfl (fun _ _ => rfl) (below.distinct represents)
    enough with ⟨dom₁, deleted, represents₁⟩
  have inThis := (represents.parents this node).mp isChild
  have gone : ∀ other, other ∈ {other | forest.Beneath other node} ↔ other ∈ node :: freed :=
    fun other => below.mem_iff.symm
  have thisKept : this ∉ node :: freed := by
    intro member
    rcases List.mem_cons.mp member with rfl | inFreed
    · exact below.not_self (below.subset inThis)
    · exact below.not_self (below.closed inFreed inThis)
  have sameThis : without forest.children (node :: freed) this = forest.children this :=
    if_neg thisKept
  have isChild₁ : dom₁.parent node = some this := by
    rw [represents₁.parents, sameThis]
    exact inThis
  rcases List.append_of_mem inThis with ⟨front, back, whole⟩
  have stays : Stays dom dom₁ := by
    have stays := deleteChildren_stays represents count node
    rwa [deleted] at stays
  refine ⟨dom₁.unlink this node, ?_, stays.unlink isChild₁, ?_⟩
  · simp only [deleteNode, deleted, isChild₁]
  have pruned : (forest.prune {other | forest.Beneath other node}).children =
      update (without forest.children (node :: freed)) this (front ++ back) := by
    have nodup := (represents.lists this).nodup
    rw [whole, List.nodup_append, List.nodup_cons] at nodup
    funext other
    by_cases isThis : other = this
    · subst isThis
      have others : ∀ child ∈ forest.children other, child ≠ node →
          child ∉ {other | forest.Beneath other node} := by
        intro child isSibling different
        rw [List.mem_cons, not_or] at thisKept
        rw [gone, List.mem_cons, not_or]
        exact ⟨different, below.outside represents thisKept.1 thisKept.2 isSibling⟩
      have inFront : ∀ child ∈ front, child ∉ {other | forest.Beneath other node} := by
        intro child inFront
        refine others child (by simp [whole, inFront]) ?_
        exact nodup.2.2 child inFront node List.mem_cons_self
      have inBack : ∀ child ∈ back, child ∉ {other | forest.Beneath other node} := by
        intro child inBack
        refine others child (by simp [whole, inBack]) ?_
        exact fun isNode => nodup.2.1.1 (isNode ▸ inBack)
      have nodeGone := (gone node).mpr List.mem_cons_self
      rw [Function.update_self, Forest.prune_of_notMem (mt (gone other).mp thisKept), whole,
        List.filter_append, List.filter_cons_of_neg (by simpa using nodeGone),
        List.filter_eq_self.mpr fun child member => by simpa using inFront child member,
        List.filter_eq_self.mpr fun child member => by simpa using inBack child member]
    · rw [Function.update_of_ne isThis, without]
      split_ifs with removed
      · exact Forest.prune_gone ((gone other).mpr removed)
      · refine Forest.prune_kept (mt (gone other).mp removed) fun child isChild' => ?_
        rw [gone, List.mem_cons, not_or]
        rw [List.mem_cons, not_or] at removed
        refine ⟨?_, below.outside represents removed.1 removed.2 isChild'⟩
        rintro rfl
        exact isThis (represents.unique inThis isChild')
  rw [pruned]
  exact unlink_represents represents₁ (sameThis.trans whole)

end Pruning

/-! ## Runs -/

theorem giveBack_eq {inUse freed : List ι} (distinct : freed.Nodup)
    (within : ∀ node ∈ freed, node ∈ inUse) : giveBack inUse freed = some (inUse.diff freed) := by
  induction freed generalizing inUse with
  | nil => rfl
  | cons node further ih =>
      rw [List.nodup_cons] at distinct
      rw [List.forall_mem_cons] at within
      rw [giveBack, if_pos within.1, List.diff_cons]
      refine ih distinct.2 fun other member => ?_
      refine (List.mem_erase_of_ne ?_).mpr (within.2 other member)
      exact fun isNode => distinct.1 (isNode ▸ member)

theorem giveBack_subset {inUse freed after : List ι} (given : giveBack inUse freed = some after) :
    after ⊆ inUse := by
  induction freed generalizing inUse with
  | nil =>
      cases given
      exact List.Subset.refl _
  | cons node further ih =>
      rw [giveBack] at given
      split_ifs at given
      exact List.Subset.trans (ih given) List.erase_subset

theorem notMem_of_giveBack {inUse freed after : List ι} (once : inUse.Nodup)
    (given : giveBack inUse freed = some after) : ∀ node ∈ freed, node ∉ after := by
  induction freed generalizing inUse with
  | nil => simp
  | cons node further ih =>
      rw [giveBack] at given
      split_ifs at given
      rw [List.forall_mem_cons]
      refine ⟨fun left => ?_, ih (once.erase node) given⟩
      exact (once.mem_erase_iff.mp (giveBack_subset given left)).1 rfl

section Runs

variable {life : Life ι} {forest : Forest ι} {this node : ι}

omit [DecidableEq ι] in
/-- The nodes in use are those of the forest, each once, and their pointers represent it. -/
structure Life.Lives (life : Life ι) (forest : Forest ι) : Prop where
  represents : life.dom.Represents forest.children
  inUse : ∀ node, node ∈ life.inUse ↔ node ∈ forest.inUse
  once : life.inUse.Nodup
  attached : ∀ this, ∀ child ∈ forest.children this, child ∈ life.inUse ∧ this ∈ life.inUse
  trees : WellFounded fun child parent => child ∈ forest.children parent
  detached : ∀ node ∈ life.inUse, life.dom.parent node = none →
    life.dom.prev node = none ∧ life.dom.next node = none

omit [DecidableEq ι] in
theorem start_lives : (Life.start : Life ι).Lives Forest.empty where
  represents := detached_represents _
  inUse node := by simp [Life.start, Forest.empty]
  once := List.nodup_nil
  attached _ _ isChild := absurd isChild (List.not_mem_nil)
  trees := ⟨fun node => ⟨node, fun _ isChild => absurd isChild List.not_mem_nil⟩⟩
  detached _ member := absurd member List.not_mem_nil

omit [DecidableEq ι] in
theorem Life.Lives.noDangling (lives : life.Lives forest) : life.NoDangling := by
  intro node member pointer isPointer target isTarget
  have linked : ∀ {this}, node ∈ forest.children this →
      (∀ before, life.dom.prev node = some before → before ∈ life.inUse) ∧
        ∀ after, life.dom.next node = some after → after ∈ life.inUse := by
    intro this isChild
    rcases List.append_of_mem isChild with ⟨front, back, whole⟩
    rcases lives.represents.links whole with ⟨before, after, _, _⟩
    rw [before, after]
    constructor
    · intro other isLast
      exact (lives.attached this other (by simp [whole, List.mem_of_getLast? isLast])).1
    · intro other isHead
      exact (lives.attached this other (by simp [whole, List.mem_of_head? isHead])).1
  have siblings : (∀ before, life.dom.prev node = some before → before ∈ life.inUse) ∧
      ∀ after, life.dom.next node = some after → after ∈ life.inUse := by
    cases parent : life.dom.parent node with
    | some this => exact linked ((lives.represents.parents this node).mp parent)
    | none =>
        rcases lives.detached node member parent with ⟨noPrev, noNext⟩
        simp [noPrev, noNext]
  have has := lives.represents.lists node
  simp only [pointers, List.mem_cons, List.not_mem_nil, or_false] at isPointer
  rcases isPointer with rfl | rfl | rfl | rfl | rfl
  · exact (lives.attached target node ((lives.represents.parents target node).mp isTarget)).2
  · rw [has.first] at isTarget
    exact (lives.attached node target (List.mem_of_head? isTarget)).1
  · rw [has.last] at isTarget
    exact (lives.attached node target (List.mem_of_getLast? isTarget)).1
  · exact siblings.1 target isTarget
  · exact siblings.2 target isTarget

theorem Life.Lives.create (lives : life.Lives forest) (name : Option Text)
    (fresh : node ∉ life.inUse) :
    (⟨life.dom.construct node name, node :: life.inUse⟩ : Life ι).Lives
      { forest with inUse := insert node forest.inUse } where
  represents := by
    have represents := lives.represents
    have childless : forest.children node = [] := by
      rw [List.eq_nil_iff_forall_not_mem]
      exact fun child isChild => fresh (lives.attached node child isChild).2
    have parentless : ∀ this, node ∉ forest.children this :=
      fun this isChild => fresh (lives.attached this node isChild).1
    constructor
    · intro this
      by_cases isNode : this = node
      · subst isNode
        rw [childless]
        constructor <;> simp [construct]
      · refine (represents.lists this).frame ?_ ?_ fun child isChild => ?_
        · simp [construct, isNode]
        · simp [construct, isNode]
        · have different : child ≠ node := by
            rintro rfl
            exact parentless this isChild
          simp [construct, different]
    · intro this child
      by_cases isNode : child = node
      · subst isNode
        simp [construct, parentless this]
      · simpa [construct, isNode] using represents.parents this child
  inUse other := by rw [List.mem_cons, Set.mem_insert_iff, lives.inUse]
  once := List.nodup_cons.mpr ⟨fresh, lives.once⟩
  attached this child isChild :=
    (lives.attached this child isChild).imp (List.mem_cons_of_mem _) (List.mem_cons_of_mem _)
  trees := lives.trees
  detached other member parentless := by
    by_cases isNode : other = node
    · simp [construct, isNode]
    · have member := (List.mem_cons.mp member).resolve_left isNode
      simp only [construct, Function.update_of_ne isNode] at parentless ⊢
      exact lives.detached other member parentless

theorem Life.Lives.insert {step : Edit ι} {addThis : ι} (lives : life.Lives forest)
    (insertable : life.Insertable this addThis) (inserts : Inserts this addThis step) :
    ({ life with dom := life.dom.edit step } : Life ι).Lives
      { forest with children := editLists forest.children step } where
  represents := by
    refine edit_represents lives.represents ?_
    cases inserts <;> exact insertable.2.2.1
  inUse := lives.inUse
  once := lives.once
  attached parent child isChild := by
    rcases inserts.mem isChild with wasChild | ⟨rfl, rfl⟩
    · exact lives.attached parent child wasChild
    · exact ⟨insertable.2.1, insertable.1⟩
  trees := by
    have outside := insertable.2.2.2
    simp only [lives.represents.parents] at outside
    exact (wellFounded_insert lives.trees outside).mono fun child parent => inserts.mem
  detached other member parentless := by
    rcases inserts.detached lives.represents parentless with ⟨parentless, isPrev, isNext⟩
    change (life.dom.edit step).prev other = none ∧ (life.dom.edit step).next other = none
    rw [isPrev, isNext]
    exact lives.detached other member parentless

omit [DecidableEq ι] in
theorem Life.Lives.beneath (lives : life.Lives forest) (member : this ∈ life.inUse)
    (beneath : forest.Beneath node this) : node ∈ life.inUse := by
  rcases ReflTransGen.cases_head beneath with rfl | ⟨parent, isChild, _⟩
  · exact member
  · exact (lives.attached parent node isChild).1

/-- What is cut off the forest goes back to the pool. -/
theorem Life.Lives.delete {dom : Dom ι} {gone : Set ι} {freed : List ι} (lives : life.Lives forest)
    (same : ∀ node, node ∈ freed ↔ node ∈ gone) (distinct : freed.Nodup)
    (within : ∀ node ∈ freed, node ∈ life.inUse)
    (closed : ∀ node ∈ gone, ∀ child ∈ forest.children node, child ∈ gone)
    (represents : dom.Represents (forest.prune gone).children) (stays : Stays life.dom dom) :
    ∃ after, life.afterDeletion (dom, freed) = some after ∧ after.Lives (forest.prune gone) := by
  refine ⟨⟨dom, life.inUse.diff freed⟩, ?_, ?_⟩
  · rw [Life.afterDeletion, giveBack_eq distinct within]
    rfl
  have left : ∀ node, node ∈ life.inUse.diff freed ↔ node ∈ life.inUse ∧ node ∉ gone := by
    intro node
    rw [List.Nodup.mem_sdiff_iff lives.once, same]
  refine ⟨represents, fun node => ?_, List.Nodup.diff lives.once, fun this child isChild => ?_, ?_,
    fun node member parentless => ?_⟩
  · rw [left, lives.inUse]
    rfl
  · rw [Forest.mem_prune] at isChild
    rcases lives.attached this child isChild.2.2 with ⟨childInUse, thisInUse⟩
    exact ⟨(left child).mpr ⟨childInUse, isChild.2.1⟩, (left this).mpr ⟨thisInUse, isChild.1⟩⟩
  · exact lives.trees.mono fun child parent isChild => (Forest.mem_prune.mp isChild).2.2
  · rw [left] at member
    have parentless' : life.dom.parent node = none := by
      cases parent : life.dom.parent node with
      | none => rfl
      | some this =>
          have isChild := (lives.represents.parents this node).mp parent
          have thisKept : this ∉ gone := fun isGone => member.2 (closed this isGone node isChild)
          have stillChild := Forest.mem_prune.mpr ⟨thisKept, member.2, isChild⟩
          rw [← represents.parents, parentless] at stillChild
          cases stillChild
    rcases stays.2 node parentless' with ⟨_, isPrev, isNext⟩
    rw [isPrev, isNext]
    exact lives.detached node member.1 parentless'

omit [DecidableEq ι] in
theorem Life.Lives.enough {freed : List ι} (distinct : freed.Nodup)
    (within : ∀ node ∈ freed, node ∈ life.inUse) : freed.length < life.inUse.length + 1 :=
  Nat.lt_succ_of_le (List.subperm_of_subset distinct within).length_le

theorem Life.Lives.step (lives : life.Lives forest) {event : Event ι}
    (allowed : life.Allowed event) :
    ∃ after, life.step event = some after ∧ after.Lives (forest.step event) := by
  have represents := lives.represents
  cases event with
  | create node name => exact ⟨_, rfl, lives.create name allowed⟩
  | insertEndChild this addThis => exact ⟨_, rfl, lives.insert allowed .atEnd⟩
  | insertFirstChild this addThis => exact ⟨_, rfl, lives.insert allowed .inFront⟩
  | insertAfterChild this afterThis addThis =>
      exact ⟨_, rfl, lives.insert allowed.2 (.behind afterThis)⟩
  | deleteChildren this =>
      rcases exists_below lives.trees this with ⟨freed, below⟩
      have distinct := (below.distinct represents).of_cons
      have within : ∀ node ∈ freed, node ∈ life.inUse := fun node member =>
        lives.beneath allowed (below.mem_iff.mp (List.mem_cons_of_mem _ member))
      rcases deleteChildren_prunes represents below (enough distinct within) with
        ⟨dom', deleted, represents'⟩
      have stays := deleteChildren_stays represents (life.inUse.length + 1) this
      rw [deleted] at stays
      rw [Life.step, deleted]
      refine lives.delete (fun node => below.mem_strictly) distinct within ?_ represents' stays
      intro node isGone child isChild
      rw [← below.mem_strictly] at isGone ⊢
      exact below.closed isGone isChild
  | deleteChild this node =>
      have inThis := (represents.parents this node).mp allowed
      rcases exists_below lives.trees node with ⟨freed, below⟩
      have distinct := (below.distinct represents).of_cons
      have beneath : ∀ other, other ∈ freed ++ [node] ↔ forest.Beneath other node := by
        intro other
        rw [Forest.Beneath, ← below.mem_iff, List.mem_append, List.mem_singleton, List.mem_cons,
          or_comm]
      have within : ∀ other ∈ freed ++ [node], other ∈ life.inUse := fun other member =>
        lives.beneath (lives.attached this node inThis).1 ((beneath other).mp member)
      have distinct' : (freed ++ [node]).Nodup := by
        rw [← List.concat_eq_append, List.nodup_concat]
        exact ⟨below.not_self, distinct⟩
      have enough := enough distinct' within
      rw [List.length_append] at enough
      rcases deleteNode_prunes represents allowed below (Nat.lt_of_le_of_lt (Nat.le_add_right _ _)
        enough) with ⟨dom', deleted, stays, represents'⟩
      rw [Life.step, deleted]
      refine lives.delete beneath distinct' within ?_ represents' stays
      exact fun other isGone child isChild => ReflTransGen.head isChild isGone

theorem Life.giveBack_deleted {after : Life ι} {event : Event ι}
    (stepped : life.step event = some after) (old : ∀ node name, event ≠ .create node name) :
    giveBack life.inUse (life.deleted event) = some after.inUse := by
  cases event with
  | create node name => exact absurd rfl (old node name)
  | insertEndChild this addThis =>
      cases stepped
      rfl
  | insertFirstChild this addThis =>
      cases stepped
      rfl
  | insertAfterChild this afterThis addThis =>
      cases stepped
      rfl
  | deleteChildren this =>
      rcases Option.map_eq_some_iff.mp stepped with ⟨inUse, given, rfl⟩
      exact given
  | deleteChild this node =>
      rcases Option.map_eq_some_iff.mp stepped with ⟨inUse, given, rfl⟩
      exact given

/-- Whatever nodes are created, inserted and deleted, no node is given back that is not
in use, the pointers represent the forest to which the same was done, and those of the
nodes in use lead to nodes in use. -/
theorem run_life {events : List (Event ι)}
    (allowed : Along Life.stepIfAny Life.AllowedIfAny (some Life.start) events) :
    ∃ life, run Life.stepIfAny (some Life.start) events = some life ∧
      life.dom.Represents (run Forest.step Forest.empty events).children ∧
      (∀ node, node ∈ life.inUse ↔ node ∈ (run Forest.step Forest.empty events).inUse) ∧
      life.NoDangling := by
  have kept (life : Option (Life ι)) (forest : Forest ι) (event : Event ι)
      (lived : ∃ now, life = some now ∧ now.Lives forest) (allowed : Life.AllowedIfAny life event) :
      ∃ now, Life.stepIfAny life event = some now ∧ now.Lives (forest.step event) := by
    rcases lived with ⟨now, rfl, lives⟩
    exact lives.step (allowed now rfl)
  have lived := run_refines kept ⟨Life.start, rfl, start_lives⟩ allowed
  rcases lived with ⟨life, isLife, lives⟩
  exact ⟨life, isLife, lives.represents, lives.inUse, lives.noDangling⟩

omit [DecidableEq ι] in
theorem allowed_some {event : Event ι} (allowed : life.Allowed event) :
    Life.AllowedIfAny (some life) event := by
  rintro _ ⟨⟩
  exact allowed

omit [DecidableEq ι] in
theorem not_above {parent : ι → Option ι} {addThis : ι} (different : this ≠ addThis)
    (above : ∀ next, parent this = some next →
      ¬ ReflTransGen (fun child parent' => parent child = some parent') next addThis) :
    ¬ ReflTransGen (fun child parent' => parent child = some parent') this addThis := by
  intro path
  rcases ReflTransGen.cases_head path with same | ⟨next, isNext, rest⟩
  · exact different same
  · exact above next isNext rest

end Runs

/-- A node and its child are deleted, and the node is created and inserted again. -/
def recreated : List (Event Nat) :=
  [.create 0 none, .create 1 none, .create 2 none, .insertEndChild 0 1, .insertEndChild 1 2,
    .deleteChild 0 1, .create 1 none, .insertFirstChild 0 1, .deleteChildren 0]

theorem run_life_recreated :
    ∃ life, run Life.stepIfAny (some Life.start) recreated = some life ∧
      life.dom.Represents (run Forest.step Forest.empty recreated).children ∧
      (∀ node, node ∈ life.inUse ↔ node ∈ (run Forest.step Forest.empty recreated).inUse) ∧
      life.NoDangling := by
  refine run_life ⟨allowed_some ?_, allowed_some ?_, allowed_some ?_, allowed_some ?_,
    allowed_some ?_, allowed_some ?_, allowed_some ?_, allowed_some ?_, allowed_some ?_, trivial⟩
  · exact List.not_mem_nil
  · change 1 ∉ [0]
    decide
  · change 2 ∉ [1, 0]
    decide
  · exact ⟨by decide, by decide, rfl, not_above (by decide) fun _ => by rintro ⟨⟩⟩
  · exact ⟨by decide, by decide, rfl, not_above (by decide) fun _ => by
      rintro ⟨⟩
      exact not_above (by decide) fun _ => by rintro ⟨⟩⟩
  · rfl
  · change 1 ∉ [0]
    decide
  · exact ⟨by decide, by decide, rfl, not_above (by decide) fun _ => by rintro ⟨⟩⟩
  · change 0 ∈ [1, 0]
    decide

end Dom

end SandPlatform.Xml
