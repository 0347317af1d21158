import SandPlatform.Xml.Lifetime
import SandPlatform.Xml.Ownership
import SandPlatform.Xml.Pool

/-!
# The nodes in their pools

The nodes of a document are chunks of its pools.  What the pools promise is what the
nodes rely on, and the other way round: a chunk that is given out is not in use, and only
chunks in use are given back.  When the document is destroyed, its pools are empty
exactly if every node was inserted somewhere below it.
-/

namespace SandPlatform.Xml

open SandPlatform.Foundation
open Function (update)
open Dom (Life Forest Event)

/-- The document itself is in no pool. -/
inductive NodeAt
  | document
  | chunk (pool : PoolKind) (chunk : Chunk)
  deriving DecidableEq

/-- The nodes of a document and the pools that their chunks are from. -/
structure NodePools where
  life : Life NodeAt
  pools : PoolKind → PoolUse

/-- `NewElement`, the other functions that create a node, and calls of nodes. -/
inductive NodeCall
  | newElement (name : Text)
  | newLeaf (kind : LeafKind)
  | call (event : Event NodeAt)

namespace NodePools

/-- `Free` of the nodes that were deleted.  The document has no pool to be given back to. -/
def freeAll (count : PoolKind → Nat) :
    List NodeAt → (PoolKind → PoolUse) → Option (PoolKind → PoolUse)
  | [], pools => some pools
  | .document :: _, _ => none
  | .chunk pool chunk :: further, pools =>
      freeAll count further
        (update pools pool ((pools pool).step (count pool) (.free (some chunk))))

/-- A node is constructed in the chunk that its pool gives out. -/
def create (count : PoolKind → Nat) (pool : PoolKind) (name : Option Text) (nodes : NodePools) :
    Option NodePools :=
  (nodes.life.step (.create (.chunk pool ((nodes.pools pool).pool.alloc (count pool)).1) name)).map
    fun life =>
      ⟨life, update nodes.pools pool ((nodes.pools pool).step (count pool) .alloc)⟩

/-- A call on a document; `none` if a node is given back that is not in use. -/
def step (count : PoolKind → Nat) (nodes : NodePools) : NodeCall → Option NodePools
  | .newElement name => nodes.create count .element (some name)
  | .newLeaf kind => nodes.create count kind.pool none
  | .call event =>
      (nodes.life.step event).bind fun life =>
        (freeAll count (nodes.life.deleted event) nodes.pools).map fun pools => ⟨life, pools⟩

/-- What a call does to the nodes.  The pool decides which chunk a new node is. -/
def event (count : PoolKind → Nat) (nodes : NodePools) : NodeCall → Event NodeAt
  | .newElement name =>
      .create (.chunk .element ((nodes.pools .element).pool.alloc (count .element)).1) (some name)
  | .newLeaf kind =>
      .create (.chunk kind.pool ((nodes.pools kind.pool).pool.alloc (count kind.pool)).1) none
  | .call event => event

/-- What the calls of a run do to the nodes. -/
def events (count : PoolKind → Nat) : NodePools → List NodeCall → List (Event NodeAt)
  | _, [] => []
  | nodes, call :: calls =>
      nodes.event count call ::
        match nodes.step count call with
        | none => []
        | some after => after.events count calls

/-- A call, if none before it has failed. -/
def stepIfAny (count : PoolKind → Nat) (nodes : Option NodePools) (call : NodeCall) :
    Option NodePools :=
  nodes.bind (step count · call)

/-- The constructor of a document, with empty pools. -/
def start : NodePools :=
  ⟨⟨(Life.start : Life NodeAt).dom.construct .document none, [.document]⟩, fun _ => PoolUse.start⟩

/-- The document and the nodes that a run makes of it. -/
noncomputable def grown (count : PoolKind → Nat) (calls : List NodeCall) : Forest NodeAt :=
  run Forest.step Forest.empty (.create .document none :: start.events count calls)

/-- Nodes are created by the pools only, and the document is not inserted. -/
def Usual : Event NodeAt → Prop
  | .create _ _ => False
  | .insertEndChild _ addThis => addThis ≠ .document
  | .insertFirstChild _ addThis => addThis ≠ .document
  | .insertAfterChild _ _ addThis => addThis ≠ .document
  | .deleteChildren _ => True
  | .deleteChild _ _ => True

/-- What a caller has to see to: nodes come from the `New` functions, and the others are in
use. -/
def Allowed (nodes : NodePools) : NodeCall → Prop
  | .newElement _ => True
  | .newLeaf _ => True
  | .call event => Usual event ∧ nodes.life.Allowed event

/-- A call is allowed as long as none has failed. -/
def AllowedIfAny (nodes : Option NodePools) (call : NodeCall) : Prop :=
  ∀ some ∈ nodes, some.Allowed call

/-- The chunks in use are the nodes in use, and the document is above all nodes. -/
structure Sound (count : PoolKind → Nat) (nodes : NodePools) (forest : Forest NodeAt) : Prop where
  lives : nodes.life.Lives forest
  pools : ∀ pool, (nodes.pools pool).Sound (count pool)
  live : ∀ pool chunk,
    chunk ∈ (nodes.pools pool).live ↔ .chunk pool chunk ∈ nodes.life.inUse
  root : .document ∈ nodes.life.inUse
  top : ∀ this, .document ∉ forest.children this

section Step

variable {count : PoolKind → Nat} {nodes : NodePools} {forest : Forest NodeAt}

theorem nodup_live {count : Nat} {usage : PoolUse} (sound : usage.Sound count) :
    usage.live.Nodup := by
  rcases sound.holds with ⟨free, holds⟩
  exact (List.nodup_append.mp holds.nodup).1

/-- The pools accept all that was in use. -/
theorem freeAll_sound (positive : ∀ pool, 0 < count pool) {pools : PoolKind → PoolUse}
    {inUse freed after : List NodeAt} (sound : ∀ pool, (pools pool).Sound (count pool))
    (live : ∀ pool chunk, chunk ∈ (pools pool).live ↔ .chunk pool chunk ∈ inUse)
    (once : inUse.Nodup) (given : Dom.giveBack inUse freed = some after)
    (noDocument : .document ∉ freed) :
    ∃ pools', freeAll count freed pools = some pools' ∧
      (∀ pool, (pools' pool).Sound (count pool)) ∧
        ∀ pool chunk, chunk ∈ (pools' pool).live ↔ .chunk pool chunk ∈ after := by
  induction freed generalizing pools inUse with
  | nil =>
      cases given
      exact ⟨pools, rfl, sound, live⟩
  | cons node further ih =>
      rw [Dom.giveBack] at given
      split_ifs at given with member
      rw [List.mem_cons, not_or] at noDocument
      cases node with
      | document => exact absurd rfl noDocument.1
      | chunk pool chunk =>
          have allowed : chunk ∈ (pools pool).live := (live pool chunk).mpr member
          refine ih ?_ ?_ (once.erase _) given noDocument.2
          · intro other
            by_cases same : other = pool
            · subst same
              rw [Function.update_self]
              exact (sound other).step (positive other) allowed
            · rw [Function.update_of_ne same]
              exact sound other
          · intro other chunk'
            rw [once.mem_erase_iff]
            by_cases same : other = pool
            · subst same
              rw [Function.update_self]
              change chunk' ∈ (pools other).live.erase chunk ↔ _
              rw [(nodup_live (sound other)).mem_erase_iff, live]
              simp
            · rw [Function.update_of_ne same, live]
              simp [same]

/-- A chunk that a pool gives out is a node that was not in use. -/
theorem Sound.create (positive : ∀ pool, 0 < count pool) (sound : nodes.Sound count forest)
    (pool : PoolKind) (name : Option Text) :
    ∃ after, nodes.create count pool name = some after ∧ after.Sound count (forest.step
      (.create (.chunk pool ((nodes.pools pool).pool.alloc (count pool)).1) name)) := by
  rcases (sound.pools pool).holds with ⟨free, holds⟩
  have fresh := (holds.alloc (positive pool) (sound.pools pool).fits).1
  have allowed : nodes.life.Allowed
      (.create (.chunk pool ((nodes.pools pool).pool.alloc (count pool)).1) name) := by
    intro member
    exact fresh ((sound.live pool _).mpr member)
  rcases sound.lives.step allowed with ⟨life, stepped, lives⟩
  refine ⟨_, by rw [NodePools.create, stepped]; rfl, lives, ?_, ?_, ?_, sound.top⟩
  · intro other
    by_cases same : other = pool
    · subst same
      simp only [Function.update_self]
      exact (sound.pools other).step (positive other) trivial
    · simp only [Function.update_of_ne same]
      exact sound.pools other
  · intro other chunk
    cases stepped
    rw [List.mem_cons]
    by_cases same : other = pool
    · subst same
      simp only [Function.update_self]
      change
        chunk ∈ ((nodes.pools other).pool.alloc (count other)).1 :: (nodes.pools other).live ↔ _
      rw [List.mem_cons, sound.live, NodeAt.chunk.injEq, and_iff_right rfl]
    · simp only [Function.update_of_ne same]
      rw [sound.live]
      simp [same]
  · cases stepped
    exact List.mem_cons_of_mem _ sound.root

/-- What is not inserted stays on top. -/
theorem notMem_step {event : Event NodeAt} (usual : Usual event)
    (top : ∀ this, .document ∉ forest.children this) (this : NodeAt) :
    .document ∉ (forest.step event).children this := by
  intro isChild
  cases event with
  | create node name => exact usual
  | insertEndChild parent addThis =>
      rcases Dom.Inserts.mem .atEnd isChild with wasChild | ⟨rfl, _⟩
      · exact top this wasChild
      · exact usual rfl
  | insertFirstChild parent addThis =>
      rcases Dom.Inserts.mem .inFront isChild with wasChild | ⟨rfl, _⟩
      · exact top this wasChild
      · exact usual rfl
  | insertAfterChild parent afterThis addThis =>
      rcases Dom.Inserts.mem (.behind afterThis) isChild with wasChild | ⟨rfl, _⟩
      · exact top this wasChild
      · exact usual rfl
  | deleteChildren parent => exact top this (Dom.Forest.mem_prune.mp isChild).2.2
  | deleteChild parent node => exact top this (Dom.Forest.mem_prune.mp isChild).2.2

theorem document_beneath {node : NodeAt} (top : ∀ this, .document ∉ forest.children this)
    (beneath : forest.Beneath .document node) : node = .document := by
  rcases Relation.ReflTransGen.cases_head beneath with same | ⟨parent, isChild, _⟩
  · exact same.symm
  · exact absurd isChild (top parent)

/-- The document is not deleted. -/
theorem Sound.root_step (sound : nodes.Sound count forest) {event : Event NodeAt}
    (usual : Usual event) (allowed : nodes.life.Allowed event) :
    .document ∈ (forest.step event).inUse := by
  have root := (sound.lives.inUse .document).mp sound.root
  cases event with
  | create node name => exact absurd usual id
  | insertEndChild parent addThis => exact root
  | insertFirstChild parent addThis => exact root
  | insertAfterChild parent afterThis addThis => exact root
  | deleteChildren parent =>
      refine ⟨root, fun gone => ?_⟩
      exact gone.1 (document_beneath sound.top gone.2).symm
  | deleteChild parent node =>
      refine ⟨root, fun gone => ?_⟩
      have isChild := (sound.lives.represents.parents parent node).mp allowed
      rw [document_beneath sound.top gone] at isChild
      exact sound.top parent isChild

theorem Sound.call (positive : ∀ pool, 0 < count pool) (sound : nodes.Sound count forest)
    {event : Event NodeAt} (usual : Usual event) (allowed : nodes.life.Allowed event) :
    ∃ after, nodes.step count (.call event) = some after ∧
      after.Sound count (forest.step event) := by
  rcases sound.lives.step allowed with ⟨life, stepped, lives⟩
  have old : ∀ node name, event ≠ .create node name := by
    rintro node name rfl
    exact usual
  have given := Dom.Life.giveBack_deleted stepped old
  have root : .document ∈ life.inUse :=
    (lives.inUse .document).mpr (sound.root_step usual allowed)
  have noDocument : .document ∉ nodes.life.deleted event := fun member =>
    Dom.notMem_of_giveBack sound.lives.once given .document member root
  rcases freeAll_sound positive sound.pools sound.live sound.lives.once given noDocument with
    ⟨pools, freed, soundPools, live⟩
  refine ⟨⟨life, pools⟩, ?_, lives, soundPools, live, root, notMem_step usual sound.top⟩
  rw [step, stepped, Option.bind_some, freed]
  rfl

theorem Sound.step (positive : ∀ pool, 0 < count pool) (sound : nodes.Sound count forest)
    {call : NodeCall} (allowed : nodes.Allowed call) :
    ∃ after, nodes.step count call = some after ∧
      after.Sound count (forest.step (nodes.event count call)) := by
  cases call with
  | newElement name => exact sound.create positive .element (some name)
  | newLeaf kind => exact sound.create positive kind.pool none
  | call event => exact sound.call positive allowed.1 allowed.2

theorem Sound.run (positive : ∀ pool, 0 < count pool) (sound : nodes.Sound count forest)
    {calls : List NodeCall} (allowed : Along (stepIfAny count) AllowedIfAny (some nodes) calls) :
    ∃ after, Foundation.run (stepIfAny count) (some nodes) calls = some after ∧
      after.Sound count (Foundation.run Forest.step forest (nodes.events count calls)) := by
  induction calls generalizing nodes forest with
  | nil => exact ⟨nodes, rfl, sound⟩
  | cons call calls ih =>
      rcases sound.step positive (allowed.1 nodes rfl) with ⟨next, stepped, sound'⟩
      have stepped' : stepIfAny count (some nodes) call = some next := stepped
      have further := allowed.2
      rw [stepped'] at further
      rcases ih sound' further with ⟨after, ran, sound''⟩
      refine ⟨after, ?_, ?_⟩
      · rw [run_cons, stepped', ran]
      · rw [events, run_cons, stepped]
        exact sound''

theorem start_sound (positive : ∀ pool, 0 < count pool) :
    start.Sound count (Forest.empty.step (.create .document none)) where
  lives := Dom.start_lives.create none List.not_mem_nil
  pools pool := by
    have sound : (run (PoolUse.step (count pool)) PoolUse.start []).Sound (count pool) :=
      PoolUse.run_sound (positive pool) trivial
    exact sound
  live pool chunk := by simp [start, PoolUse.start]
  root := List.mem_singleton.mpr rfl
  top _ := List.not_mem_nil

theorem Sound.currentAllocs (sound : nodes.Sound count forest) (pool : PoolKind) :
    (nodes.pools pool).pool.currentAllocs = (nodes.pools pool).live.length := by
  rcases (sound.pools pool).holds with ⟨free, holds⟩
  exact holds.current

/-- The pools are empty exactly if the document is all that is in use. -/
theorem Sound.empty_iff (sound : nodes.Sound count forest) :
    (∀ pool, (nodes.pools pool).pool.currentAllocs = 0) ↔
      ∀ node ∈ nodes.life.inUse, node = .document := by
  have isEmpty (pool : PoolKind) : (nodes.pools pool).pool.currentAllocs = 0 ↔
      ∀ chunk, .chunk pool chunk ∉ nodes.life.inUse := by
    rw [sound.currentAllocs pool, Int.natCast_eq_zero, List.length_eq_zero_iff,
      List.eq_nil_iff_forall_not_mem]
    simp only [sound.live]
  constructor
  · intro empty node member
    cases node with
    | document => rfl
    | chunk pool chunk => exact absurd member ((isEmpty pool).mp (empty pool) chunk)
  · intro onlyDocument pool
    rw [isEmpty]
    intro chunk member
    cases onlyDocument _ member

/-- `~XMLDocument`, which asserts that its pools are empty. -/
theorem Sound.destroyed (positive : ∀ pool, 0 < count pool) (sound : nodes.Sound count forest) :
    ∃ after, nodes.step count (.call (.deleteChildren .document)) = some after ∧
      ((∀ pool, (after.pools pool).pool.currentAllocs = 0) ↔
        ∀ node ∈ nodes.life.inUse, forest.Beneath node .document) := by
  have usual : Usual (.deleteChildren .document) := trivial
  rcases sound.call positive usual sound.root with ⟨after, stepped, sound'⟩
  refine ⟨after, stepped, sound'.empty_iff.trans ⟨?_, ?_⟩⟩
  · intro onlyDocument node member
    by_contra outside
    have stays : node ∈ after.life.inUse :=
      (sound'.lives.inUse node).mpr ⟨(sound.lives.inUse node).mp member, fun gone => outside gone.2⟩
    rw [onlyDocument node stays] at outside
    exact outside Relation.ReflTransGen.refl
  · intro beneath node member
    rcases (sound'.lives.inUse node).mp member with ⟨wasInUse, notGone⟩
    by_contra different
    exact notGone ⟨different, beneath node ((sound.lives.inUse node).mpr wasInUse)⟩

end Step

/-- Whatever nodes are created, inserted and deleted, no pool gets a chunk back that is not
in use, the chunks in use are the nodes, whose pointers are those of the forest to which
the same was done and lead to nodes in use, and the destructor of the document finds its
assertions true exactly if every node was inserted below the document. -/
theorem run_nodes {size : PoolKind → Nat} (fits : ∀ pool, 0 < size pool ∧ size pool ≤ 1024)
    {calls : List NodeCall}
    (allowed : Along (stepIfAny fun pool => MemPool.chunkCount (size pool)) AllowedIfAny
      (some start) calls) :
    ∃ (nodes : NodePools) (forest : Forest NodeAt),
      run (stepIfAny fun pool => MemPool.chunkCount (size pool)) (some start) calls = some nodes ∧
      forest = grown (fun pool => MemPool.chunkCount (size pool)) calls ∧
      nodes.life.dom.Represents forest.children ∧
      (∀ node, node ∈ nodes.life.inUse ↔ node ∈ forest.inUse) ∧ nodes.life.NoDangling ∧
      (∀ pool, (nodes.pools pool).live.Nodup ∧
        (nodes.pools pool).pool.currentAllocs = (nodes.pools pool).live.length ∧
        ∀ chunk, chunk ∈ (nodes.pools pool).live ↔ .chunk pool chunk ∈ nodes.life.inUse) ∧
      ∃ after, nodes.step (fun pool => MemPool.chunkCount (size pool))
          (.call (.deleteChildren .document)) = some after ∧
        ((∀ pool, (after.pools pool).pool.currentAllocs = 0) ↔
          ∀ node ∈ nodes.life.inUse, forest.Beneath node .document) := by
  have positive (pool : PoolKind) : 0 < MemPool.chunkCount (size pool) :=
    Nat.div_pos (fits pool).2 (fits pool).1
  rcases (start_sound positive).run positive allowed with ⟨nodes, isNodes, sound⟩
  refine ⟨nodes, _, isNodes, rfl, sound.lives.represents, sound.lives.inUse,
    sound.lives.noDangling, fun pool => ?_, sound.destroyed positive⟩
  exact ⟨nodup_live (sound.pools pool), sound.currentAllocs pool, sound.live pool⟩

theorem allowed_some {nodes : NodePools} {call : NodeCall} (allowed : nodes.Allowed call) :
    AllowedIfAny (some nodes) call := by
  rintro _ ⟨⟩
  exact allowed

/-- An element is inserted, and a comment is not. -/
theorem run_nodes_left :
    ∃ (nodes : NodePools) (forest : Forest NodeAt),
      run (stepIfAny fun _ => MemPool.chunkCount 512) (some start)
        [.newElement [0x61], .call (.insertEndChild .document (.chunk .element ⟨0, 0⟩)),
          .newLeaf .comment] = some nodes ∧
      forest = grown (fun _ => MemPool.chunkCount 512)
        [.newElement [0x61], .call (.insertEndChild .document (.chunk .element ⟨0, 0⟩)),
          .newLeaf .comment] ∧
      nodes.life.dom.Represents forest.children ∧
      (∀ node, node ∈ nodes.life.inUse ↔ node ∈ forest.inUse) ∧ nodes.life.NoDangling ∧
      (∀ pool, (nodes.pools pool).live.Nodup ∧
        (nodes.pools pool).pool.currentAllocs = (nodes.pools pool).live.length ∧
        ∀ chunk, chunk ∈ (nodes.pools pool).live ↔ .chunk pool chunk ∈ nodes.life.inUse) ∧
      ∃ after, nodes.step (fun _ => MemPool.chunkCount 512)
          (.call (.deleteChildren .document)) = some after ∧
        ((∀ pool, (after.pools pool).pool.currentAllocs = 0) ↔
          ∀ node ∈ nodes.life.inUse, forest.Beneath node .document) := by
  have inserted : Usual (.insertEndChild .document (.chunk .element ⟨0, 0⟩)) := by
    rintro ⟨⟩
  refine @run_nodes (fun _ => 512) (fun _ => ⟨by decide, by decide⟩) _
    ⟨allowed_some trivial, allowed_some ⟨inserted, ?_, ?_, rfl, ?_⟩, allowed_some trivial, trivial⟩
  · exact List.mem_cons_of_mem _ List.mem_cons_self
  · exact List.mem_cons_self
  · exact Dom.not_above (by rintro ⟨⟩) fun _ => by rintro ⟨⟩

end NodePools

end SandPlatform.Xml
