import Mathlib.Algebra.Group.Pi.Lemmas
import SandPlatform.Xml.Parser

/-!
# What a document owns

Nodes and attributes are chunks of four pools, and the destructor of a document asserts
that all of them were given back.  The calls of the pools are listed in the order in
which the parser makes them.  However a text ends it, what is in use afterwards is the
chunks of the nodes that were inserted.
-/

namespace SandPlatform.Xml

universe u

/-! ## Calls of the pools -/

/-- The pools of a document. -/
inductive PoolKind
  | element
  | attribute
  | text
  | comment
  deriving DecidableEq

/-- Comments, declarations and unknowns have one size. -/
def LeafKind.pool : LeafKind → PoolKind
  | .text => .text
  | .cdata => .text
  | .comment => .comment
  | .declaration => .comment
  | .unknown => .comment

/-- A chunk is taken from a pool or given back. -/
inductive PoolCall
  | alloc (pool : PoolKind)
  | free (pool : PoolKind)
  deriving DecidableEq

/-- `CurrentAllocs` of every pool. -/
abbrev InUse : Type :=
  PoolKind → Nat

/-- A chunk is given back only while one is in use. -/
def PoolCall.apply (inUse : InUse) : PoolCall → Option InUse
  | .alloc pool => some (inUse + Pi.single pool 1)
  | .free pool => if inUse pool = 0 then none else some (inUse - Pi.single pool 1)

/-- Calls of the pools; `none` if a chunk is given back and none is in use. -/
def applyAll (inUse : InUse) (calls : List PoolCall) : Option InUse :=
  calls.foldlM PoolCall.apply inUse

/-- Whatever is in use, the calls take these chunks. -/
def Takes (calls : List PoolCall) (chunks : InUse) : Prop :=
  ∀ inUse, applyAll inUse calls = some (inUse + chunks)

/-- Whatever else is in use, the calls give these chunks back. -/
def Returns (calls : List PoolCall) (chunks : InUse) : Prop :=
  ∀ inUse, applyAll (inUse + chunks) calls = some inUse

theorem applyAll_append (inUse : InUse) (first second : List PoolCall) :
    applyAll inUse (first ++ second) =
      (applyAll inUse first).bind fun between => applyAll between second := by
  simp [applyAll]

theorem takes_nil : Takes [] 0 := by
  intro inUse
  simp [applyAll]

theorem returns_nil : Returns [] 0 := by
  intro inUse
  simp [applyAll]

theorem takes_alloc (pool : PoolKind) : Takes [.alloc pool] (Pi.single pool 1) := by
  intro inUse
  simp [applyAll, PoolCall.apply]

theorem returns_free (pool : PoolKind) : Returns [.free pool] (Pi.single pool 1) := by
  intro inUse
  have same : inUse + Pi.single pool 1 - Pi.single pool 1 = inUse :=
    funext fun _ => Nat.add_sub_cancel _ _
  simp [applyAll, PoolCall.apply, same]

section Append

variable {calls calls' : List PoolCall} {chunks chunks' : InUse}

theorem Takes.append (first : Takes calls chunks) (second : Takes calls' chunks') :
    Takes (calls ++ calls') (chunks + chunks') := by
  intro inUse
  rw [applyAll_append, first, Option.bind_some, second, add_assoc]

theorem Returns.append (first : Returns calls chunks) (second : Returns calls' chunks') :
    Returns (calls ++ calls') (chunks + chunks') := by
  intro inUse
  rw [applyAll_append, add_comm chunks, ← add_assoc, first, Option.bind_some, second]

/-- Part of what was taken is given back. -/
theorem Takes.append_returns (first : Takes calls (chunks + chunks'))
    (second : Returns calls' chunks') : Takes (calls ++ calls') chunks := by
  intro inUse
  rw [applyAll_append, first, Option.bind_some, ← add_assoc, second]

end Append

/-- What is only tried is given back at once. -/
theorem takes_tried (pool : PoolKind) : Takes [.alloc pool, .free pool] 0 := by
  have taken := takes_alloc pool
  rw [← zero_add (Pi.single pool 1)] at taken
  exact taken.append_returns (returns_free pool)

/-! ## Destructors -/

section Destructors

variable {α : Type u}

/-- The chunks of nodes, with those of their children and attributes. -/
def Nodes.chunks : Nodes α → InUse
  | .nil => 0
  | .leaf node next => Pi.single node.kind.pool 1 + next.chunks
  | .element _ attributes firstChild next =>
      Pi.single .attribute attributes.length + firstChild.chunks + Pi.single .element 1 +
        next.chunks

/-- The loop of `~XMLElement`. -/
def deleteAttributes (attributes : List (Attribute α)) : List PoolCall :=
  attributes.map fun _ => .free .attribute

/-- `DeleteChildren`; `DELETE_NODE` runs the destructor and gives the chunk back. -/
def deleteChildren : Nodes α → List PoolCall
  | .nil => []
  | .leaf node next => [.free node.kind.pool] ++ deleteChildren next
  | .element _ attributes firstChild next =>
      deleteAttributes attributes ++ deleteChildren firstChild ++ [.free .element] ++
        deleteChildren next

/-- `DELETE_NODE` of an element. -/
def deleteElement (attributes : List (Attribute α)) (firstChild : Nodes α) : List PoolCall :=
  deleteAttributes attributes ++ deleteChildren firstChild ++ [.free .element]

theorem deleteAttributes_returns (attributes : List (Attribute α)) :
    Returns (deleteAttributes attributes) (Pi.single .attribute attributes.length) := by
  induction attributes with
  | nil =>
      rw [List.length_nil, Pi.single_zero]
      exact returns_nil
  | cons attrib attributes ih =>
      have both := (returns_free .attribute).append ih
      rw [← Pi.single_add, Nat.add_comm] at both
      exact both

theorem deleteChildren_returns (nodes : Nodes α) :
    Returns (deleteChildren nodes) nodes.chunks := by
  induction nodes with
  | nil => exact returns_nil
  | leaf node next ih => exact (returns_free _).append ih
  | element name attributes firstChild next ihFirst ihNext =>
      exact (((deleteAttributes_returns attributes).append ihFirst).append
        (returns_free .element)).append ihNext

theorem deleteElement_returns (attributes : List (Attribute α)) (firstChild : Nodes α) :
    Returns (deleteElement attributes firstChild)
      (Pi.single .attribute attributes.length + firstChild.chunks + Pi.single .element 1) :=
  ((deleteAttributes_returns attributes).append (deleteChildren_returns firstChild)).append
    (returns_free .element)

end Destructors

/-! ## The parser -/

section Parser

variable (processEntities : Bool)

/-- The calls of `ParseAttributes`, and the attributes that are linked in the end.  An
attribute that is not linked is deleted. -/
def attributesCalls :
    Nat → List (Attribute StrPair) → Text → List PoolCall × List (Attribute StrPair)
  | 0, list, _ => ([], list)
  | count + 1, list, p =>
      match skipWhiteSpace p with
      | [] => ([], list)
      | first :: rest =>
          if isAlpha first then
            match attributeParseDeep processEntities (first :: rest) with
            | none => ([.alloc .attribute, .free .attribute], list)
            | some (attrib, p) =>
                match findAttribute list attrib.name.text with
                | none =>
                    let (calls, list) := attributesCalls count (list ++ [attrib]) p
                    (.alloc .attribute :: calls, list)
                | some _ => ([.alloc .attribute, .free .attribute], list)
          else
            ([], list)

/-- The calls of the part of `XMLElement::ParseDeep` in front of the children. -/
def tagCalls (p : Text) : List PoolCall × List (Attribute StrPair) :=
  let p := skipWhiteSpace p
  let closing := p[0]? = some (byte '/')
  match parseName (if closing then p.drop 1 else p) with
  | none => ([], [])
  | some (_, p) => attributesCalls processEntities p.length [] p

/-- The calls of a round.  A node is deleted with all it has unless it is inserted. -/
def roundCalls (loop : Text → Level) (loopCalls : Text → List PoolCall) (p : Text) :
    List PoolCall :=
  match identify p with
  | none => []
  | some (.leaf kind, p) =>
      .alloc kind.pool ::
        match leafKindParseDeep processEntities kind p with
        | .error _ => [.free kind.pool]
        | .ok (_, p) => loopCalls p
  | some (.element, p) =>
      .alloc .element :: (tagCalls processEntities p).1 ++
        match parseTag processEntities p with
        | .null _ => deleteElement (tagCalls processEntities p).2 .nil
        | .nullRead => []
        | .tag name attributes closingType p =>
            let leafless := p = [] ∨ closingType ≠ .open
            let inner : Level := if leafless then ⟨.nil, .pointer none p⟩ else loop p
            (if leafless then [] else loopCalls p) ++
              match inner.ending with
              | .null _ => deleteElement attributes inner.children
              | .nullRead => []
              | .pointer endTag p =>
                  if closingType = .closing ∨ mismatched endTag closingType name = true then
                    deleteElement attributes inner.children
                  else
                    loopCalls p

/-- What the loop of `XMLNode::ParseDeep` does to the pools. -/
def parseCalls : Nat → Text → List PoolCall
  | 0, _ => []
  | count + 1, p =>
      roundCalls processEntities (parseDeep processEntities count) (parseCalls count) p

variable {processEntities}

/-- A null pointer was not read. -/
def Ending.Sound : Ending → Prop
  | .nullRead => False
  | _ => True

theorem attributesCalls_takes {start name : Text} {count : Nat}
    {list : List (Attribute StrPair)} {p : Text}
    (sound : parseAttributes processEntities start name count list p ≠ .nullRead) :
    ∃ added, (attributesCalls processEntities count list p).2 = list ++ added ∧
      Takes (attributesCalls processEntities count list p).1
        (Pi.single .attribute added.length) ∧
      ∀ attributes closed rest,
        parseAttributes processEntities start name count list p =
          .attributes attributes closed rest → attributes = list ++ added := by
  have none : Takes [] (Pi.single .attribute ([] : List (Attribute StrPair)).length) := by
    rw [List.length_nil, Pi.single_zero]
    exact takes_nil
  have tried : Takes [.alloc .attribute, .free .attribute]
      (Pi.single .attribute ([] : List (Attribute StrPair)).length) := by
    rw [List.length_nil, Pi.single_zero]
    exact takes_tried .attribute
  induction count generalizing list p with
  | zero => exact ⟨[], (List.append_nil _).symm, none, by rintro _ _ _ ⟨⟩⟩
  | succ count ih =>
      simp only [attributesCalls, parseAttributes] at sound ⊢
      cases skipped : skipWhiteSpace p with
      | nil => exact ⟨[], (List.append_nil _).symm, none, by rintro _ _ _ ⟨⟩⟩
      | cons first rest =>
          simp only [skipped] at sound ⊢
          by_cases alpha : isAlpha first
          · simp only [alpha, if_true] at sound ⊢
            cases parsed : attributeParseDeep processEntities (first :: rest) with
            | none => exact ⟨[], (List.append_nil _).symm, tried, by rintro _ _ _ ⟨⟩⟩
            | some result =>
                rcases result with ⟨attrib, p'⟩
                simp only [parsed] at sound ⊢
                cases duplicate : findAttribute list attrib.name.text with
                | none =>
                    simp only [duplicate] at sound ⊢
                    rcases ih sound with ⟨added, linked, takes, same⟩
                    refine ⟨attrib :: added, ?_, ?_, ?_⟩
                    · rw [linked, List.append_assoc, List.singleton_append]
                    · have both := (takes_alloc .attribute).append takes
                      rw [← Pi.single_add, Nat.add_comm] at both
                      exact both
                    · intro attributes closed rest' ended
                      rw [same attributes closed rest' ended, List.append_assoc,
                        List.singleton_append]
                | some found =>
                    simp only [duplicate] at sound ⊢
                    refine ⟨[], (List.append_nil _).symm, tried, ?_⟩
                    intro attributes closed rest' ended
                    split at ended <;> cases ended
          · simp only [alpha, Bool.false_eq_true, if_false] at sound ⊢
            refine ⟨[], (List.append_nil _).symm, none, ?_⟩
            intro attributes closed rest' ended
            rw [List.append_nil]
            split_ifs at ended <;> cases ended <;> rfl

/-- The attributes that are linked are those of the tag, if it is one. -/
theorem tagCalls_takes {p : Text} (sound : parseTag processEntities p ≠ .nullRead) :
    Takes (tagCalls processEntities p).1
        (Pi.single .attribute (tagCalls processEntities p).2.length) ∧
      ∀ name attributes closingType rest,
        parseTag processEntities p = .tag name attributes closingType rest →
          attributes = (tagCalls processEntities p).2 := by
  simp only [tagCalls, parseTag] at sound ⊢
  cases named : parseName (if (skipWhiteSpace p)[0]? = some (byte '/') then
      (skipWhiteSpace p).drop 1 else skipWhiteSpace p) with
  | none =>
      refine ⟨?_, by rintro _ _ _ _ ⟨⟩⟩
      rw [List.length_nil, Pi.single_zero]
      exact takes_nil
  | some result =>
      rcases result with ⟨name, p'⟩
      simp only [named] at sound ⊢
      have attributes : parseAttributes processEntities p' name.start p'.length [] p' ≠
          .nullRead := by
        intro crashed
        rw [crashed] at sound
        exact sound rfl
      rcases attributesCalls_takes attributes with ⟨added, linked, takes, same⟩
      rw [linked, List.nil_append]
      refine ⟨takes, ?_⟩
      intro name' attributes' closingType rest ended
      cases parsed : parseAttributes processEntities p' name.start p'.length [] p' with
      | null error =>
          rw [parsed] at ended
          cases ended
      | nullRead => exact absurd parsed attributes
      | attributes found closed rest' =>
          rw [parsed] at ended
          cases ended
          exact same _ _ _ parsed

theorem takes_zero_of_deleted {calls : List PoolCall} {chunks : InUse}
    (taken : Takes calls chunks) {calls' : List PoolCall} (returned : Returns calls' chunks) :
    Takes (calls ++ calls') 0 := by
  rw [← zero_add chunks] at taken
  exact taken.append_returns returned

/-- The children of an element that is not closed by its tag. -/
theorem inner_takes {loop : Text → Level} {loopCalls : Text → List PoolCall} {rest : Text}
    (takes : (loop rest).ending.Sound → Takes (loopCalls rest) (loop rest).children.chunks)
    (leafless : Prop) [Decidable leafless]
    (sound : (if leafless then ⟨.nil, .pointer none rest⟩ else loop rest : Level).ending.Sound) :
    Takes (if leafless then [] else loopCalls rest)
      (if leafless then ⟨.nil, .pointer none rest⟩ else loop rest : Level).children.chunks := by
  split_ifs at sound ⊢
  · exact takes_nil
  · exact takes sound

/-- After a round and the rounds behind it, what is in use are the chunks of the nodes that
were inserted. -/
theorem roundCalls_takes {loop : Text → Level} {loopCalls : Text → List PoolCall}
    (takes : ∀ p, (loop p).ending.Sound → Takes (loopCalls p) (loop p).children.chunks)
    (p : Text) (sound : (parseRound processEntities loop p).ending.Sound) :
    Takes (roundCalls processEntities loop loopCalls p)
      (parseRound processEntities loop p).children.chunks := by
  unfold roundCalls parseRound at *
  cases identified : identify p with
  | none => exact takes_nil
  | some result =>
      rcases result with ⟨kind | _, p'⟩
      · simp only [identified] at sound ⊢
        cases parsed : leafKindParseDeep processEntities kind p' with
        | error error => exact takes_tried kind.pool
        | ok result =>
            rcases result with ⟨value, rest⟩
            simp only [parsed] at sound ⊢
            exact (takes_alloc kind.pool).append (takes rest sound)
      · simp only [identified] at sound ⊢
        have notRead : parseTag processEntities p' ≠ .nullRead := by
          intro crashed
          rw [crashed] at sound
          exact sound
        rcases tagCalls_takes notRead with ⟨tagTakes, same⟩
        have opened := (takes_alloc .element).append tagTakes
        cases tagged : parseTag processEntities p' with
        | null error =>
            have deleted := deleteElement_returns (tagCalls processEntities p').2
              (.nil : Nodes StrPair)
            rw [Nodes.chunks, add_zero, add_comm] at deleted
            exact takes_zero_of_deleted opened deleted
        | nullRead => exact absurd tagged notRead
        | tag name attributes closingType rest =>
            rw [← same _ _ _ _ tagged] at opened
            simp only [tagged] at sound ⊢
            have innerTakes :=
              inner_takes (takes rest) (rest = [] ∨ closingType ≠ .open)
            generalize (if rest = [] ∨ closingType ≠ .open then
              (⟨.nil, .pointer none rest⟩ : Level) else loop rest) = inner at sound innerTakes ⊢
            generalize (if rest = [] ∨ closingType ≠ .open then ([] : List PoolCall)
              else loopCalls rest) = innerCalls at innerTakes ⊢
            have notInnerRead : inner.ending.Sound := by
              cases ended : inner.ending with
              | nullRead =>
                  rw [ended] at sound
                  exact sound
              | null error => trivial
              | pointer endTag rest' => trivial
            have filled := opened.append (innerTakes notInnerRead)
            rw [add_rotate] at filled
            have deleted := takes_zero_of_deleted filled
              (deleteElement_returns attributes inner.children)
            rw [List.append_assoc] at deleted
            cases ended : inner.ending with
            | null error => exact deleted
            | nullRead =>
                rw [ended] at notInnerRead
                exact notInnerRead.elim
            | pointer endTag rest' =>
                simp only [ended] at sound ⊢
                by_cases closing : closingType = .closing
                · simp only [closing, true_or, if_true]
                  exact deleted
                · by_cases wrong : mismatched endTag closingType name = true
                  · simp only [closing, wrong, or_true, if_true, if_false]
                    exact deleted
                  · simp only [closing, wrong, if_false] at sound ⊢
                    have inserted := filled.append (takes rest' sound)
                    rw [List.append_assoc] at inserted
                    exact inserted

/-- By induction on the count, which is that of the parser. -/
theorem parseCalls_takes {count : Nat} {p : Text}
    (sound : (parseDeep processEntities count p).ending.Sound) :
    Takes (parseCalls processEntities count p)
      (parseDeep processEntities count p).children.chunks := by
  induction count generalizing p with
  | zero => exact takes_nil
  | succ count ih => exact roundCalls_takes (fun p sound => ih sound) p sound

end Parser

/-! ## Documents -/

section Documents

/-- The calls that give a document a text. -/
inductive Load
  | parse (p : Text)
  | loadXmlData (xmldata : Text)

variable (processEntities : Bool)

namespace Load

/-- The document that is loaded, unless the parser reads a null pointer. -/
def document (writeBOM : Bool) : Load → Option Document
  | .parse p => Xml.parse processEntities writeBOM p
  | .loadXmlData xmldata => Xml.loadXmlData processEntities writeBOM xmldata

/-- The calls of `ParseDeep` for the document. -/
def calls : Load → List PoolCall
  | .parse p =>
      let behind := (readBOM (skipWhiteSpace p)).2
      if p = [] then [] else parseCalls processEntities behind.length behind
  | .loadXmlData xmldata => parseCalls processEntities xmldata.length xmldata

end Load

/-- A document that is loaded again and again, and the calls of the pools.  Each time the
children are deleted first. -/
def loadAll : Document → List Load → Option (Document × List PoolCall)
  | document, [] => some (document, [])
  | document, load :: loads =>
      match load.document processEntities document.writeBOM with
      | none => none
      | some next =>
          (loadAll next loads).map fun (final, calls) =>
            (final, deleteChildren document.children ++
              (load.calls processEntities ++ calls))

/-- A document before its first load. -/
def Document.new : Document :=
  ⟨.nil, false, none⟩

variable {processEntities}

theorem documentParseDeep_takes {writeBOM : Bool} {p : Text} {document : Document}
    (loaded : documentParseDeep processEntities writeBOM p = some document) :
    Takes (parseCalls processEntities p.length p) document.children.chunks := by
  simp only [documentParseDeep] at loaded
  have sound : (parseDeep processEntities p.length p).ending.Sound := by
    cases ended : (parseDeep processEntities p.length p).ending with
    | nullRead =>
        rw [ended] at loaded
        cases loaded
    | null error => trivial
    | pointer endTag rest => trivial
  have takes := parseCalls_takes sound
  split at loaded <;> cases loaded <;> exact takes

theorem Load.calls_takes {load : Load} {writeBOM : Bool} {document : Document}
    (loaded : load.document processEntities writeBOM = some document) :
    Takes (load.calls processEntities) document.children.chunks := by
  cases load with
  | parse p =>
      simp only [Load.document, Xml.parse, Load.calls] at loaded ⊢
      by_cases empty : p = []
      · rw [if_pos empty] at loaded ⊢
        cases loaded
        exact takes_nil
      · rw [if_neg empty] at loaded ⊢
        by_cases nothing : (readBOM (skipWhiteSpace p)).2 = []
        · rw [if_pos nothing] at loaded
          rw [nothing]
          cases loaded
          exact takes_nil
        · rw [if_neg nothing] at loaded
          exact documentParseDeep_takes loaded
  | loadXmlData xmldata => exact documentParseDeep_takes loaded

theorem loadAll_moves {loads : List Load} {document final : Document} {calls : List PoolCall}
    (loaded : loadAll processEntities document loads = some (final, calls)) (inUse : InUse) :
    applyAll (inUse + document.children.chunks) calls =
      some (inUse + final.children.chunks) := by
  induction loads generalizing document calls with
  | nil =>
      cases loaded
      rfl
  | cons load loads ih =>
      rw [loadAll] at loaded
      cases next : load.document processEntities document.writeBOM with
      | none =>
          rw [next] at loaded
          cases loaded
      | some document' =>
          rw [next] at loaded
          rcases Option.map_eq_some_iff.mp loaded with ⟨⟨final', calls'⟩, others, same⟩
          cases same
          rw [applyAll_append, deleteChildren_returns, Option.bind_some, applyAll_append,
            Load.calls_takes next, Option.bind_some]
          exact ih others

/-- Over any run of loads, well or badly formed, nothing is given back that is not in use,
what is in use is what the document keeps, and its destructor finds all pools empty. -/
theorem loadAll_empties {loads : List Load} {final : Document} {calls : List PoolCall}
    (loaded : loadAll processEntities .new loads = some (final, calls)) :
    applyAll 0 calls = some final.children.chunks ∧
      applyAll 0 (calls ++ deleteChildren final.children) = some 0 := by
  have kept := loadAll_moves loaded 0
  rw [Document.new, Nodes.chunks, add_zero, zero_add] at kept
  have given := deleteChildren_returns final.children 0
  rw [zero_add] at given
  rw [applyAll_append, kept]
  exact ⟨rfl, given⟩

/-- A text that ends in the middle, with an attribute and a child to delete, and then one
that is well formed. -/
theorem loadAll_empties_broken :
    ∃ final calls, loadAll true .new
        [.parse (bytes ['<', 'a', ' ', 'b', '=', '"', '"', '>', '<', 'c', '/', '>', 't']),
          .loadXmlData (bytes ['<', 'a', '>', 't', '<', '/', 'a', '>'])] =
          some (final, calls) ∧
      final.children ≠ .nil ∧ applyAll 0 (calls ++ deleteChildren final.children) = some 0 := by
  have loads : (loadAll true .new
      [.parse (bytes ['<', 'a', ' ', 'b', '=', '"', '"', '>', '<', 'c', '/', '>', 't']),
        .loadXmlData (bytes ['<', 'a', '>', 't', '<', '/', 'a', '>'])]).any
      fun loaded => decide (loaded.1.children ≠ .nil) := by decide +kernel
  rcases (Option.any_eq_true _ _).mp loads with ⟨⟨final, calls⟩, loaded, more⟩
  exact ⟨final, calls, loaded, of_decide_eq_true more, (loadAll_empties loaded).2⟩

end Documents

end SandPlatform.Xml
