import SandPlatform.Foundation.Run
import SandPlatform.Xml.Reprint

/-!
# Elements

The attributes of an element are found, set and deleted by their names.  While no two of
them have one name, they are a map from names to values, and only then is an element
equal to its own clone.
-/

namespace SandPlatform.Xml

open SandPlatform.Foundation

/-- What is compared of a string. -/
def compared (p : Text) : Text :=
  p.take intMax

theorem sameString_eq (p q : Text) : sameString p q = decide (compared p = compared q) := by
  rw [Bool.eq_iff_iff, decide_eq_true_iff]
  exact stringEqual_iff p q intMax

/-- An element without its children. -/
structure Element where
  value : Text
  attributes : List (Attribute Text)
  deriving DecidableEq

/-! ## The operations -/

/-- The attributes, with one of the name, and which one it is.  A new one gets its value
from the caller. -/
def findOrCreateAttribute (name : Text) :
    List (Attribute Text) → List (Attribute Text) × Nat
  | [] => ([⟨name, []⟩], 0)
  | attrib :: next =>
      if sameString attrib.name name then
        (attrib :: next, 0)
      else
        let (next, found) := findOrCreateAttribute name next
        (attrib :: next, found + 1)

namespace Element

/-- `FindAttribute`, which takes the first of the name. -/
def findAttribute (name : Text) (element : Element) : Option (Attribute Text) :=
  element.attributes.find? fun a => sameString a.name name

/-- `Attribute`: the value, if it is the one that is asked for. -/
def attributeOf (name : Text) (value : Option Text) (element : Element) : Option Text :=
  match element.findAttribute name with
  | none => none
  | some a => if value.all fun value => sameString a.value value then some a.value else none

/-- `SetAttribute`. -/
def setAttribute (name value : Text) (element : Element) : Element :=
  let (attributes, attrib) := findOrCreateAttribute name element.attributes
  { element with attributes := attributes.modify attrib fun a => { a with value := value } }

/-- `DeleteAttribute`, which also takes the first of the name only. -/
def deleteAttribute (name : Text) (element : Element) : Element :=
  { element with attributes := element.attributes.eraseP fun a => sameString name a.name }

end Element

/-- A node without its children. -/
inductive Node
  | leaf (node : Leaf Text)
  | element (element : Element)
  deriving DecidableEq

/-- What `ToText`, `ToComment` and so on tell apart. -/
def LeafKind.isText : LeafKind → Bool
  | .text => true
  | .cdata => true
  | _ => false

/-- Whether a leaf has the type of another one, so that their values are compared. -/
def LeafKind.casts (this compare : LeafKind) : Bool :=
  if this.isText then compare.isText else compare == this

/-- The loop over both lists; the names of the attributes are not compared. -/
def sameAttributes : List (Attribute Text) → List (Attribute Text) → Bool
  | a :: next, b :: next' => sameString a.value b.value && sameAttributes next next'
  | [], [] => true
  | _, _ => false

namespace Node

/-- `ShallowClone`: an element is filled by `SetAttribute`. -/
def shallowClone : Node → Node
  | .leaf node => .leaf node
  | .element this =>
      .element (this.attributes.foldl (fun clone a => clone.setAttribute a.name a.value)
        ⟨this.value, []⟩)

/-- `ShallowEqual`. -/
def shallowEqual : Node → Node → Bool
  | .leaf this, .leaf compare =>
      this.kind.casts compare.kind && sameString compare.value this.value
  | .element this, .element other =>
      sameString other.value this.value && sameAttributes this.attributes other.attributes
  | _, _ => false

end Node

/-! ## Attributes as a map -/

/-- No two attributes have one name. -/
def NamesApart (attributes : List (Attribute Text)) : Prop :=
  (attributes.map fun a => compared a.name).Nodup

/-- The value of the first attribute of the name. -/
def valueOf (name : Text) (attributes : List (Attribute Text)) : Option Text :=
  (attributes.find? fun a => sameString a.name name).map Attribute.value

/-- The value of the first attribute of the name is set, or there is one more. -/
def putAttribute (name value : Text) : List (Attribute Text) → List (Attribute Text)
  | [] => [⟨name, value⟩]
  | attrib :: next =>
      if sameString attrib.name name then
        ⟨attrib.name, value⟩ :: next
      else
        attrib :: putAttribute name value next

section Attributes

variable {name value other : Text} {attributes : List (Attribute Text)}

theorem setAttribute_eq (name value : Text) (element : Element) :
    element.setAttribute name value =
      { element with attributes := putAttribute name value element.attributes } := by
  have list : ∀ attributes : List (Attribute Text),
      (findOrCreateAttribute name attributes).1.modify (findOrCreateAttribute name attributes).2
        (fun a => { a with value := value }) = putAttribute name value attributes := by
    intro attributes
    induction attributes with
    | nil => rfl
    | cons attrib next ih =>
        cases same : sameString attrib.name name with
        | true => simp [findOrCreateAttribute, putAttribute, same]
        | false => simp [findOrCreateAttribute, putAttribute, same, ih]
  simp [Element.setAttribute, list]

theorem attributeOf_eq (name : Text) (value : Option Text) (element : Element) :
    element.attributeOf name value =
      (valueOf name element.attributes).filter fun found =>
        value.all fun value => sameString found value := by
  rw [Element.attributeOf, Element.findAttribute, valueOf]
  cases element.attributes.find? fun a => sameString a.name name with
  | none => rfl
  | some a => rfl

theorem valueOf_put (name value other : Text) (attributes : List (Attribute Text)) :
    valueOf other (putAttribute name value attributes) =
      if sameString name other then some value else valueOf other attributes := by
  induction attributes with
  | nil => cases same : sameString name other <;> simp [putAttribute, valueOf, same]
  | cons attrib next ih =>
      cases same : sameString attrib.name name with
      | true =>
          have names : sameString attrib.name other = sameString name other := by
            rw [sameString_eq, decide_eq_true_iff] at same
            rw [sameString_eq, sameString_eq, same]
          cases found : sameString name other <;>
            simp [putAttribute, same, valueOf, names, found]
      | false =>
          rw [putAttribute, same, if_neg (by simp), valueOf, List.find?_cons]
          rw [valueOf] at ih ⊢
          cases found : sameString attrib.name other with
          | true =>
              have different : sameString name other = false := by
                rw [sameString_eq, decide_eq_false_iff_not] at same ⊢
                rw [sameString_eq, decide_eq_true_iff] at found
                rw [← found]
                exact Ne.symm same
              simp [found, different]
          | false => simp [found, ih, valueOf]

theorem valueOf_eq_none_iff :
    valueOf name attributes = none ↔ compared name ∉ attributes.map fun a => compared a.name := by
  simp [valueOf, sameString_eq]

theorem valueOf_erase (name other : Text) (apart : NamesApart attributes) :
    valueOf other (attributes.eraseP fun a => sameString name a.name) =
      if sameString name other then none else valueOf other attributes := by
  induction attributes with
  | nil => simp [valueOf]
  | cons attrib next ih =>
      rw [NamesApart, List.map_cons, List.nodup_cons] at apart
      cases same : sameString name attrib.name with
      | true =>
          rw [sameString_eq, decide_eq_true_iff] at same
          rw [List.eraseP_cons_of_pos (by rw [sameString_eq, same]; simp)]
          cases found : sameString name other with
          | true =>
              rw [sameString_eq, decide_eq_true_iff] at found
              rw [if_pos rfl, valueOf_eq_none_iff, ← found, same]
              exact apart.1
          | false =>
              have different : sameString attrib.name other = false := by
                rw [sameString_eq] at found ⊢
                rwa [← same]
              simp [valueOf, different]
      | false =>
          rw [List.eraseP_cons_of_neg (by simp [same]), valueOf, List.find?_cons]
          rw [valueOf] at ih ⊢
          cases found : sameString attrib.name other with
          | true =>
              have different : sameString name other = false := by
                rw [sameString_eq, decide_eq_false_iff_not] at same ⊢
                rw [sameString_eq, decide_eq_true_iff] at found
                rwa [← found]
              simp [found, different]
          | false => simp [found, ih apart.2, valueOf]

theorem names_put (name value : Text) (attributes : List (Attribute Text)) :
    (putAttribute name value attributes).map (fun a => compared a.name) =
      if compared name ∈ attributes.map (fun a => compared a.name) then
        attributes.map fun a => compared a.name
      else
        (attributes.map fun a => compared a.name) ++ [compared name] := by
  induction attributes with
  | nil => rfl
  | cons attrib next ih =>
      by_cases same : compared attrib.name = compared name
      · simp [putAttribute, sameString_eq, same]
      · rw [putAttribute, sameString_eq, if_neg (by simpa using same), List.map_cons, ih]
        have different : compared name ≠ compared attrib.name := Ne.symm same
        split_ifs with inside there there
        · rfl
        · exact absurd (List.mem_cons_of_mem _ inside) there
        · rcases List.mem_cons.mp there with first | further
          · exact absurd first different
          · exact absurd further inside
        · rfl

theorem NamesApart.put (apart : NamesApart attributes) (name value : Text) :
    NamesApart (putAttribute name value attributes) := by
  rw [NamesApart, names_put]
  split_ifs with inside
  · exact apart
  · rw [List.nodup_append]
    refine ⟨apart, by simp, fun key member last isLast => ?_⟩
    rw [List.mem_singleton.mp isLast]
    exact fun same => inside (same ▸ member)

theorem NamesApart.erase (apart : NamesApart attributes) (test : Attribute Text → Bool) :
    NamesApart (attributes.eraseP test) :=
  apart.sublist ((List.eraseP_sublist).map _)

end Attributes

/-! ## Runs of edits -/

/-- An attribute is set or deleted. -/
inductive AttributeEdit
  | set (name value : Text)
  | delete (name : Text)

/-- What an edit does to the element. -/
def Element.edit (element : Element) : AttributeEdit → Element
  | .set name value => element.setAttribute name value
  | .delete name => element.deleteAttribute name

/-- The same edit of a map. -/
def editMap (values : Text → Option Text) : AttributeEdit → Text → Option Text
  | .set name value, other => if sameString name other then some value else values other
  | .delete name, other => if sameString name other then none else values other

/-- An element whose attributes are this map. -/
structure Element.Maps (element : Element) (values : Text → Option Text) : Prop where
  apart : NamesApart element.attributes
  values : ∀ name, valueOf name element.attributes = values name

theorem Element.Maps.edit {element : Element} {values : Text → Option Text}
    (maps : element.Maps values) (change : AttributeEdit) :
    (element.edit change).Maps (editMap values change) := by
  cases change with
  | set name value =>
      rw [Element.edit, setAttribute_eq]
      refine ⟨maps.apart.put name value, fun other => ?_⟩
      rw [valueOf_put, maps.values, editMap]
  | delete name =>
      refine ⟨maps.apart.erase _, fun other => ?_⟩
      rw [Element.edit, Element.deleteAttribute, valueOf_erase name other maps.apart,
        maps.values, editMap]

theorem maps_attributeOf {element : Element} (apart : NamesApart element.attributes) :
    element.Maps fun name => element.attributeOf name none := by
  refine ⟨apart, fun name => ?_⟩
  rw [attributeOf_eq]
  cases valueOf name element.attributes <;> rfl

theorem Element.Maps.attributeOf {element : Element} {values : Text → Option Text}
    (maps : element.Maps values) (name : Text) (value : Option Text) :
    element.attributeOf name value =
      (values name).filter fun found => value.all fun value => sameString found value := by
  rw [attributeOf_eq, maps.values]

theorem Element.Maps.run {element : Element} {values : Text → Option Text}
    (maps : element.Maps values) (edits : List AttributeEdit) :
    (run Element.edit element edits).Maps (Foundation.run editMap values edits) := by
  have kept : ∀ (element : Element) (values : Text → Option Text) (change : AttributeEdit),
      element.Maps values → True → (element.edit change).Maps (editMap values change) :=
    fun _ _ change maps _ => maps.edit change
  exact run_refines kept maps (along_of_forall (fun _ _ => trivial) element edits)

/-! ## Clones -/

section Clones

variable {attributes : List (Attribute Text)}

/-- An attribute of a new name is put at the end. -/
theorem put_of_fresh {name : Text} (value : Text)
    (fresh : compared name ∉ attributes.map fun a => compared a.name) :
    putAttribute name value attributes = attributes ++ [⟨name, value⟩] := by
  induction attributes with
  | nil => rfl
  | cons attrib next ih =>
      rw [List.map_cons, List.mem_cons, not_or] at fresh
      have different : sameString attrib.name name = false := by
        rw [sameString_eq, decide_eq_false_iff_not]
        exact Ne.symm fresh.1
      rw [putAttribute, different, ih fresh.2]
      rfl

theorem length_put_le (name value : Text) (attributes : List (Attribute Text)) :
    (putAttribute name value attributes).length ≤ attributes.length + 1 := by
  have names := congrArg List.length (names_put name value attributes)
  split_ifs at names <;> simp at names <;> omega

/-- The attributes of a list are put one after another. -/
def putAll (attributes : List (Attribute Text)) (list : List (Attribute Text)) :
    List (Attribute Text) :=
  list.foldl (fun attributes a => putAttribute a.name a.value attributes) attributes

theorem length_putAll_le (attributes list : List (Attribute Text)) :
    (putAll attributes list).length ≤ attributes.length + list.length := by
  induction list generalizing attributes with
  | nil => simp [putAll]
  | cons attrib next ih =>
      have one := length_put_le attrib.name attrib.value attributes
      have others := ih (putAttribute attrib.name attrib.value attributes)
      rw [List.length_cons]
      exact others.trans (by omega)

/-- All attributes are put one behind another exactly if their names are apart. -/
theorem putAll_eq {list : List (Attribute Text)} (apart : NamesApart (attributes ++ list)) :
    putAll attributes list = attributes ++ list := by
  induction list generalizing attributes with
  | nil => simp [putAll]
  | cons attrib next ih =>
      have fresh : compared attrib.name ∉ attributes.map fun a => compared a.name := by
        rw [NamesApart, List.map_append, List.map_cons, List.nodup_append] at apart
        exact fun member => apart.2.2 _ member _ List.mem_cons_self rfl
      have step : putAll attributes (attrib :: next) = putAll (attributes ++ [attrib]) next := by
        rw [← put_of_fresh attrib.value fresh]
        rfl
      rw [step, ih (by simpa using apart)]
      simp

theorem apart_of_length {list : List (Attribute Text)} (apart : NamesApart attributes)
    (whole : (putAll attributes list).length = attributes.length + list.length) :
    NamesApart (attributes ++ list) := by
  induction list generalizing attributes with
  | nil => simpa using apart
  | cons attrib next ih =>
      have put := apart.put attrib.name attrib.value
      have rest := length_putAll_le (putAttribute attrib.name attrib.value attributes) next
      have one := length_put_le attrib.name attrib.value attributes
      have step : putAll attributes (attrib :: next) =
          putAll (putAttribute attrib.name attrib.value attributes) next := rfl
      rw [step, List.length_cons] at whole
      have fresh : compared attrib.name ∉ attributes.map fun a => compared a.name := by
        intro member
        have names := congrArg List.length (names_put attrib.name attrib.value attributes)
        rw [if_pos member, List.length_map, List.length_map] at names
        omega
      rw [put_of_fresh attrib.value fresh] at whole put
      have inOrder := ih put (by rw [whole, List.length_append, List.length_singleton]; omega)
      simpa using inOrder

end Clones

/-- What `ShallowEqual` sees of a node. -/
def Node.seen : Node → Option LeafKind × Text × List Text
  | .leaf node => (some (if node.kind.isText then .text else node.kind), compared node.value, [])
  | .element this =>
      (none, compared this.value, this.attributes.map fun a => compared a.value)

theorem sameAttributes_iff (attributes others : List (Attribute Text)) :
    sameAttributes attributes others = true ↔
      (attributes.map fun a => compared a.value) = others.map fun a => compared a.value := by
  induction attributes generalizing others with
  | nil => cases others <;> simp [sameAttributes]
  | cons attrib next ih =>
      cases others with
      | nil => simp [sameAttributes]
      | cons other others => simp [sameAttributes, sameString_eq, ih]

theorem casts_iff (this compare : LeafKind) :
    this.casts compare = true ↔
      (if this.isText then LeafKind.text else this) =
        if compare.isText then LeafKind.text else compare := by
  cases this <;> cases compare <;> decide

theorem shallowEqual_iff (this compare : Node) :
    this.shallowEqual compare = true ↔ this.seen = compare.seen := by
  cases this with
  | leaf node =>
      cases compare with
      | leaf other =>
          rw [Node.shallowEqual, Bool.and_eq_true, casts_iff, sameString_eq, decide_eq_true_iff]
          simp only [Node.seen, Prod.mk.injEq, Option.some.injEq, and_true]
          exact and_congr_right fun _ => eq_comm
      | element other => simp [Node.shallowEqual, Node.seen]
  | element element =>
      cases compare with
      | leaf other => simp [Node.shallowEqual, Node.seen]
      | element other =>
          rw [Node.shallowEqual, Bool.and_eq_true, sameAttributes_iff, sameString_eq,
            decide_eq_true_iff]
          simp only [Node.seen, Prod.mk.injEq, true_and]
          exact and_congr_left fun _ => eq_comm

/-- The attributes of a clone. -/
theorem shallowClone_element (element : Element) :
    (Node.element element).shallowClone =
      .element ⟨element.value, putAll [] element.attributes⟩ := by
  have clones : ∀ (list : List (Attribute Text)) (clone : Element),
      list.foldl (fun clone a => clone.setAttribute a.name a.value) clone =
        ⟨clone.value, putAll clone.attributes list⟩ := by
    intro list
    induction list with
    | nil => exact fun _ => rfl
    | cons attrib next ih =>
        intro clone
        rw [List.foldl_cons, ih, setAttribute_eq]
        rfl
  rw [Node.shallowClone, clones]

/-- What a node must meet for its clone to be the same. -/
def Node.Apart : Node → Prop
  | .leaf _ => True
  | .element this => NamesApart this.attributes

theorem Node.Apart.shallowClone_eq {node : Node} (apart : node.Apart) :
    node.shallowClone = node := by
  cases node with
  | leaf node => rfl
  | element element =>
      have whole : putAll [] element.attributes = [] ++ element.attributes := putAll_eq apart
      rw [shallowClone_element, whole]
      rfl

/-- A clone that passes for the node has as many attributes. -/
theorem apart_of_shallowEqual {node : Node} (equal : node.shallowClone.shallowEqual node = true) :
    node.Apart := by
  rw [shallowEqual_iff] at equal
  cases node with
  | leaf node => trivial
  | element element =>
      rw [shallowClone_element, Node.seen, Node.seen] at equal
      have lengths := congrArg List.length (congrArg (Prod.snd ∘ Prod.snd) equal)
      simp only [Function.comp_apply, List.length_map] at lengths
      have none : NamesApart [] := List.nodup_nil
      exact apart_of_length none (by rw [lengths]; simp)

/-- A clone is the same node, or at least passes for it, exactly if no two attributes have
one name. -/
theorem shallowClone_iff (node : Node) :
    (node.shallowClone = node ↔ node.Apart) ∧
      (node.shallowClone.shallowEqual node = true ↔ node.Apart) := by
  have reflexive : node.shallowEqual node = true := (shallowEqual_iff node node).mpr rfl
  refine ⟨⟨fun clone => apart_of_shallowEqual ?_, Node.Apart.shallowClone_eq⟩,
    ⟨apart_of_shallowEqual, fun apart => ?_⟩⟩
  · rw [clone, reflexive]
  · rw [apart.shallowClone_eq, reflexive]

/-! ## Elements of documents -/

/-- The elements in the order of their tags, each with its name and its attributes. -/
def Nodes.tags : Nodes StrPair → List (StrPair × List (Attribute StrPair))
  | nil => []
  | leaf _ next => next.tags
  | element name attributes firstChild next =>
      (name, attributes) :: (firstChild.tags ++ next.tags)

/-- The element, if its strings have values. -/
def elementOf (tag : StrPair × List (Attribute StrPair)) : Option Element := do
  let value ← tag.1.value
  let attributes ← attributeValues tag.2
  some ⟨value, attributes⟩

theorem attributeValues_of_elementOf {tag : StrPair × List (Attribute StrPair)}
    {element : Element} (same : elementOf tag = some element) :
    attributeValues tag.2 = some element.attributes := by
  simp only [elementOf, Option.bind_eq_bind, Option.bind_eq_some_iff] at same
  rcases same with ⟨value, _, attributes, isAttributes, whole⟩
  cases whole
  exact isAttributes

theorem namesApart_iff {attributes : List (Attribute Text)} :
    NamesApart attributes ↔ attributes.Pairwise fun a b => sameString a.name b.name = false := by
  rw [NamesApart, List.Nodup, List.pairwise_map]
  simp only [sameString_eq, decide_eq_false_iff_not, ne_eq]

theorem Reads.namesApart {processEntities : Bool} {p rest : Text} {nodes : Nodes StrPair}
    (reads : Reads processEntities p nodes rest) :
    ∀ tag ∈ nodes.tags, ∀ attributes, attributeValues tag.2 = some attributes →
      NamesApart attributes := by
  induction reads with
  | nil p => simp [Nodes.tags]
  | leaf first others ih => exact ih
  | closed blank tag others ih =>
      rw [Nodes.tags, List.forall_mem_cons]
      exact ⟨fun _ isAttributes => namesApart_iff.mpr (tag.apart isAttributes), ih⟩
  | element blank tag inner endTag sameName others ihInner ihOthers =>
      rw [Nodes.tags, List.forall_mem_cons, List.forall_mem_append]
      exact ⟨fun _ isAttributes => namesApart_iff.mpr (tag.apart isAttributes), ihInner, ihOthers⟩

/-- The attributes of every element that is loaded are a map, whatever edits follow, and
the element is cloned exactly.  Only the strings of the element itself need a value. -/
theorem loadXmlData_edited {processEntities writeBOM : Bool} {p : Text}
    {children : Nodes StrPair} {tag : StrPair × List (Attribute StrPair)} {element : Element}
    (loaded : loadXmlData processEntities writeBOM p = some ⟨children, writeBOM, none⟩)
    (member : tag ∈ children.tags) (same : elementOf tag = some element)
    (edits : List AttributeEdit) :
    (∀ name value, (run Element.edit element edits).attributeOf name value =
      (run editMap (fun name => element.attributeOf name none) edits name).filter fun found =>
        value.all fun value => sameString found value) ∧
    (Node.element (run Element.edit element edits)).shallowClone =
      .element (run Element.edit element edits) := by
  rcases documentParseDeep_accepts_iff.mp loaded with ⟨mid, reads, _⟩
  have apart := reads.namesApart tag member _ (attributeValues_of_elementOf same)
  have maps := (maps_attributeOf apart).run edits
  have maps' : (Node.element (run Element.edit element edits)).Apart := maps.apart
  exact ⟨maps.attributeOf, maps'.shallowClone_eq⟩

/-- The element of a document, after its attribute is deleted and set again. -/
theorem loadXmlData_edited_again :
    (Node.element (run Element.edit ⟨bytes ['a'], [⟨bytes ['b'], bytes ['c']⟩]⟩
      [.delete (bytes ['b']), .set (bytes ['b']) (bytes ['d'])])).shallowClone =
    .element (run Element.edit ⟨bytes ['a'], [⟨bytes ['b'], bytes ['c']⟩]⟩
      [.delete (bytes ['b']), .set (bytes ['b']) (bytes ['d'])]) := by
  let p : Text := bytes ['<', 'a', ' ', 'b', '='] ++ (singleQuote :: byte 'c' :: singleQuote ::
    bytes ['/', '>'])
  have loaded : ∃ name attributes, loadXmlData true false p =
      some ⟨.element name attributes .nil .nil, false, none⟩ ∧
        elementOf (name, attributes) = some ⟨bytes ['a'], [⟨bytes ['b'], bytes ['c']⟩]⟩ :=
    ⟨_, _, rfl, by decide⟩
  rcases loaded with ⟨name, attributes, loaded, same⟩
  exact (loadXmlData_edited loaded List.mem_cons_self same _).2

end SandPlatform.Xml
