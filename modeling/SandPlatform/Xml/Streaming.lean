import SandPlatform.Foundation.Run
import SandPlatform.Xml.RoundTrip

/-!
# Documents that are pushed

A caller can push elements, attributes and leaves on a printer without any nodes.  The
pushes that keep to the assertions and close what they open are exactly those for the
nodes of a document, and print what that document is printed as.
-/

namespace SandPlatform.Xml

open SandPlatform.Foundation

/-- What a caller pushes on a printer. -/
inductive Push
  | openElement (name : Text)
  | pushAttribute (name value : Text)
  | closeElement
  | pushLeaf (node : Leaf Text)
  deriving DecidableEq

/-- `none` is the assertion of `PushAttribute`, or a name that is popped off an empty
stack. -/
def Printer.push (s : Printer) : Push → Option Printer
  | .openElement name => some (s.openElement name)
  | .pushAttribute name value =>
      if s.elementJustOpened then some (s.pushAttribute name value) else none
  | .closeElement => if s.stack = [] then none else some s.closeElement
  | .pushLeaf node => some (s.pushLeaf node)

/-! ## The nodes that are pushed -/

/-- An element that is open, with the siblings in front of it. -/
structure Pending where
  before : Nodes Text
  name : Text
  attributes : List (Attribute Text)

/-- The nodes pushed so far: those of the innermost open element, and the open elements,
the innermost first. -/
structure Draft where
  nodes : Nodes Text
  pending : List Pending

namespace Draft

/-- A call adds to the innermost element that is open. -/
def push (draft : Draft) : Push → Option Draft
  | .openElement name => some ⟨.nil, ⟨draft.nodes, name, []⟩ :: draft.pending⟩
  | .pushAttribute name value =>
      match draft.nodes, draft.pending with
      | .nil, element :: outer =>
          some ⟨.nil, { element with attributes := element.attributes ++ [⟨name, value⟩] } :: outer⟩
      | _, _ => none
  | .closeElement =>
      match draft.pending with
      | [] => none
      | element :: outer =>
          some ⟨element.before.append
            (.element element.name element.attributes draft.nodes .nil), outer⟩
  | .pushLeaf node => some ⟨draft.nodes.append (.leaf node .nil), draft.pending⟩

end Draft

/-- The calls for some attributes. -/
def attributePushes (attributes : List (Attribute Text)) : List Push :=
  attributes.map fun attrib => .pushAttribute attrib.name attrib.value

/-- What is pushed for nodes. -/
def pushes : Nodes Text → List Push
  | .nil => []
  | .leaf node next => .pushLeaf node :: pushes next
  | .element name attributes firstChild next =>
      .openElement name ::
        (attributePushes attributes ++ (pushes firstChild ++ .closeElement :: pushes next))

theorem pushes_append (first second : Nodes Text) :
    pushes (first.append second) = pushes first ++ pushes second := by
  induction first with
  | nil => rfl
  | leaf node next ih => simp [Nodes.append, pushes, ih]
  | element name attributes firstChild next _ ih => simp [Nodes.append, pushes, ih]

namespace Draft

/-- The calls up to now for the elements that are open. -/
def pendingPushes : List Pending → List Push
  | [] => []
  | element :: outer =>
      pendingPushes outer ++
        (pushes element.before ++ .openElement element.name :: attributePushes element.attributes)

/-- The pushes by which a draft was made. -/
def made (draft : Draft) : List Push :=
  pendingPushes draft.pending ++ pushes draft.nodes

theorem made_push {draft draft' : Draft} {pushed : Push}
    (next : draft.push pushed = some draft') : draft'.made = draft.made ++ [pushed] := by
  rcases draft with ⟨nodes, pending⟩
  cases pushed with
  | openElement name =>
      cases next
      simp [made, pendingPushes, pushes, attributePushes]
  | pushAttribute name value =>
      cases nodes with
      | nil =>
          cases pending with
          | nil => cases next
          | cons element outer =>
              cases next
              simp [made, pendingPushes, pushes, attributePushes]
      | leaf node more => cases next
      | element name attributes firstChild more => cases next
  | closeElement =>
      cases pending with
      | nil => cases next
      | cons element outer =>
          cases next
          simp [made, pendingPushes, pushes_append, pushes]
  | pushLeaf node =>
      cases next
      simp [made, pushes_append, pushes]

theorem made_pushes {draft draft' : Draft} {pushed : List Push}
    (next : pushed.foldlM push draft = some draft') : draft'.made = draft.made ++ pushed := by
  induction pushed generalizing draft with
  | nil =>
      cases next
      exact (List.append_nil _).symm
  | cons first others ih =>
      rw [List.foldlM_cons] at next
      rcases Option.bind_eq_some_iff.mp next with ⟨between, first', others'⟩
      rw [ih others', made_push first', List.append_assoc, List.singleton_append]

theorem push_attributes (element : Pending) (outer : List Pending)
    (attributes : List (Attribute Text)) :
    (attributePushes attributes).foldlM push ⟨.nil, element :: outer⟩ =
      some ⟨.nil, { element with attributes := element.attributes ++ attributes } :: outer⟩ := by
  induction attributes generalizing element with
  | nil => simp [attributePushes]
  | cons attrib others ih =>
      have first : push ⟨.nil, element :: outer⟩ (.pushAttribute attrib.name attrib.value) =
          some ⟨.nil, { element with attributes := element.attributes ++ [attrib] } :: outer⟩ := rfl
      have rest := ih { element with attributes := element.attributes ++ [attrib] }
      rw [attributePushes, List.map_cons, foldlM_cons_of_some first]
      simpa [attributePushes] using rest

/-- Pushing nodes puts them behind those that are there. -/
theorem push_nodes (nodes before : Nodes Text) (pending : List Pending) :
    (pushes nodes).foldlM push ⟨before, pending⟩ = some ⟨before.append nodes, pending⟩ := by
  induction nodes generalizing before pending with
  | nil => simp [pushes]
  | leaf node next ih =>
      have first : push ⟨before, pending⟩ (.pushLeaf node) =
          some ⟨before.append (.leaf node .nil), pending⟩ := rfl
      rw [pushes, foldlM_cons_of_some first, ih, Nodes.append_assoc]
      rfl
  | element name attributes firstChild next ihFirst ihNext =>
      have opened : push ⟨before, pending⟩ (.openElement name) =
          some ⟨.nil, ⟨before, name, []⟩ :: pending⟩ := rfl
      have listed : (attributePushes attributes).foldlM push
          ⟨.nil, ⟨before, name, []⟩ :: pending⟩ =
            some ⟨.nil, ⟨before, name, attributes⟩ :: pending⟩ :=
        push_attributes ⟨before, name, []⟩ pending attributes
      have inner := ihFirst .nil (⟨before, name, attributes⟩ :: pending)
      have closed : push ⟨firstChild, ⟨before, name, attributes⟩ :: pending⟩ .closeElement =
          some ⟨before.append (.element name attributes firstChild .nil), pending⟩ := rfl
      rw [pushes, foldlM_cons_of_some opened, foldlM_append_of_some listed,
        foldlM_append_of_some inner, Nodes.append, foldlM_cons_of_some closed, ihNext,
        Nodes.append_assoc]
      rfl

/-- The pushes that leave nothing open are those for nodes. -/
theorem pushes_iff (pushed : List Push) (nodes : Nodes Text) :
    pushed.foldlM push ⟨.nil, []⟩ = some ⟨nodes, []⟩ ↔ pushed = pushes nodes := by
  constructor
  · intro next
    have made := made_pushes next
    simpa [Draft.made, pendingPushes, pushes] using made.symm
  · rintro rfl
    exact push_nodes nodes .nil []

end Draft

/-! ## The printer of a draft -/

namespace Printer

theorem eager_visitor : visitor.Eager := by
  intro call s
  cases call <;> rfl

variable {s : Printer}

theorem openElement_seal (s : Printer) (name : Text) :
    s.sealJustOpened.openElement name = s.openElement name := by
  simp [openElement]

@[simp]
theorem stack_sealJustOpened (s : Printer) : s.sealJustOpened.stack = s.stack := by
  unfold sealJustOpened
  split_ifs <;> rfl

theorem openElement_pushed (s : Printer) (name : Text) (attributes : List (Attribute Text)) :
    ((s.openElement name).pushAttributes attributes).stack = name :: s.stack ∧
      ((s.openElement name).pushAttributes attributes).elementJustOpened = true := by
  rcases openElement_eq name s.sealed_sealJustOpened with ⟨blanks, _, _, opened⟩
  rw [← openElement_seal, opened, pushAttributes_eq]
  simp [print]

/-- Nodes close what they open. -/
theorem accept_keeps (nodes : Nodes Text) (sealed : s.elementJustOpened = false) :
    Keeps s (accept visitor nodes s) := by
  induction nodes generalizing s with
  | nil => exact ⟨sealed, rfl, rfl, rfl⟩
  | leaf node next ih =>
      have first := s.pushLeaf_keeps node sealed
      exact first.trans (ih first.sealed)
  | element name attributes firstChild next ihFirst ihNext =>
      have closes : Keeps s (accept visitor firstChild
          ((s.openElement name).pushAttributes attributes)).closeElement := by
        by_cases empty : firstChild = .nil
        · subst empty
          rcases s.openElement_pushed name attributes with ⟨onTop, opened⟩
          rcases closeElement_opened opened onTop with
            ⟨_, _, _, sealed', depth, stack, entities, _⟩
          rcases openElement_eq name sealed with ⟨blanks, _, _, same⟩
          rw [same, pushAttributes_eq] at depth entities
          exact ⟨sealed', by rw [accept, same, pushAttributes_eq, depth]; simp [print], stack,
            by rw [accept, same, pushAttributes_eq, entities]; rfl⟩
        · rcases openElement_sealed sealed name attributes with ⟨blanks, _, _, opened⟩
          have inner : Keeps _ (accept visitor firstChild
              ((s.openElement name).pushAttributes attributes).sealJustOpened) :=
            ihFirst (sealed_sealJustOpened _)
          rw [accept_sealed empty]
          have onTop := inner.stack.trans (congrArg Printer.stack opened)
          have depth := inner.depth.trans (congrArg Printer.depth opened)
          have entities := inner.entities.trans (congrArg Printer.processEntities opened)
          rcases closeElement_sealed inner.sealed onTop with
            ⟨_, _, _, _, _, _, sealed', depth', stack', entities', _⟩
          exact ⟨sealed', by rw [depth', depth]; simp, stack', entities'.trans entities⟩
      exact closes.trans (ihNext closes.sealed)

theorem stack_accept (nodes : Nodes Text) (s : Printer) :
    (accept visitor nodes s).stack = s.stack := by
  by_cases empty : nodes = .nil
  · subst empty
    rfl
  · rw [accept_sealed empty, (accept_keeps nodes s.sealed_sealJustOpened).stack,
      stack_sealJustOpened]

theorem sealed_accept {nodes : Nodes Text} (more : nodes ≠ .nil) (s : Printer) :
    (accept visitor nodes s).elementJustOpened = false := by
  rw [accept_sealed more]
  exact (accept_keeps nodes s.sealed_sealJustOpened).sealed

end Printer

namespace Draft

/-- The printer inside of the open elements. -/
def inside (start : Printer) : List Pending → Printer
  | [] => start
  | element :: outer =>
      ((accept Printer.visitor element.before (inside start outer)).openElement
        element.name).pushAttributes element.attributes

/-- The printer on which the nodes of the draft were printed. -/
def printed (start : Printer) (draft : Draft) : Printer :=
  accept Printer.visitor draft.nodes (inside start draft.pending)

variable {start : Printer}

theorem push_attribute_of_children {nodes : Nodes Text} (more : nodes ≠ .nil)
    (pending : List Pending) (name value : Text) :
    push ⟨nodes, pending⟩ (.pushAttribute name value) = none := by
  cases nodes with
  | nil => exact absurd rfl more
  | _ => rfl

theorem stack_inside (empty : start.stack = []) (pending : List Pending) :
    (inside start pending).stack = pending.map Pending.name := by
  induction pending with
  | nil => exact empty
  | cons element outer ih =>
      rw [inside, (Printer.openElement_pushed _ _ _).1, Printer.stack_accept, ih, List.map_cons]

theorem stack_printed (empty : start.stack = []) (draft : Draft) :
    (draft.printed start).stack = draft.pending.map Pending.name := by
  rw [printed, Printer.stack_accept, stack_inside empty]

/-- A push on the printer is the push on the draft. -/
theorem push_printed (sealed : start.elementJustOpened = false) (empty : start.stack = [])
    (draft : Draft) (pushed : Push) :
    (draft.printed start).push pushed = (draft.push pushed).map (printed start) := by
  have stack := draft.stack_printed empty
  rcases draft with ⟨nodes, pending⟩
  cases pushed with
  | openElement name => rfl
  | pushAttribute name value =>
      by_cases more : nodes = .nil
      · subst more
        cases pending with
        | nil =>
            change (if start.elementJustOpened then some _ else none) = none
            rw [sealed]
            rfl
        | cons element outer =>
            have opened := (Printer.openElement_pushed
              (accept Printer.visitor element.before (inside start outer)) element.name
              element.attributes).2
            change (if (inside start (element :: outer)).elementJustOpened then some _
              else none) = some _
            rw [inside, opened, if_pos rfl]
            simp [printed, accept, inside, Printer.pushAttributes]
      · -- an element with a child was not just opened
        have closed : (printed start ⟨nodes, pending⟩).elementJustOpened = false :=
          Printer.sealed_accept more _
        rw [Printer.push, closed, push_attribute_of_children more]
        rfl
  | closeElement =>
      cases pending with
      | nil =>
          rw [Printer.push, stack]
          rfl
      | cons element outer =>
          rw [Printer.push, stack, if_neg (by simp)]
          simp only [push, Option.map_some, printed,
            Visitor.accept_append Printer.eager_visitor element.before]
          rfl
  | pushLeaf node =>
      simp only [push, Option.map_some, printed, Visitor.accept_append Printer.eager_visitor nodes]
      rfl

/-- Pushes on a printer are the pushes on a draft, and break the same assertions. -/
theorem pushAll_printed (sealed : start.elementJustOpened = false) (empty : start.stack = [])
    (pushed : List Push) :
    pushed.foldlM Printer.push start = (pushed.foldlM push ⟨.nil, []⟩).map (printed start) :=
  foldlM_image (printed start) (push_printed sealed empty) ⟨.nil, []⟩ pushed

end Draft

/-! ## Texts in a row -/

/-- A text in front of a text is one with it. -/
def Nodes.prepend (node : Leaf Text) : Nodes Text → Nodes Text
  | .leaf first next =>
      if node.kind = .text ∧ first.kind = .text then
        .leaf ⟨.text, node.value ++ first.value⟩ next
      else
        .leaf node (.leaf first next)
  | nodes => .leaf node nodes

/-- The nodes with texts in a row made one text. -/
def Nodes.joined : Nodes Text → Nodes Text
  | .nil => .nil
  | .leaf node next => next.joined.prepend node
  | .element name attributes firstChild next =>
      .element name attributes firstChild.joined next.joined

theorem Nodes.prepend_of_markup {node : Leaf Text} (isMarkup : node.kind ≠ .text)
    (nodes : Nodes Text) : nodes.prepend node = .leaf node nodes := by
  cases nodes with
  | leaf first next => exact if_neg fun both => isMarkup both.1
  | _ => rfl

theorem Nodes.noText_joined {nodes : Nodes Text} (noText : nodes.noText = true) :
    nodes.joined.noText = true := by
  induction nodes with
  | nil => rfl
  | leaf node next ih =>
      simp only [Nodes.noText, Bool.and_eq_true, bne_iff_ne] at noText
      rw [joined, prepend_of_markup noText.1]
      simpa [Nodes.noText, noText.1] using ih noText.2
  | element name attributes firstChild next _ ih => exact ih noText

theorem Nodes.joined_ne_nil {nodes : Nodes Text} (more : nodes ≠ .nil) : nodes.joined ≠ .nil := by
  cases nodes with
  | nil => exact absurd rfl more
  | leaf node next =>
      rw [joined]
      cases next.joined with
      | leaf first others =>
          rw [prepend]
          split_ifs <;> simp
      | _ => simp [prepend]
  | element name attributes firstChild next => simp [joined]

namespace Printer

theorem printed_append (processEntities restricted : Bool) (first second : Text) :
    printed processEntities restricted (first ++ second) =
      printed processEntities restricted first ++ printed processEntities restricted second := by
  cases processEntities with
  | false => rfl
  | true => simp [printed, printRuns_eq]

theorem pushText_pushText (s : Printer) (first second : Text) :
    (s.pushText first false).pushText second false = s.pushText (first ++ second) false := by
  have whole (s : Printer) (sealed : s.elementJustOpened = false) (text : Text) :
      s.pushText text false =
        { s with textDepth := s.depth - 1 }.print (printed s.processEntities true text) := by
    rw [pushText, sealJustOpened_of_sealed (by exact sealed), printString_eq]
    rfl
  have same (text : Text) : s.pushText text false = s.sealJustOpened.pushText text false := by
    have more : Nodes.leaf (⟨.text, text⟩ : Leaf Text) .nil ≠ .nil := by simp
    exact accept_sealed more s
  have sealed := s.sealed_sealJustOpened
  rw [same, same, whole _ sealed, whole _ sealed, whole _ (by exact sealed), printed_append]
  simp [print]

theorem accept_prepend (node : Leaf Text) (nodes : Nodes Text) (s : Printer) :
    accept visitor (nodes.prepend node) s = accept visitor nodes (s.pushLeaf node) := by
  cases nodes with
  | leaf first next =>
      rw [Nodes.prepend]
      split_ifs with texts
      · rcases node with ⟨kind, value⟩
        rcases first with ⟨kind', value'⟩
        rcases texts with ⟨rfl, rfl⟩
        exact congrArg (accept visitor next) (s.pushText_pushText value value').symm
      · rfl
  | _ => rfl

/-- Texts in a row are printed as one. -/
theorem accept_joined (nodes : Nodes Text) (s : Printer) :
    accept visitor nodes.joined s = accept visitor nodes s := by
  induction nodes generalizing s with
  | nil => rfl
  | leaf node next ih =>
      rw [Nodes.joined, accept_prepend, ih]
      rfl
  | element name attributes firstChild next ihFirst ihNext =>
      change accept visitor next.joined (accept visitor firstChild.joined
        ((s.openElement name).pushAttributes attributes)).closeElement = _
      rw [ihFirst, ihNext]
      rfl

end Printer

/-! ## Documents -/

/-- What `PushHeader` declares. -/
def xmlDeclaration : Leaf Text :=
  ⟨.declaration, bytes ['x', 'm', 'l', ' ', 'v', 'e', 'r', 's', 'i', 'o', 'n', '='] ++
    doubleQuote :: (bytes ['1', '.', '0'] ++ [doubleQuote])⟩

/-- The nodes behind the declaration that `PushHeader` writes. -/
def headed (writeDec : Bool) (nodes : Nodes Text) : Nodes Text :=
  if writeDec then .leaf xmlDeclaration nodes else nodes

/-- A printer for memory with its header. -/
def startPrinter (compact writeBOM writeDec : Bool) : Printer :=
  (Printer.new compact).pushHeader writeBOM writeDec

section Documents

variable {compact writeBOM writeDec : Bool} {nodes : Nodes Text}

theorem startPrinter_ready (compact writeBOM writeDec : Bool) :
    (startPrinter compact writeBOM writeDec).elementJustOpened = false ∧
      (startPrinter compact writeBOM writeDec).stack = [] := by
  cases writeBOM <;> cases writeDec <;> exact ⟨rfl, rfl⟩

theorem printDocument_headed (compact writeBOM writeDec : Bool) (nodes : Nodes Text) :
    printDocument true writeBOM compact (headed writeDec nodes) =
      (accept Printer.visitor nodes (startPrinter compact writeBOM writeDec)).buffer := by
  cases writeBOM <;> cases writeDec <;> rfl

theorem printableLeaf_xmlDeclaration : PrintableLeaf true xmlDeclaration :=
  ⟨⟨by decide, by decide⟩, fun text => (by cases text), fun text => (by cases text),
    fun _ => by decide, fun unknown => (by cases unknown)⟩

theorem printable_headed (printable : Printable true nodes) :
    Printable true (headed writeDec nodes) := by
  cases writeDec with
  | false => exact printable
  | true => exact ⟨printableLeaf_xmlDeclaration, fun text => (by cases text), printable⟩

theorem noText_headed (writeDec : Bool) (noText : nodes.noText = true) :
    (headed writeDec nodes).noText = true := by
  cases writeDec with
  | false => exact noText
  | true => exact noText

/-- Pushes that break no assertion and leave nothing open are those for nodes. -/
theorem pushed_iff {pushed : List Push} :
    (∃ s, pushed.foldlM Printer.push (startPrinter compact writeBOM writeDec) = some s ∧
      s.stack = []) ↔ ∃ nodes, pushed = pushes nodes := by
  rcases startPrinter_ready compact writeBOM writeDec with ⟨sealed, empty⟩
  rw [Draft.pushAll_printed sealed empty]
  constructor
  · rintro ⟨s, kept, closed⟩
    rcases Option.map_eq_some_iff.mp kept with ⟨⟨nodes, pending⟩, drafted, rfl⟩
    rw [Draft.stack_printed empty, List.map_eq_nil_iff] at closed
    simp only at closed
    subst closed
    exact ⟨nodes, (Draft.pushes_iff pushed nodes).mp drafted⟩
  · rintro ⟨nodes, same⟩
    rw [(Draft.pushes_iff pushed nodes).mpr same]
    exact ⟨_, rfl, Draft.stack_printed empty _⟩

theorem pushes_printed (nodes : Nodes Text) :
    (pushes nodes).foldlM Printer.push (startPrinter compact writeBOM writeDec) =
      some (accept Printer.visitor nodes (startPrinter compact writeBOM writeDec)) := by
  rcases startPrinter_ready compact writeBOM writeDec with ⟨sealed, empty⟩
  rw [Draft.pushAll_printed sealed empty, (Draft.pushes_iff _ nodes).mpr rfl]
  rfl

theorem pushes_injective : Function.Injective pushes := by
  intro nodes nodes' same
  have drafted := (Draft.pushes_iff _ nodes').mpr same
  rw [(Draft.pushes_iff _ nodes).mpr rfl] at drafted
  cases drafted
  rfl

/-- The pushes that break no assertion and close every element are those for the nodes of
one document.  They print what it is printed as, and if it can be printed, with texts in a
row made one text, it is parsed again from there. -/
theorem pushed_document (compact writeBOM writeDec : Bool) (pushed : List Push) :
    ((∃ s, pushed.foldlM Printer.push (startPrinter compact writeBOM writeDec) = some s ∧
        s.stack = []) ↔ ∃! nodes, pushed = pushes nodes) ∧
      ∀ nodes, pushed = pushes nodes →
        ∃ s, pushed.foldlM Printer.push (startPrinter compact writeBOM writeDec) = some s ∧
          s.stack = [] ∧
          s.buffer = printDocument true writeBOM compact (headed writeDec nodes) ∧
          (Printable true nodes.joined → nodes.noText = true → headed writeDec nodes ≠ .nil →
            ∀ writeBOM', ∃ parsed,
              parse true writeBOM' s.buffer = some ⟨parsed, writeBOM, none⟩ ∧
                parsed.values = some (headed writeDec nodes.joined)) := by
  constructor
  · rw [pushed_iff]
    constructor
    · rintro ⟨nodes, rfl⟩
      exact ⟨nodes, rfl, fun _ same => (pushes_injective same).symm⟩
    · rintro ⟨nodes, same, _⟩
      exact ⟨nodes, same⟩
  · rintro nodes rfl
    rcases pushed_iff.mpr ⟨nodes, rfl⟩ with ⟨s, kept, closed⟩
    refine ⟨s, kept, closed, ?_⟩
    rw [pushes_printed] at kept
    cases kept
    rw [← printDocument_headed]
    refine ⟨rfl, fun printable noText more writeBOM' => ?_⟩
    have more' : headed writeDec nodes.joined ≠ .nil := by
      cases writeDec with
      | false => exact Nodes.joined_ne_nil more
      | true => simp [headed]
    have noText' := noText_headed writeDec (Nodes.noText_joined noText)
    rcases printDocument_reads (printable_headed printable) noText' with
      ⟨parsed, t, blanks, print, reads, blank, values⟩
    rw [printDocument_headed, ← Printer.accept_joined, ← printDocument_headed, print]
    exact ⟨parsed, parse_of_reads reads blank values noText' more', values⟩

/-- An element with an attribute and with two texts, which are read as one. -/
theorem pushed_document_texts :
    ∃ s parsed, [Push.openElement (bytes ['a']), .pushAttribute (bytes ['b']) (bytes ['<']),
        .pushLeaf ⟨.text, bytes ['x']⟩, .pushLeaf ⟨.text, bytes ['&']⟩, .closeElement].foldlM
          Printer.push (startPrinter false false true) = some s ∧
      parse true false s.buffer = some ⟨parsed, false, none⟩ ∧
        parsed.values = some (headed true (.element (bytes ['a']) [⟨bytes ['b'], bytes ['<']⟩]
          (.leaf ⟨.text, bytes ['x', '&']⟩ .nil) .nil)) := by
  rcases (pushed_document false false true _).2
    (.element (bytes ['a']) [⟨bytes ['b'], bytes ['<']⟩]
      (.leaf ⟨.text, bytes ['x']⟩ (.leaf ⟨.text, bytes ['&']⟩ .nil)) .nil) rfl with
    ⟨s, kept, _, _, reads⟩
  have attrib : PrintableAttribute true ⟨bytes ['b'], bytes ['<']⟩ :=
    ⟨by decide, ⟨by decide, by decide⟩, by decide⟩
  have text : PrintableLeaf true ⟨.text, bytes ['x', '&']⟩ :=
    ⟨⟨by decide, by decide⟩, fun _ => by decide, fun _ none => (by cases none),
      fun markup => absurd rfl markup, fun unknown => (by cases unknown)⟩
  rcases reads ⟨by decide, by simpa using attrib, by simp, ⟨text, fun _ => rfl, trivial⟩, trivial⟩
    rfl (by simp [headed]) false with ⟨parsed, parses, values⟩
  exact ⟨s, parsed, kept, parses, values⟩

end Documents

end SandPlatform.Xml
