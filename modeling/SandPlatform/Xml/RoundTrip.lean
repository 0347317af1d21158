import SandPlatform.Xml.Printing

/-!
# Printed documents are parsed again

Nodes that can be printed are what the parser makes of their print, whether it is
compact or not.  Nothing is printed around a text: while it is open in an element there
are no line ends.
-/

namespace SandPlatform.Xml

open SandPlatform.Foundation

/-! ## Printed nodes are read -/

/-- The beginning of a node that a text may be in front of. -/
def Opens (p : Text) : Prop :=
  ∃ second rest, p = byte '<' :: second :: rest

theorem Opens.append {p : Text} (opens : Opens p) (rest : Text) : Opens (p ++ rest) := by
  rcases opens with ⟨second, others, rfl⟩
  exact ⟨second, others ++ rest, rfl⟩

/-- What printing nodes from a state on does. -/
structure Printed (processEntities : Bool) (nodes : Nodes Text) (s s' : Printer) (t : Text) :
    Prop where
  keeps : Keeps s s'
  buffer : s'.buffer = s.buffer ++ t
  «open» : nodes.endsInText = true → s'.textDepth = s.depth - 1
  starts : nodes ≠ .nil → nodes.beginsInText = false → 0 ≤ s.textDepth → Opens t
  reads : ∀ after, (nodes.endsInText = true → Opens after) →
    ∃ parsed blanks, Blank blanks ∧ (0 < s.depth → blanks = []) ∧
      Reads processEntities (t ++ after) parsed (blanks ++ after) ∧ parsed.values = some nodes

theorem ReadsLeaf.blank_append {processEntities : Bool} {blanks p rest : Text}
    {node : Leaf StrPair} (blank : Blank blanks) (reads : ReadsLeaf processEntities p node rest)
    (noText : node.kind ≠ .text) : ReadsLeaf processEntities (blanks ++ p) node rest := by
  cases reads with
  | text shown clean more => exact absurd rfl noText
  | markup _ blank' isMarkup clean other =>
      rw [← List.append_assoc]
      exact .markup _ (blank.append blank') isMarkup clean other

/-- Blanks in front of a node that is no text are skipped. -/
theorem Reads.blank_append {processEntities : Bool} {blanks p rest : Text}
    {nodes : Nodes StrPair} (blank : Blank blanks)
    (reads : Reads processEntities p nodes rest) (more : nodes ≠ .nil)
    (noText : nodes.beginsInText = false) : Reads processEntities (blanks ++ p) nodes rest := by
  cases reads with
  | nil p => exact absurd rfl more
  | leaf first others =>
      exact .leaf (first.blank_append blank (by simpa [Nodes.beginsInText] using noText)) others
  | closed blank' tag others =>
      rw [← List.append_assoc]
      exact .closed (blank.append blank') tag others
  | element blank' tag inner endTag same others =>
      rw [← List.append_assoc]
      exact .element (blank.append blank') tag inner endTag same others

section Nodes

variable {processEntities : Bool}

theorem readsLeaf_text {value : Text} (printable : PrintableLeaf processEntities ⟨.text, value⟩)
    {after : Text} (opens : Opens after) :
    ∃ pair : StrPair, pair.value = some value ∧
      ReadsLeaf processEntities (Printer.printed processEntities true value ++ after)
        ⟨.text, pair⟩ after := by
  rcases opens with ⟨second, rest, rfl⟩
  have entity : (textFlags processEntities).needsEntityProcessing = processEntities := by
    cases processEntities <;> rfl
  have noBracket : byte '<' ∉ Printer.printed processEntities true value :=
    not_mem_printed (by decide) (by decide) (printable.noBracket rfl)
  exact ⟨⟨_, _, _⟩, (spells_printed printable.isString true entity).valueInPlace,
    .text (printed_shown (printable.shown rfl)) noBracket (List.cons_ne_nil _ _)⟩

theorem readsLeaf_markup {node : Leaf Text} (printable : PrintableLeaf processEntities node)
    (isMarkup : node.kind ≠ .text) {blanks : Text} (blank : Blank blanks) (after : Text) :
    ∃ pair : StrPair, pair.value = some node.value ∧
      ReadsLeaf processEntities
        (blanks ++ (node.kind.header ++ (node.value ++ (node.kind.ender ++ after))))
        ⟨node.kind, pair⟩ after := by
  have noEntity : (node.kind.flags processEntities).needsEntityProcessing = false := by
    cases kind : node.kind with
    | text => exact absurd kind isMarkup
    | _ => rfl
  exact ⟨⟨_, _, _⟩, (spells_self noEntity printable.isString.noReturn).valueInPlace,
    .markup after blank isMarkup (printable.clean isMarkup) printable.other⟩

theorem accept_sealed {nodes : Nodes Text} (more : nodes ≠ .nil) (s : Printer) :
    accept Printer.visitor nodes s = accept Printer.visitor nodes s.sealJustOpened := by
  cases nodes with
  | nil => exact absurd rfl more
  | leaf node next =>
      have same : s.pushLeaf node = s.sealJustOpened.pushLeaf node := by
        rcases node with ⟨kind, value⟩
        have texts (cdata : Bool) :
            s.pushText value cdata = s.sealJustOpened.pushText value cdata := by
          by_cases opened : s.elementJustOpened = true
          · simp [Printer.pushText, Printer.sealJustOpened, opened, Printer.sealElement,
              Printer.print]
          · simp [Printer.pushText, Printer.sealJustOpened, opened]
        cases kind with
        | text => exact texts false
        | cdata => exact texts true
        | _ => simp [Printer.pushLeaf, Printer.pushComment, Printer.pushDeclaration,
            Printer.pushUnknown, Printer.pushLine]
      simp [accept, Printer.visitor, ← same]
  | element name attributes firstChild next =>
      simp [accept, Printer.visitor, Printer.openElement]

/-- What printing an element does, in front of its next siblings: behind its end there
may be a line end. -/
structure PrintedElement (processEntities : Bool) (name : Text)
    (attributes : List (Attribute Text)) (firstChild : Nodes Text) (s s' : Printer)
    (t tail : Text) : Prop where
  keeps : Keeps s s'
  buffer : s'.buffer = s.buffer ++ (t ++ tail)
  blank : Blank tail
  flat : 0 < s.depth → tail = []
  starts : 0 ≤ s.textDepth → Opens t
  reads : ∀ after, ∃ name' attributes' firstChild',
    (∀ next rest, Reads processEntities after next rest →
      Reads processEntities (t ++ after) (.element name' attributes' firstChild' next) rest) ∧
    name'.value = some name ∧ attributeValues attributes' = some attributes ∧
      firstChild'.values = some firstChild

variable {name : Text} {attributes : List (Attribute Text)} {s : Printer}

theorem distinct_iff_names {attributes : List (Attribute StrPair)} :
    Distinct attributes ↔
      (attributes.map fun attrib => attrib.name.text).Pairwise fun a b =>
        sameString a b = false := by
  rw [List.pairwise_map]
  rfl

/-- The tag that an element is opened with, up to its end. -/
theorem readsTag_printed (isName : IsName name)
    (printable : ∀ attrib ∈ attributes, PrintableAttribute processEntities attrib)
    (distinct : attributes.Pairwise fun a b => sameString a.name b.name = false)
    {closed : Bool} {p' rest : Text} (ends : ReadsEnd p' closed rest)
    (noName : EndsRun isNameChar p') :
    ∃ name' attributes', ReadsTag processEntities
        (name ++ (Printer.printedAttributes processEntities attributes ++ p')) name' attributes'
        (closingTypeOf closed false) rest ∧
      name'.value = some name ∧ name'.text = name ∧
        attributeValues attributes' = some attributes := by
  rcases readsAttributes_printed printable p' with ⟨parsed, reads, values, names⟩
  have distinct' : Distinct parsed := by
    rw [distinct_iff_names, names, List.pairwise_map]
    exact distinct
  have runEnds : EndsRun isNameChar
      (Printer.printedAttributes processEntities attributes ++ p') := by
    cases attributes with
    | nil => exact noName
    | cons attrib others => exact endsRun_cons (by decide)
  have tag : ReadsTag processEntities
      ([] ++ (slash false ++
        (name ++ (Printer.printedAttributes processEntities attributes ++ p'))))
      ⟨name, Printer.printedAttributes processEntities attributes ++ p', Flags.none⟩ parsed
      (closingTypeOf closed false) rest :=
    .mk blank_nil isName runEnds reads distinct' ends
  exact ⟨_, _, tag, valueInPlace_name _ _, rfl, values⟩

theorem readsEndTag_printed (isName : IsName name) {blanks : Text} (blank : Blank blanks)
    (after : Text) :
    ReadsEndTag processEntities
      (blanks ++ (bytes ['<', '/'] ++ (name ++ (bytes ['>'] ++ after))))
      ⟨name, bytes ['>'] ++ after, Flags.none⟩ after := by
  have tag : ReadsTag processEntities ([] ++ (slash true ++ (name ++ (bytes ['>'] ++ after))))
      ⟨name, bytes ['>'] ++ after, Flags.none⟩ [] (closingTypeOf false true) after :=
    .mk blank_nil isName (endsRun_cons (by decide)) (.nil _) List.Pairwise.nil
      (.plain after blank_nil)
  exact .mk blank tag

/-- An element without children is closed at once. -/
theorem printed_closed (isName : IsName name)
    (printable : ∀ attrib ∈ attributes, PrintableAttribute processEntities attrib)
    (distinct : attributes.Pairwise fun a b => sameString a.name b.name = false)
    (entities : s.processEntities = processEntities) (sealed : s.elementJustOpened = false) :
    ∃ t tail, PrintedElement processEntities name attributes .nil s
      ((s.openElement name).pushAttributes attributes).closeElement t tail := by
  rcases Printer.openElement_eq name sealed with ⟨blanks, blank, flat, opened⟩
  have onTop : ((s.openElement name).pushAttributes attributes).stack = name :: s.stack := by
    rw [opened, Printer.pushAttributes_eq]
    rfl
  have justOpened : ((s.openElement name).pushAttributes attributes).elementJustOpened = true := by
    rw [opened, Printer.pushAttributes_eq]
    rfl
  rcases Printer.closeElement_opened justOpened onTop with
    ⟨tail, blankTail, noTail, sealed', depth, stack, entities', buffer⟩
  rw [opened, Printer.pushAttributes_eq] at depth entities' buffer noTail sealed' stack ⊢
  subst entities
  refine ⟨blanks ++ (byte '<' :: (name ++
    (Printer.printedAttributes s.processEntities attributes ++ bytes ['/', '>']))), tail,
    ⟨⟨sealed', ?_, stack, entities'⟩, ?_, blankTail, ?_, ?_, ?_⟩⟩
  · rw [depth]
    simp [Printer.print]
  · rw [buffer]
    simp [Printer.print]
  · intro inner
    refine noTail ?_
    simp only [Printer.print]
    omega
  · intro «open»
    rcases isName.begins with ⟨first, others, rfl, _⟩
    rw [flat «open»]
    exact ⟨first, _, rfl⟩
  · intro after
    have ends : ReadsEnd (bytes ['/', '>'] ++ after) true after := .closed after blank_nil
    rcases readsTag_printed isName printable distinct ends (endsRun_cons (by decide)) with
      ⟨name', attributes', tag, value, _, values⟩
    refine ⟨name', attributes', .nil, fun next rest others => ?_, value, values, rfl⟩
    simpa using Reads.closed blank tag others

/-- The state in which the first child is printed. -/
theorem openElement_sealed (sealed : s.elementJustOpened = false) (name : Text)
    (attributes : List (Attribute Text)) :
    ∃ blanks, Blank blanks ∧ (0 ≤ s.textDepth → blanks = []) ∧
      ((s.openElement name).pushAttributes attributes).sealJustOpened =
        ⟨false, false, s.depth + 1, s.textDepth, s.processEntities, s.compactMode,
          name :: s.stack, s.buffer ++ (blanks ++ (byte '<' :: (name ++
            (Printer.printedAttributes s.processEntities attributes ++ bytes ['>']))))⟩ := by
  rcases Printer.openElement_eq name sealed with ⟨blanks, blank, flat, opened⟩
  refine ⟨blanks, blank, flat, ?_⟩
  rw [opened, Printer.pushAttributes_eq]
  simp [Printer.print, Printer.sealJustOpened, Printer.sealElement]

/-- An element with children, which are printed one deeper. -/
theorem printed_opened {firstChild : Nodes Text} (isName : IsName name)
    (printable : ∀ attrib ∈ attributes, PrintableAttribute processEntities attrib)
    (distinct : attributes.Pairwise fun a b => sameString a.name b.name = false)
    (entities : s.processEntities = processEntities) (sealed : s.elementJustOpened = false)
    (level : 0 ≤ s.depth) (more : firstChild ≠ .nil)
    (inner : ∀ s : Printer, s.processEntities = processEntities →
      s.elementJustOpened = false → 0 < s.depth →
        ∃ t, Printed processEntities firstChild s (accept Printer.visitor firstChild s) t) :
    ∃ t tail, PrintedElement processEntities name attributes firstChild s
      (accept Printer.visitor firstChild
        ((s.openElement name).pushAttributes attributes)).closeElement t tail := by
  subst entities
  rcases openElement_sealed sealed name attributes with ⟨blanks, blank, flat, opened⟩
  rw [accept_sealed more, opened]
  generalize state : (⟨false, false, s.depth + 1, s.textDepth, s.processEntities, s.compactMode,
    name :: s.stack, s.buffer ++ (blanks ++ (byte '<' :: (name ++
      (Printer.printedAttributes s.processEntities attributes ++ bytes ['>']))))⟩ : Printer) = s₁
  rcases inner s₁ (by rw [← state]) (by rw [← state]) (by rw [← state]; simp only; omega) with
    ⟨children, printed⟩
  generalize accept Printer.visitor firstChild s₁ = s₂ at printed ⊢
  have depth : s₂.depth = s.depth + 1 := by rw [printed.keeps.depth, ← state]
  have onTop : s₂.stack = name :: s.stack := by rw [printed.keeps.stack, ← state]
  rcases Printer.closeElement_sealed printed.keeps.sealed onTop with
    ⟨gap, tail, blankGap, blankTail, noGap, noTail, sealed', depth', stack, entities, buffer⟩
  rw [printed.keeps.entities, ← state] at entities
  refine ⟨blanks ++ (byte '<' :: (name ++ (Printer.printedAttributes s.processEntities attributes ++
      (byte '>' :: (children ++ (gap ++ (bytes ['<', '/'] ++ (name ++ bytes ['>'])))))))), tail,
    ⟨⟨sealed', by rw [depth', depth]; omega, stack, entities⟩, ?_, blankTail,
      fun deeper => noTail (by omega), fun «open» => ?_, fun after => ?_⟩⟩
  · rw [buffer, printed.buffer, ← state]
    simp [bytes]
  · rcases isName.begins with ⟨first, others, rfl, _⟩
    rw [flat «open»]
    exact ⟨first, _, rfl⟩
  · -- the text of the end tag is what the children are printed in front of
    have opens : firstChild.endsInText = true →
        Opens (gap ++ (bytes ['<', '/'] ++ (name ++ (bytes ['>'] ++ after)))) := by
      intro text
      have textDepth := printed.open text
      rw [← state] at textDepth
      simp only at textDepth
      rw [noGap (by omega)]
      exact ⟨byte '/', _, rfl⟩
    rcases printed.reads _ opens with ⟨parsed, blanks', _, noBlanks, readsChildren, values⟩
    rw [noBlanks (by rw [← state]; simp only; omega), List.nil_append] at readsChildren
    have ends := ReadsEnd.plain
      (children ++ (gap ++ (bytes ['<', '/'] ++ (name ++ (bytes ['>'] ++ after))))) blank_nil
    rcases readsTag_printed isName printable distinct ends (endsRun_cons (by decide)) with
      ⟨name', attributes', tag, value, same, attributeValues⟩
    refine ⟨name', attributes', parsed, fun next rest others => ?_, value, attributeValues,
      values⟩
    have whole := Reads.element blank tag readsChildren
      (readsEndTag_printed isName blankGap after) (by rw [same]; exact sameString_self name)
      others
    simpa [bytes] using whole

theorem beginsInText_of_values {parsed : Nodes StrPair} {nodes : Nodes Text}
    (values : parsed.values = some nodes) : parsed.beginsInText = nodes.beginsInText := by
  cases parsed with
  | nil =>
      cases values
      rfl
  | leaf node next =>
      simp only [Nodes.values, Option.bind_eq_bind, Option.bind_eq_some_iff] at values
      rcases values with ⟨value, _, next', _, same⟩
      cases same
      rfl
  | element name attributes firstChild next =>
      simp only [Nodes.values, Option.bind_eq_bind, Option.bind_eq_some_iff] at values
      rcases values with ⟨_, _, _, _, _, _, _, _, same⟩
      cases same
      rfl

theorem Nodes.noText_begins {α : Type} {nodes : Nodes α} (noText : nodes.noText = true) :
    nodes.beginsInText = false := by
  cases nodes with
  | leaf node next =>
      rw [Nodes.noText, Bool.and_eq_true] at noText
      simpa [Nodes.beginsInText] using noText.1
  | _ => rfl

theorem endsInText_leaf {α : Type} (node : Leaf α) {next : Nodes α} (more : next ≠ .nil) :
    (Nodes.leaf node next).endsInText = next.endsInText := by
  cases next with
  | nil => exact absurd rfl more
  | _ => rfl

theorem Nodes.noText_ends {α : Type} {nodes : Nodes α} (noText : nodes.noText = true) :
    nodes.endsInText = false := by
  induction nodes with
  | nil => rfl
  | leaf node next ih =>
      rw [Nodes.noText, Bool.and_eq_true] at noText
      cases next with
      | nil => simpa [Nodes.endsInText] using noText.1
      | _ => exact ih noText.2
  | element name attributes firstChild next _ ih => exact ih noText

/-- A leaf in front of nodes that are printed. -/
theorem Printed.leaf {node : Leaf Text} {next : Nodes Text} {s s₁ s' : Printer} {t t' : Text}
    (printed : Printed processEntities next s₁ s' t') (keeps : Keeps s s₁)
    (buffer : s₁.buffer = s.buffer ++ t)
    (last : node.kind = .text → next = .nil → s'.textDepth = s.depth - 1)
    (starts : node.kind ≠ .text → 0 ≤ s.textDepth → Opens t)
    (reads : ∀ after, (node.kind = .text → Opens (t' ++ after)) → ∃ pair : StrPair,
      pair.value = some node.value ∧
        ReadsLeaf processEntities (t ++ (t' ++ after)) ⟨node.kind, pair⟩ (t' ++ after))
    (opens : node.kind = .text → next ≠ .nil → Opens t')
    (flat : next = .nil → t' = []) :
    Printed processEntities (.leaf node next) s s' (t ++ t') := by
  refine ⟨keeps.trans printed.keeps, ?_, ?_, ?_, ?_⟩
  · rw [printed.buffer, buffer, List.append_assoc]
  · intro text
    by_cases more : next = .nil
    · rw [more] at text
      exact last (by simpa [Nodes.endsInText] using text) more
    · rw [endsInText_leaf node more] at text
      rw [printed.open text, keeps.depth]
  · intro _ noText «open»
    have markup : node.kind ≠ .text := by simpa [Nodes.beginsInText] using noText
    exact (starts markup «open»).append t'
  · intro after opensAfter
    have opensNext : next.endsInText = true → Opens after := by
      intro text
      refine opensAfter ?_
      rwa [endsInText_leaf]
      rintro rfl
      cases text
    have opens' : node.kind = .text → Opens (t' ++ after) := by
      intro text
      by_cases more : next = .nil
      · rw [flat more]
        refine opensAfter ?_
        rw [more]
        simp [Nodes.endsInText, text]
      · exact (opens text more).append after
    rcases reads after opens' with ⟨pair, value, readsLeaf⟩
    rcases printed.reads after opensNext with ⟨parsed, blanks, blank, noBlanks, others, values⟩
    refine ⟨.leaf ⟨node.kind, pair⟩ parsed, blanks, blank, ?_, ?_, ?_⟩
    · intro deeper
      exact noBlanks (by rw [keeps.depth]; exact deeper)
    · rw [List.append_assoc]
      exact .leaf readsLeaf others
    · simp [Nodes.values, value, values]

/-- An element in front of nodes that are printed. -/
theorem PrintedElement.next {firstChild next : Nodes Text} {s s₁ s' : Printer}
    {t tail t' : Text}
    (element : PrintedElement processEntities name attributes firstChild s s₁ t tail)
    (level : 0 < s.depth ∨ s.depth = 0 ∧ next.noText = true)
    (printed : Printed processEntities next s₁ s' t') (flat : next = .nil → t' = []) :
    Printed processEntities (.element name attributes firstChild next) s s'
      (t ++ tail ++ t') := by
  refine ⟨element.keeps.trans printed.keeps, ?_, ?_, ?_, ?_⟩
  · rw [printed.buffer, element.buffer]
    simp
  · intro text
    have text' : next.endsInText = true := text
    rw [printed.open text', element.keeps.depth]
  · intro _ _ «open»
    rw [List.append_assoc]
    exact (element.starts «open»).append _
  · intro after opens
    rcases printed.reads after opens with ⟨parsed, blanks, blank, noBlanks, others, values⟩
    rcases element.reads (tail ++ (t' ++ after)) with
      ⟨name', attributes', firstChild', reads, value, values', children⟩
    have values'' (parsed' : Nodes StrPair) (same : parsed'.values = some next) :
        (Nodes.element name' attributes' firstChild' parsed').values =
          some (.element name attributes firstChild next) := by
      simp [Nodes.values, value, values', children, same]
    have whole : t ++ tail ++ t' ++ after = t ++ (tail ++ (t' ++ after)) := by simp
    rw [whole]
    rw [element.keeps.depth] at noBlanks
    rcases level with deeper | ⟨outermost, noText⟩
    · rw [element.flat deeper, List.nil_append] at reads ⊢
      exact ⟨_, blanks, blank, noBlanks, reads _ _ others, values'' parsed values⟩
    · by_cases more : next = .nil
      · subst more
        refine ⟨_, tail ++ t', ?_, fun deeper => absurd deeper (by omega), ?_,
          values'' .nil rfl⟩
        · rw [flat rfl, List.append_nil]
          exact element.blank
        · rw [List.append_assoc]
          exact reads _ _ (.nil _)
      · have nonempty : parsed ≠ .nil := by
          rintro rfl
          cases values
          exact more rfl
        have begins : parsed.beginsInText = false := by
          rw [beginsInText_of_values values]
          exact Nodes.noText_begins noText
        exact ⟨_, blanks, blank, noBlanks,
          reads _ _ (others.blank_append element.blank nonempty begins),
          values'' parsed values⟩

/-- No nodes are printed as nothing. -/
theorem Printed.eq_nil {next : Nodes Text} {t : Text}
    (printed : Printed processEntities next s (accept Printer.visitor next s) t)
    (last : next = .nil) : t = [] := by
  subst last
  exact List.self_eq_append_right.mp printed.buffer

/-- A text in front of nodes that begin with no text. -/
theorem printed_text {value t' : Text} {next : Nodes Text}
    (printable : PrintableLeaf processEntities ⟨.text, value⟩)
    (noText : next.beginsInText = false) (entities : s.processEntities = processEntities)
    (sealed : s.elementJustOpened = false) (deeper : 0 < s.depth)
    (printed : Printed processEntities next (s.pushLeaf ⟨.text, value⟩)
      (accept Printer.visitor next (s.pushLeaf ⟨.text, value⟩)) t') :
    ∃ t, Printed processEntities (.leaf ⟨.text, value⟩ next) s
      (accept Printer.visitor next (s.pushLeaf ⟨.text, value⟩)) t := by
  rcases s.pushLeaf_text value sealed with ⟨keeps, textDepth, buffer⟩
  refine ⟨_, printed.leaf keeps buffer ?_ (fun markup => absurd rfl markup) ?_ ?_
    fun last => printed.eq_nil last⟩
  · rintro _ rfl
    exact textDepth
  · intro after opens
    rw [entities]
    exact readsLeaf_text printable (opens rfl)
  · intro _ more
    exact printed.starts more noText (by rw [textDepth]; omega)

/-- A leaf that is no text in front of any nodes. -/
theorem printed_markup {node : Leaf Text} {t' : Text} {next : Nodes Text}
    (printable : PrintableLeaf processEntities node) (isMarkup : node.kind ≠ .text)
    (sealed : s.elementJustOpened = false)
    (printed : Printed processEntities next (s.pushLeaf node)
      (accept Printer.visitor next (s.pushLeaf node)) t') :
    ∃ t, Printed processEntities (.leaf node next) s
      (accept Printer.visitor next (s.pushLeaf node)) t := by
  rcases s.pushLeaf_markup isMarkup sealed with ⟨keeps, blanks, blank, flat, buffer⟩
  refine ⟨_, printed.leaf keeps buffer (fun text => absurd text isMarkup) ?_ ?_
    (fun text => absurd text isMarkup) fun last => printed.eq_nil last⟩
  · intro _ «open»
    rw [flat «open»]
    rcases node with ⟨kind, value⟩
    cases kind with
    | text => exact absurd rfl isMarkup
    | _ => exact ⟨_, _, rfl⟩
  · intro after _
    have whole := readsLeaf_markup printable isMarkup blank (t' ++ after)
    simpa using whole

/-- Nodes that can be printed are read from what is printed. -/
theorem printed_nodes {nodes : Nodes Text} (printable : Printable processEntities nodes)
    (s : Printer) (entities : s.processEntities = processEntities)
    (sealed : s.elementJustOpened = false)
    (level : 0 < s.depth ∨ s.depth = 0 ∧ nodes.noText = true) :
    ∃ t, Printed processEntities nodes s (accept Printer.visitor nodes s) t := by
  induction nodes generalizing s with
  | nil =>
      refine ⟨[], ⟨sealed, rfl, rfl, rfl⟩, by simp [accept], ?_, ?_, ?_⟩
      · intro text
        cases text
      · intro more
        exact absurd rfl more
      · exact fun after _ => ⟨.nil, [], blank_nil, fun _ => rfl, .nil after, rfl⟩
  | leaf node next ih =>
      rcases printable with ⟨isPrintable, noText, printableNext⟩
      have keeps := s.pushLeaf_keeps node sealed
      have level' : 0 < (s.pushLeaf node).depth ∨
          (s.pushLeaf node).depth = 0 ∧ next.noText = true := by
        rw [keeps.depth]
        refine level.imp_right fun both => ⟨both.1, ?_⟩
        have whole := both.2
        rw [Nodes.noText, Bool.and_eq_true] at whole
        exact whole.2
      rcases ih printableNext _ (by rw [keeps.entities, entities]) keeps.sealed level' with
        ⟨t', printed⟩
      by_cases isText : node.kind = .text
      · have deeper : 0 < s.depth := by
          rcases level with deeper | ⟨_, none⟩
          · exact deeper
          · simp [Nodes.noText, isText] at none
        rcases node with ⟨kind, value⟩
        cases isText
        exact printed_text isPrintable (noText rfl) entities sealed deeper printed
      · exact printed_markup isPrintable isText sealed printed
  | element name attributes firstChild next ihFirst ihNext =>
      rcases printable with ⟨isName, isPrintable, distinct, printableFirst, printableNext⟩
      have accepted : accept Printer.visitor (.element name attributes firstChild next) s =
          accept Printer.visitor next (accept Printer.visitor firstChild
            ((s.openElement name).pushAttributes attributes)).closeElement := rfl
      have element : ∃ t tail, PrintedElement processEntities name attributes firstChild s
          (accept Printer.visitor firstChild
            ((s.openElement name).pushAttributes attributes)).closeElement t tail := by
        by_cases empty : firstChild = .nil
        · subst empty
          exact printed_closed isName isPrintable distinct entities sealed
        · exact printed_opened isName isPrintable distinct entities sealed
            (by rcases level with deeper | ⟨same, _⟩ <;> omega) empty
            fun s entities sealed deeper =>
              ihFirst printableFirst s entities sealed (.inl deeper)
      rcases element with ⟨t, tail, printedElement⟩
      have level' : 0 < s.depth ∨ s.depth = 0 ∧ next.noText = true := level
      rw [accepted]
      rcases ihNext printableNext _ (by rw [printedElement.keeps.entities, entities])
        printedElement.keeps.sealed (by rw [printedElement.keeps.depth]; exact level') with
        ⟨t', printed⟩
      exact ⟨_, printedElement.next level' printed fun last => printed.eq_nil last⟩

end Nodes

/-! ## Printed documents are parsed -/

section Documents

variable {processEntities hasBOM writeBOM compact : Bool} {nodes : Nodes Text}

/-- Nodes that begin with no text begin with an angle bracket, behind blanks. -/
theorem Reads.bracket {p rest : Text} {parsed : Nodes StrPair}
    (reads : Reads processEntities p parsed rest) (more : parsed ≠ .nil)
    (noText : parsed.beginsInText = false) :
    ∃ blanks q, Blank blanks ∧ p = blanks ++ byte '<' :: q ∧
      Reads processEntities (byte '<' :: q) parsed rest := by
  cases reads with
  | nil p => exact absurd rfl more
  | @leaf _ p' _ _ _ first others =>
      cases first with
      | text shown clean more => cases noText
      | @markup kind blanks value _ blank isMarkup clean other =>
          have whole : ReadsLeaf processEntities ([] ++ (kind.header ++ (value ++
              (kind.ender ++ p')))) ⟨kind, _, _, kind.flags processEntities⟩ p' :=
            .markup p' blank_nil isMarkup clean other
          cases kind with
          | text => exact absurd rfl isMarkup
          | _ => exact ⟨blanks, _, blank, rfl, .leaf whole others⟩
  | @closed blanks q _ _ _ _ _ blank tag others =>
      exact ⟨blanks, q, blank, rfl, .closed blank_nil tag others⟩
  | @element blanks q _ _ _ _ _ _ _ _ _ blank tag inner endTag same others =>
      exact ⟨blanks, q, blank, rfl, .element blank_nil tag inner endTag same others⟩

theorem readBOM_bracket (q : Text) : readBOM (byte '<' :: q) = (false, byte '<' :: q) :=
  rfl

theorem readBOM_lead (q : Text) : readBOM (tixmlUtfLead ++ q) = (true, q) := by
  have leads : tixmlUtfLead.isPrefixOf (tixmlUtfLead ++ q) = true :=
    List.isPrefixOf_iff_prefix.mpr (List.prefix_append _ _)
  rw [readBOM, if_pos leads]
  rfl

/-- What is in front of the nodes of a document. -/
def documentLead (hasBOM : Bool) : Text :=
  if hasBOM then tixmlUtfLead else []

/-- A text that reads as the nodes of a document is parsed, with a byte order mark in front
or without. -/
theorem parse_of_reads {t blanks : Text} {parsed : Nodes StrPair}
    (reads : Reads processEntities t parsed blanks) (blank : Blank blanks)
    (values : parsed.values = some nodes) (noText : nodes.noText = true)
    (more : nodes ≠ .nil) :
    parse processEntities writeBOM (documentLead hasBOM ++ t) =
      some ⟨parsed, hasBOM, none⟩ := by
  have nonempty : parsed ≠ .nil := by
    rintro rfl
    cases values
    exact more rfl
  have begins : parsed.beginsInText = false := by
    rw [beginsInText_of_values values]
    exact Nodes.noText_begins noText
  rcases reads.bracket nonempty begins with ⟨blanks', q, blank', rfl, reads'⟩
  cases hasBOM with
  | false =>
      have start : documentLead false = [] := rfl
      rw [start, List.nil_append, parse, if_neg (by simp),
        skipWhiteSpace_cons blank' isWhite_bracket, readBOM_bracket]
      simp only
      rw [if_neg (by simp)]
      exact documentParseDeep_accepts_iff.mpr ⟨blanks, reads', .inl blank⟩
  | true =>
      have start : documentLead true = tixmlUtfLead := rfl
      have mark : skipWhiteSpace (tixmlUtfLead ++ (blanks' ++ byte '<' :: q)) =
          tixmlUtfLead ++ (blanks' ++ byte '<' :: q) := rfl
      rw [start, parse, if_neg (by simp), mark, readBOM_lead]
      simp only
      rw [if_neg (by simp)]
      exact documentParseDeep_accepts_iff.mpr ⟨blanks, reads, .inl blank⟩

/-- What is printed for a document reads as its nodes. -/
theorem printDocument_reads (printable : Printable processEntities nodes)
    (noText : nodes.noText = true) :
    ∃ parsed t blanks,
      printDocument processEntities hasBOM compact nodes = documentLead hasBOM ++ t ∧
        Reads processEntities t parsed blanks ∧ Blank blanks ∧ parsed.values = some nodes := by
  let start := (Printer.new compact).visitEnterDocument processEntities hasBOM
  have lead : start.buffer = documentLead hasBOM := by
    cases hasBOM <;> rfl
  rcases printed_nodes printable start (by cases hasBOM <;> rfl) (by cases hasBOM <;> rfl)
    (.inr ⟨by cases hasBOM <;> rfl, noText⟩) with ⟨t, printed⟩
  have noEnd : nodes.endsInText = true → Opens [] := by
    intro text
    have none : nodes.endsInText = false := Nodes.noText_ends noText
    rw [none] at text
    cases text
  rcases printed.reads [] noEnd with ⟨parsed, blanks, blank, _, reads, values⟩
  rw [List.append_nil, List.append_nil] at reads
  have print : printDocument processEntities hasBOM compact nodes =
      documentLead hasBOM ++ t := by
    rw [printDocument, printed.buffer, lead]
  exact ⟨parsed, t, blanks, print, reads, blank, values⟩

/-- A document that can be printed is parsed again from its print, with its values, its
byte order mark and no error. -/
theorem parse_printDocument (printable : Printable processEntities nodes)
    (noText : nodes.noText = true) (more : nodes ≠ .nil) :
    ∃ parsed, parse processEntities writeBOM
        (printDocument processEntities hasBOM compact nodes) = some ⟨parsed, hasBOM, none⟩ ∧
      parsed.values = some nodes := by
  rcases printDocument_reads printable noText with
    ⟨parsed, t, blanks, print, reads, blank, values⟩
  rw [print]
  exact ⟨parsed, parse_of_reads reads blank values noText more, values⟩

/-- An element with an attribute and a text that have entities. -/
theorem parse_printDocument_entities :
    ∃ parsed, parse true false (printDocument true false false
        (.element (bytes ['a']) [⟨bytes ['b'], bytes ['<', '&']⟩]
          (.leaf ⟨.text, bytes ['x', '&']⟩ .nil) .nil)) = some ⟨parsed, false, none⟩ ∧
      parsed.values = some (.element (bytes ['a']) [⟨bytes ['b'], bytes ['<', '&']⟩]
        (.leaf ⟨.text, bytes ['x', '&']⟩ .nil) .nil) := by
  have attrib : PrintableAttribute true ⟨bytes ['b'], bytes ['<', '&']⟩ :=
    ⟨by decide, ⟨by decide, by decide⟩, by decide⟩
  have text : PrintableLeaf true ⟨.text, bytes ['x', '&']⟩ :=
    ⟨⟨by decide, by decide⟩, fun _ => by decide, fun _ none => (by cases none),
      fun markup => absurd rfl markup, fun unknown => (by cases unknown)⟩
  exact parse_printDocument
    ⟨by decide, by simpa using attrib, by simp, ⟨text, fun _ => rfl, trivial⟩, trivial⟩ rfl
    (by simp)

end Documents

end SandPlatform.Xml
