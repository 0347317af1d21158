import SandPlatform.Xml.Escape
import SandPlatform.Xml.Values

/-!
# What is printed

What pushing a node adds to the printed text, and how its strings and attributes are
read from there.  What is printed in front of a node is blank, and while a text is open
in an element nothing is.
-/

namespace SandPlatform.Xml

open SandPlatform.Foundation

/-! ## Nodes that can be printed -/

/-- A string without null characters, and without carriage returns, which a parser makes
line feeds. -/
structure IsString (text : Text) : Prop where
  noNull : 0 ∉ text
  noReturn : carriageReturn ∉ text

/-- The parser reads the name and the value as they are printed. -/
structure PrintableAttribute (processEntities : Bool) (attrib : Attribute Text) : Prop where
  isName : IsName attrib.name
  isString : IsString attrib.value
  noQuote : processEntities = false → doubleQuote ∉ attrib.value

/-- The parser reads the leaf as it is printed. -/
structure PrintableLeaf (processEntities : Bool) (node : Leaf Text) : Prop where
  isString : IsString node.value
  shown : node.kind = .text → ¬ Blank node.value
  noBracket : node.kind = .text → processEntities = false → byte '<' ∉ node.value
  clean : node.kind ≠ .text → ¬ node.kind.ender <:+: node.value
  other : node.kind = .unknown → Unknowable node.value

namespace Nodes

variable {α : Type}

/-- The first node is a text. -/
def beginsInText : Nodes α → Bool
  | nil => false
  | leaf node _ => node.kind == .text
  | element _ _ _ _ => false

/-- The last node is a text. -/
def endsInText : Nodes α → Bool
  | nil => false
  | leaf node nil => node.kind == .text
  | leaf _ next => next.endsInText
  | element _ _ _ next => next.endsInText

/-- None of the nodes is a text; their children may be. -/
def noText : Nodes α → Bool
  | nil => true
  | leaf node next => node.kind != .text && next.noText
  | element _ _ _ next => next.noText

end Nodes

/-- Nodes with names for names and values that their syntax can have.  Two texts in a row
would be one. -/
def Printable (processEntities : Bool) : Nodes Text → Prop
  | .nil => True
  | .leaf node next =>
      PrintableLeaf processEntities node ∧
        (node.kind = .text → next.beginsInText = false) ∧ Printable processEntities next
  | .element name attributes firstChild next =>
      IsName name ∧ (∀ attrib ∈ attributes, PrintableAttribute processEntities attrib) ∧
        (attributes.Pairwise fun a b => sameString a.name b.name = false) ∧
          Printable processEntities firstChild ∧ Printable processEntities next

/-! ## What is printed -/

namespace Printer

@[simp]
theorem print_print (s : Printer) (first second : Text) :
    (s.print first).print second = s.print (first ++ second) := by
  simp [print]

theorem print_nil (s : Printer) : s.print [] = s := by
  simp [print]

/-- What starts a line. -/
def line (depth : Int) : Text :=
  lineFeed :: (List.replicate depth.toNat indent).flatten

theorem blank_line (depth : Int) : Blank (line depth) := by
  intro c member
  rw [line, List.mem_cons] at member
  rcases member with rfl | inSpaces
  · decide
  · rcases List.mem_flatten.mp inSpaces with ⟨space, isSpace, inside⟩
    rw [List.eq_of_mem_replicate isSpace] at inside
    revert inside
    have all : ∀ c ∈ indent, isWhite c = true := by decide
    exact all c

theorem newline_eq (depth : Int) (s : Printer) : s.newline depth = s.print (line depth) := by
  rw [newline, printSpace, print_print]
  rfl

/-- What is printed for a string. -/
def printed (processEntities restricted : Bool) (p : Text) : Text :=
  if processEntities then
    printRuns (if restricted then restrictedEntityFlag else entityFlag) [] p
  else
    p

theorem printString_eq (p : Text) (restricted : Bool) (s : Printer) :
    s.printString p restricted = s.print (printed s.processEntities restricted p) := by
  unfold printString printed
  split_ifs <;> rfl

/-- Attributes as they are printed in a tag. -/
def printedAttributes (processEntities : Bool) : List (Attribute Text) → Text
  | [] => []
  | attrib :: others =>
      byte ' ' :: (attrib.name ++ byte '=' :: doubleQuote ::
        (printed processEntities false attrib.value ++
          doubleQuote :: printedAttributes processEntities others))

theorem pushAttributes_eq (attributes : List (Attribute Text)) (s : Printer) :
    s.pushAttributes attributes = s.print (printedAttributes s.processEntities attributes) := by
  induction attributes generalizing s with
  | nil => exact s.print_nil.symm
  | cons attrib others ih =>
      change (s.pushAttribute attrib.name attrib.value).pushAttributes others = _
      rw [ih, pushAttribute, printString_eq, print_print, print_print, print_print,
        printedAttributes]
      congr 1
      simp [print]

end Printer

/-! ## Printed strings are read -/

section Strings

variable {processEntities : Bool} {value : Text}

theorem spells_printed (isString : IsString value) (restricted : Bool) {flags : Flags}
    (entity : flags.needsEntityProcessing = processEntities) :
    Spells flags (Printer.printed processEntities restricted value) value := by
  cases processEntities with
  | false => exact spells_self entity isString.noReturn
  | true =>
      cases restricted with
      | false => exact spells_printRuns entity entityFlags_entityFlag isString.noReturn
      | true => exact spells_printRuns entity entityFlags_restricted isString.noReturn

theorem not_mem_printed {restricted : Bool} {c : Byte} (notAmpersand : c ≠ byte '&')
    (flagged : (if restricted then restrictedEntityFlag else entityFlag) c = true)
    (absent : processEntities = false → c ∉ value) :
    c ∉ Printer.printed processEntities restricted value := by
  cases processEntities with
  | false => exact absent rfl
  | true =>
      cases restricted with
      | false => exact not_mem_printRuns entityFlags_entityFlag flagged notAmpersand value
      | true => exact not_mem_printRuns entityFlags_restricted flagged notAmpersand value

theorem printed_shown (shown : ¬ Blank value) :
    ¬ Blank (Printer.printed processEntities true value) := by
  cases processEntities with
  | false => exact shown
  | true => exact printRuns_shown entityFlags_restricted shown

theorem valueInPlace_name (name rest : Text) :
    StrPair.value ⟨name, rest, Flags.none⟩ = some name :=
  valueInPlace_none name

theorem readsAttribute_printed {attrib : Attribute Text}
    (printable : PrintableAttribute processEntities attrib) (after : Text) :
    ∃ parsed, ReadsAttribute processEntities
        (attrib.name ++ byte '=' :: doubleQuote ::
          (Printer.printed processEntities false attrib.value ++ doubleQuote :: after))
        parsed after ∧
      parsed.name.value = some attrib.name ∧ parsed.value.value = some attrib.value ∧
        parsed.name.text = attrib.name := by
  have noQuote : doubleQuote ∉ Printer.printed processEntities false attrib.value :=
    not_mem_printed (by decide) (by decide) printable.noQuote
  have entity : (attributeFlags processEntities).needsEntityProcessing = processEntities := by
    cases processEntities <;> rfl
  exact ⟨_, .mk printable.isName blank_nil blank_nil (.inl rfl) noQuote,
    valueInPlace_name _ _, (spells_printed printable.isString false entity).valueInPlace, rfl⟩

/-- Printed attributes are read as they are. -/
theorem readsAttributes_printed {attributes : List (Attribute Text)}
    (printable : ∀ attrib ∈ attributes, PrintableAttribute processEntities attrib)
    (after : Text) :
    ∃ parsed, ReadsAttributes processEntities
        (Printer.printedAttributes processEntities attributes ++ after) parsed after ∧
      attributeValues parsed = some attributes ∧
        parsed.map (fun attrib => attrib.name.text) =
          attributes.map fun attrib => attrib.name := by
  induction attributes with
  | nil => exact ⟨[], .nil after, rfl, rfl⟩
  | cons attrib others ih =>
      rw [List.forall_mem_cons] at printable
      rcases ih printable.2 with ⟨parsed, reads, values, names⟩
      rcases readsAttribute_printed printable.1
        (Printer.printedAttributes processEntities others ++ after) with
        ⟨first, readsFirst, name, value, text⟩
      have space : Blank [byte ' '] := by decide
      refine ⟨first :: parsed, ?_, ?_, ?_⟩
      · simpa [Printer.printedAttributes] using ReadsAttributes.cons space readsFirst reads
      · simp [attributeValues, name, value, values]
      · rw [List.map_cons, List.map_cons, text, names]

end Strings

/-! ## What is pushed -/

/-- What a node keeps of the state in which it is printed. -/
structure Keeps (s s' : Printer) : Prop where
  sealed : s'.elementJustOpened = false
  depth : s'.depth = s.depth
  stack : s'.stack = s.stack
  entities : s'.processEntities = s.processEntities

theorem Keeps.trans {s s' s'' : Printer} (first : Keeps s s') (second : Keeps s' s'') :
    Keeps s s'' :=
  ⟨second.sealed, second.depth.trans first.depth, second.stack.trans first.stack,
    second.entities.trans first.entities⟩

namespace Printer

variable {s : Printer}

theorem startLine_eq (s : Printer) :
    ∃ blanks, Blank blanks ∧ (0 ≤ s.textDepth → blanks = []) ∧ s.startLine = s.print blanks := by
  unfold startLine
  split_ifs with starts
  · exact ⟨line s.depth, blank_line _, fun «open» => absurd starts.1 (by omega), newline_eq _ s⟩
  · exact ⟨[], blank_nil, fun _ => rfl, s.print_nil.symm⟩

@[simp]
theorem sealJustOpened_of_sealed (sealed : s.elementJustOpened = false) :
    s.sealJustOpened = s := by
  simp [sealJustOpened, sealed]

@[simp]
theorem sealed_sealJustOpened (s : Printer) : s.sealJustOpened.elementJustOpened = false := by
  unfold sealJustOpened
  split_ifs with opened
  · rfl
  · simpa using opened

/-- A leaf that is no text is printed with blanks in front of it only. -/
theorem pushLeaf_markup {node : Leaf Text} (isMarkup : node.kind ≠ .text)
    (sealed : s.elementJustOpened = false) :
    Keeps s (s.pushLeaf node) ∧
      ∃ blanks, Blank blanks ∧ (0 ≤ s.textDepth → blanks = []) ∧
        (s.pushLeaf node).buffer =
          s.buffer ++ (blanks ++ (node.kind.header ++ (node.value ++ node.kind.ender))) := by
  rcases s.startLine_eq with ⟨blanks, blank, flat, started⟩
  rcases node with ⟨kind, value⟩
  cases kind with
  | text => exact absurd rfl isMarkup
  | cdata =>
      simp only [pushLeaf, pushText, if_true]
      refine ⟨?_, [], blank_nil, fun _ => rfl, ?_⟩
      · rw [sealJustOpened_of_sealed (by exact sealed)]
        exact ⟨sealed, rfl, rfl, rfl⟩
      · rw [sealJustOpened_of_sealed (by exact sealed), print_print, print_print]
        simp [print, LeafKind.header, LeafKind.ender, cdataHeader, cdataEnd]
  | comment =>
      simp only [pushLeaf, pushComment, pushLine, sealJustOpened_of_sealed sealed, started]
      exact ⟨⟨sealed, rfl, rfl, rfl⟩, blanks, blank, flat, List.append_assoc _ _ _⟩
  | declaration =>
      simp only [pushLeaf, pushDeclaration, pushLine, sealJustOpened_of_sealed sealed, started]
      exact ⟨⟨sealed, rfl, rfl, rfl⟩, blanks, blank, flat, List.append_assoc _ _ _⟩
  | unknown =>
      simp only [pushLeaf, pushUnknown, pushLine, sealJustOpened_of_sealed sealed, started]
      exact ⟨⟨sealed, rfl, rfl, rfl⟩, blanks, blank, flat, List.append_assoc _ _ _⟩

/-- A text is printed with nothing around it, and keeps lines from being started. -/
theorem pushLeaf_text (value : Text) (sealed : s.elementJustOpened = false) :
    Keeps s (s.pushLeaf ⟨.text, value⟩) ∧
      (s.pushLeaf ⟨.text, value⟩).textDepth = s.depth - 1 ∧
        (s.pushLeaf ⟨.text, value⟩).buffer =
          s.buffer ++ printed s.processEntities true value := by
  simp only [pushLeaf, pushText, Bool.false_eq_true, if_false]
  rw [sealJustOpened_of_sealed (by exact sealed), printString_eq]
  exact ⟨⟨sealed, rfl, rfl, rfl⟩, rfl, rfl⟩

theorem pushLeaf_keeps (node : Leaf Text) (sealed : s.elementJustOpened = false) :
    Keeps s (s.pushLeaf node) := by
  by_cases isText : node.kind = .text
  · rcases node with ⟨kind, value⟩
    cases isText
    exact (s.pushLeaf_text value sealed).1
  · exact (s.pushLeaf_markup isText sealed).1

theorem openElement_eq (name : Text) (sealed : s.elementJustOpened = false) :
    ∃ blanks, Blank blanks ∧ (0 ≤ s.textDepth → blanks = []) ∧
      s.openElement name =
        ⟨true, false, s.depth + 1, s.textDepth, s.processEntities, s.compactMode,
          name :: s.stack, s.buffer ++ (blanks ++ (byte '<' :: name))⟩ := by
  have started := startLine_eq { s with stack := name :: s.stack }
  rcases started with ⟨blanks, blank, flat, started⟩
  refine ⟨blanks, blank, flat, ?_⟩
  simp only [openElement, sealJustOpened_of_sealed sealed, started]
  simp [print, bytes]

/-- The end of an element, and a line end behind the outermost one. -/
theorem closeElement_opened {name : Text} {stack : List Text}
    (opened : s.elementJustOpened = true) (onTop : s.stack = name :: stack) :
    ∃ tail, Blank tail ∧ (1 < s.depth → tail = []) ∧
      s.closeElement.elementJustOpened = false ∧ s.closeElement.depth = s.depth - 1 ∧
        s.closeElement.stack = stack ∧ s.closeElement.processEntities = s.processEntities ∧
          s.closeElement.buffer = s.buffer ++ (bytes ['/', '>'] ++ tail) := by
  refine ⟨if s.depth - 1 = 0 ∧ ¬ s.compactMode then [lineFeed] else [], ?_, ?_, ?_⟩
  · split_ifs <;> decide
  · intro inner
    rw [if_neg (by omega)]
  · simp only [closeElement, opened, onTop, if_true, List.tail_cons]
    split_ifs <;> simp_all [print]

theorem closeElement_sealed {name : Text} {stack : List Text}
    (sealed : s.elementJustOpened = false) (onTop : s.stack = name :: stack) :
    ∃ blanks tail, Blank blanks ∧ Blank tail ∧ (0 ≤ s.textDepth → blanks = []) ∧
      (1 < s.depth → tail = []) ∧
        s.closeElement.elementJustOpened = false ∧ s.closeElement.depth = s.depth - 1 ∧
          s.closeElement.stack = stack ∧
            s.closeElement.processEntities = s.processEntities ∧
              s.closeElement.buffer = s.buffer ++ (blanks ++
                (bytes ['<', '/'] ++ (name ++ (bytes ['>'] ++ tail)))) := by
  refine ⟨if s.textDepth < 0 ∧ ¬ s.compactMode then line (s.depth - 1) else [],
    if s.depth - 1 = 0 ∧ ¬ s.compactMode then [lineFeed] else [], ?_, ?_, ?_, ?_, ?_⟩
  · split_ifs
    · exact blank_line _
    · exact blank_nil
  · split_ifs <;> decide
  · intro «open»
    rw [if_neg (by omega)]
  · intro inner
    rw [if_neg (by omega)]
  · simp only [closeElement, sealed, onTop, Bool.false_eq_true, if_false, List.tail_cons,
      List.headD_cons, newline_eq]
    split_ifs <;> simp_all [print]

end Printer

end SandPlatform.Xml
