import SandPlatform.Xml.RoundTrip

/-!
# Accepted documents are printed and parsed again

What the parser accepts can be printed, unless a reference stands for a byte that is
read as another one or for a blank text.  So the values of a document stay the same
however often it is printed and parsed.
-/

namespace SandPlatform.Xml

open SandPlatform.Foundation

/-! ## Line ends are normalized -/

/-- A value that differs from its text in line ends only. -/
structure Normal (text value : Text) : Prop where
  noReturn : carriageReturn ∉ value
  noNull : 0 ∉ text → 0 ∉ value
  begins : ∀ pattern, lineFeed ∉ pattern → pattern <+: value → pattern <+: text
  inside : ∀ pattern, pattern ≠ [] → lineFeed ∉ pattern → pattern <:+: value → pattern <:+: text

theorem normal_nil : Normal [] [] :=
  ⟨by simp, by simp, fun _ _ begins => begins, fun _ _ _ inside => inside⟩

/-- A pattern without a line feed does not begin with one. -/
theorem prefix_lineFeed {pattern value : Text} (noFeed : lineFeed ∉ pattern)
    (begins : pattern <+: lineFeed :: value) : pattern = [] := by
  cases pattern with
  | nil => rfl
  | cons first others =>
      rcases begins with ⟨rest, whole⟩
      refine absurd ?_ noFeed
      rw [(List.cons.inj whole).1]
      exact List.mem_cons_self

theorem Normal.lineEnd {c : Byte} {next behind value : Text} (normal : Normal behind value)
    (suffix : behind <:+ next) : Normal (c :: next) (lineFeed :: value) := by
  refine ⟨?_, ?_, ?_, ?_⟩
  · rw [List.mem_cons, not_or]
    exact ⟨by decide, normal.noReturn⟩
  · intro noNull
    rw [List.mem_cons, not_or] at noNull ⊢
    exact ⟨by decide, normal.noNull fun null => noNull.2 (suffix.subset null)⟩
  · intro pattern noFeed begins
    rw [prefix_lineFeed noFeed begins]
    exact List.nil_prefix
  · intro pattern nonempty noFeed inside
    rcases List.infix_cons_iff.mp inside with begins | further
    · exact absurd (prefix_lineFeed noFeed begins) nonempty
    · exact ((normal.inside pattern nonempty noFeed further).trans suffix.isInfix).trans
        (List.suffix_cons _ _).isInfix

theorem Normal.plain {c : Byte} {next value : Text} (normal : Normal next value)
    (notReturn : c ≠ carriageReturn) : Normal (c :: next) (c :: value) := by
  have begins : ∀ pattern, lineFeed ∉ pattern → pattern <+: c :: value →
      pattern <+: c :: next := by
    intro pattern noFeed begins
    cases pattern with
    | nil => exact List.nil_prefix
    | cons first others =>
        rw [List.cons_prefix_cons] at begins ⊢
        rw [List.mem_cons, not_or] at noFeed
        exact ⟨begins.1, normal.begins others noFeed.2 begins.2⟩
  refine ⟨?_, ?_, begins, ?_⟩
  · rw [List.mem_cons, not_or]
    exact ⟨notReturn.symm, normal.noReturn⟩
  · intro noNull
    rw [List.mem_cons, not_or] at noNull ⊢
    exact ⟨noNull.1, normal.noNull noNull.2⟩
  · intro pattern nonempty noFeed inside
    rcases List.infix_cons_iff.mp inside with atStart | further
    · exact (begins pattern noFeed atStart).isInfix
    · exact (normal.inside pattern nonempty noFeed further).trans (List.suffix_cons _ _).isInfix

/-- Without references a text spells a value with normal line ends. -/
theorem exists_normal (text : Text) :
    ∃ value, Spells Flags.needsNewline text value ∧ Normal text value := by
  induction size : text.length using Nat.strong_induction_on generalizing text with
  | h length ih =>
      subst size
      cases text with
      | nil => exact ⟨[], .nil _, normal_nil⟩
      | cons c next =>
          have behind (other : Byte) : skipOver other next <:+ next := by
            unfold skipOver
            split_ifs
            · exact List.drop_suffix 1 next
            · exact List.suffix_refl next
          have shorter {rest : Text} (suffix : rest <:+ next) :
              rest.length < (c :: next).length :=
            Nat.lt_succ_of_le suffix.length_le
          by_cases isReturn : c = carriageReturn
          · rcases ih _ (shorter (behind lineFeed)) _ rfl with ⟨value, spells, normal⟩
            refine ⟨lineFeed :: value, ?_, normal.lineEnd (behind lineFeed)⟩
            exact Spells.cons (if_pos ⟨rfl, isReturn⟩) spells
          by_cases isFeed : c = lineFeed
          · rcases ih _ (shorter (behind carriageReturn)) _ rfl with ⟨value, spells, normal⟩
            refine ⟨lineFeed :: value, ?_, normal.lineEnd (behind carriageReturn)⟩
            exact Spells.cons ((if_neg fun both => isReturn both.2).trans
              (if_pos ⟨rfl, isFeed⟩)) spells
          · rcases ih _ (shorter (List.suffix_refl next)) _ rfl with ⟨value, spells, normal⟩
            refine ⟨c :: value, ?_, normal.plain isReturn⟩
            exact Spells.cons (piece_plain (fun _ => ⟨isReturn, isFeed⟩)
              (by simp [Flags.needsNewline]) next) spells

/-! ## What is accepted can be printed -/

/-- Values that are read again from what is printed for them: no reference stands for a
null character or a carriage return, and no text is blank. -/
def Lasting : Nodes Text → Prop
  | .nil => True
  | .leaf node next =>
      (node.kind = .text → IsString node.value ∧ ¬ Blank node.value) ∧ Lasting next
  | .element _ attributes firstChild next =>
      (∀ attrib ∈ attributes, IsString attrib.value) ∧ Lasting firstChild ∧ Lasting next

section Printable

variable {processEntities : Bool} {p rest : Text}

theorem value_of_flags_none {text rest value : Text}
    (same : StrPair.value ⟨text, rest, Flags.none⟩ = some value) : value = text := by
  rw [valueInPlace_name] at same
  exact (Option.some.inj same).symm

theorem attributeValues_cons {attrib : Attribute StrPair} {others : List (Attribute StrPair)}
    {values : List (Attribute Text)} (same : attributeValues (attrib :: others) = some values) :
    ∃ name value values', values = ⟨name, value⟩ :: values' ∧ attrib.name.value = some name ∧
      attrib.value.value = some value ∧ attributeValues others = some values' := by
  simp only [attributeValues, Option.bind_eq_bind, Option.bind_eq_some_iff] at same
  rcases same with ⟨name, isName, value, isValue, values', isValues, whole⟩
  cases whole
  exact ⟨name, value, values', rfl, isName, isValue, isValues⟩

theorem ReadsAttributes.names {attributes : List (Attribute StrPair)}
    {values : List (Attribute Text)} (reads : ReadsAttributes processEntities p attributes rest)
    (same : attributeValues attributes = some values) :
    attributes.map (fun attrib => attrib.name.text) =
      values.map fun attrib => attrib.name := by
  induction reads generalizing values with
  | nil p =>
      cases same
      rfl
  | cons blank first others ih =>
      rcases attributeValues_cons same with ⟨name, value, values', rfl, isName, isValue, further⟩
      cases first with
      | mk named _ _ _ _ => simp [ih further, value_of_flags_none isName]

theorem ReadsAttributes.printable {attributes : List (Attribute StrPair)}
    {values : List (Attribute Text)} (reads : ReadsAttributes true p attributes rest)
    (same : attributeValues attributes = some values)
    (strings : ∀ attrib ∈ values, IsString attrib.value) :
    ∀ attrib ∈ values, PrintableAttribute true attrib := by
  induction reads generalizing values with
  | nil p =>
      cases same
      simp
  | cons blank first others ih =>
      rcases attributeValues_cons same with ⟨name, value, values', rfl, isName, isValue, further⟩
      rw [List.forall_mem_cons] at strings ⊢
      cases first with
      | mk named _ _ _ _ =>
          have plain := value_of_flags_none isName
          subst plain
          exact ⟨⟨named, strings.1, fun none => (by cases none)⟩, ih further strings.2⟩

/-- The names of the attributes of a tag are apart. -/
theorem ReadsTag.apart {name : StrPair} {attributes : List (Attribute StrPair)}
    {closingType : ClosingType} {values : List (Attribute Text)}
    (reads : ReadsTag processEntities p name attributes closingType rest)
    (same : attributeValues attributes = some values) :
    values.Pairwise fun a b => sameString a.name b.name = false := by
  cases reads with
  | mk blank named ends attributes distinct readsEnd =>
      rwa [distinct_iff_names, attributes.names same, List.pairwise_map] at distinct

/-- A tag has printable attributes and a name. -/
theorem ReadsTag.printable {name : StrPair} {attributes : List (Attribute StrPair)}
    {closingType : ClosingType} {name' : Text} {values : List (Attribute Text)}
    (reads : ReadsTag true p name attributes closingType rest) (isName : name.value = some name')
    (same : attributeValues attributes = some values)
    (strings : ∀ attrib ∈ values, IsString attrib.value) :
    IsName name' ∧ (∀ attrib ∈ values, PrintableAttribute true attrib) ∧
      values.Pairwise fun a b => sameString a.name b.name = false := by
  have distinct := reads.apart same
  cases reads with
  | mk blank named ends attributes _ readsEnd =>
      have plain := value_of_flags_none isName
      subst plain
      exact ⟨named, attributes.printable same strings, distinct⟩

/-- No text begins with an angle bracket. -/
theorem Reads.beginsInText_bracket {q : Text} {nodes : Nodes StrPair}
    (reads : Reads processEntities (byte '<' :: q) nodes rest) : nodes.beginsInText = false := by
  generalize whole : byte '<' :: q = p at reads
  cases reads with
  | nil p => rfl
  | leaf first others =>
      cases first with
      | @text value rest shown clean more =>
          cases value with
          | nil => exact absurd blank_nil shown
          | cons first value =>
              refine absurd ?_ clean
              rw [(List.cons.inj whole).1]
              exact List.mem_cons_self
      | @markup kind _ _ _ _ isMarkup _ _ =>
          cases kind with
          | text => exact absurd rfl isMarkup
          | _ => rfl
  | closed blank tag others => rfl
  | element blank tag inner endTag same others => rfl

theorem ReadsLeaf.printable {node : Leaf StrPair} {value : Text}
    (reads : ReadsLeaf true p node rest) (noNull : 0 ∉ p) (same : node.value.value = some value)
    (lasting : node.kind = .text → IsString value ∧ ¬ Blank value) :
    PrintableLeaf true ⟨node.kind, value⟩ := by
  cases reads with
  | text shown clean more =>
      rcases lasting rfl with ⟨isString, shown'⟩
      exact ⟨isString, fun _ => shown', fun _ none => (by cases none),
        fun markup => absurd rfl markup, fun unknown => (by cases unknown)⟩
  | @markup kind blanks text _ blank isMarkup clean other =>
      have flags : kind.flags true = Flags.needsNewline := by
        cases kind with
        | text => exact absurd rfl isMarkup
        | _ => rfl
      have noFeed : lineFeed ∉ kind.ender := by
        cases kind <;> decide
      rcases exists_normal text with ⟨value', spells, normal⟩
      have value_eq : value' = value := by
        rw [StrPair.value, flags, spells.valueInPlace] at same
        exact Option.some.inj same
      subst value_eq
      have noNull' : 0 ∉ text := fun null => noNull (List.mem_append_right _
        (List.mem_append_right _ (List.mem_append_left _ null)))
      refine ⟨⟨normal.noNull noNull', normal.noReturn⟩, fun isText => absurd isText isMarkup,
        fun isText => absurd isText isMarkup, ?_, ?_⟩
      · intro _ inside
        exact clean (normal.inside _ (endsFresh_ender kind).ne_nil noFeed inside)
      · intro unknown
        rcases other unknown with ⟨noDashes, noBracket⟩
        exact ⟨fun dashes => noDashes (normal.begins _ (by decide) dashes),
          fun bracket => noBracket (normal.begins _ (by decide) bracket)⟩

/-- The values of nodes that are read can be printed, if they last. -/
theorem Reads.printable {nodes : Nodes StrPair} {values : Nodes Text}
    (reads : Reads true p nodes rest) (noNull : 0 ∉ p) (same : nodes.values = some values)
    (lasting : Lasting values) : Printable true values := by
  induction reads generalizing values with
  | nil p =>
      cases same
      trivial
  | @leaf p p' rest node next first others ih =>
      simp only [Nodes.values, Option.bind_eq_bind, Option.bind_eq_some_iff] at same
      rcases same with ⟨value, isValue, values', further, whole⟩
      cases whole
      have behind := first.inside.2
      refine ⟨first.printable noNull isValue lasting.1, ?_,
        ih (fun null => noNull (behind.subset null)) further lasting.2⟩
      intro isText
      rw [← beginsInText_of_values further]
      cases first with
      | text shown clean more => exact others.beginsInText_bracket
      | markup _ _ isMarkup _ _ => exact absurd isText isMarkup
  | @closed blanks p p' rest name attributes next blank tag others ih =>
      simp only [Nodes.values, Option.bind_eq_bind, Option.bind_eq_some_iff] at same
      rcases same with ⟨name', isName, attributes', isAttributes, _, none, values', further, whole⟩
      cases whole
      cases none
      have behind := tag.behind blanks
      rcases tag.printable isName isAttributes lasting.1 with ⟨named, printable, distinct⟩
      exact ⟨named, printable, distinct, trivial,
        ih (fun null => noNull (behind.subset null)) further lasting.2.2⟩
  | @element blanks p children end' p' rest name endName attributes firstChild next blank tag
      inner endTag sameName others ihInner ihOthers =>
      simp only [Nodes.values, Option.bind_eq_bind, Option.bind_eq_some_iff] at same
      rcases same with
        ⟨name', isName, attributes', isAttributes, children', isChildren, values', further, whole⟩
      cases whole
      have behind := tag.behind blanks
      have behind' : p' <:+ blanks ++ byte '<' :: p :=
        endTag.behind.trans (inner.behind.trans behind)
      rcases tag.printable isName isAttributes lasting.1 with ⟨named, printable, distinct⟩
      exact ⟨named, printable, distinct,
        ihInner (fun null => noNull (behind.subset null)) isChildren lasting.2.1,
        ihOthers (fun null => noNull (behind'.subset null)) further lasting.2.2⟩

/-- A document that is loaded without an error is the same document after it is printed
and parsed. -/
theorem loadXmlData_reprinted {writeBOM hasBOM compact writeBOM' : Bool}
    {children : Nodes StrPair} {values : Nodes Text} (noNull : 0 ∉ p)
    (loaded : loadXmlData true writeBOM p = some ⟨children, writeBOM, none⟩)
    (same : children.values = some values) (lasting : Lasting values)
    (noText : values.noText = true) (more : values ≠ .nil) :
    ∃ parsed, parse true writeBOM' (printDocument true hasBOM compact values) =
        some ⟨parsed, hasBOM, none⟩ ∧ parsed.values = some values := by
  rcases documentParseDeep_accepts_iff.mp loaded with ⟨mid, reads, _⟩
  rcases printDocument_reads (reads.printable noNull same lasting) noText with
    ⟨parsed, t, blanks, print, reads', blank, values'⟩
  rw [print]
  exact ⟨parsed, parse_of_reads reads' blank values' noText more, values'⟩

/-- An element with another quote and other line ends than are printed. -/
theorem loadXmlData_reprinted_quote :
    ∃ parsed, parse true false (printDocument true false false
        (.element (bytes ['a']) [⟨bytes ['b'], bytes ['c']⟩]
          (.leaf ⟨.comment, [lineFeed]⟩ .nil) .nil)) = some ⟨parsed, false, none⟩ ∧
      parsed.values = some (.element (bytes ['a']) [⟨bytes ['b'], bytes ['c']⟩]
        (.leaf ⟨.comment, [lineFeed]⟩ .nil) .nil) := by
  let p : Text := bytes ['<', 'a', ' ', 'b', '='] ++ (singleQuote :: byte 'c' :: singleQuote ::
    (bytes ['>', '<', '!', '-', '-'] ++ (carriageReturn :: lineFeed ::
      bytes ['-', '-', '>', '<', '/', 'a', '>'])))
  have loaded : ∃ children, loadXmlData true false p = some ⟨children, false, none⟩ ∧
      children.values = some (.element (bytes ['a']) [⟨bytes ['b'], bytes ['c']⟩]
        (.leaf ⟨.comment, [lineFeed]⟩ .nil) .nil) := ⟨_, rfl, by decide⟩
  rcases loaded with ⟨children, loaded, same⟩
  have noNull : 0 ∉ p := by decide
  have string : IsString (bytes ['c']) := ⟨by decide, by decide⟩
  exact loadXmlData_reprinted noNull loaded same
    ⟨by simpa using string, ⟨fun isText => (by cases isText), trivial⟩, trivial⟩ rfl (by simp)

end Printable

end SandPlatform.Xml
